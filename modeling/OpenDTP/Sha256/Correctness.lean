import OpenDTP.Sha256
import OpenDTP.Sha256.Standard

/-! The bundled implementation computes the standard: its in-place schedule is the recursive one, its
buffer holds what is left behind the full blocks, and both of its padding branches append the
standard padding. -/

namespace OpenDTP.Sha256
open Common Blocks

/-! ### The compression -/

theorem k_eq : k = Standard.roundConstants := by decide +kernel

/-- The schedule after `count` entries more than the first sixteen. -/
theorem schedule_partial (data : Bytes) (count : Nat) :
    (List.range count).foldl (fun m _ => m ++ [expand m])
        ((List.range 16).map fun i => wordAt data (4 * i)) =
      (List.range (16 + count)).map (Standard.scheduled data) := by
  induction count with
  | zero =>
    apply List.map_congr_left
    intro t member
    exact (Standard.scheduled_early (List.mem_range.mp member)).symm
  | succ count ih =>
    rw [@List.range_succ count, List.foldl_append, ih]
    simp only [List.foldl_cons, List.foldl_nil]
    rw [← Nat.add_assoc, @List.range_succ (16 + count), List.map_append]
    congr 1
    have entry (t : Nat) (early : t < 16 + count) :
        ((List.range (16 + count)).map (Standard.scheduled data)).getD t 0 =
          Standard.scheduled data t := by
      simp [List.getD, early]
    unfold expand
    simp only [List.length_map, List.length_range]
    rw [entry _ (by omega), entry _ (by omega), entry _ (by omega), entry _ (by omega)]
    simp only [List.map_cons, List.map_nil]
    rw [Standard.scheduled_late (by omega : 16 ≤ 16 + count)]
    rfl

theorem schedule_eq (data : Bytes) :
    schedule data = (List.range 64).map (Standard.scheduled data) := schedule_partial data 48

/-- The working variables as the registers of the standard. -/
def Working.registers (w : Working) : Standard.Registers := ⟨w.a, w.b, w.c, w.d, w.e, w.f, w.g, w.h⟩

theorem rounds_eq (data : Bytes) (start : Working) {count : Nat} (bound : count ≤ 64) :
    ((List.range count).foldl (round (schedule data)) start).registers =
      Standard.rounds data start.registers count := by
  induction count with
  | zero => rfl
  | succ count ih =>
    have earlier := ih (by omega)
    rw [List.range_succ, List.foldl_append, Standard.rounds, ← earlier]
    have entry : (schedule data).getD count 0 = Standard.scheduled data count := by
      rw [schedule_eq]
      simp [List.getD, show count < 64 by omega]
    simp only [List.foldl_cons, List.foldl_nil]
    generalize (List.range count).foldl (round (schedule data)) start = w
    simp only [round, Standard.roundStep, Working.registers, entry, ← k_eq]
    rfl

/-- The eight words of a context as registers. -/
def registersOf (state : List UInt32) : Standard.Registers :=
  ⟨state.getD 0 0, state.getD 1 0, state.getD 2 0, state.getD 3 0,
    state.getD 4 0, state.getD 5 0, state.getD 6 0, state.getD 7 0⟩

theorem transform_state (ctx : Context) (data : Bytes) :
    registersOf (sha256Transform ctx data).state =
      Standard.compress (registersOf ctx.state) data := by
  have same := rounds_eq data ⟨ctx.state.getD 0 0, ctx.state.getD 1 0, ctx.state.getD 2 0,
    ctx.state.getD 3 0, ctx.state.getD 4 0, ctx.state.getD 5 0, ctx.state.getD 6 0,
    ctx.state.getD 7 0⟩ (Nat.le_refl 64)
  unfold Standard.compress
  rw [show registersOf ctx.state = Working.registers ⟨ctx.state.getD 0 0, ctx.state.getD 1 0,
    ctx.state.getD 2 0, ctx.state.getD 3 0, ctx.state.getD 4 0, ctx.state.getD 5 0,
    ctx.state.getD 6 0, ctx.state.getD 7 0⟩ from rfl, ← same]
  simp only [sha256Transform, registersOf, Working.registers, List.getD_cons_zero,
    List.getD_cons_succ, UInt32.add_comm]

/-! ### The buffer -/

/-- The registers so far, and how many blocks were pressed into them. -/
abbrev Pressed := Standard.Registers × Nat

def press (pressed : Pressed) (block : Bytes) : Pressed :=
  (Standard.compress pressed.1 block, pressed.2 + 1)

/-- The context holds these registers and this unfinished block; what the block has not reached yet
is whatever was there before. -/
structure Buffers (ctx : Context) (pressed : Pressed) (buffer : Bytes) : Prop where
  room : ctx.data.length = 64
  datalen : ctx.datalen = buffer.length
  short : buffer.length < 64
  data : ctx.data.take buffer.length = buffer
  bitlen : ctx.bitlen = UInt64.ofNat (512 * pressed.2)
  state : registersOf ctx.state = pressed.1

theorem take_set (data : Bytes) {index : Nat} (bound : index < data.length) (byte : Byte) :
    (data.set index byte).take (index + 1) = data.take index ++ [byte] := by
  have length : (data.take index).length = index := List.length_take_of_le (Nat.le_of_lt bound)
  rw [List.set_eq_take_append_cons_drop, if_pos bound, List.take_append, length,
    List.take_of_length_le (by omega)]
  simp

theorem bitlen_next (count : Nat) :
    UInt64.ofNat (512 * count) + 512 = UInt64.ofNat (512 * (count + 1)) := by
  rw [Nat.mul_add, UInt64.ofNat_add]
  rfl

theorem Buffers.absorb {ctx : Context} {pressed : Pressed} {buffer : Bytes}
    (buffers : Buffers ctx pressed buffer) (byte : Byte) :
    Buffers (absorb ctx byte) (feed press 64 (pressed, buffer) byte).1
      (feed press 64 (pressed, buffer) byte).2 := by
  obtain ⟨room, datalen, short, data, bitlen, state⟩ := buffers
  have stored : (ctx.data.set buffer.length byte).take (buffer.length + 1) = buffer ++ [byte] := by
    rw [take_set _ (by omega), data]
  have grown : (buffer ++ [byte]).length = buffer.length + 1 := by simp
  unfold Sha256.absorb feed
  simp only [datalen, grown]
  by_cases full : buffer.length + 1 = 64
  · simp only [if_pos full]
    have block : ctx.data.set buffer.length byte = buffer ++ [byte] := by
      rw [← stored, full, List.take_of_length_le]
      rw [List.length_set, room]
    refine ⟨by simp [sha256Transform, room], rfl, by decide, rfl, ?_, ?_⟩
    · change ctx.bitlen + 512 = _
      rw [bitlen]
      exact bitlen_next pressed.2
    · change registersOf (sha256Transform _ _).state = Standard.compress pressed.1 _
      rw [transform_state, block, ← state]
  · simp only [if_neg full]
    refine ⟨by simp [room], grown.symm, by omega, ?_, bitlen, state⟩
    rw [grown]
    exact stored

theorem Buffers.update {ctx : Context} {pressed : Pressed} {buffer : Bytes}
    (buffers : Buffers ctx pressed buffer) (message : Bytes) :
    Buffers (sha256Update ctx message) (message.foldl (feed press 64) (pressed, buffer)).1
      (message.foldl (feed press 64) (pressed, buffer)).2 := by
  unfold sha256Update
  induction message generalizing ctx pressed buffer with
  | nil => exact buffers
  | cons byte message ih => exact ih (buffers.absorb byte)

theorem initial_eq : registersOf [0x6a09e667, 0xbb67ae85, 0x3c6ef372, 0xa54ff53a,
    0x510e527f, 0x9b05688c, 0x1f83d9ab, 0x5be0cd19] = Standard.initial := by decide +kernel

theorem foldl_press (start : Standard.Registers) (count : Nat) (chunks : List Bytes) :
    chunks.foldl press (start, count) =
      (chunks.foldl Standard.compress start, count + chunks.length) := by
  induction chunks generalizing start count with
  | nil => rfl
  | cons chunk chunks ih =>
    rw [List.foldl_cons, press, ih, List.foldl_cons, List.length_cons]
    congr 1
    omega

/-- After a message the context has pressed its full blocks and buffers the rest. -/
theorem updated_buffers {memory : Context} (room : memory.data.length = 64) (message : Bytes) :
    Buffers (sha256Update (sha256Init memory) message)
      ((blocks 64 message).foldl Standard.compress Standard.initial, message.length / 64)
      (leftover 64 message) := by
  have started : Buffers (sha256Init memory) (Standard.initial, 0) [] :=
    ⟨room, rfl, by decide, rfl, rfl, initial_eq⟩
  have fed := started.update message
  rw [foldl_feed press (by decide), foldl_press, length_blocks, Nat.zero_add] at fed
  exact fed

/-! ### The padding -/

theorem fillZero_eq (data : Bytes) (index remaining : Nat) (bound : index + remaining ≤ data.length) :
    fillZero data index remaining =
      data.take index ++ List.replicate remaining 0 ++ data.drop (index + remaining) := by
  induction remaining generalizing data index with
  | zero => simp [fillZero]
  | succ remaining ih =>
    have length : (data.take index).length = index := List.length_take_of_le (by omega)
    rw [fillZero, ih _ _ (by rw [List.length_set]; omega), take_set _ (by omega),
      List.drop_set_of_lt (by omega), List.replicate_succ, show index + 1 + remaining =
        index + (remaining + 1) by omega]
    simp

theorem byteOf_ofNat (bits : Nat) (index : Nat) (bound : index < 8) :
    byteOf (UInt64.ofNat bits) (UInt64.ofNat (56 - 8 * index)) =
      UInt8.ofNat (bits >>> (56 - 8 * index)) := by
  apply UInt8.eq_of_toBitVec_eq
  ext position inside
  have amount : (56 - 8 * index) % 18446744073709551616 % 64 = 56 - 8 * index := by omega
  simp [byteOf, amount, UInt64.toBitVec_ofNat', UInt8.toBitVec_ofNat', BitVec.getLsbD_ofNat,
    ← BitVec.getLsbD_eq_getElem, inside]
  omega

theorem storeLength_eq {data : Bytes} (room : data.length = 64) (bits : Nat) :
    storeLength data (UInt64.ofNat bits) = data.take 56 ++ Standard.lengthBytes bits := by
  have front : (data.take 56).length = 56 := List.length_take_of_le (by omega)
  obtain ⟨x₀, x₁, x₂, x₃, x₄, x₅, x₆, x₇, tail⟩ :
      ∃ x₀ x₁ x₂ x₃ x₄ x₅ x₆ x₇, data.drop 56 = [x₀, x₁, x₂, x₃, x₄, x₅, x₆, x₇] := by
    have eight : (data.drop 56).length = 8 := by rw [List.length_drop]; omega
    match data.drop 56, eight with
    | [x₀, x₁, x₂, x₃, x₄, x₅, x₆, x₇], _ => exact ⟨x₀, x₁, x₂, x₃, x₄, x₅, x₆, x₇, rfl⟩
  have bytes : Standard.lengthBytes bits = [byteOf (UInt64.ofNat bits) 56,
      byteOf (UInt64.ofNat bits) 48, byteOf (UInt64.ofNat bits) 40, byteOf (UInt64.ofNat bits) 32,
      byteOf (UInt64.ofNat bits) 24, byteOf (UInt64.ofNat bits) 16, byteOf (UInt64.ofNat bits) 8,
      byteOf (UInt64.ofNat bits) 0] := by
    have byte (index : Nat) (bound : index < 8) := (byteOf_ofNat bits index bound).symm
    exact List.map_congr_left fun index member => byte index (List.mem_range.mp member)
  rw [bytes]
  conv_lhs => rw [← List.take_append_drop 56 data, tail]
  simp [storeLength, front]

theorem zeros_eq {length rest : Nat} (remainder : length % 64 = rest) :
    Standard.zeros length = (119 - rest) % 64 := by
  rw [Standard.zeros, remainder]

/-- The last blocks come from the leftover and the padding behind it. -/
theorem blocks_pad (message : Bytes) :
    blocks 64 (Standard.pad message) = blocks 64 message ++
      blocks 64 (leftover 64 message ++ ([0x80] ++
        List.replicate (Standard.zeros message.length) 0 ++
          Standard.lengthBytes (8 * message.length))) := by
  obtain ⟨front, count, parts, whole⟩ := @split Byte 64 message
  have short := leftover_lt (by decide : 0 < 64) message
  unfold Standard.pad
  generalize leftover 64 message = rest at parts short ⊢
  generalize Standard.zeros message.length = filler
  generalize Standard.lengthBytes (8 * message.length) = counter
  subst parts
  rw [blocks_append (by decide) whole, blocks_short short, List.append_nil]
  simp only [List.append_assoc]
  rw [blocks_append (by decide) whole]

/-- The padded context holds the last block but for its length. -/
theorem padded_eq {ctx : Context} {pressed : Pressed} {buffer : Bytes}
    (buffers : Buffers ctx pressed buffer) :
    ∃ extra, buffer ++ [0x80] ++ List.replicate ((119 - buffer.length) % 64) 0 =
        extra ++ (padded ctx).data.take 56 ∧ extra.length % 64 = 0 ∧
      (padded ctx).data.length = 64 ∧ (padded ctx).datalen = buffer.length ∧
      (padded ctx).bitlen = ctx.bitlen ∧
      registersOf (padded ctx).state = (blocks 64 extra).foldl Standard.compress pressed.1 := by
  obtain ⟨room, datalen, short, data, bitlen, state⟩ := buffers
  have marked : (ctx.data.set buffer.length 0x80).take (buffer.length + 1) = buffer ++ [0x80] := by
    rw [take_set _ (by omega), data]
  unfold padded
  simp only [datalen]
  by_cases early : buffer.length < 56
  · refine ⟨[], ?_, rfl, ?_, ?_, ?_, ?_⟩
    all_goals simp only [if_pos early]
    · rw [fillZero_eq _ _ _ (by rw [List.length_set]; omega), marked]
      have count : (119 - buffer.length) % 64 = 56 - (buffer.length + 1) := by omega
      rw [count, List.nil_append, List.take_append_of_le_length (by simp; omega),
        List.take_of_length_le (by simp; omega)]
    · rw [fillZero_eq _ _ _ (by rw [List.length_set]; omega), marked]
      simp [room]
      omega
    · rw [blocks_nil]
      exact state
  · have filled : fillZero (ctx.data.set buffer.length 0x80) (buffer.length + 1)
        (64 - (buffer.length + 1)) =
          buffer ++ [0x80] ++ List.replicate (64 - (buffer.length + 1)) 0 := by
      rw [fillZero_eq _ _ _ (by rw [List.length_set]; omega), marked, List.drop_of_length_le,
        List.append_nil]
      rw [List.length_set]
      omega
    have size : (buffer ++ [0x80] ++ List.replicate (64 - (buffer.length + 1)) (0 : Byte)).length =
        64 := by
      simp
      omega
    refine ⟨buffer ++ [0x80] ++ List.replicate (64 - (buffer.length + 1)) 0, ?_, by rw [size], ?_,
      ?_, ?_, ?_⟩
    all_goals simp only [if_neg early, filled]
    · have count : (119 - buffer.length) % 64 = 64 - (buffer.length + 1) + 56 := by omega
      rw [List.take_append_of_le_length (by simp), List.take_of_length_le (by simp), count,
        ← List.replicate_append_replicate, ← List.append_assoc]
    · simp [sha256Transform]
      omega
    · rfl
    · rfl
    · rw [blocks_one (by decide) size]
      rw [transform_state, ← state]
      rfl

/-- The implementation computes the standard hash, whatever the stack held before. -/
theorem sha256On_standard (memory : Context) (room : memory.data.length = 64) (message : Bytes) :
    sha256On memory message = Standard.hash message := by
  have buffers := updated_buffers room message
  have remainder := (length_leftover message : (leftover 64 message).length = _)
  unfold sha256On
  generalize sha256Update (sha256Init memory) message = ctx at buffers ⊢
  obtain ⟨extra, parts, whole, size, datalen, bitlen, state⟩ := padded_eq buffers
  obtain ⟨count, multiple⟩ := Nat.dvd_of_mod_eq_zero whole
  have bits : (padded ctx).bitlen + UInt64.ofNat ((padded ctx).datalen * 8) =
      UInt64.ofNat (8 * message.length) := by
    rw [bitlen, buffers.bitlen, datalen, remainder, ← UInt64.ofNat_add]
    congr 1
    have division := Nat.div_add_mod message.length 64
    omega
  have last : ((padded ctx).data.take 56 ++ Standard.lengthBytes (8 * message.length)).length =
      64 := by
    rw [List.length_append, Standard.length_lengthBytes, List.length_take]
    omega
  have pads : blocks 64 (Standard.pad message) = blocks 64 message ++ blocks 64 extra ++
      [(padded ctx).data.take 56 ++ Standard.lengthBytes (8 * message.length)] := by
    rw [blocks_pad, zeros_eq remainder.symm, ← List.append_assoc, ← List.append_assoc, parts,
      List.append_assoc extra, blocks_append (by decide) multiple, blocks_one (by decide) last,
      List.append_assoc]
  have hashed : registersOf (sha256Transform { padded ctx with
        bitlen := (padded ctx).bitlen + UInt64.ofNat ((padded ctx).datalen * 8)
        data := storeLength (padded ctx).data
          ((padded ctx).bitlen + UInt64.ofNat ((padded ctx).datalen * 8)) }
      (storeLength (padded ctx).data
        ((padded ctx).bitlen + UInt64.ofNat ((padded ctx).datalen * 8)))).state =
      (blocks 64 (Standard.pad message)).foldl Standard.compress Standard.initial := by
    rw [transform_state, bits, storeLength_eq size, pads, List.foldl_append, List.foldl_append,
      ← state]
    rfl
  rw [Standard.hash, ← hashed]
  rfl

/-- The hash of `abc`, in a context that held ones before. -/
theorem sha256On_standard_abc :
    sha256On ⟨List.replicate 64 1, 5, 7, []⟩ [0x61, 0x62, 0x63] =
      Standard.hash [0x61, 0x62, 0x63] :=
  sha256On_standard ⟨List.replicate 64 1, 5, 7, []⟩ rfl [0x61, 0x62, 0x63]

end OpenDTP.Sha256
