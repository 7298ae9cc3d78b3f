import OpenDTP.Sha256.Correctness

/-! The computation of a digest, with every index that is written and every block that is compressed.
The writes stay inside the 64-byte buffer, and the blocks are those of the padded message, whatever the
memory held before. -/

namespace OpenDTP.Sha256
open Common Blocks

/-! ### The computation with its trace -/

/-- A context, the indices of `data` written so far, and the blocks passed to `Sha256Transform`. -/
structure Traced where
  ctx : Context
  stores : List Nat
  calls : List Bytes
  deriving DecidableEq, Repr

namespace Traced

/-- `ctx->data[index] = byte`. -/
def store (run : Traced) (index : Nat) (byte : Byte) : Traced where
  ctx := { run.ctx with data := run.ctx.data.set index byte }
  stores := run.stores ++ [index]
  calls := run.calls

/-- `Sha256Transform(ctx, ctx->data)`. -/
def transform (run : Traced) : Traced where
  ctx := sha256Transform run.ctx run.ctx.data
  stores := run.stores
  calls := run.calls ++ [run.ctx.data]

/-- `ctx->data[ctx->datalen] = byte; ctx->datalen++`. -/
def append (run : Traced) (byte : Byte) : Traced :=
  let stored := run.store run.ctx.datalen byte
  { stored with ctx := { stored.ctx with datalen := stored.ctx.datalen + 1 } }

/-- One iteration of the update loop. -/
def absorb (run : Traced) (byte : Byte) : Traced :=
  if (run.append byte).ctx.datalen = 64 then
    let pressed := (run.append byte).transform
    { pressed with ctx := { pressed.ctx with bitlen := pressed.ctx.bitlen + 512, datalen := 0 } }
  else run.append byte

/-- `while (i < limit) ctx->data[i++] = 0x00`, with the `i` it ends at. -/
def fill (run : Traced) (i limit : Nat) : Traced × Nat :=
  if i < limit then (run.store i 0).fill (i + 1) limit else (run, i)
termination_by limit - i

/-- The first part of `Sha256Final`, with the index that its fill loop ends at. -/
def pad (run : Traced) : Traced × Nat :=
  let marked := run.store run.ctx.datalen 0x80
  if run.ctx.datalen < 56 then marked.fill (run.ctx.datalen + 1) 56
  else
    let filled := marked.fill (run.ctx.datalen + 1) 64
    let pressed := filled.1.transform
    let data := List.replicate 56 0 ++ pressed.ctx.data.drop 56
    ({ pressed with ctx := { pressed.ctx with data := data } }, filled.2)

/-- `Sha256Final` up to the digest. -/
def final (run : Traced) : Traced :=
  let filled := run.pad.1
  let bitlen := filled.ctx.bitlen + UInt64.ofNat (filled.ctx.datalen * 8)
  let counted := { filled.ctx with bitlen := bitlen, data := storeLength filled.ctx.data bitlen }
  transform ⟨counted, filled.stores ++ [63, 62, 61, 60, 59, 58, 57, 56], filled.calls⟩

def digest (run : Traced) : Bytes := run.ctx.state.flatMap bigEndian

end Traced

/-- The run up to the end of a message, in memory that held `memory` before. -/
def absorbed (memory : Context) (message : Bytes) : Traced :=
  message.foldl Traced.absorb ⟨sha256Init memory, [], []⟩

def traced (memory : Context) (message : Bytes) : Traced := (absorbed memory message).final

/-! ### What a run does -/

namespace Traced

/-- An iteration changes the context as without the trace, writes the index `datalen`, and passes on the
buffer that it has filled. -/
theorem absorb_eq (run : Traced) (byte : Byte) :
    (run.absorb byte).ctx = Sha256.absorb run.ctx byte ∧
      (run.absorb byte).stores = run.stores ++ [run.ctx.datalen] ∧
      (run.absorb byte).calls = run.calls ++
        if run.ctx.datalen + 1 = 64 then [run.ctx.data.set run.ctx.datalen byte] else [] := by
  unfold absorb Sha256.absorb
  by_cases full : run.ctx.datalen + 1 = 64
  · have counted : (run.append byte).ctx.datalen = 64 := full
    simp only [if_pos full, if_pos counted]
    exact ⟨rfl, rfl, rfl⟩
  · have counted : ¬ (run.append byte).ctx.datalen = 64 := full
    simp only [if_neg full, if_neg counted]
    exact ⟨rfl, rfl, (List.append_nil _).symm⟩

/-- A fill loop ends at its limit and writes each index on the way. -/
theorem fill_eq (run : Traced) {i limit : Nat} (bound : i ≤ limit) :
    run.fill i limit = (⟨{ run.ctx with data := fillZero run.ctx.data i (limit - i) },
      run.stores ++ List.range' i (limit - i), run.calls⟩, limit) := by
  obtain ⟨remaining, rfl⟩ := Nat.exists_eq_add_of_le bound
  rw [Nat.add_sub_cancel_left]
  induction remaining generalizing run i with
  | zero =>
    rw [fill, if_neg (by omega)]
    simp [fillZero]
  | succ remaining ih =>
    have further := @ih (run.store i 0) (i + 1) (by omega)
    rw [fill, if_pos (by omega), show i + (remaining + 1) = i + 1 + remaining by omega, further]
    simp [store, fillZero, List.range'_succ]

theorem pad_early {run : Traced} (early : run.ctx.datalen < 56) :
    run.pad = (⟨padded run.ctx, run.stores ++ [run.ctx.datalen] ++
      List.range' (run.ctx.datalen + 1) (56 - (run.ctx.datalen + 1)), run.calls⟩, 56) := by
  unfold pad padded
  simp only [if_pos early]
  rw [fill_eq _ (by omega)]
  rfl

theorem pad_late {run : Traced} (late : ¬ run.ctx.datalen < 56) (room : run.ctx.datalen < 64) :
    run.pad = (⟨padded run.ctx, run.stores ++ [run.ctx.datalen] ++
      List.range' (run.ctx.datalen + 1) (64 - (run.ctx.datalen + 1)), run.calls ++
        [fillZero (run.ctx.data.set run.ctx.datalen 0x80) (run.ctx.datalen + 1)
          (64 - (run.ctx.datalen + 1))]⟩, 64) := by
  unfold pad padded
  simp only [if_neg late]
  rw [fill_eq _ (by omega)]
  rfl

end Traced

theorem absorbed_snoc (memory : Context) (message : Bytes) (byte : Byte) :
    absorbed memory (message ++ [byte]) = (absorbed memory message).absorb byte := by
  rw [absorbed, List.foldl_append]
  rfl

/-- Up to the end of a message the full blocks of it are compressed, and the indices run round. -/
theorem absorbed_eq {memory : Context} (room : memory.data.length = 64) (message : Bytes) :
    (absorbed memory message).ctx = sha256Update (sha256Init memory) message ∧
      (absorbed memory message).calls = blocks 64 message ∧
      (absorbed memory message).stores = (List.range message.length).map (· % 64) := by
  induction message using List.reverseRecOn with
  | nil => exact ⟨rfl, blocks_nil.symm, rfl⟩
  | append_singleton message byte ih =>
    obtain ⟨ctx, calls, stores⟩ := ih
    obtain ⟨absorbs, writes, passes⟩ := (absorbed memory message).absorb_eq byte
    obtain ⟨size, datalen, short, data, _, _⟩ := updated_buffers room message
    rw [ctx, datalen] at writes passes
    rw [absorbed_snoc, absorbs, writes, passes, ctx, calls, stores]
    refine ⟨?_, ?_, ?_⟩
    · unfold sha256Update
      rw [List.foldl_append]
      rfl
    · have stored := take_set _ (by omega : (leftover 64 message).length <
        (sha256Update (sha256Init memory) message).data.length) byte
      rw [data] at stored
      have grown : (leftover 64 message ++ [byte]).length = (leftover 64 message).length + 1 := by
        simp
      rw [blocks_snoc (by decide)]
      by_cases full : (leftover 64 message).length + 1 = 64
      · rw [if_pos full, blocks_one (by decide) (grown.trans full), ← stored, full,
          List.take_of_length_le]
        rw [List.length_set]
        omega
      · have open_ : blocks 64 (leftover 64 message ++ [byte]) = [] := blocks_short (by omega)
        rw [if_neg full, open_]
    · rw [length_leftover, List.length_append, List.length_singleton, List.range_succ,
        List.map_append]
      rfl

/-! ### The last blocks -/

/-- What is left of a message is closed by a one bit, zeros, and the length of the message in bits; in a
second block if the first one has no room for the length. -/
def closing (rest : Bytes) (bits : Nat) : List Bytes :=
  if rest.length < 56 then
    [rest ++ [0x80] ++ List.replicate (55 - rest.length) 0 ++ Standard.lengthBytes bits]
  else
    [rest ++ [0x80] ++ List.replicate (63 - rest.length) 0,
      List.replicate 56 0 ++ Standard.lengthBytes bits]

theorem blocks_closing (message : Bytes) : blocks 64 (Standard.pad message) =
    blocks 64 message ++ closing (leftover 64 message) (8 * message.length) := by
  have remainder : message.length % 64 = (leftover 64 message).length :=
    (length_leftover message).symm
  have short := leftover_lt (by decide : 0 < 64) message
  rw [blocks_pad, zeros_eq remainder]
  generalize leftover 64 message = rest at short ⊢
  congr 1
  unfold closing
  by_cases early : rest.length < 56
  · have count : (119 - rest.length) % 64 = 55 - rest.length := by omega
    rw [if_pos early, count, blocks_one (by decide)]
    · simp only [List.append_assoc]
    · simp [Standard.length_lengthBytes]
      omega
  · have count : (119 - rest.length) % 64 = 63 - rest.length + 56 := by omega
    have whole : (rest ++ [0x80] ++ List.replicate (63 - rest.length) (0 : Byte)).length =
        64 * 1 := by
      simp
      omega
    have last : (List.replicate 56 (0 : Byte) ++
        Standard.lengthBytes (8 * message.length)).length = 64 := by
      simp [Standard.length_lengthBytes]
    have parts : rest ++ ([0x80] ++ List.replicate (63 - rest.length + 56) 0 ++
        Standard.lengthBytes (8 * message.length)) =
          (rest ++ [0x80] ++ List.replicate (63 - rest.length) 0) ++
            (List.replicate 56 0 ++ Standard.lengthBytes (8 * message.length)) := by
      rw [← List.replicate_append_replicate]
      simp only [List.append_assoc]
    rw [if_neg early, count, parts, blocks_append (by decide) whole,
      blocks_one (by decide) whole, blocks_one (by decide) last]
    rfl

theorem blocks_length {message block : Bytes} (member : block ∈ blocks 64 message) :
    block.length = 64 := by
  unfold blocks at member
  obtain ⟨index, inside, rfl⟩ := List.mem_map.mp member
  have below := List.mem_range.mp inside
  rw [List.length_take, List.length_drop]
  omega

/-- The padded context ends with the zeros, and in front of them, if there is room for the length, with
what was left and the one bit. -/
theorem padded_data {ctx : Context} {pressed : Pressed} {buffer : Bytes}
    (buffers : Buffers ctx pressed buffer) :
    (padded ctx).data.length = 64 ∧ (padded ctx).datalen = buffer.length ∧
      (padded ctx).bitlen = ctx.bitlen ∧ (padded ctx).data.take 56 =
        if buffer.length < 56 then buffer ++ [0x80] ++ List.replicate (55 - buffer.length) 0
        else List.replicate 56 0 := by
  obtain ⟨extra, parts, whole, size, datalen, bitlen, _⟩ := padded_eq buffers
  refine ⟨size, datalen, bitlen, ?_⟩
  have short := buffers.short
  have lengths := congrArg List.length parts
  simp only [List.length_append, List.length_replicate, List.length_singleton,
    List.length_take, size] at lengths
  by_cases early : buffer.length < 56
  · have none : extra = [] := List.eq_nil_of_length_eq_zero (by omega)
    have count : (119 - buffer.length) % 64 = 55 - buffer.length := by omega
    rw [none, List.nil_append, count] at parts
    rw [if_pos early, parts]
  · rw [if_neg early]
    have count : (119 - buffer.length) % 64 = 63 - buffer.length + 56 := by omega
    rw [count, ← List.replicate_append_replicate, ← List.append_assoc] at parts
    have same : (buffer ++ [0x80] ++ List.replicate (63 - buffer.length) (0 : Byte)).length =
        extra.length := by
      simp only [List.length_append, List.length_replicate, List.length_singleton]
      omega
    exact (List.append_inj parts same).2.symm

/-- The first of two last blocks. -/
theorem filled_block {ctx : Context} {pressed : Pressed} {buffer : Bytes}
    (buffers : Buffers ctx pressed buffer) :
    fillZero (ctx.data.set buffer.length 0x80) (buffer.length + 1) (64 - (buffer.length + 1)) =
      buffer ++ [0x80] ++ List.replicate (63 - buffer.length) 0 := by
  obtain ⟨room, _, short, data, _, _⟩ := buffers
  have rest : 64 - (buffer.length + 1) = 63 - buffer.length := by omega
  rw [fillZero_eq _ _ _ (by rw [List.length_set]; omega), take_set _ (by omega), data, rest,
    List.drop_of_length_le (by rw [List.length_set]; omega), List.append_nil]

/-- What follows the padding does not depend on the branch. -/
theorem final_of_pad {run : Traced} {pressed : Pressed} {buffer : Bytes}
    (buffers : Buffers run.ctx pressed buffer) {bits limit : Nat} {stores : List Nat}
    {calls : List Bytes} (padding : run.pad = (⟨padded run.ctx, stores, calls⟩, limit))
    (counts : run.ctx.bitlen + UInt64.ofNat (buffer.length * 8) = UInt64.ofNat bits) :
    run.final.digest = sha256Final run.ctx ∧
      run.final.stores = stores ++ [63, 62, 61, 60, 59, 58, 57, 56] ∧
      run.final.calls = calls ++
        [(padded run.ctx).data.take 56 ++ Standard.lengthBytes bits] := by
  obtain ⟨size, datalen, bitlen, _⟩ := padded_data buffers
  have last : storeLength (padded run.ctx).data ((padded run.ctx).bitlen +
      UInt64.ofNat ((padded run.ctx).datalen * 8)) =
        (padded run.ctx).data.take 56 ++ Standard.lengthBytes bits := by
    rw [bitlen, datalen, counts]
    exact storeLength_eq size bits
  unfold Traced.final
  rw [padding, ← last]
  exact ⟨rfl, rfl, rfl⟩

/-- What `Sha256Final` writes and compresses, and where its fill loop ends. -/
theorem final_eq {run : Traced} {pressed : Pressed} {buffer : Bytes}
    (buffers : Buffers run.ctx pressed buffer) {bits : Nat}
    (counts : run.ctx.bitlen + UInt64.ofNat (buffer.length * 8) = UInt64.ofNat bits) :
    run.final.digest = sha256Final run.ctx ∧
      run.final.calls = run.calls ++ closing buffer bits ∧
      run.pad.2 = (if buffer.length < 56 then 56 else 64) ∧
      ∀ index ∈ run.final.stores, index ∈ run.stores ∨ index < 64 := by
  have front := (padded_data buffers).2.2.2
  have here := buffers.datalen
  have short := buffers.short
  have tail : ∀ index ∈ [63, 62, 61, 60, 59, 58, 57, 56], index < 64 := by decide
  unfold closing
  by_cases early : buffer.length < 56
  · have padding := Traced.pad_early (by omega : run.ctx.datalen < 56)
    obtain ⟨digest, stores, calls⟩ := final_of_pad buffers padding counts
    refine ⟨digest, ?_, ?_, ?_⟩
    · rw [calls, front, if_pos early, if_pos early]
    · rw [padding, if_pos early]
    · rw [stores]
      simp only [List.mem_append, List.mem_singleton, List.mem_range'_1]
      rintro index (((earlier | rfl) | filled) | late)
      · exact .inl earlier
      · exact .inr (by omega)
      · exact .inr (by omega)
      · exact .inr (tail index late)
  · have padding := Traced.pad_late (by omega : ¬ run.ctx.datalen < 56) (by omega)
    obtain ⟨digest, stores, calls⟩ := final_of_pad buffers padding counts
    refine ⟨digest, ?_, ?_, ?_⟩
    · rw [calls, front, if_neg early, if_neg early, here, filled_block buffers, List.append_assoc]
      rfl
    · rw [padding, if_neg early]
    · rw [stores]
      simp only [List.mem_append, List.mem_singleton, List.mem_range'_1]
      rintro index (((earlier | rfl) | filled) | late)
      · exact .inl earlier
      · exact .inr (by omega)
      · exact .inr (by omega)
      · exact .inr (tail index late)

/-- The whole run: its digest, its blocks, and where its writes and its fill loop end. -/
theorem traced_eq {memory : Context} (room : memory.data.length = 64) (message : Bytes) :
    (traced memory message).digest = sha256On memory message ∧
      (traced memory message).calls = blocks 64 (Standard.pad message) ∧
      (absorbed memory message).pad.2 = (if message.length % 64 < 56 then 56 else 64) ∧
      ∀ index ∈ (traced memory message).stores, index < 64 := by
  obtain ⟨ctx, calls, stores⟩ := absorbed_eq room message
  have buffers := updated_buffers room message
  have remainder := (length_leftover message : (leftover 64 message).length = _)
  have counts : (absorbed memory message).ctx.bitlen +
      UInt64.ofNat ((leftover 64 message).length * 8) = UInt64.ofNat (8 * message.length) := by
    rw [ctx, buffers.bitlen, remainder, ← UInt64.ofNat_add]
    congr 1
    have division := Nat.div_add_mod message.length 64
    omega
  rw [← ctx] at buffers
  obtain ⟨digest, closes, ends, inside⟩ := final_eq buffers counts
  refine ⟨?_, ?_, ?_, ?_⟩
  · rw [traced, digest, ctx]
    rfl
  · rw [traced, closes, calls, blocks_closing]
  · rw [ends, remainder]
  · intro index member
    rcases inside index member with earlier | below
    · rw [stores] at earlier
      obtain ⟨position, _, rfl⟩ := List.mem_map.mp earlier
      exact Nat.mod_lt position (by decide)
    · exact below

theorem length_pad (message : Bytes) :
    (Standard.pad message).length = 64 * ((message.length + 8) / 64 + 1) := by
  simp only [Standard.pad, List.length_append, List.length_replicate, List.length_singleton,
    Standard.length_lengthBytes, Standard.zeros]
  omega

/-- The buffer and its counters while a message is absorbed and closed: after every prefix the buffer
holds what is left behind the full blocks and the counters say how many bytes and bits that is; no
index reaches 64, the fill loop ends at its limit, and the blocks are determined by the message, the
last of them byte by byte. -/
theorem buffering_stays_inside {memory : Context} (room : memory.data.length = 64) {message : Bytes}
    (short : message.length < 2 ^ 61) :
    (∀ count ≤ message.length,
      (sha256Update (sha256Init memory) (message.take count)).datalen = count % 64 ∧
      (sha256Update (sha256Init memory) (message.take count)).bitlen.toNat = 512 * (count / 64) ∧
      (sha256Update (sha256Init memory) (message.take count)).data.take (count % 64) =
        (message.take count).drop (count - count % 64)) ∧
    (traced memory message).digest = sha256On memory message ∧
    (∀ index ∈ (traced memory message).stores, index < 64) ∧
    (absorbed memory message).pad.2 = (if message.length % 64 < 56 then 56 else 64) ∧
    (traced memory message).calls = blocks 64 message ++
      closing (leftover 64 message) (8 * message.length) ∧
    (∀ block ∈ (traced memory message).calls, block.length = 64) ∧
    (traced memory message).calls.length = (message.length + 8) / 64 + 1 := by
  obtain ⟨digest, calls, ends, inside⟩ := traced_eq room message
  refine ⟨fun count bound => ?_, digest, inside, ends, calls.trans (blocks_closing message), ?_, ?_⟩
  · have length : (message.take count).length = count := List.length_take_of_le bound
    obtain ⟨_, datalen, _, data, bitlen, _⟩ := updated_buffers room (message.take count)
    have split := Nat.div_add_mod count 64
    have start : 64 * (count / 64) = count - count % 64 := by omega
    rw [length_leftover, length] at datalen data
    refine ⟨datalen, ?_, ?_⟩
    · have fits : 512 * (count / 64) < 2 ^ 64 := by omega
      rw [bitlen, length]
      exact UInt64.toNat_ofNat_of_lt' fits
    · rw [data, leftover, length, start]
  · rw [calls]
    exact fun block member => blocks_length member
  · rw [calls, length_blocks, length_pad, Nat.mul_div_cancel_left _ (by decide)]

/-- A message of 56 bytes that look like padding; it needs a second block for its length. -/
def imitation : Bytes := List.replicate 56 0x80

theorem buffering_stays_inside_imitation :
    (∀ count ≤ imitation.length,
      (sha256Update (sha256Init blank) (imitation.take count)).datalen = count % 64 ∧
      (sha256Update (sha256Init blank) (imitation.take count)).bitlen.toNat = 512 * (count / 64) ∧
      (sha256Update (sha256Init blank) (imitation.take count)).data.take (count % 64) =
        (imitation.take count).drop (count - count % 64)) ∧
    (traced blank imitation).digest = sha256On blank imitation ∧
    (∀ index ∈ (traced blank imitation).stores, index < 64) ∧
    (absorbed blank imitation).pad.2 = (if imitation.length % 64 < 56 then 56 else 64) ∧
    (traced blank imitation).calls = blocks 64 imitation ++
      closing (leftover 64 imitation) (8 * imitation.length) ∧
    (∀ block ∈ (traced blank imitation).calls, block.length = 64) ∧
    (traced blank imitation).calls.length = (imitation.length + 8) / 64 + 1 :=
  buffering_stays_inside rfl (by decide)

end OpenDTP.Sha256
