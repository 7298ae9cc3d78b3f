import OpenDTP.Sha256.Trace

/-! Padding loses nothing. The blocks of a message end with its length, so that neither of two block
sequences is the end of the other, and equal digests of different messages come from two different
inputs of the compression with equal results. -/

namespace OpenDTP.Sha256
open Common Blocks

/-! ### The length -/

/-- The number in big-endian bytes. -/
def bigEndianValue (bytes : Bytes) : Nat :=
  bytes.foldl (fun value byte => 0x100 * value + byte.toNat) 0

theorem bigEndianValue_lengthBytes (bits : Nat) :
    bigEndianValue (Standard.lengthBytes bits) = bits % 2 ^ 64 := by
  have byte (amount : Nat) : (UInt8.ofNat (bits >>> amount)).toNat = bits / 2 ^ amount % 0x100 := by
    rw [UInt8.toNat_ofNat', Nat.shiftRight_eq_div_pow]
  change 0x100 * (0x100 * (0x100 * (0x100 * (0x100 * (0x100 * (0x100 * (0x100 * 0 +
    (UInt8.ofNat (bits >>> 56)).toNat) + (UInt8.ofNat (bits >>> 48)).toNat) +
      (UInt8.ofNat (bits >>> 40)).toNat) + (UInt8.ofNat (bits >>> 32)).toNat) +
        (UInt8.ofNat (bits >>> 24)).toNat) + (UInt8.ofNat (bits >>> 16)).toNat) +
          (UInt8.ofNat (bits >>> 8)).toNat) + (UInt8.ofNat (bits >>> 0)).toNat = _
  simp only [byte]
  omega

/-- A padded message that ends like another one has its length. -/
theorem length_of_suffix {first second : Bytes} (short : first.length < 2 ^ 61)
    (short' : second.length < 2 ^ 61) (tail : Standard.pad first <:+ Standard.pad second) :
    first.length = second.length := by
  have ends (message : Bytes) :
      Standard.lengthBytes (8 * message.length) <:+ Standard.pad message :=
    ⟨_, rfl⟩
  have same : Standard.lengthBytes (8 * first.length) =
      Standard.lengthBytes (8 * second.length) := by
    apply (List.suffix_of_suffix_length_le ((ends first).trans tail) (ends second) ?_).eq_of_length
    · rw [Standard.length_lengthBytes, Standard.length_lengthBytes]
    · rw [Standard.length_lengthBytes, Standard.length_lengthBytes]
  have values := congrArg bigEndianValue same
  rw [bigEndianValue_lengthBytes, bigEndianValue_lengthBytes] at values
  omega

theorem pad_injective {first second : Bytes} (lengths : first.length = second.length)
    (same : Standard.pad first = Standard.pad second) : first = second := by
  unfold Standard.pad at same
  simp only [List.append_assoc] at same
  exact (List.append_inj same lengths).1

/-- The blocks of one message are the end of those of another one only if the messages are the same. -/
theorem eq_of_blocks_suffix {first second : Bytes} (short : first.length < 2 ^ 61)
    (short' : second.length < 2 ^ 61)
    (tail : blocks 64 (Standard.pad first) <:+ blocks 64 (Standard.pad second)) :
    first = second := by
  have whole (message : Bytes) : (blocks 64 (Standard.pad message)).flatten =
      Standard.pad message := flatten_blocks (by decide) (length_pad message)
  have padded : Standard.pad first <:+ Standard.pad second := by
    obtain ⟨front, parts⟩ := tail
    refine ⟨front.flatten, ?_⟩
    rw [← whole first, ← List.flatten_append, parts, whole second]
  have lengths := length_of_suffix short short' padded
  apply pad_injective lengths
  apply padded.eq_of_length
  rw [length_pad, length_pad, lengths]

/-! ### The digest -/

theorem wordBytes_injective {first second : UInt32}
    (same : Standard.wordBytes first = Standard.wordBytes second) : first = second := by
  have bound := first.toNat_lt
  have bound' := second.toNat_lt
  simp only [Standard.wordBytes, List.cons.injEq, and_true, ← UInt8.toNat_inj,
    UInt32.toNat_toUInt8, UInt32.toNat_shiftRight, Nat.shiftRight_eq_div_pow] at same
  obtain ⟨one, two, three, four⟩ := same
  apply UInt32.toNat_inj.mp
  change first.toNat / 2 ^ 24 % 2 ^ 8 = second.toNat / 2 ^ 24 % 2 ^ 8 at one
  change first.toNat / 2 ^ 16 % 2 ^ 8 = second.toNat / 2 ^ 16 % 2 ^ 8 at two
  change first.toNat / 2 ^ 8 % 2 ^ 8 = second.toNat / 2 ^ 8 % 2 ^ 8 at three
  omega

theorem flatMap_wordBytes_injective {first second : List UInt32}
    (lengths : first.length = second.length)
    (same : first.flatMap Standard.wordBytes = second.flatMap Standard.wordBytes) :
    first = second := by
  induction first generalizing second with
  | nil => exact (List.eq_nil_of_length_eq_zero lengths.symm).symm
  | cons word first ih =>
    match second, lengths, same with
    | other :: second, lengths, same =>
      rw [List.flatMap_cons, List.flatMap_cons] at same
      obtain ⟨front, back⟩ := List.append_inj same rfl
      rw [wordBytes_injective front, ih (Nat.succ.inj lengths) back]

theorem digest_injective {first second : Standard.Registers}
    (same : Standard.digest first = Standard.digest second) : first = second := by
  cases first
  cases second
  have words := flatMap_wordBytes_injective (by rfl) same
  simp only [List.cons.injEq, and_true] at words
  simp only [Standard.Registers.mk.injEq]
  exact words

/-- The registers as the words of a context. -/
def wordsOf (r : Standard.Registers) : List UInt32 := [r.a, r.b, r.c, r.d, r.e, r.f, r.g, r.h]

/-- A context that is about to compress a block. -/
def facing (r : Standard.Registers) (block : Bytes) : Context := ⟨block, 0, 0, wordsOf r⟩

theorem facing_state (r : Standard.Registers) (block : Bytes) :
    (sha256Transform (facing r block) block).state = wordsOf (Standard.compress r block) := by
  have compressed := transform_state (facing r block) block
  have same : registersOf (facing r block).state = r := rfl
  rw [same] at compressed
  rw [← compressed]
  rfl

/-- Different messages have different blocks, and neither sequence is the end of the other; so when
their digests are equal, some block of each, in some state of eight words, compresses to the same
state, and the two inputs are not the same. -/
theorem padding_collision_free {memory memory' : Context} (room : memory.data.length = 64)
    (room' : memory'.data.length = 64) {first second : Bytes} (different : first ≠ second)
    (short : first.length < 2 ^ 61) (short' : second.length < 2 ^ 61) :
    (traced memory first).calls ≠ (traced memory' second).calls ∧
    ¬ (traced memory first).calls <:+ (traced memory' second).calls ∧
    ¬ (traced memory' second).calls <:+ (traced memory first).calls ∧
    (sha256On memory first = sha256On memory' second → ∃ ctx other : Context,
      ctx.state.length = 8 ∧ other.state.length = 8 ∧
      ctx.data ∈ (traced memory first).calls ∧ other.data ∈ (traced memory' second).calls ∧
      (ctx.state, ctx.data) ≠ (other.state, other.data) ∧
      (sha256Transform ctx ctx.data).state = (sha256Transform other other.data).state) := by
  have calls := (traced_eq room first).2.1
  have calls' := (traced_eq room' second).2.1
  rw [calls, calls']
  have apart : ¬ blocks 64 (Standard.pad first) <:+ blocks 64 (Standard.pad second) :=
    fun tail => different (eq_of_blocks_suffix short short' tail)
  have apart' : ¬ blocks 64 (Standard.pad second) <:+ blocks 64 (Standard.pad first) :=
    fun tail => different (eq_of_blocks_suffix short' short tail).symm
  refine ⟨fun same => apart (same ▸ List.suffix_refl _), apart, apart', fun digests => ?_⟩
  rw [sha256On_standard memory room, sha256On_standard memory' room'] at digests
  obtain ⟨state, block, other, another, here, there, inputs, meets⟩ :=
    collision_of_foldl Standard.compress Standard.initial apart apart' (digest_injective digests)
  refine ⟨facing state block, facing other another, rfl, rfl, here, there, ?_, ?_⟩
  · intro same
    have states := congrArg registersOf (Prod.mk.inj same).1
    exact inputs (Prod.ext states (Prod.mk.inj same).2)
  · change (sha256Transform (facing state block) block).state =
      (sha256Transform (facing other another) another).state
    rw [facing_state, facing_state, meets]

/-- A message, and the same one with the first byte of its padding. -/
theorem padding_collision_free_imitated :
    (traced blank []).calls ≠ (traced blank [0x80]).calls ∧
    ¬ (traced blank []).calls <:+ (traced blank [0x80]).calls ∧
    ¬ (traced blank [0x80]).calls <:+ (traced blank []).calls ∧
    (sha256On blank [] = sha256On blank [0x80] → ∃ ctx other : Context,
      ctx.state.length = 8 ∧ other.state.length = 8 ∧
      ctx.data ∈ (traced blank []).calls ∧ other.data ∈ (traced blank [0x80]).calls ∧
      (ctx.state, ctx.data) ≠ (other.state, other.data) ∧
      (sha256Transform ctx ctx.data).state = (sha256Transform other other.data).state) :=
  padding_collision_free rfl rfl (by decide) (by decide) (by decide)

end OpenDTP.Sha256
