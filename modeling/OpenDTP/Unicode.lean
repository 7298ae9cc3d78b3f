import Mathlib.Logic.Basic
import Mathlib.Tactic.Conv

/-! The encoding forms of Unicode. Code points are numbers, so that the forms are also defined for
the surrogates, which are no characters; on characters the byte form is UTF-8. -/

namespace OpenDTP.Unicode

/-- The bytes of a code point, in shortest form. -/
def encode8 (point : Nat) : List UInt8 :=
  if point < 0x80 then [UInt8.ofNat point]
  else if point < 0x800 then
    [UInt8.ofNat (0xC0 + point / 0x40), UInt8.ofNat (0x80 + point % 0x40)]
  else if point < 0x10000 then
    [UInt8.ofNat (0xE0 + point / 0x1000), UInt8.ofNat (0x80 + point / 0x40 % 0x40),
      UInt8.ofNat (0x80 + point % 0x40)]
  else
    [UInt8.ofNat (0xF0 + point / 0x40000), UInt8.ofNat (0x80 + point / 0x1000 % 0x40),
      UInt8.ofNat (0x80 + point / 0x40 % 0x40), UInt8.ofNat (0x80 + point % 0x40)]

/-- The 16-bit units of a code point: itself, or a surrogate pair. -/
def encode16 (point : Nat) : List UInt16 :=
  if point < 0x10000 then [UInt16.ofNat point]
  else
    [UInt16.ofNat (0xD800 + (point - 0x10000) / 0x400),
      UInt16.ofNat (0xDC00 + (point - 0x10000) % 0x400)]

/-- The well-formed UTF-8 string of some characters. -/
def utf8 (text : List Char) : List UInt8 := text.flatMap String.utf8EncodeChar

/-- The well-formed UTF-16 string of some characters. -/
def utf16 (text : List Char) : List UInt16 := text.flatMap fun char => encode16 char.toNat

theorem toNat_valid (char : Char) :
    char.toNat < 0xD800 ∨ 0xDFFF < char.toNat ∧ char.toNat < 0x110000 := char.valid

theorem utf8EncodeChar_eq (char : Char) : String.utf8EncodeChar char = encode8 char.toNat := by
  have valid := toNat_valid char
  unfold String.utf8EncodeChar encode8
  simp only [Char.toNat] at valid ⊢
  generalize char.val.toNat = point at valid ⊢
  by_cases one : point < 0x80
  · rw [if_pos (by omega), if_pos one]
  · rw [if_neg (by omega), if_neg one]
    by_cases two : point < 0x800
    · rw [if_pos (by omega), if_pos two, Nat.add_comm 0xC0, Nat.add_comm 0x80,
        Nat.mod_eq_of_lt (by omega)]
    · rw [if_neg (by omega), if_neg two]
      by_cases three : point < 0x10000
      · rw [if_pos (by omega), if_pos three, Nat.add_comm 0xE0, Nat.add_comm 0x80, Nat.add_comm 0x80,
          Nat.mod_eq_of_lt (by omega : point / 4096 < 0x10)]
      · rw [if_neg (by omega), if_neg three, Nat.add_comm 0xF0, Nat.add_comm 0x80, Nat.add_comm 0x80,
          Nat.add_comm 0x80, Nat.mod_eq_of_lt (by omega : point / 262144 < 0x08)]

/-! ### Arbitrary units -/

/-- A unit that opens a surrogate pair. -/
abbrev Lead (unit : UInt16) : Prop := 0xD800 ≤ unit ∧ unit ≤ 0xDBFF

/-- A unit that closes a surrogate pair. -/
abbrev Trail (unit : UInt16) : Prop := 0xDC00 ≤ unit ∧ unit ≤ 0xDFFF

/-- Every unit that opens a pair is directly followed by one that closes it, and no unit closes
a pair otherwise. -/
def WellFormed16 : List UInt16 → Prop
  | [] => True
  | unit :: rest =>
    if Lead unit then
      match rest with
      | trail :: after => Trail trail ∧ WellFormed16 after
      | [] => False
    else ¬ Trail unit ∧ WellFormed16 rest

/-- A Unicode scalar value, which a character has: no surrogate, and in range. -/
abbrev Scalar (point : Nat) : Prop := point < 0xD800 ∨ 0xDFFF < point ∧ point < 0x110000

/-- The code points that any units stand for: a pair for the joined one, every other unit for
itself. -/
def points : List UInt16 → List Nat
  | [] => []
  | unit :: rest =>
    if Lead unit then
      match rest with
      | trail :: after =>
        if Trail trail then
          (0x400 * (unit.toNat - 0xD800) + (trail.toNat - 0xDC00) + 0x10000) :: points after
        else unit.toNat :: points (trail :: after)
      | [] => [unit.toNat]
    else unit.toNat :: points rest

theorem lead_iff {unit : UInt16} : Lead unit ↔ 0xD800 ≤ unit.toNat ∧ unit.toNat ≤ 0xDBFF := by
  rw [Lead, UInt16.le_iff_toNat_le, UInt16.le_iff_toNat_le]
  exact Iff.rfl

theorem trail_iff {unit : UInt16} : Trail unit ↔ 0xDC00 ≤ unit.toNat ∧ unit.toNat ≤ 0xDFFF := by
  rw [Trail, UInt16.le_iff_toNat_le, UInt16.le_iff_toNat_le]
  exact Iff.rfl

theorem encode16_unit (unit : UInt16) : encode16 unit.toNat = [unit] := by
  have bound : unit.toNat < 0x10000 := unit.toNat_lt
  rw [encode16, if_pos bound, UInt16.ofNat_toNat]

theorem encode16_pair {unit trail : UInt16} (lead : Lead unit) (second : Trail trail) :
    encode16 (0x400 * (unit.toNat - 0xD800) + (trail.toNat - 0xDC00) + 0x10000) =
      [unit, trail] := by
  rw [lead_iff] at lead
  rw [trail_iff] at second
  have high : 0xD800 + (0x400 * (unit.toNat - 0xD800) + (trail.toNat - 0xDC00) + 0x10000 -
      0x10000) / 0x400 = unit.toNat := by omega
  have low : 0xDC00 + (0x400 * (unit.toNat - 0xD800) + (trail.toNat - 0xDC00) + 0x10000 -
      0x10000) % 0x400 = trail.toNat := by omega
  rw [encode16, if_neg (by omega), high, low, UInt16.ofNat_toNat, UInt16.ofNat_toNat]

theorem points_lt {units : List UInt16} : ∀ point ∈ points units, point < 0x110000 := by
  have small (unit : UInt16) : unit.toNat < 0x110000 := by
    have bound : unit.toNat < 0x10000 := unit.toNat_lt
    omega
  fun_induction points units with
  | case1 => simp
  | case2 unit lead trail after second ih =>
    rw [lead_iff] at lead
    rw [trail_iff] at second
    rw [List.forall_mem_cons]
    exact ⟨by omega, ih⟩
  | case3 unit lead trail after _ ih => exact List.forall_mem_cons.mpr ⟨small unit, ih⟩
  | case4 unit => exact List.forall_mem_singleton.mpr (small unit)
  | case5 unit rest _ ih => exact List.forall_mem_cons.mpr ⟨small unit, ih⟩

/-- No unit is lost: the units of the code points are the units themselves. -/
theorem encode16_points (units : List UInt16) : (points units).flatMap encode16 = units := by
  fun_induction points units with
  | case1 => rfl
  | case2 unit lead trail after second ih =>
    rw [List.flatMap_cons, encode16_pair lead second, ih]
    rfl
  | case3 unit lead trail after _ ih =>
    rw [List.flatMap_cons, encode16_unit, ih]
    rfl
  | case4 unit => exact (List.append_nil _).trans (encode16_unit unit)
  | case5 unit rest _ ih =>
    rw [List.flatMap_cons, encode16_unit, ih]
    rfl

/-- A code point beyond `0xFFFF` is a surrogate pair. -/
theorem encode16_wide {point : Nat} (wide : ¬ point < 0x10000) (bound : point < 0x110000) :
    ∃ lead trail, encode16 point = [lead, trail] ∧ Lead lead ∧ Trail trail ∧
      0x400 * (lead.toNat - 0xD800) + (trail.toNat - 0xDC00) + 0x10000 = point := by
  have highBound : 0xD800 + (point - 0x10000) / 0x400 < 0x10000 := by omega
  have lowBound : 0xDC00 + (point - 0x10000) % 0x400 < 0x10000 := by omega
  have high := UInt16.toNat_ofNat_of_lt' highBound
  have low := UInt16.toNat_ofNat_of_lt' lowBound
  refine ⟨_, _, if_neg wide, ?_, ?_, ?_⟩
  · rw [lead_iff, high]
    omega
  · rw [trail_iff, low]
    omega
  · rw [high, low]
    omega

/-- Any other is one unit, which is no surrogate unless the code point is one. -/
theorem encode16_narrow {point : Nat} (narrow : point < 0x10000) :
    ∃ unit, encode16 point = [unit] ∧ unit.toNat = point ∧
      (Scalar point → ¬ Lead unit ∧ ¬ Trail unit) := by
  have same : (UInt16.ofNat point).toNat = point := UInt16.toNat_ofNat_of_lt' narrow
  refine ⟨_, if_pos narrow, same, fun scalar => ⟨?_, ?_⟩⟩
  · rw [lead_iff, same]
    omega
  · rw [trail_iff, same]
    omega

theorem points_pair {unit trail : UInt16} {rest : List UInt16} (lead : Lead unit)
    (second : Trail trail) : points (unit :: trail :: rest) =
      (0x400 * (unit.toNat - 0xD800) + (trail.toNat - 0xDC00) + 0x10000) :: points rest := by
  conv_lhs => unfold points
  rw [if_pos lead]
  simp only [if_pos second]

/-- A code point is found again in its units, also when it is a surrogate. -/
theorem points_encode16 {point : Nat} (bound : point < 0x110000) :
    points (encode16 point) = [point] := by
  by_cases narrow : point < 0x10000
  · obtain ⟨unit, encoded, same, _⟩ := encode16_narrow narrow
    rw [encoded]
    unfold points
    by_cases lead : Lead unit
    · rw [if_pos lead, same]
    · rw [if_neg lead, same]
      rfl
  · obtain ⟨lead, trail, encoded, first, second, joined⟩ := encode16_wide narrow bound
    rw [encoded, points_pair first second, joined]
    rfl

/-- A character is found again in front of any units. -/
theorem points_encode16_append {point : Nat} (scalar : Scalar point) (rest : List UInt16) :
    points (encode16 point ++ rest) = point :: points rest := by
  by_cases narrow : point < 0x10000
  · obtain ⟨unit, encoded, same, plain⟩ := encode16_narrow narrow
    rw [encoded, List.singleton_append]
    conv_lhs => unfold points
    rw [if_neg (plain scalar).1, same]
  · obtain ⟨lead, trail, encoded, first, second, joined⟩ := encode16_wide narrow (by omega)
    rw [encoded, List.cons_append, List.singleton_append, points_pair first second, joined]

theorem points_utf16 (text : List Char) : points (utf16 text) = text.map Char.toNat := by
  unfold utf16
  induction text with
  | nil => rfl
  | cons char text ih =>
    rw [List.flatMap_cons, points_encode16_append (toNat_valid char), ih, List.map_cons]

theorem exists_char {point : Nat} (scalar : Scalar point) : ∃ char : Char, char.toNat = point := by
  have valid : point.isValidChar := scalar
  refine ⟨Char.ofNatAux point valid, ?_⟩
  rfl

theorem wellFormed16_one {unit : UInt16} {rest : List UInt16} (noLead : ¬ Lead unit) :
    WellFormed16 (unit :: rest) ↔ ¬ Trail unit ∧ WellFormed16 rest := by
  conv_lhs => unfold WellFormed16
  rw [if_neg noLead]

theorem wellFormed16_pair {unit trail : UInt16} {rest : List UInt16} (lead : Lead unit) :
    WellFormed16 (unit :: trail :: rest) ↔ Trail trail ∧ WellFormed16 rest := by
  conv_lhs => unfold WellFormed16
  rw [if_pos lead]

theorem wellFormed16_alone {unit : UInt16} (lead : Lead unit) : ¬ WellFormed16 [unit] := by
  unfold WellFormed16
  rw [if_pos lead]
  exact id

theorem not_lead_of_trail {unit : UInt16} (trail : Trail unit) : ¬ Lead unit := by
  rw [trail_iff] at trail
  rw [lead_iff]
  omega

theorem wellFormed16_encode16 {point : Nat} (scalar : Scalar point) (rest : List UInt16) :
    WellFormed16 (encode16 point ++ rest) ↔ WellFormed16 rest := by
  by_cases narrow : point < 0x10000
  · obtain ⟨unit, encoded, _, plain⟩ := encode16_narrow narrow
    obtain ⟨noLead, noTrail⟩ := plain scalar
    rw [encoded, List.singleton_append, wellFormed16_one noLead]
    exact and_iff_right noTrail
  · obtain ⟨lead, trail, encoded, first, second, _⟩ := encode16_wide narrow (by omega)
    rw [encoded, List.cons_append, List.singleton_append, wellFormed16_pair first]
    exact and_iff_right second

theorem wellFormed16_utf16 (text : List Char) : WellFormed16 (utf16 text) := by
  unfold utf16
  induction text with
  | nil => trivial
  | cons char text ih =>
    rw [List.flatMap_cons, wellFormed16_encode16 (toNat_valid char)]
    exact ih

/-- The well-formed UTF-16 strings are those of characters. -/
theorem wellFormed16_iff {units : List UInt16} :
    WellFormed16 units ↔ ∃ text, units = utf16 text := by
  constructor
  · intro formed
    fun_induction WellFormed16 units with
    | case1 => exact ⟨[], rfl⟩
    | case2 unit lead trail after ih =>
      obtain ⟨text, rfl⟩ := ih formed.2
      have pair := encode16_pair lead formed.1
      rw [lead_iff] at lead
      have second := trail_iff.mp formed.1
      obtain ⟨char, same⟩ := @exists_char
        (0x400 * (unit.toNat - 0xD800) + (trail.toNat - 0xDC00) + 0x10000) (by omega)
      refine ⟨char :: text, ?_⟩
      change _ = encode16 char.toNat ++ utf16 text
      rw [same, pair]
      rfl
    | case3 => exact formed.elim
    | case4 unit rest noLead ih =>
      obtain ⟨text, rfl⟩ := ih formed.2
      have noTrail := formed.1
      rw [lead_iff] at noLead
      rw [trail_iff] at noTrail
      have bound : unit.toNat < 0x10000 := unit.toNat_lt
      obtain ⟨char, same⟩ := @exists_char unit.toNat (by omega)
      refine ⟨char :: text, ?_⟩
      change _ = encode16 char.toNat ++ utf16 text
      rw [same, encode16_unit]
      rfl
  · rintro ⟨text, rfl⟩
    exact wellFormed16_utf16 text

end OpenDTP.Unicode
