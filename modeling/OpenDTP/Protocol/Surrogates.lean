import OpenDTP.Protocol.Lossless
import OpenDTP.Protocol.Malformed

/-! Surrogates in texts that go out. The converter also decodes sequences that encode a surrogate, and
they come out as units without a partner unless the text encodes both halves one behind the other. -/

namespace OpenDTP.Protocol
open Common Unicode

/-! ### What a text encodes -/

/-- What one sequence of a text stands for: a surrogate that opens a pair or closes one, a code point
that is a pair, or any other. -/
inductive Mark where
  | plain
  | lead
  | trail
  | pair
  deriving DecidableEq, Repr

/-- A sequence of three bytes, by its lead byte and the second one. -/
def markThree (x b₁ : Byte) : Mark :=
  if x.toNat = 0xED ∧ b₁.toNat / 0x10 % 0x4 = 2 then .lead
  else if x.toNat = 0xED ∧ b₁.toNat / 0x10 % 0x4 = 3 then .trail
  else .plain

/-- A sequence of four bytes, by its lead byte and the next two: nothing beyond the last code point;
and a code point that had fitted into three bytes may be a surrogate. -/
def markFour (x b₁ b₂ : Byte) : List Mark :=
  if 0xF5 ≤ x.toNat ∨ x.toNat = 0xF4 ∧ 0x10 ≤ b₁.toNat % 0x40 then []
  else if x.toNat = 0xF0 ∧ b₁.toNat % 0x40 < 0x10 then
    if b₁.toNat % 0x40 = 0x0D ∧ b₂.toNat / 0x10 % 0x4 = 2 then [.lead]
    else if b₁.toNat % 0x40 = 0x0D ∧ b₂.toNat / 0x10 % 0x4 = 3 then [.trail]
    else [.plain]
  else [.pair]

/-- The sequences of a text: a lead byte takes the bytes it announces, whatever they are, other bytes
from `0x80` on are skipped, and nothing follows a lead byte that the text is too short for. -/
def marks : Bytes → List Mark
  | [] => []
  | x :: rest =>
    if x.toNat < 0x80 then .plain :: marks rest
    else if x.toNat < 0xC0 ∨ 0xF8 ≤ x.toNat then marks rest
    else if x.toNat < 0xE0 then
      match rest with
      | _ :: rest => .plain :: marks rest
      | _ => []
    else if x.toNat < 0xF0 then
      match rest with
      | b₁ :: _ :: rest => markThree x b₁ :: marks rest
      | _ => []
    else
      match rest with
      | b₁ :: b₂ :: _ :: rest => markFour x b₁ b₂ ++ marks rest
      | _ => []

/-- Every surrogate that opens a pair is directly followed by one that closes it, and there is no other
that closes one. -/
def Balanced : List Mark → Prop
  | [] => True
  | .plain :: rest => Balanced rest
  | .pair :: rest => Balanced rest
  | .trail :: _ => False
  | .lead :: rest =>
    match rest with
    | .trail :: after => Balanced after
    | _ => False

/-! ### The units of the sequences -/

/-- The units come from sequences with these marks. -/
inductive Marked : List UInt16 → List Mark → Prop
  | nil : Marked [] []
  | plain {unit : UInt16} {units : List UInt16} {marks : List Mark} (noLead : ¬ Lead unit)
      (noTrail : ¬ Trail unit) (rest : Marked units marks) : Marked (unit :: units) (.plain :: marks)
  | lead {unit : UInt16} {units : List UInt16} {marks : List Mark} (lead : Lead unit)
      (rest : Marked units marks) : Marked (unit :: units) (.lead :: marks)
  | trail {unit : UInt16} {units : List UInt16} {marks : List Mark} (trail : Trail unit)
      (rest : Marked units marks) : Marked (unit :: units) (.trail :: marks)
  | pair {unit second : UInt16} {units : List UInt16} {marks : List Mark} (lead : Lead unit)
      (trail : Trail second) (rest : Marked units marks) :
      Marked (unit :: second :: units) (.pair :: marks)

/-- The mark of a number. -/
def markOf (value : Nat) : List Mark :=
  if 0x110000 ≤ value then []
  else if 0x10000 ≤ value then [.pair]
  else if 0xDC00 ≤ value ∧ value ≤ 0xDFFF then [.trail]
  else if 0xD800 ≤ value ∧ value ≤ 0xDBFF then [.lead]
  else [.plain]

theorem Marked.unitsFor {units : List UInt16} {marks : List Mark} (rest : Marked units marks)
    (value : Nat) : Marked (unitsFor value ++ units) (markOf value ++ marks) := by
  unfold Protocol.unitsFor markOf
  by_cases outside : 0x110000 ≤ value
  · rw [if_neg (by omega), if_pos outside]
    exact rest
  · rw [if_pos (by omega), if_neg outside]
    by_cases wide : 0x10000 ≤ value
    · obtain ⟨lead, trail, encoded, first, second, _⟩ :=
        encode16_wide (Nat.not_lt.mpr wide) (Nat.lt_of_not_le outside)
      rw [if_pos wide, encoded]
      exact .pair first second rest
    · obtain ⟨unit, encoded, same, _⟩ := encode16_narrow (Nat.lt_of_not_le wide)
      rw [if_neg wide, encoded]
      by_cases closes : 0xDC00 ≤ value ∧ value ≤ 0xDFFF
      · rw [if_pos closes]
        exact .trail (by rw [trail_iff, same]; exact closes) rest
      · rw [if_neg closes]
        by_cases opens : 0xD800 ≤ value ∧ value ≤ 0xDBFF
        · rw [if_pos opens]
          exact .lead (by rw [lead_iff, same]; exact opens) rest
        · rw [if_neg opens]
          exact .plain (by rw [lead_iff, same]; exact opens) (by rw [trail_iff, same]; exact closes)
            rest

/-- The units are well-formed exactly if their marks are balanced. -/
theorem Marked.wellFormed_iff {units : List UInt16} {marks : List Mark} (marked : Marked units marks) :
    WellFormed16 units ↔ Balanced marks := by
  fun_induction Balanced marks generalizing units with
  | case1 =>
    cases marked
    exact iff_of_true trivial trivial
  | case2 rest ih =>
    cases marked with
    | plain noLead noTrail rest => rw [wellFormed16_one noLead, and_iff_right noTrail, ih rest]
  | case3 rest ih =>
    cases marked with
    | pair lead trail rest => rw [wellFormed16_pair lead, and_iff_right trail, ih rest]
  | case4 rest =>
    cases marked with
    | trail trail rest =>
      have noLead : ¬ Lead _ := fun lead => not_lead_of_trail trail lead
      rw [wellFormed16_one noLead]
      exact iff_of_false (fun formed => formed.1 trail) id
  | case5 after ih =>
    cases marked with
    | lead lead rest =>
      cases rest with
      | trail trail rest => rw [wellFormed16_pair lead, and_iff_right trail, ih rest]
  | case6 rest other =>
    cases marked with
    | lead lead rest =>
      refine iff_of_false ?_ id
      cases rest with
      | nil => exact fun formed => wellFormed16_alone lead formed
      | plain noLead noTrail rest =>
        rw [wellFormed16_pair lead]
        exact fun formed => noTrail formed.1
      | lead second rest =>
        rw [wellFormed16_pair lead]
        exact fun formed => not_lead_of_trail formed.1 second
      | trail trail rest => exact absurd rfl (other _)
      | pair second trail rest =>
        rw [wellFormed16_pair lead]
        exact fun formed => not_lead_of_trail formed.1 second

/-! The bytes tell the mark of the number they make. -/

section

variable {x b₁ b₂ b₃ : Byte}

theorem markOf_small {value : Nat} (small : value < 0xD800) : markOf value = [.plain] := by
  unfold markOf
  rw [if_neg (by omega), if_neg (by omega), if_neg (by omega), if_neg (by omega)]

theorem markOf_three (low : 0xE0 ≤ x.toNat) (high : x.toNat < 0xF0) :
    markOf (gathered (x.toNat % 0x10) [b₁, b₂]) = [markThree x b₁] := by
  have second := Nat.mod_lt b₁.toNat (by decide : 0 < 0x40)
  have third := Nat.mod_lt b₂.toNat (by decide : 0 < 0x40)
  change markOf (0x40 * (0x40 * (x.toNat % 0x10) + b₁.toNat % 0x40) + b₂.toNat % 0x40) = _
  unfold markOf markThree
  rw [if_neg (by omega), if_neg (by omega)]
  by_cases closes : x.toNat = 0xED ∧ b₁.toNat / 0x10 % 0x4 = 3
  · rw [if_pos (by omega), if_neg (by omega), if_pos closes]
  · rw [if_neg (by omega), if_neg closes]
    by_cases opens : x.toNat = 0xED ∧ b₁.toNat / 0x10 % 0x4 = 2
    · rw [if_pos (by omega), if_pos opens]
    · rw [if_neg (by omega), if_neg opens]

theorem markOf_four (low : 0xF0 ≤ x.toNat) (high : x.toNat < 0xF8) :
    markOf (gathered (x.toNat % 0x08) [b₁, b₂, b₃]) = markFour x b₁ b₂ := by
  have second := Nat.mod_lt b₁.toNat (by decide : 0 < 0x40)
  have third := Nat.mod_lt b₂.toNat (by decide : 0 < 0x40)
  have fourth := Nat.mod_lt b₃.toNat (by decide : 0 < 0x40)
  change markOf (0x40 * (0x40 * (0x40 * (x.toNat % 0x08) + b₁.toNat % 0x40) + b₂.toNat % 0x40) +
    b₃.toNat % 0x40) = _
  unfold markOf markFour
  by_cases beyond : 0xF5 ≤ x.toNat ∨ x.toNat = 0xF4 ∧ 0x10 ≤ b₁.toNat % 0x40
  · rw [if_pos (by omega), if_pos beyond]
  · rw [if_neg (by omega), if_neg beyond]
    by_cases long : x.toNat = 0xF0 ∧ b₁.toNat % 0x40 < 0x10
    · rw [if_neg (by omega), if_pos long]
      by_cases closes : b₁.toNat % 0x40 = 0x0D ∧ b₂.toNat / 0x10 % 0x4 = 3
      · rw [if_pos (by omega), if_neg (by omega), if_pos closes]
      · rw [if_neg (by omega), if_neg closes]
        by_cases opens : b₁.toNat % 0x40 = 0x0D ∧ b₂.toNat / 0x10 % 0x4 = 2
        · rw [if_pos (by omega), if_pos opens]
        · rw [if_neg (by omega), if_neg opens]
    · rw [if_pos (by omega), if_neg long]

end

/-- What the converter pushes has the marks of the text. -/
theorem marked_text (text : Bytes) : Marked (utf8ToUtf16 text) (marks text) := by
  fun_induction marks text with
  | case1 => exact .nil
  | case2 x rest ascii ih =>
    have one : x < 0x80 := UInt8.lt_iff_toNat_lt.mpr ascii
    have value : x.toUInt32 = UInt32.ofNat x.toNat := by
      apply UInt32.toNat_inj.mp
      rw [UInt8.toNat_toUInt32, toNat_ofNat (by omega)]
    have marked := ih.unitsFor x.toNat
    rw [markOf_small (by omega)] at marked
    rw [utf8ToUtf16_one one, value, pushUnits_unitsFor (by omega)]
    exact marked
  | case3 x rest high other ih =>
    rw [utf8ToUtf16_skip (by omega) (by rw [leads_iff]; omega)]
    exact ih
  | case4 x high other two b₁ rest ih =>
    obtain ⟨count, start⟩ := announced_two two
    have marked := ih.unitsFor (gathered (x.toNat % 0x20) [b₁])
    have small : gathered (x.toNat % 0x20) [b₁] < 0xD800 := by
      change 0x40 * (x.toNat % 0x20) + b₁.toNat % 0x40 < 0xD800
      omega
    rw [markOf_small small] at marked
    rw [utf8ToUtf16_lead (by rw [leads_iff]; omega) (by rw [count]; simp), count, start]
    exact marked
  | case5 x rest high other two bare =>
    have short : rest.length < announced x := by
      rw [(announced_two two).1]
      match rest, bare with
      | [], _ => exact Nat.one_pos
      | _ :: _, bare => exact (bare _ _ rfl).elim
    rw [utf8ToUtf16_stop (by rw [leads_iff]; omega) short]
    exact .nil
  | case6 x high other two three b₁ b₂ rest ih =>
    obtain ⟨count, start⟩ := announced_three two three
    have marked := ih.unitsFor (gathered (x.toNat % 0x10) [b₁, b₂])
    rw [markOf_three (by omega) three] at marked
    rw [utf8ToUtf16_lead (by rw [leads_iff]; omega) (by rw [count]; simp), count, start]
    exact marked
  | case7 x rest high other two three bare =>
    have short : rest.length < announced x := by
      rw [(announced_three two three).1]
      match rest, bare with
      | [], _ => exact Nat.two_pos
      | [_], _ => exact Nat.one_lt_two
      | _ :: _ :: _, bare => exact (bare _ _ _ rfl).elim
    rw [utf8ToUtf16_stop (by rw [leads_iff]; omega) short]
    exact .nil
  | case8 x high other two three b₁ b₂ b₃ rest ih =>
    obtain ⟨count, start⟩ := announced_four three
    have marked := ih.unitsFor (gathered (x.toNat % 0x08) [b₁, b₂, b₃])
    rw [markOf_four (by omega) (by omega)] at marked
    rw [utf8ToUtf16_lead (by rw [leads_iff]; omega) (by rw [count]; simp), count, start]
    exact marked
  | case9 x rest high other two three bare =>
    have short : rest.length < announced x := by
      rw [(announced_four three).1]
      match rest, bare with
      | [], _ => exact Nat.succ_pos 2
      | [_], _ => exact Nat.one_lt_succ_succ 1
      | [_, _], _ => exact Nat.lt_succ_self 2
      | _ :: _ :: _ :: _, bare => exact (bare _ _ _ _ rfl).elim
    rw [utf8ToUtf16_stop (by rw [leads_iff]; omega) short]
    exact .nil

section

variable (native : Endian)

/-- Behind the fixed part of a text message stand the units of its text. -/
theorem units_of_textMessage (data : TextMessageData) :
    (serializeTextMessage native data).drop 16 = wireUnits native (utf8ToUtf16 data.text) := by
  have length {T : Type} [Integral T] [LawfulIntegral T] (value : T) := length_wire native value
  rw [serializeTextMessage_eq]
  simp only [← List.append_assoc]
  apply List.drop_left'
  simp only [List.length_append, length]
  rfl

/-- The units of a text message are well-formed UTF-16 exactly if the surrogates that its text encodes
are balanced. -/
theorem outgoing_wellFormed_iff (data : TextMessageData) :
    WellFormed16 (unitsOf ((serializeTextMessage native data).drop 16)) ↔
      Balanced (marks data.text) := by
  rw [units_of_textMessage, unitsOf_wireUnits]
  exact (marked_text data.text).wellFormed_iff

/-- So they are for every well-formed text. -/
theorem balanced_utf8 (text : List Char) : Balanced (marks (utf8 text)) := by
  rw [← (marked_text (utf8 text)).wellFormed_iff, utf8ToUtf16_text]
  exact wellFormed16_utf16 text

/-- The three bytes that would encode the surrogate U+D800 come out as that unit alone. -/
theorem encoded_surrogate_sent :
    unitsOf ((serializeTextMessage .little ⟨1234567, 91, false, [0xED, 0xA0, 0x80]⟩).drop 16) =
        [0xD800] ∧
      ¬ WellFormed16 (unitsOf
        ((serializeTextMessage .little ⟨1234567, 91, false, [0xED, 0xA0, 0x80]⟩).drop 16)) := by
  have units : unitsOf
      ((serializeTextMessage .little ⟨1234567, 91, false, [0xED, 0xA0, 0x80]⟩).drop 16) =
        [0xD800] := by decide
  refine ⟨units, ?_⟩
  rw [units]
  exact wellFormed16_alone (by decide)

end

/-! ### Counting units -/

/-- How many units come of a sequence. -/
def Mark.units : Mark → Nat
  | .pair => 2
  | _ => 1

/-- How many units come of a text. -/
def unitCount (text : Bytes) : Nat := ((marks text).map Mark.units).sum

theorem Marked.length {units : List UInt16} {marks : List Mark} (marked : Marked units marks) :
    units.length = (marks.map Mark.units).sum := by
  induction marked with
  | nil => rfl
  | plain _ _ _ ih =>
    rw [List.length_cons, ih, List.map_cons, List.sum_cons, Nat.add_comm]
    rfl
  | lead _ _ ih =>
    rw [List.length_cons, ih, List.map_cons, List.sum_cons, Nat.add_comm]
    rfl
  | trail _ _ ih =>
    rw [List.length_cons, ih, List.map_cons, List.sum_cons, Nat.add_comm]
    rfl
  | pair _ _ _ ih =>
    rw [List.length_cons, List.length_cons, ih, List.map_cons, List.sum_cons, Nat.add_assoc,
      Nat.add_comm]
    rfl

theorem length_utf8ToUtf16 (text : Bytes) : (utf8ToUtf16 text).length = unitCount text :=
  (marked_text text).length

end OpenDTP.Protocol
