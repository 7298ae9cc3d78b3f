import OpenDTP.Protocol.Text

/-! Texts that go out need not be well-formed. A lead byte takes as many bytes as it announces,
whatever they are; other bytes from `0x80` on are skipped. -/

namespace OpenDTP.Protocol
open Common Unicode

/-! ### One sequence -/

/-- A byte that the converter takes for the start of a longer sequence. -/
abbrev Leads (x : Byte) : Prop := 0xC0 ≤ x ∧ x < 0xF8

/-- How many bytes a lead byte announces behind itself. -/
def announced (x : Byte) : Nat := if x < 0xE0 then 1 else if x < 0xF0 then 2 else 3

/-- The bits that a lead byte carries. -/
def carried (x : Byte) : Nat :=
  if x < 0xE0 then x.toNat % 0x20 else if x < 0xF0 then x.toNat % 0x10 else x.toNat % 0x08

/-- The number that six bits of each further byte continue. -/
def gathered (value : Nat) (bytes : Bytes) : Nat :=
  bytes.foldl (fun value byte => 0x40 * value + byte.toNat % 0x40) value

/-- The units of a number: none beyond the last code point. -/
def unitsFor (value : Nat) : List UInt16 := if value < 0x110000 then encode16 value else []

theorem pushUnits_unitsFor {value : Nat} (bound : value < 2 ^ 32) :
    pushUnits (UInt32.ofNat value) = unitsFor value := by
  unfold unitsFor
  by_cases inside : value < 0x110000
  · rw [if_pos inside, pushUnits_eq inside]
  · have wide : ¬ UInt32.ofNat value < 0x10000 := by
      intro less
      have small := (ofNat_lt bound (by decide : 0x10000 < 2 ^ 32)).mp less
      omega
    have outside : ¬ UInt32.ofNat value ≤ 0x10FFFF := by
      rw [UInt32.le_iff_toNat_le, toNat_ofNat bound]
      change ¬ value ≤ 0x10FFFF
      omega
    rw [pushUnits, if_neg wide, if_neg outside, if_neg inside]

theorem six_bits : ∀ n < 0x100, UInt8.ofNat n &&& 0x3F = UInt8.ofNat (0x80 + n % 0x40) &&& 0x3F := by
  decide +kernel

theorem continued_any {value : Nat} (byte : Byte) (bound : value < 0x400000) :
    continued (UInt32.ofNat value) byte = UInt32.ofNat (0x40 * value + byte.toNat % 0x40) := by
  have masked := six_bits byte.toNat byte.toNat_lt
  rw [UInt8.ofNat_toNat] at masked
  have same := continued_eq (Nat.mod_lt byte.toNat (by decide : 0 < 0x40)) bound
  rw [← same, continued, continued, masked]

theorem byte_classes : ∀ n < 0x100, (UInt8.ofNat n &&& 0xE0 = 0xC0 ↔ 0xC0 ≤ n ∧ n < 0xE0) ∧
    (UInt8.ofNat n &&& 0xF0 = 0xE0 ↔ 0xE0 ≤ n ∧ n < 0xF0) ∧
    (UInt8.ofNat n &&& 0xF8 = 0xF0 ↔ 0xF0 ≤ n ∧ n < 0xF8) := by
  decide +kernel

theorem lead_bits : ∀ n < 0x100, (UInt8.ofNat n &&& 0x1F).toUInt32 = UInt32.ofNat (n % 0x20) ∧
    (UInt8.ofNat n &&& 0x0F).toUInt32 = UInt32.ofNat (n % 0x10) ∧
    (UInt8.ofNat n &&& 0x07).toUInt32 = UInt32.ofNat (n % 0x08) := by
  decide +kernel

section

variable {x : Byte} {rest : Bytes}

/-- What the masks of the converter tell about a byte. -/
theorem classes (x : Byte) : (x &&& 0xE0 = 0xC0 ↔ 0xC0 ≤ x.toNat ∧ x.toNat < 0xE0) ∧
    (x &&& 0xF0 = 0xE0 ↔ 0xE0 ≤ x.toNat ∧ x.toNat < 0xF0) ∧
    (x &&& 0xF8 = 0xF0 ↔ 0xF0 ≤ x.toNat ∧ x.toNat < 0xF8) := by
  have table := byte_classes x.toNat x.toNat_lt
  rwa [UInt8.ofNat_toNat] at table

theorem bits (x : Byte) : (x &&& 0x1F).toUInt32 = UInt32.ofNat (x.toNat % 0x20) ∧
    (x &&& 0x0F).toUInt32 = UInt32.ofNat (x.toNat % 0x10) ∧
    (x &&& 0x07).toUInt32 = UInt32.ofNat (x.toNat % 0x08) := by
  have table := lead_bits x.toNat x.toNat_lt
  rwa [UInt8.ofNat_toNat] at table

theorem not_ascii (high : 0x80 ≤ x.toNat) : ¬ x < 0x80 := by
  rw [UInt8.lt_iff_toNat_lt]
  exact Nat.not_lt.mpr high

theorem leads_iff : Leads x ↔ 0xC0 ≤ x.toNat ∧ x.toNat < 0xF8 := by
  rw [Leads, UInt8.le_iff_toNat_le, UInt8.lt_iff_toNat_lt]
  exact Iff.rfl

theorem utf8ToUtf16_skip (high : 0x80 ≤ x.toNat) (other : ¬ Leads x) :
    utf8ToUtf16 (x :: rest) = utf8ToUtf16 rest := by
  rw [leads_iff] at other
  obtain ⟨two, three, four⟩ := classes x
  conv_lhs => unfold utf8ToUtf16
  rw [if_neg (not_ascii high), if_neg (by rw [two]; omega), if_neg (by rw [three]; omega),
    if_neg (by rw [four]; omega)]

theorem announced_two (two : x.toNat < 0xE0) : announced x = 1 ∧ carried x = x.toNat % 0x20 := by
  have low : x < 0xE0 := UInt8.lt_iff_toNat_lt.mpr two
  exact ⟨if_pos low, if_pos low⟩

theorem announced_three (two : ¬ x.toNat < 0xE0) (three : x.toNat < 0xF0) :
    announced x = 2 ∧ carried x = x.toNat % 0x10 := by
  have high : ¬ x < 0xE0 := fun low => two (UInt8.lt_iff_toNat_lt.mp low)
  have low : x < 0xF0 := UInt8.lt_iff_toNat_lt.mpr three
  exact ⟨(if_neg high).trans (if_pos low), (if_neg high).trans (if_pos low)⟩

theorem announced_four (three : ¬ x.toNat < 0xF0) :
    announced x = 3 ∧ carried x = x.toNat % 0x08 := by
  have high : ¬ x < 0xF0 := fun low => three (UInt8.lt_iff_toNat_lt.mp low)
  have higher : ¬ x < 0xE0 := fun low =>
    three (Nat.lt_trans (UInt8.lt_iff_toNat_lt.mp low) (by decide : 0xE0 < 0xF0))
  exact ⟨(if_neg higher).trans (if_neg high), (if_neg higher).trans (if_neg high)⟩

/-- A sequence is read with as many bytes as its lead announces. -/
theorem utf8ToUtf16_lead (leads : Leads x) (enough : announced x ≤ rest.length) :
    utf8ToUtf16 (x :: rest) = unitsFor (gathered (carried x) (rest.take (announced x))) ++
      utf8ToUtf16 (rest.drop (announced x)) := by
  rw [leads_iff] at leads
  obtain ⟨two, three, four⟩ := classes x
  obtain ⟨five, quad, triple⟩ := bits x
  have wide := not_ascii (Nat.le_trans (by decide) leads.1)
  by_cases short : x.toNat < 0xE0
  · obtain ⟨count, start⟩ := announced_two short
    rw [count] at enough
    rw [count, start]
    match rest, enough with
    | b₁ :: rest, _ =>
      rw [utf8ToUtf16_two wide (two.mpr ⟨leads.1, short⟩), five, continued_any _ (by omega),
        pushUnits_unitsFor (by omega)]
      rfl
  · by_cases middle : x.toNat < 0xF0
    · obtain ⟨count, start⟩ := announced_three short middle
      rw [count] at enough
      rw [count, start]
      match rest, enough with
      | b₁ :: b₂ :: rest, _ =>
        rw [utf8ToUtf16_three wide (by rw [two]; omega) (three.mpr (by omega)), quad,
          continued_any _ (by omega), continued_any _ (by omega), pushUnits_unitsFor (by omega)]
        rfl
    · obtain ⟨count, start⟩ := announced_four middle
      rw [count] at enough
      rw [count, start]
      match rest, enough with
      | b₁ :: b₂ :: b₃ :: rest, _ =>
        rw [utf8ToUtf16_four wide (by rw [two]; omega) (by rw [three]; omega)
          (four.mpr (by omega)), triple, continued_any _ (by omega), continued_any _ (by omega),
          continued_any _ (by omega), pushUnits_unitsFor (by omega)]
        rfl

/-- Reading stops where the text is too short for what a lead announces. -/
theorem utf8ToUtf16_stop (leads : Leads x) (short : rest.length < announced x) :
    utf8ToUtf16 (x :: rest) = [] := by
  rw [leads_iff] at leads
  obtain ⟨two, three, four⟩ := classes x
  have wide := not_ascii (Nat.le_trans (by decide) leads.1)
  unfold utf8ToUtf16
  rw [if_neg wide]
  by_cases low : x.toNat < 0xE0
  · rw [(announced_two low).1] at short
    rw [if_pos (two.mpr ⟨leads.1, low⟩)]
    rcases rest with _ | ⟨y, rest⟩
    · rfl
    · simp only [List.length_cons] at short
      omega
  · rw [if_neg (by rw [two]; omega)]
    by_cases middle : x.toNat < 0xF0
    · rw [(announced_three low middle).1] at short
      rw [if_pos (three.mpr (by omega))]
      rcases rest with _ | ⟨y, _ | ⟨z, rest⟩⟩
      · rfl
      · rfl
      · simp only [List.length_cons] at short
        omega
    · rw [(announced_four middle).1] at short
      rw [if_neg (by rw [three]; omega), if_pos (four.mpr (by omega))]
      rcases rest with _ | ⟨y, _ | ⟨z, _ | ⟨w, rest⟩⟩⟩
      · rfl
      · rfl
      · rfl
      · simp only [List.length_cons] at short
        omega

end

/-! ### A stray byte -/

/-- Bytes that continue a sequence are skipped where none has begun. -/
theorem utf8ToUtf16_continuing {bytes : Bytes}
    (continuing : ∀ byte ∈ bytes, 0x80 ≤ byte.toNat ∧ byte.toNat < 0xC0) (rest : Bytes) :
    utf8ToUtf16 (bytes ++ rest) = utf8ToUtf16 rest := by
  induction bytes with
  | nil => rfl
  | cons byte bytes ih =>
    rw [List.forall_mem_cons] at continuing
    have other : ¬ Leads byte := by
      rw [leads_iff]
      omega
    rw [List.cons_append, utf8ToUtf16_skip continuing.1.1 other, ih continuing.2]

theorem toNat_byte {n : Nat} (bound : n < 0x100) : (UInt8.ofNat n).toNat = n :=
  UInt8.toNat_ofNat_of_lt' bound

theorem encode8_continuing {point : Nat} :
    ∀ byte ∈ (encode8 point).drop 1, 0x80 ≤ byte.toNat ∧ byte.toNat < 0xC0 := by
  have trail (n : Nat) : 0x80 ≤ (UInt8.ofNat (0x80 + n % 0x40)).toNat ∧
      (UInt8.ofNat (0x80 + n % 0x40)).toNat < 0xC0 := by
    rw [toNat_byte (by omega)]
    omega
  unfold encode8
  split
  · exact fun byte member => absurd member List.not_mem_nil
  · split
    · exact List.forall_mem_singleton.mpr (trail _)
    · split
      · exact List.forall_mem_cons.mpr ⟨trail _, List.forall_mem_singleton.mpr (trail _)⟩
      · exact List.forall_mem_cons.mpr ⟨trail _, List.forall_mem_cons.mpr
          ⟨trail _, List.forall_mem_singleton.mpr (trail _)⟩⟩

/-- Reading that starts inside the bytes of a code point goes on behind them. -/
theorem utf8ToUtf16_inside {point count : Nat} (some_ : 0 < count)
    (inside : count ≤ (encode8 point).length) (rest : Bytes) :
    utf8ToUtf16 ((encode8 point ++ rest).drop count) = utf8ToUtf16 rest := by
  rw [List.drop_append_of_le_length inside]
  apply utf8ToUtf16_continuing
  intro byte member
  have split : (encode8 point).drop count = ((encode8 point).drop 1).drop (count - 1) := by
    rw [List.drop_drop]
    congr 1
    omega
  rw [split] at member
  exact encode8_continuing byte (List.mem_of_mem_drop member)

theorem utf8_cons (char : Char) (text : List Char) :
    utf8 (char :: text) = encode8 char.toNat ++ utf8 text := by
  rw [utf8, List.flatMap_cons, utf8EncodeChar_eq]
  rfl

/-- Reading that starts anywhere in a text goes on at the next character. -/
theorem resumes {text : List Char} {count : Nat} (inside : count ≤ (utf8 text).length) :
    ∃ front back, text = front ++ back ∧ utf8ToUtf16 ((utf8 text).drop count) = utf16 back ∧
      count ≤ (utf8 front).length := by
  induction text generalizing count with
  | nil =>
    have none : count = 0 := Nat.eq_zero_of_le_zero inside
    subst none
    exact ⟨[], [], rfl, rfl, Nat.le_refl 0⟩
  | cons char text ih =>
    rw [utf8_cons] at inside ⊢
    by_cases none : count = 0
    · subst none
      refine ⟨[], char :: text, rfl, ?_, Nat.le_refl 0⟩
      rw [List.drop_zero, ← utf8_cons, utf8ToUtf16_text]
    · by_cases within : count ≤ (encode8 char.toNat).length
      · refine ⟨[char], text, rfl, ?_, ?_⟩
        · rw [utf8ToUtf16_inside (by omega) within, utf8ToUtf16_text]
        · rw [utf8_cons, List.length_append]
          omega
      · rw [List.length_append] at inside
        obtain ⟨front, back, rfl, read, covers⟩ :=
          @ih (count - (encode8 char.toNat).length) (by omega)
        refine ⟨char :: front, back, rfl, ?_, ?_⟩
        · rw [List.drop_append, List.drop_eq_nil_of_le (by omega), List.nil_append, read]
        · rw [utf8_cons, List.length_append]
          omega

theorem points_unitsFor (value : Nat) : points (unitsFor value) = [] ∨
    value < 0x110000 ∧ points (unitsFor value) = [value] := by
  unfold unitsFor
  split
  · next inside => exact .inr ⟨inside, points_encode16 inside⟩
  · exact .inl rfl

theorem announced_pos (x : Byte) : 0 < announced x := by
  unfold announced
  split
  · exact Nat.one_pos
  · split <;> decide

/-- A lead byte in front of a text does no harm only if it and the bytes it takes from the first
character read as that very character. -/
theorem stray_lead_iff {x : Byte} (leads : Leads x) (char : Char) (text : List Char) :
    utf8ToUtf16 (x :: utf8 (char :: text)) = utf8ToUtf16 (utf8 (char :: text)) ↔
      announced x ≤ (encode8 char.toNat).length ∧
        gathered (carried x) ((encode8 char.toNat).take (announced x)) = char.toNat := by
  have valid := toNat_valid char
  have first : points (utf16 (char :: text)) = char.toNat :: text.map Char.toNat :=
    points_utf16 _
  by_cases enough : announced x ≤ (utf8 (char :: text)).length
  · obtain ⟨front, back, parts, read, covers⟩ := resumes enough
    have whole : utf8ToUtf16 (utf8 (char :: text)) = utf16 front ++ utf16 back := by
      rw [utf8ToUtf16_text, parts, utf16, List.flatMap_append]
      rfl
    rw [utf8ToUtf16_lead leads enough, read, whole, List.append_left_inj]
    by_cases within : announced x ≤ (encode8 char.toNat).length
    · have single : utf16 front = encode16 char.toNat := by
        have here := utf8ToUtf16_inside (announced_pos x) within (utf8 text)
        rw [← utf8_cons, read, utf8ToUtf16_text] at here
        have units := congrArg utf16 parts
        rw [utf16, List.flatMap_cons, utf16, List.flatMap_append] at units
        change _ ++ utf16 text = utf16 front ++ utf16 back at units
        rw [here, List.append_left_inj] at units
        exact units.symm
      rw [utf8_cons, List.take_append_of_le_length within, single, and_iff_right within]
      constructor
      · intro same
        have one := points_encode16 (by omega : char.toNat < 0x110000)
        rw [← same] at one
        obtain none | ⟨_, value⟩ := points_unitsFor
          (gathered (carried x) ((encode8 char.toNat).take (announced x)))
        · rw [one] at none
          cases none
        · rw [one] at value
          exact (List.cons.inj value).1.symm
      · intro same
        rw [same, unitsFor, if_pos (by omega)]
    · -- the bytes of two characters at least are taken, and one code point at most is made of them
      refine iff_of_false ?_ fun reads => within reads.1
      intro same
      have several : 2 ≤ (points (utf16 front)).length := by
        rw [points_utf16, List.length_map]
        match front, parts, covers with
        | [], _, covers =>
          have positive := announced_pos x
          change announced x ≤ 0 at covers
          omega
        | [only], parts, covers =>
          cases parts
          rw [utf8_cons, List.length_append] at covers
          exact absurd covers within
        | _ :: _ :: _, _, _ => exact Nat.le_add_left 2 _
      rw [← same] at several
      obtain none | ⟨_, value⟩ := points_unitsFor
        (gathered (carried x) ((utf8 (char :: text)).take (announced x)))
      · rw [none] at several
        cases several
      · rw [value] at several
        exact absurd several (Nat.not_succ_le_self 1)
  · rw [utf8ToUtf16_stop leads (Nat.lt_of_not_le enough), utf8ToUtf16_text]
    refine iff_of_false ?_ ?_
    · intro same
      rw [← same] at first
      cases first
    · intro reads
      rw [utf8_cons, List.length_append] at enough
      omega

/-- A byte from `0x80` on does no harm in front of a text: it is no lead byte; or the text is empty;
or the text starts with a character that the byte only lengthens, a single byte behind `0xC0` or
`0xC1` or two bytes behind `0xE0`; or it starts with that byte itself, and each further byte of the
character carries the low six bits of it. -/
def Harmless (x : Byte) : Bytes → Prop
  | [] => True
  | c :: rest =>
    ¬ Leads x ∨ (c.toNat < 0x80 ∧ x.toNat = 0xC0 + c.toNat / 0x40) ∨
      (x.toNat = 0xE0 ∧ 0xC0 ≤ c.toNat ∧ c.toNat < 0xE0) ∨
      (c = x ∧ ∀ byte ∈ rest.take (announced x), byte.toNat = 0x80 + x.toNat % 0x40)

theorem harmless_cons {x : Byte} (leads : Leads x) {c : Byte} {rest : Bytes} :
    Harmless x (c :: rest) ↔ (c.toNat < 0x80 ∧ x.toNat = 0xC0 + c.toNat / 0x40) ∨
      (x.toNat = 0xE0 ∧ 0xC0 ≤ c.toNat ∧ c.toNat < 0xE0) ∨
      (c = x ∧ ∀ byte ∈ rest.take (announced x), byte.toNat = 0x80 + x.toNat % 0x40) :=
  or_iff_right (not_not.mpr leads)

theorem byte_eq_iff {n : Nat} (bound : n < 0x100) {x : Byte} : UInt8.ofNat n = x ↔ n = x.toNat := by
  rw [← UInt8.toNat_inj, toNat_byte bound]

theorem harmless_other {x : Byte} (leads : Leads x) {n : Nat} (bound : n < 0x100)
    (other : n ≠ x.toNat) {rest : Bytes} :
    Harmless x (UInt8.ofNat n :: rest) ↔ (n < 0x80 ∧ x.toNat = 0xC0 + n / 0x40) ∨
      (x.toNat = 0xE0 ∧ 0xC0 ≤ n ∧ n < 0xE0) := by
  rw [harmless_cons leads, byte_eq_iff bound, toNat_byte bound]
  simp only [other, false_and, or_false]

/-- How many bytes a lead byte takes, and which bits it carries. -/
theorem announces {x : Byte} (leads : Leads x) :
    (0xC0 ≤ x.toNat ∧ x.toNat < 0xE0) ∧ announced x = 1 ∧ carried x = x.toNat - 0xC0 ∨
      (0xE0 ≤ x.toNat ∧ x.toNat < 0xF0) ∧ announced x = 2 ∧ carried x = x.toNat - 0xE0 ∨
      (0xF0 ≤ x.toNat ∧ x.toNat < 0xF8) ∧ announced x = 3 ∧ carried x = x.toNat - 0xF0 := by
  have range := leads_iff.mp leads
  by_cases two : x.toNat < 0xE0
  · obtain ⟨count, start⟩ := announced_two two
    exact .inl ⟨by omega, count, by omega⟩
  · by_cases three : x.toNat < 0xF0
    · obtain ⟨count, start⟩ := announced_three two three
      exact .inr (.inl ⟨by omega, count, by omega⟩)
    · obtain ⟨count, start⟩ := announced_four three
      exact .inr (.inr ⟨by omega, count, by omega⟩)

theorem digits_eq {high low high' low' : Nat} (bound : low < 0x40) (bound' : low' < 0x40) :
    0x40 * high + low = 0x40 * high' + low' ↔ high = high' ∧ low = low' := by
  omega

/-- The bytes of the first character decide. -/
theorem harmless_iff {x : Byte} (leads : Leads x) {point : Nat} (scalar : Scalar point)
    (rest : Bytes) :
    (announced x ≤ (encode8 point).length ∧
        gathered (carried x) ((encode8 point).take (announced x)) = point) ↔
      Harmless x (encode8 point ++ rest) := by
  have trail (n : Nat) : (UInt8.ofNat (0x80 + n % 0x40)).toNat = 0x80 + n % 0x40 :=
    toNat_byte (by omega)
  have low (n : Nat) : (0x80 + n % 0x40) % 0x40 = n % 0x40 := by omega
  unfold encode8
  by_cases one : point < 0x80
  · have first : (UInt8.ofNat point).toNat = point := toNat_byte (by omega)
    rw [if_pos one]
    rcases announces leads with ⟨range, count, start⟩ | ⟨range, count, start⟩ |
      ⟨range, count, start⟩
    all_goals
      rw [List.singleton_append, harmless_other leads (by omega) (by omega), count, start]
      simp only [gathered, List.length_cons, List.length_nil, List.take_succ_cons, List.take_nil,
        List.foldl_cons, List.foldl_nil, first]
      omega
  · rw [if_neg one]
    by_cases two : point < 0x800
    · have first : (UInt8.ofNat (0xC0 + point / 0x40)).toNat = 0xC0 + point / 0x40 :=
        toNat_byte (by omega)
      have top : (0xC0 + point / 0x40) % 0x40 = point / 0x40 := by omega
      rw [if_pos two]
      rcases announces leads with ⟨range, count, start⟩ | ⟨range, count, start⟩ |
        ⟨range, count, start⟩
      · have carries : x.toNat % 0x40 = x.toNat - 0xC0 := by omega
        rw [List.cons_append, harmless_cons leads, byte_eq_iff (by omega), count, start, carries]
        simp only [gathered, List.length_cons, List.length_nil, List.take_succ_cons, List.take_zero,
          List.foldl_cons, List.foldl_nil, List.cons_append, List.forall_mem_singleton, first, trail,
          top]
        omega
      all_goals
        rw [List.cons_append, harmless_other leads (by omega) (by omega), count, start]
        simp only [gathered, List.length_cons, List.length_nil, List.take_succ_cons, List.take_nil,
          List.foldl_cons, List.foldl_nil, first, trail, top, low]
        omega
    · rw [if_neg two]
      by_cases three : point < 0x10000
      · have first : (UInt8.ofNat (0xE0 + point / 0x1000)).toNat = 0xE0 + point / 0x1000 :=
          toNat_byte (by omega)
        have top : (0xE0 + point / 0x1000) % 0x40 = 0x20 + point / 0x1000 := by omega
        rw [if_pos three]
        rcases announces leads with ⟨range, count, start⟩ | ⟨range, count, start⟩ |
          ⟨range, count, start⟩
        · rw [List.cons_append, harmless_other leads (by omega) (by omega), count, start]
          simp only [gathered, List.length_cons, List.length_nil, List.take_succ_cons,
            List.take_zero, List.foldl_cons, List.foldl_nil, first, top]
          omega
        · have carries : x.toNat % 0x40 = 0x20 + (x.toNat - 0xE0) := by omega
          rw [List.cons_append, harmless_cons leads, byte_eq_iff (by omega), count, start, carries]
          simp only [gathered, List.length_cons, List.length_nil, List.take_succ_cons,
            List.take_zero, List.foldl_cons, List.foldl_nil, List.cons_append,
            List.forall_mem_cons, List.not_mem_nil, false_imp_iff, implies_true, and_true, first,
            trail, top, low]
          have split : point = 0x40 * (0x40 * (point / 0x1000) + point / 0x40 % 0x40) +
              point % 0x40 := by omega
          have key : 0x40 * (0x40 * (x.toNat - 0xE0) + (0x20 + point / 0x1000)) +
              point / 0x40 % 0x40 = point ↔ (x.toNat - 0xE0 = point / 0x1000 ∧
                0x20 + point / 0x1000 = point / 0x40 % 0x40) ∧
                  point / 0x40 % 0x40 = point % 0x40 := by
            rw [← digits_eq (by omega) (by omega), ← digits_eq (by omega) (by omega), ← split]
          rw [key]
          omega
        · rw [List.cons_append, harmless_other leads (by omega) (by omega), count, start]
          simp only [gathered, List.length_cons, List.length_nil, List.take_succ_cons,
            List.take_zero, List.foldl_cons, List.foldl_nil, first, trail, top, low]
          omega
      · have first : (UInt8.ofNat (0xF0 + point / 0x40000)).toNat = 0xF0 + point / 0x40000 :=
          toNat_byte (by omega)
        have top : (0xF0 + point / 0x40000) % 0x40 = 0x30 + point / 0x40000 := by omega
        rw [if_neg three]
        rcases announces leads with ⟨range, count, start⟩ | ⟨range, count, start⟩ |
          ⟨range, count, start⟩
        · rw [List.cons_append, harmless_other leads (by omega) (by omega), count, start]
          simp only [gathered, List.length_cons, List.length_nil, List.take_succ_cons,
            List.take_zero, List.foldl_cons, List.foldl_nil, first, top]
          omega
        · rw [List.cons_append, harmless_other leads (by omega) (by omega), count, start]
          simp only [gathered, List.length_cons, List.length_nil, List.take_succ_cons,
            List.take_zero, List.foldl_cons, List.foldl_nil, first, trail, top, low]
          omega
        · have carries : x.toNat % 0x40 = 0x30 + (x.toNat - 0xF0) := by omega
          rw [List.cons_append, harmless_cons leads, byte_eq_iff (by omega), count, start, carries]
          simp only [gathered, List.length_cons, List.length_nil, List.take_succ_cons,
            List.take_zero, List.foldl_cons, List.foldl_nil, List.cons_append,
            List.forall_mem_cons, List.not_mem_nil, false_imp_iff, implies_true, and_true, first,
            trail, top, low]
          have split : point = 0x40 * (0x40 * (0x40 * (point / 0x40000) +
              point / 0x1000 % 0x40) + point / 0x40 % 0x40) + point % 0x40 := by omega
          have key : 0x40 * (0x40 * (0x40 * (x.toNat - 0xF0) + (0x30 + point / 0x40000)) +
              point / 0x1000 % 0x40) + point / 0x40 % 0x40 = point ↔
                ((x.toNat - 0xF0 = point / 0x40000 ∧
                  0x30 + point / 0x40000 = point / 0x1000 % 0x40) ∧
                    point / 0x1000 % 0x40 = point / 0x40 % 0x40) ∧
                      point / 0x40 % 0x40 = point % 0x40 := by
            rw [← digits_eq (by omega) (by omega), ← digits_eq (by omega) (by omega),
              ← digits_eq (by omega) (by omega), ← split]
          rw [key]
          omega

theorem harmless_of_other {x : Byte} (other : ¬ Leads x) (bytes : Bytes) : Harmless x bytes := by
  match bytes with
  | [] => trivial
  | _ :: _ => exact .inl other

/-- A stray byte between two well-formed texts is skipped, and every character of both is converted,
exactly if it is harmless in front of the second one. -/
theorem stray_byte_iff (before after : List Char) (x : Byte) (high : 0x80 ≤ x) :
    utf8ToUtf16 (utf8 before ++ [x] ++ utf8 after) =
        utf8ToUtf16 (utf8 before) ++ utf8ToUtf16 (utf8 after) ↔
      Harmless x (utf8 after) := by
  have above : 0x80 ≤ x.toNat := UInt8.le_iff_toNat_le.mp high
  rw [List.append_assoc, utf8ToUtf16_utf8, utf8ToUtf16_text before, List.append_right_inj,
    List.singleton_append]
  by_cases leads : Leads x
  · match after with
    | [] => exact iff_of_true (utf8ToUtf16_stop leads (announced_pos x)) trivial
    | char :: after =>
      rw [stray_lead_iff leads, utf8_cons]
      exact harmless_iff leads (toNat_valid char) (utf8 after)
  · exact iff_of_true (utf8ToUtf16_skip above leads) (harmless_of_other leads _)

/-- A continuation byte between two letters is skipped. -/
theorem stray_byte_iff_continuation :
    utf8ToUtf16 (utf8 ['a'] ++ [0x80] ++ utf8 ['b']) =
        utf8ToUtf16 (utf8 ['a']) ++ utf8ToUtf16 (utf8 ['b']) ↔
      Harmless 0x80 (utf8 ['b']) :=
  stray_byte_iff ['a'] ['b'] 0x80 (by decide)

/-- A lead byte in front of a letter takes the letter along, and another character comes out. -/
theorem stray_lead_swallows : 0x80 ≤ (0xC3 : Byte) ∧
    utf8ToUtf16 (utf8 ['a'] ++ [0xC3] ++ utf8 ['b']) = [0x61, 0xE2] ∧
    utf8ToUtf16 (utf8 ['a'] ++ [0xC3] ++ utf8 ['b']) ≠
      utf8ToUtf16 (utf8 ['a']) ++ utf8ToUtf16 (utf8 ['b']) := by
  decide

end OpenDTP.Protocol
