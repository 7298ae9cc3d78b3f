import OpenDTP.Protocol.Wire
import OpenDTP.Unicode

/-! The converters between UTF-8 and UTF-16, one code point at a time, and the round trips of the
messages that carry a text. -/

namespace OpenDTP.Protocol
open Common Unicode

/-! ### Decoding UTF-8 -/

/-- A lead byte is recognized, and its payload bits are what it was made from. -/
theorem lead_two : ∀ k < 0x20, ¬ UInt8.ofNat (0xC0 + k) < 0x80 ∧
    UInt8.ofNat (0xC0 + k) &&& 0xE0 = 0xC0 ∧
    (UInt8.ofNat (0xC0 + k) &&& 0x1F).toUInt32 = UInt32.ofNat k := by decide

theorem lead_three : ∀ k < 0x10, ¬ UInt8.ofNat (0xE0 + k) < 0x80 ∧
    ¬ UInt8.ofNat (0xE0 + k) &&& 0xE0 = 0xC0 ∧ UInt8.ofNat (0xE0 + k) &&& 0xF0 = 0xE0 ∧
    (UInt8.ofNat (0xE0 + k) &&& 0x0F).toUInt32 = UInt32.ofNat k := by decide

theorem lead_four : ∀ k < 0x08, ¬ UInt8.ofNat (0xF0 + k) < 0x80 ∧
    ¬ UInt8.ofNat (0xF0 + k) &&& 0xE0 = 0xC0 ∧ ¬ UInt8.ofNat (0xF0 + k) &&& 0xF0 = 0xE0 ∧
    UInt8.ofNat (0xF0 + k) &&& 0xF8 = 0xF0 ∧
    (UInt8.ofNat (0xF0 + k) &&& 0x07).toUInt32 = UInt32.ofNat k := by decide

theorem trail_bits : ∀ k < 0x40, (UInt8.ofNat (0x80 + k) &&& 0x3F).toUInt32 = UInt32.ofNat k := by
  decide

theorem toNat_ofNat {n : Nat} (bound : n < 2 ^ 32) : (UInt32.ofNat n).toNat = n :=
  UInt32.toNat_ofNat_of_lt' bound

theorem continued_eq {point k : Nat} (low : k < 0x40) (bound : point < 0x400000) :
    continued (UInt32.ofNat point) (UInt8.ofNat (0x80 + k)) =
      UInt32.ofNat (0x40 * point + k) := by
  unfold continued
  rw [trail_bits k low]
  apply UInt32.toNat_inj.mp
  rw [UInt32.toNat_or, UInt32.toNat_shiftLeft, toNat_ofNat (by omega), toNat_ofNat (by omega),
    toNat_ofNat (by omega)]
  change (point <<< 6) % 2 ^ 32 ||| k = _
  have shifted : point <<< 6 = 0x40 * point := by rw [Nat.shiftLeft_eq]; omega
  rw [Nat.mod_eq_of_lt (by omega), ← Nat.shiftLeft_add_eq_or_of_lt (by omega), shifted]

theorem ofNat_lt {n bound : Nat} (small : n < 2 ^ 32) (limit : bound < 2 ^ 32) :
    UInt32.ofNat n < UInt32.ofNat bound ↔ n < bound := by
  rw [UInt32.lt_iff_toNat_lt, toNat_ofNat small, toNat_ofNat limit]

theorem shiftRight_ofNat {n : Nat} (small : n < 2 ^ 32) (k : Nat) (amount : k < 32) :
    UInt32.ofNat n >>> UInt32.ofNat k = UInt32.ofNat (n / 2 ^ k) := by
  apply UInt32.toNat_inj.mp
  have quotient := Nat.div_le_self n (2 ^ k)
  rw [UInt32.toNat_shiftRight, toNat_ofNat small, toNat_ofNat (by omega), toNat_ofNat (by omega),
    Nat.mod_eq_of_lt amount, Nat.shiftRight_eq_div_pow]

theorem and_ofNat {n : Nat} (small : n < 2 ^ 32) (k : Nat) (amount : k < 32) :
    UInt32.ofNat n &&& UInt32.ofNat (2 ^ k - 1) = UInt32.ofNat (n % 2 ^ k) := by
  apply UInt32.toNat_inj.mp
  have power : 2 ^ k < 2 ^ 32 := Nat.pow_lt_pow_right (by decide) amount
  have rest := Nat.mod_le n (2 ^ k)
  rw [UInt32.toNat_and, toNat_ofNat small, toNat_ofNat (by omega), toNat_ofNat (by omega),
    Nat.and_two_pow_sub_one_eq_mod]

theorem toUInt16_ofNat {n : Nat} (small : n < 0x10000) :
    (UInt32.ofNat n).toUInt16 = UInt16.ofNat n := by
  apply UInt16.toNat_inj.mp
  rw [UInt32.toNat_toUInt16, toNat_ofNat (by omega), UInt16.toNat_ofNat']

theorem toUInt8_ofNat {n : Nat} (small : n < 0x100) : (UInt32.ofNat n).toUInt8 = UInt8.ofNat n := by
  apply UInt8.toNat_inj.mp
  rw [UInt32.toNat_toUInt8, toNat_ofNat (by omega), UInt8.toNat_ofNat']

theorem pushUnits_eq {point : Nat} (bound : point < 0x110000) :
    pushUnits (UInt32.ofNat point) = encode16 point := by
  unfold pushUnits encode16
  by_cases small : point < 0x10000
  · have narrow : UInt32.ofNat point < 0x10000 := (ofNat_lt (by omega) (by decide)).mpr small
    rw [if_pos narrow, if_pos small, toUInt16_ofNat small]
  · have wide : ¬ UInt32.ofNat point < 0x10000 :=
      fun less => small ((ofNat_lt (by omega) (by decide)).mp less)
    have inside : UInt32.ofNat point ≤ 0x10FFFF := by
      rw [UInt32.le_iff_toNat_le, toNat_ofNat (by omega)]
      change point ≤ 0x10FFFF
      omega
    have offset : UInt32.ofNat point - 0x10000 = UInt32.ofNat (point - 0x10000) := by
      rw [UInt32.ofNat_sub (by omega)]
      rfl
    rw [if_neg wide, if_pos inside, if_neg small, offset]
    have high := shiftRight_ofNat (by omega : point - 0x10000 < 2 ^ 32) 10 (by decide)
    have low := and_ofNat (by omega : point - 0x10000 < 2 ^ 32) 10 (by decide)
    change UInt32.ofNat (point - 0x10000) >>> 10 = _ at high
    change UInt32.ofNat (point - 0x10000) &&& 0x3FF = _ at low
    have lead : UInt32.ofNat ((point - 0x10000) / 2 ^ 10) + 0xD800 =
        UInt32.ofNat (0xD800 + (point - 0x10000) / 0x400) := by
      rw [Nat.add_comm, UInt32.ofNat_add]
      rfl
    have trail : UInt32.ofNat ((point - 0x10000) % 2 ^ 10) + 0xDC00 =
        UInt32.ofNat (0xDC00 + (point - 0x10000) % 0x400) := by
      rw [Nat.add_comm, UInt32.ofNat_add]
      rfl
    rw [high, low, lead, trail, toUInt16_ofNat (by omega), toUInt16_ofNat (by omega)]

theorem single_byte {point : Nat} (bound : point < 0x80) : UInt8.ofNat point < 0x80 := by
  rw [UInt8.lt_iff_toNat_lt, UInt8.toNat_ofNat', Nat.mod_eq_of_lt (by omega)]
  exact bound

/-! The branches of the converter, one for each kind of lead byte. -/

section

variable {c b₁ b₂ b₃ : Byte} {rest : Bytes}

theorem utf8ToUtf16_one (one : c < 0x80) :
    utf8ToUtf16 (c :: rest) = pushUnits c.toUInt32 ++ utf8ToUtf16 rest := by
  conv_lhs => unfold utf8ToUtf16
  rw [if_pos one]

theorem utf8ToUtf16_two (wide : ¬ c < 0x80) (lead : c &&& 0xE0 = 0xC0) :
    utf8ToUtf16 (c :: b₁ :: rest) =
      pushUnits (continued (c &&& 0x1F).toUInt32 b₁) ++ utf8ToUtf16 rest := by
  conv_lhs => unfold utf8ToUtf16
  rw [if_neg wide, if_pos lead]

theorem utf8ToUtf16_three (wide : ¬ c < 0x80) (other : ¬ c &&& 0xE0 = 0xC0)
    (lead : c &&& 0xF0 = 0xE0) :
    utf8ToUtf16 (c :: b₁ :: b₂ :: rest) =
      pushUnits (continued (continued (c &&& 0x0F).toUInt32 b₁) b₂) ++ utf8ToUtf16 rest := by
  conv_lhs => unfold utf8ToUtf16
  rw [if_neg wide, if_neg other, if_pos lead]

theorem utf8ToUtf16_four (wide : ¬ c < 0x80) (other : ¬ c &&& 0xE0 = 0xC0)
    (another : ¬ c &&& 0xF0 = 0xE0) (lead : c &&& 0xF8 = 0xF0) :
    utf8ToUtf16 (c :: b₁ :: b₂ :: b₃ :: rest) =
      pushUnits (continued (continued (continued (c &&& 0x07).toUInt32 b₁) b₂) b₃) ++
        utf8ToUtf16 rest := by
  conv_lhs => unfold utf8ToUtf16
  rw [if_neg wide, if_neg other, if_neg another, if_pos lead]

end

/-- The bytes of a code point are decoded to its units, whatever follows. -/
theorem utf8ToUtf16_encode8 {point : Nat} (bound : point < 0x110000) (rest : Bytes) :
    utf8ToUtf16 (encode8 point ++ rest) = encode16 point ++ utf8ToUtf16 rest := by
  unfold encode8
  by_cases one : point < 0x80
  · have same : (UInt8.ofNat point).toUInt32 = UInt32.ofNat point := by
      apply UInt32.toNat_inj.mp
      rw [UInt8.toNat_toUInt32, UInt8.toNat_ofNat', toNat_ofNat (by omega),
        Nat.mod_eq_of_lt (by omega)]
    rw [if_pos one, List.cons_append, List.nil_append, utf8ToUtf16_one (single_byte one), same,
      pushUnits_eq bound]
  · rw [if_neg one]
    by_cases two : point < 0x800
    · obtain ⟨wide, lead, bits⟩ := lead_two (point / 0x40) (by omega)
      rw [if_pos two, List.cons_append, List.cons_append, List.nil_append,
        utf8ToUtf16_two wide lead, bits, continued_eq (by omega) (by omega),
        pushUnits_eq (by omega)]
      congr 2
      omega
    · rw [if_neg two]
      by_cases three : point < 0x10000
      · obtain ⟨wide, other, lead, bits⟩ := lead_three (point / 0x1000) (by omega)
        rw [if_pos three, List.cons_append, List.cons_append, List.cons_append, List.nil_append,
          utf8ToUtf16_three wide other lead, bits, continued_eq (by omega) (by omega),
          continued_eq (by omega) (by omega), pushUnits_eq (by omega)]
        congr 2
        omega
      · obtain ⟨wide, other, another, lead, bits⟩ := lead_four (point / 0x40000) (by omega)
        rw [if_neg three, List.cons_append, List.cons_append, List.cons_append, List.cons_append,
          List.nil_append, utf8ToUtf16_four wide other another lead, bits,
          continued_eq (by omega) (by omega), continued_eq (by omega) (by omega),
          continued_eq (by omega) (by omega), pushUnits_eq (by omega)]
        congr 2
        omega

theorem utf8ToUtf16_utf8 (text : List Char) (rest : Bytes) :
    utf8ToUtf16 (utf8 text ++ rest) = utf16 text ++ utf8ToUtf16 rest := by
  unfold utf8 utf16
  induction text with
  | nil => rfl
  | cons char text ih =>
    have valid := toNat_valid char
    rw [List.flatMap_cons, List.flatMap_cons, List.append_assoc, List.append_assoc,
      utf8EncodeChar_eq, utf8ToUtf16_encode8 (by omega), ih]

theorem utf8ToUtf16_text (text : List Char) : utf8ToUtf16 (utf8 text) = utf16 text := by
  have converted := utf8ToUtf16_utf8 text []
  rw [List.append_nil] at converted
  rw [converted]
  exact List.append_nil _

/-! ### Encoding UTF-8 -/

theorem tag_two : ∀ k < 0x20, (UInt32.ofNat k ||| 0xC0).toUInt8 = UInt8.ofNat (0xC0 + k) := by
  decide

theorem tag_three : ∀ k < 0x10, (UInt32.ofNat k ||| 0xE0).toUInt8 = UInt8.ofNat (0xE0 + k) := by
  decide

theorem tag_four : ∀ k < 0x08, (UInt32.ofNat k ||| 0xF0).toUInt8 = UInt8.ofNat (0xF0 + k) := by
  decide

theorem tag_trail : ∀ k < 0x40, (UInt32.ofNat k ||| 0x80).toUInt8 = UInt8.ofNat (0x80 + k) := by
  decide

/-- A trail byte from six bits of a code point. -/
theorem trail_byte {point : Nat} (bound : point < 0x110000) :
    ((UInt32.ofNat point &&& 0x3F) ||| 0x80).toUInt8 = UInt8.ofNat (0x80 + point % 0x40) := by
  have low := and_ofNat (by omega : point < 2 ^ 32) 6 (by decide)
  change UInt32.ofNat point &&& 0x3F = _ at low
  rw [low]
  exact tag_trail _ (Nat.mod_lt _ (by decide))

theorem pushBytes_eq {point : Nat} (bound : point < 0x110000) :
    pushBytes (UInt32.ofNat point) = encode8 point := by
  have lessOne : UInt32.ofNat point < 0x80 ↔ point < 0x80 := ofNat_lt (by omega) (by decide)
  have lessTwo : UInt32.ofNat point < 0x800 ↔ point < 0x800 := ofNat_lt (by omega) (by decide)
  have lessThree : UInt32.ofNat point < 0x10000 ↔ point < 0x10000 :=
    ofNat_lt (by omega) (by decide)
  have by6 := shiftRight_ofNat (by omega : point < 2 ^ 32) 6 (by decide)
  have by12 := shiftRight_ofNat (by omega : point < 2 ^ 32) 12 (by decide)
  have by18 := shiftRight_ofNat (by omega : point < 2 ^ 32) 18 (by decide)
  change UInt32.ofNat point >>> 6 = UInt32.ofNat (point / 0x40) at by6
  change UInt32.ofNat point >>> 12 = UInt32.ofNat (point / 0x1000) at by12
  change UInt32.ofNat point >>> 18 = UInt32.ofNat (point / 0x40000) at by18
  unfold pushBytes encode8
  by_cases one : point < 0x80
  · rw [if_pos (lessOne.mpr one), if_pos one, toUInt8_ofNat (by omega)]
  · rw [if_neg (fun small => one (lessOne.mp small)), if_neg one]
    by_cases two : point < 0x800
    · rw [if_pos (lessTwo.mpr two), if_pos two, by6, tag_two _ (by omega),
        trail_byte bound]
    · rw [if_neg (fun small => two (lessTwo.mp small)), if_neg two]
      by_cases three : point < 0x10000
      · rw [if_pos (lessThree.mpr three), if_pos three, by12, by6,
          tag_three _ (by omega), trail_byte (by omega), trail_byte bound]
      · rw [if_neg (fun small => three (lessThree.mp small)), if_neg three, by18,
          by12, by6, tag_four _ (by omega), trail_byte (by omega), trail_byte (by omega),
          trail_byte bound]

theorem toNat_unit {n : Nat} (bound : n < 0x10000) : (UInt16.ofNat n).toNat = n :=
  UInt16.toNat_ofNat_of_lt' bound

theorem unit_wide {n : Nat} (bound : n < 0x10000) :
    (UInt16.ofNat n).toUInt32 = UInt32.ofNat n := by
  apply UInt32.toNat_inj.mp
  rw [UInt16.toNat_toUInt32, toNat_unit bound, toNat_ofNat (by omega)]

theorem unit_lead {n : Nat} (bound : n < 0x10000) :
    (0xD800 ≤ UInt16.ofNat n ∧ UInt16.ofNat n ≤ 0xDBFF) ↔ 0xD800 ≤ n ∧ n ≤ 0xDBFF := by
  rw [UInt16.le_iff_toNat_le, UInt16.le_iff_toNat_le, toNat_unit bound]
  exact Iff.rfl

theorem unit_trail {n : Nat} (bound : n < 0x10000) :
    (0xDC00 ≤ UInt16.ofNat n ∧ UInt16.ofNat n ≤ 0xDFFF) ↔ 0xDC00 ≤ n ∧ n ≤ 0xDFFF := by
  rw [UInt16.le_iff_toNat_le, UInt16.le_iff_toNat_le, toNat_unit bound]
  exact Iff.rfl

theorem utf16ToUtf8_one {unit : UInt16} {rest : List UInt16}
    (ordinary : ¬ (0xD800 ≤ unit ∧ unit ≤ 0xDBFF)) :
    utf16ToUtf8 (unit :: rest) = pushBytes unit.toUInt32 ++ utf16ToUtf8 rest := by
  conv_lhs => unfold utf16ToUtf8
  rw [if_neg ordinary]

theorem utf16ToUtf8_pair {unit trail : UInt16} {rest : List UInt16}
    (lead : 0xD800 ≤ unit ∧ unit ≤ 0xDBFF) (second : 0xDC00 ≤ trail ∧ trail ≤ 0xDFFF) :
    utf16ToUtf8 (unit :: trail :: rest) =
      pushBytes (((unit.toUInt32 - 0xD800) <<< 10) + (trail.toUInt32 - 0xDC00) + 0x10000) ++
        utf16ToUtf8 rest := by
  conv_lhs => unfold utf16ToUtf8
  rw [if_pos lead]
  simp only [if_pos second]

/-- A surrogate pair is joined to the code point that it was made from. -/
theorem pair_joined {high low : Nat} (highBound : high < 0x400) (lowBound : low < 0x400) :
    (((UInt16.ofNat (0xD800 + high)).toUInt32 - 0xD800) <<< 10) +
      ((UInt16.ofNat (0xDC00 + low)).toUInt32 - 0xDC00) + 0x10000 =
        UInt32.ofNat (0x400 * high + low + 0x10000) := by
  have first : UInt32.ofNat (0xD800 + high) - 0xD800 = UInt32.ofNat high := by
    rw [Nat.add_comm, UInt32.ofNat_add]
    exact UInt32.add_sub_cancel _ _
  have second : UInt32.ofNat (0xDC00 + low) - 0xDC00 = UInt32.ofNat low := by
    rw [Nat.add_comm, UInt32.ofNat_add]
    exact UInt32.add_sub_cancel _ _
  have shifted : UInt32.ofNat high <<< (10 : UInt32) = UInt32.ofNat (0x400 * high) := by
    have moved := UInt32.ofNat_shiftLeft high 10 (by decide)
    rw [Nat.shiftLeft_eq, Nat.mul_comm] at moved
    exact moved.symm
  rw [unit_wide (by omega), unit_wide (by omega), first, second, shifted, ← UInt32.ofNat_add]
  exact (UInt32.ofNat_add _ _).symm

/-- The units of a character are encoded to its bytes, whatever follows. -/
theorem utf16ToUtf8_encode16 {point : Nat} (bound : point < 0x110000)
    (plain : point < 0xD800 ∨ 0xDFFF < point) (rest : List UInt16) :
    utf16ToUtf8 (encode16 point ++ rest) = encode8 point ++ utf16ToUtf8 rest := by
  unfold encode16
  by_cases small : point < 0x10000
  · have ordinary : ¬ (0xD800 ≤ UInt16.ofNat point ∧ UInt16.ofNat point ≤ 0xDBFF) := by
      intro lead
      have range := (unit_lead small).mp lead
      omega
    rw [if_pos small, List.cons_append, List.nil_append, utf16ToUtf8_one ordinary,
      unit_wide small, pushBytes_eq bound]
  · have highBound : (point - 0x10000) / 0x400 < 0x400 := by omega
    have lowBound : (point - 0x10000) % 0x400 < 0x400 := by omega
    have lead := (unit_lead (by omega : 0xD800 + (point - 0x10000) / 0x400 < 0x10000)).mpr
      (by omega)
    have trail := (unit_trail (by omega : 0xDC00 + (point - 0x10000) % 0x400 < 0x10000)).mpr
      (by omega)
    have whole : 0x400 * ((point - 0x10000) / 0x400) + (point - 0x10000) % 0x400 + 0x10000 =
        point := by omega
    rw [if_neg small, List.cons_append, List.cons_append, List.nil_append,
      utf16ToUtf8_pair lead trail, pair_joined highBound lowBound, whole, pushBytes_eq bound]

theorem utf16ToUtf8_utf16 (text : List Char) : utf16ToUtf8 (utf16 text) = utf8 text := by
  unfold utf8 utf16
  induction text with
  | nil => rfl
  | cons char text ih =>
    have valid := toNat_valid char
    rw [List.flatMap_cons, List.flatMap_cons, utf16ToUtf8_encode16 (by omega) (by omega), ih,
      utf8EncodeChar_eq]

/-! ### Text messages -/

section

variable (native : Endian)

/-- The units of a text as they are written. -/
def wireUnits (units : List UInt16) : Bytes := units.flatMap (wire native)

theorem length_wireUnits (units : List UInt16) :
    (wireUnits native units).length = units.length * 2 := by
  unfold wireUnits
  induction units with
  | nil => rfl
  | cons unit units ih =>
    have size : (wire native unit).length = 2 := length_wire native unit
    rw [List.flatMap_cons, List.length_append, ih, size, List.length_cons]
    omega

theorem foldl_writeLE (units : List UInt16) (buf : Bytes) :
    units.foldl (fun buf unit => writeLE native buf unit) buf = buf ++ wireUnits native units := by
  unfold wireUnits
  induction units generalizing buf with
  | nil => exact (List.append_nil buf).symm
  | cons unit units ih =>
    rw [List.foldl_cons, ih, writeLE_eq, List.flatMap_cons, List.append_assoc]

def optionOf (isGroup : Bool) : UInt16 := if isGroup then 128 else 0

theorem optionOf_eq (isGroup : Bool) : (optionOf isGroup == 128) = isGroup := by
  cases isGroup <;> rfl

/-- The layout of a text message. -/
theorem serializeTextMessage_eq (data : TextMessageData) :
    serializeTextMessage native data =
      wire native (0 : UInt32) ++ (wire native data.sourceId ++ (wire native data.destinationId ++
        (wire native (optionOf data.isGroup) ++
          (wire native (UInt16.ofNat ((utf8ToUtf16 data.text).length * 2)) ++
            wireUnits native (utf8ToUtf16 data.text))))) := by
  unfold serializeTextMessage
  rw [foldl_writeLE]
  simp only [writeLE_eq, List.nil_append, List.append_assoc, optionOf]

theorem length_serializeTextMessage (data : TextMessageData) :
    (serializeTextMessage native data).length = 16 + (utf8ToUtf16 data.text).length * 2 := by
  rw [serializeTextMessage_eq]
  simp only [List.length_append, length_wire, length_wireUnits]
  change 4 + (4 + (4 + (2 + (2 + _)))) = _
  omega

theorem readUnits_wireUnits {bytes rest : Bytes} (units : List UInt16) {offset : Nat}
    (here : bytes.drop offset = wireUnits native units ++ rest) :
    readUnits native bytes units.length offset = some units := by
  induction units generalizing offset with
  | nil => rfl
  | cons unit units ih =>
    have front : bytes.drop offset = wire native unit ++ (wireUnits native units ++ rest) := by
      rw [here, ← List.append_assoc]
      rfl
    obtain ⟨read, after⟩ := readLE_front native (offset + 2) front rfl
    rw [List.length_cons, readUnits, read, Option.bind_eq_bind, Option.bind_some]
    simp only [ih after, Option.bind_eq_bind, Option.bind_some]

/-- A text message is decoded to the fields it was made from, its text converted both ways, as
long as the length field can hold the length of the text. -/
theorem deserializeTextMessage_serialize (data : TextMessageData) (extra : Bytes)
    (fits : (utf8ToUtf16 data.text).length ≤ 32767) :
    deserializeTextMessage native (serializeTextMessage native data ++ extra) =
      some { data with text := utf16ToUtf8 (utf8ToUtf16 data.text) } := by
  have layout : (serializeTextMessage native data ++ extra).drop 0 =
      wire native (0 : UInt32) ++ (wire native data.sourceId ++ (wire native data.destinationId ++
        (wire native (optionOf data.isGroup) ++
          (wire native (UInt16.ofNat ((utf8ToUtf16 data.text).length * 2)) ++
            (wireUnits native (utf8ToUtf16 data.text) ++ extra))))) := by
    rw [List.drop_zero, serializeTextMessage_eq]
    simp only [List.append_assoc]
  have total : (serializeTextMessage native data ++ extra).length =
      16 + (utf8ToUtf16 data.text).length * 2 + extra.length := by
    rw [List.length_append, length_serializeTextMessage]
  obtain ⟨zero, afterZero⟩ := readLE_front native 4 layout rfl
  obtain ⟨source, afterSource⟩ := readLE_front native 8 afterZero rfl
  obtain ⟨destination, afterDestination⟩ := readLE_front native 12 afterSource rfl
  obtain ⟨option, afterOption⟩ := readLE_front native 14 afterDestination rfl
  obtain ⟨length, afterLength⟩ := readLE_front native 16 afterOption rfl
  have exactly : (UInt16.ofNat ((utf8ToUtf16 data.text).length * 2)).toNat =
      (utf8ToUtf16 data.text).length * 2 := toNat_unit (by omega)
  have count : (utf8ToUtf16 data.text).length * 2 / 2 = (utf8ToUtf16 data.text).length := by omega
  unfold deserializeTextMessage
  rw [if_neg (by rw [total]; omega)]
  simp only [zero, source, destination, option, length, Option.bind_eq_bind, Option.bind_some]
  rw [exactly, if_neg (by rw [total]; omega), count,
    readUnits_wireUnits native (utf8ToUtf16 data.text) afterLength, Option.bind_some, optionOf_eq]

theorem deserializeTextMessage_utf8 (data : TextMessageData) (text : List Char)
    (wellFormed : data.text = utf8 text) (fits : (utf16 text).length ≤ 32767) (extra : Bytes) :
    deserializeTextMessage native (serializeTextMessage native data ++ extra) = some data := by
  have units : utf8ToUtf16 data.text = utf16 text := by
    rw [wellFormed]
    exact utf8ToUtf16_text text
  rw [deserializeTextMessage_serialize native data extra (by rw [units]; exact fits), units,
    utf16ToUtf8_utf16, ← wellFormed]

/-- Well-formed text arrives as it was sent, whatever follows the message. -/
theorem textMessage_roundTrip (data : TextMessageData) (text : List Char)
    (wellFormed : data.text = utf8 text) (fits : (utf16 text).length ≤ 32767) (extra : Bytes) :
    deserializeTextMessage native (serializeTextMessage native data ++ extra) = some data :=
  deserializeTextMessage_utf8 native data text wellFormed fits extra

/-- A group message of U+0000, a letter, a Greek letter, a kanji and an emoji, on a little-endian host. -/
theorem textMessage_roundTrip_emoji :
    deserializeTextMessage .little (serializeTextMessage .little
      ⟨1234567, 91, true, utf8 ['\x00', 'a', 'λ', '漢', '😀']⟩ ++ [7]) =
        some ⟨1234567, 91, true, utf8 ['\x00', 'a', 'λ', '漢', '😀']⟩ :=
  textMessage_roundTrip .little _ ['\x00', 'a', 'λ', '漢', '😀'] rfl (by decide) [7]

/-! ### Location reports -/

/-- The layout of a location report; its sentence is followed by a NUL. -/
theorem serializeLocationReport_eq (data : LocationReport) :
    serializeLocationReport native data =
      wire native (0 : UInt32) ++ (wire native data.format ++
        (wire native (UInt16.ofNat (data.nmea.length + 1)) ++ (data.nmea ++ [0]))) := by
  unfold serializeLocationReport writeBytes
  simp only [writeLE_eq, List.nil_append, List.append_assoc]

theorem length_serializeLocationReport (data : LocationReport) :
    (serializeLocationReport native data).length = 11 + data.nmea.length := by
  rw [serializeLocationReport_eq]
  simp only [List.length_append, length_wire]
  change 4 + (4 + (2 + (data.nmea.length + 1))) = _
  omega

theorem untilNul_append (text rest : Bytes) : untilNul (text ++ 0 :: rest) = untilNul text := by
  unfold untilNul
  induction text with
  | nil => rfl
  | cons byte text ih =>
    rw [List.cons_append, List.takeWhile_cons, List.takeWhile_cons, ih]

theorem untilNul_free {text : Bytes} (free : 0 ∉ text) : untilNul text = text :=
  List.takeWhile_eq_self_iff.mpr fun _ member => decide_eq_true fun zero => free (zero ▸ member)

/-- A sentence that fits its length field is read back up to its first NUL, whatever follows. -/
theorem deserializeLocationReport_untilNul (data : LocationReport)
    (fits : data.nmea.length + 1 < 0x10000) (extra : Bytes) :
    deserializeLocationReport native (serializeLocationReport native data ++ extra) =
      some { data with nmea := untilNul data.nmea } := by
  have layout : (serializeLocationReport native data ++ extra).drop 0 =
      wire native (0 : UInt32) ++ (wire native data.format ++
        (wire native (UInt16.ofNat (data.nmea.length + 1)) ++ ((data.nmea ++ [0]) ++ extra))) := by
    rw [List.drop_zero, serializeLocationReport_eq]
    simp only [List.append_assoc]
  have total : (serializeLocationReport native data ++ extra).length =
      11 + data.nmea.length + extra.length := by
    rw [List.length_append, length_serializeLocationReport]
  obtain ⟨zero, afterZero⟩ := readLE_front native 4 layout rfl
  obtain ⟨format, afterFormat⟩ := readLE_front native 8 afterZero rfl
  obtain ⟨length, afterLength⟩ := readLE_front native 10 afterFormat rfl
  have exactly : (UInt16.ofNat (data.nmea.length + 1)).toNat = data.nmea.length + 1 :=
    toNat_unit fits
  have some_ : 0 < UInt16.ofNat (data.nmea.length + 1) := by
    rw [UInt16.lt_iff_toNat_lt, exactly]
    exact Nat.succ_pos _
  have sentence : (data.nmea ++ [0] ++ extra).take (data.nmea.length + 1) = data.nmea ++ [0] := by
    have long : data.nmea.length + 1 = (data.nmea ++ [0]).length := by simp
    rw [long, List.take_left]
  unfold deserializeLocationReport
  rw [if_neg (by rw [total]; omega)]
  simp only [zero, format, length, Option.bind_eq_bind, Option.bind_some]
  rw [exactly, if_neg (by rw [total]; omega), if_pos some_, afterLength, sentence, untilNul_append]

/-- Without NUL all of it is. -/
theorem deserializeLocationReport_serialize (data : LocationReport) (free : 0 ∉ data.nmea)
    (fits : data.nmea.length + 1 < 0x10000) (extra : Bytes) :
    deserializeLocationReport native (serializeLocationReport native data ++ extra) =
      some data := by
  rw [deserializeLocationReport_untilNul native data fits extra, untilNul_free free]

end

end OpenDTP.Protocol
