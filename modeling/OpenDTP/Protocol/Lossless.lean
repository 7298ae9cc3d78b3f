import OpenDTP.Protocol.Formats
import OpenDTP.Protocol.Text

/-! Texts that come in. Their units are arbitrary, and unpaired surrogates are encoded one by one, so
that converting back gives the same units and a payload is written back as it stood. -/

namespace OpenDTP.Protocol
open Common Unicode

/-! ### Arbitrary units -/

/-- The converter encodes the code points that the units stand for. -/
theorem utf16ToUtf8_points (units : List UInt16) :
    utf16ToUtf8 units = (points units).flatMap encode8 := by
  have alone (unit : UInt16) : pushBytes unit.toUInt32 = encode8 unit.toNat := by
    have bound : unit.toNat < 0x10000 := unit.toNat_lt
    have wide := unit_wide bound
    rw [UInt16.ofNat_toNat] at wide
    rw [wide, pushBytes_eq (by omega)]
  fun_induction points units with
  | case1 => rfl
  | case2 unit lead trail after second ih =>
    have high := lead_iff.mp lead
    have low := trail_iff.mp second
    have joined := @pair_joined (unit.toNat - 0xD800) (trail.toNat - 0xDC00) (by omega) (by omega)
    rw [Nat.add_sub_cancel' high.1, Nat.add_sub_cancel' low.1, UInt16.ofNat_toNat,
      UInt16.ofNat_toNat] at joined
    rw [utf16ToUtf8_pair lead second, joined, pushBytes_eq (by omega), ih, List.flatMap_cons]
  | case3 unit lead trail after other ih =>
    conv_lhs => unfold utf16ToUtf8
    rw [if_pos lead]
    simp only [if_neg other]
    rw [alone, ih, List.flatMap_cons]
  | case4 unit lead =>
    unfold utf16ToUtf8
    rw [if_pos lead, List.flatMap_cons, List.flatMap_nil, List.append_nil]
    exact alone unit
  | case5 unit rest ordinary ih =>
    rw [utf16ToUtf8_one ordinary, alone, ih, List.flatMap_cons]

theorem utf8ToUtf16_points {points : List Nat} (bound : ∀ point ∈ points, point < 0x110000) :
    utf8ToUtf16 (points.flatMap encode8) = points.flatMap encode16 := by
  induction points with
  | nil => rfl
  | cons point points ih =>
    rw [List.forall_mem_cons] at bound
    rw [List.flatMap_cons, List.flatMap_cons, utf8ToUtf16_encode8 bound.1, ih bound.2]

/-- Converting any units and converting back loses nothing. -/
theorem utf8ToUtf16_utf16ToUtf8 (units : List UInt16) : utf8ToUtf16 (utf16ToUtf8 units) = units := by
  rw [utf16ToUtf8_points, utf8ToUtf16_points points_lt, encode16_points]

/-! ### Text payloads -/

/-- The units of bytes, two bytes each. -/
def unitsOf : Bytes → List UInt16
  | low :: high :: rest => UInt16.ofNat (littleEndian [low, high]) :: unitsOf rest
  | _ => []

/-- Any bytes of the right number are an integer on the wire. -/
theorem exists_wire (T : Type) [Integral T] [PortableIntegral T] (native : Endian) {bytes : Bytes}
    (length : bytes.length = Integral.size T) : ∃ value : T, wire native value = bytes :=
  ⟨Integral.ofMemory .little bytes,
    (wire_portable native _).trans (PortableIntegral.toMemory_ofMemory bytes length)⟩

theorem littleEndian_wire {T : Type} [Integral T] [NumericIntegral T] (native : Endian) (value : T) :
    littleEndian (wire native value) = NumericIntegral.toNat value := by
  rw [wire_portable]
  exact NumericIntegral.littleEndian_wire value

theorem wire_unitOf (native : Endian) (low high : Byte) :
    wire native (UInt16.ofNat (littleEndian [low, high])) = [low, high] := by
  obtain ⟨unit, written⟩ := exists_wire UInt16 native (rfl : [low, high].length = 2)
  rw [← written, littleEndian_wire]
  exact congrArg (wire native) (UInt16.ofNat_toNat (x := unit))

theorem unitsOf_wire (native : Endian) (unit : UInt16) (rest : Bytes) :
    unitsOf (wire native unit ++ rest) = unit :: unitsOf rest := by
  have size : (wire native unit).length = 2 := length_wire native unit
  have number := littleEndian_wire native unit
  match written : wire native unit, size with
  | [low, high], _ =>
    rw [written] at number
    rw [List.cons_append, List.cons_append, List.nil_append, unitsOf, number]
    exact congrArg (· :: unitsOf rest) (UInt16.ofNat_toNat (x := unit))

/-- The units that were written are found again. -/
theorem unitsOf_wireUnits (native : Endian) (units : List UInt16) :
    unitsOf (wireUnits native units) = units := by
  unfold wireUnits
  induction units with
  | nil => rfl
  | cons unit units ih => rw [List.flatMap_cons, unitsOf_wire, ih]

/-- Bytes in pairs are their units on the wire. -/
theorem wireUnits_unitsOf (native : Endian) {body : Bytes} (even : body.length % 2 = 0) :
    wireUnits native (unitsOf body) = body := by
  fun_induction unitsOf body with
  | case1 low high rest ih =>
    simp only [List.length_cons] at even
    change wire native _ ++ wireUnits native (unitsOf rest) = _
    rw [wire_unitOf, ih (by omega)]
    rfl
  | case2 body other =>
    match body, other with
    | [], _ => rfl
    | [_], _ => cases even
    | low :: high :: rest, other => exact absurd rfl (other low high rest)

/-- The payload of a text message: four zero bytes, any source and destination, an option that says
whether it is for a group, and a counted body of whole units. -/
structure TextPayload where
  source : Bytes
  destination : Bytes
  isGroup : Bool
  count : Bytes
  body : Bytes
  length_source : source.length = 4
  length_destination : destination.length = 4
  length_count : count.length = 2
  counts : littleEndian count = body.length
  even : body.length % 2 = 0

def TextPayload.bytes (payload : TextPayload) : Bytes :=
  [0, 0, 0, 0] ++ (payload.source ++ (payload.destination ++
    ([if payload.isGroup then 128 else 0, 0] ++ (payload.count ++ payload.body))))

section

variable (native : Endian)

theorem wire_zero : wire native (0 : UInt32) = [0, 0, 0, 0] := by
  cases native <;> rfl

theorem wire_optionOf (isGroup : Bool) :
    wire native (optionOf isGroup) = [if isGroup then 128 else 0, 0] := by
  cases native <;> cases isGroup <;> rfl

/-- A payload is what is written for some message, whose text decodes to the units of its body. -/
theorem TextPayload.written (payload : TextPayload) :
    ∃ data : TextMessageData, serializeTextMessage native data = payload.bytes ∧
      data.text = utf16ToUtf8 (unitsOf payload.body) ∧ (unitsOf payload.body).length ≤ 32767 := by
  obtain ⟨source, destination, isGroup, count, body, length_source, length_destination,
    length_count, counts, even⟩ := payload
  obtain ⟨sourceId, rfl⟩ := exists_wire UInt32 native length_source
  obtain ⟨destinationId, rfl⟩ := exists_wire UInt32 native length_destination
  obtain ⟨length, rfl⟩ := exists_wire UInt16 native length_count
  have paired := wireUnits_unitsOf native even
  have doubled : (unitsOf body).length * 2 = body.length := by
    rw [← length_wireUnits native, paired]
  have number : length.toNat = (unitsOf body).length * 2 := by
    rw [doubled, ← counts, littleEndian_wire]
    rfl
  have bound := length.toNat_lt
  refine ⟨⟨sourceId, destinationId, isGroup, utf16ToUtf8 (unitsOf body)⟩, ?_, rfl, ?_⟩
  · rw [serializeTextMessage_eq]
    simp only [utf8ToUtf16_utf16ToUtf8, TextPayload.bytes]
    rw [wire_zero, wire_optionOf, paired, ← number, UInt16.ofNat_toNat]
  · change (unitsOf body).length ≤ 32767
    omega

theorem TextPayload.decoded (payload : TextPayload) :
    ∃ data, deserializeTextMessage native payload.bytes = some data ∧
      serializeTextMessage native data = payload.bytes ∧
      data.text = utf16ToUtf8 (unitsOf payload.body) := by
  obtain ⟨data, written, text, short⟩ := payload.written native
  have units : utf8ToUtf16 data.text = unitsOf payload.body := by
    rw [text, utf8ToUtf16_utf16ToUtf8]
  have read := deserializeTextMessage_serialize native data [] (by rw [units]; exact short)
  rw [List.append_nil, units, ← text, written] at read
  exact ⟨data, read, written, text⟩

/-- Every text payload is accepted and written back as it stood, whatever its units are; so are any
units themselves, and payloads with different units never decode to the same text. -/
theorem decoding_loses_nothing :
    (∀ payload : TextPayload, ∃ data, deserializeTextMessage native payload.bytes = some data ∧
      serializeTextMessage native data = payload.bytes) ∧
    (∀ units, utf8ToUtf16 (utf16ToUtf8 units) = units) ∧
    ∀ first second : TextPayload, ∀ data other,
      deserializeTextMessage native first.bytes = some data →
      deserializeTextMessage native second.bytes = some other → data.text = other.text →
      first.body = second.body := by
  refine ⟨fun payload => ?_, utf8ToUtf16_utf16ToUtf8, ?_⟩
  · obtain ⟨data, read, written, _⟩ := payload.decoded native
    exact ⟨data, read, written⟩
  · intro first second data other readFirst readSecond same
    obtain ⟨_, read, _, text⟩ := first.decoded native
    cases readFirst.symm.trans read
    obtain ⟨_, read, _, otherText⟩ := second.decoded native
    cases readSecond.symm.trans read
    have units : unitsOf first.body = unitsOf second.body := by
      rw [← utf8ToUtf16_utf16ToUtf8 (unitsOf first.body), ← text, same, otherText,
        utf8ToUtf16_utf16ToUtf8]
    calc first.body = wireUnits native (unitsOf first.body) :=
          (wireUnits_unitsOf native first.even).symm
      _ = second.body := by rw [units, wireUnits_unitsOf native second.even]

/-- A unit without its partner, for a group. -/
def loneSurrogate : TextPayload where
  source := [1, 0, 0, 0]
  destination := [91, 0, 0, 0]
  isGroup := true
  count := [2, 0]
  body := [0x00, 0xD8]
  length_source := rfl
  length_destination := rfl
  length_count := rfl
  counts := rfl
  even := rfl

theorem decoding_loses_nothing_loneSurrogate :
    ∃ data, deserializeTextMessage .little loneSurrogate.bytes = some data ∧
      serializeTextMessage .little data = loneSurrogate.bytes ∧ data.text = [0xED, 0xA0, 0x80] := by
  obtain ⟨data, read, written⟩ := (decoding_loses_nothing .little).1 loneSurrogate
  have text : (deserializeTextMessage .little loneSurrogate.bytes).map (·.text) =
      some [0xED, 0xA0, 0x80] := by decide
  rw [read] at text
  exact ⟨data, read, written, Option.some.inj text⟩

/-! ### Texts of any accepted payload -/

/-- The units behind the count of a payload, as many as it counts. -/
def bodyUnits (bytes : Bytes) : List UInt16 :=
  unitsOf ((bytes.drop 16).take (littleEndian ((bytes.drop 14).take 2)))

/-- The loop reads the units of a body; a last byte without a partner is left alone. -/
theorem unitsOf_readUnits {bytes : Bytes} {units : List UInt16} {count offset length : Nat}
    (half : length / 2 = count) (room : offset + length ≤ bytes.length)
    (read : readUnits native bytes count offset = some units) :
    unitsOf ((bytes.drop offset).take length) = units := by
  induction count generalizing offset length units with
  | zero =>
    cases read
    have size : ((bytes.drop offset).take length).length ≤ 1 := by
      rw [List.length_take]
      omega
    match (bytes.drop offset).take length, size with
    | [], _ => rfl
    | [_], _ => rfl
  | succ count ih =>
    simp only [readUnits, Option.bind_eq_bind, Option.bind_eq_some_iff, Prod.exists,
      Option.some.injEq] at read
    obtain ⟨unit, next, front, rest, back, rfl⟩ := read
    obtain ⟨written, rfl, _⟩ := wire_readLE front
    have others := @ih rest (offset + 2) (length - 2) (by omega) (by omega) back
    have parts : (bytes.drop offset).take length =
        wire native unit ++ (bytes.drop (offset + 2)).take (length - 2) := by
      have first : wire native unit = (bytes.drop offset).take 2 := written
      have long : length = 2 + (length - 2) := by omega
      rw [first, ← List.drop_drop, ← List.take_add, ← long]
    rw [parts, unitsOf_wire, others]

theorem text_of_accepted {bytes : Bytes} {data : TextMessageData}
    (accepted : deserializeTextMessage native bytes = some data) :
    data.text = utf16ToUtf8 (bodyUnits bytes) := by
  unfold deserializeTextMessage at accepted
  split at accepted
  · cases accepted
  · simp only [Option.bind_eq_bind, Option.bind_eq_some_iff, Prod.exists] at accepted
    obtain ⟨_, _, readReserved, _, _, readSource, _, _, readDestination, _, _, readOption, length,
      _, readLength, accepted⟩ := accepted
    split at accepted
    · cases accepted
    · next enough =>
      simp only [Option.bind_eq_some_iff, Option.some.injEq] at accepted
      obtain ⟨units, read, rfl⟩ := accepted
      obtain ⟨_, rfl, _⟩ := wire_readLE readReserved
      obtain ⟨_, rfl, _⟩ := wire_readLE readSource
      obtain ⟨_, rfl, _⟩ := wire_readLE readDestination
      obtain ⟨_, rfl, _⟩ := wire_readLE readOption
      obtain ⟨written, rfl, _⟩ := wire_readLE readLength
      have number : littleEndian ((bytes.drop 14).take 2) = length.toNat :=
        (congrArg littleEndian written.symm).trans (littleEndian_wire native length)
      have room : 16 + length.toNat ≤ bytes.length := Nat.le_of_not_lt enough
      have found := unitsOf_readUnits native rfl room read
      unfold bodyUnits
      rw [number, found]

/-- The text that an accepted payload is decoded to is well-formed UTF-8 exactly if the units of the
payload are well-formed UTF-16. -/
theorem text_wellFormed_iff {bytes : Bytes} {data : TextMessageData}
    (accepted : deserializeTextMessage native bytes = some data) :
    (∃ text, data.text = utf8 text) ↔ WellFormed16 (bodyUnits bytes) := by
  rw [text_of_accepted native accepted, wellFormed16_iff]
  constructor
  · rintro ⟨text, same⟩
    exact ⟨text, by rw [← utf8ToUtf16_utf16ToUtf8 (bodyUnits bytes), same, utf8ToUtf16_text]⟩
  · rintro ⟨text, same⟩
    exact ⟨text, by rw [same, utf16ToUtf8_utf16]⟩

end

end OpenDTP.Protocol
