import OpenDTP.Client.Methods
import OpenDTP.Protocol.Surrogates

/-! What the length fields say, and what a received text is. The counts are narrowed to 16 bits
without a check, and the units of a received text are passed on whatever they are. -/

namespace OpenDTP.Client
open Common Protocol Effects Program Unicode

variable (native : Endian)

/-! ### Length fields -/

/-- Every datagram that a program hands to the socket. -/
def Posts (claim : Bytes → Prop) : (β : Type) → Op β → Prop
  | _, .sendTo packet _ => claim packet
  | _, _ => True

/-- A count that is narrowed to sixteen bits is exact as long as it fits. -/
theorem narrowed_iff {count : Nat} : (UInt16.ofNat count).toNat = count ↔ count ≤ 65535 := by
  rw [UInt16.toNat_ofNat']
  constructor
  · intro same
    have bound := Nat.mod_lt count (by decide : 0 < 2 ^ 16)
    omega
  · intro fits
    exact Nat.mod_eq_of_lt (by omega)

theorem textMessage_count (data : TextMessageData) :
    field 2 14 (serializeTextMessage native data) =
      some (UInt16.ofNat (unitCount data.text * 2)).toNat := by
  have layout : (serializeTextMessage native data).drop 14 =
      wire native (UInt16.ofNat (unitCount data.text * 2)) ++
        wireUnits native (utf8ToUtf16 data.text) := by
    have length {T : Type} [Integral T] [LawfulIntegral T] (value : T) := length_wire native value
    rw [serializeTextMessage_eq, ← length_utf8ToUtf16]
    simp only [← List.append_assoc]
    rw [List.append_assoc]
    apply List.drop_left'
    simp only [List.length_append, length]
    rfl
  exact field_of_front layout

theorem locationReport_count (data : LocationReport) :
    field 2 8 (serializeLocationReport native data) =
      some (UInt16.ofNat (data.nmea.length + 1)).toNat := by
  have layout : (serializeLocationReport native data).drop 8 =
      wire native (UInt16.ofNat (data.nmea.length + 1)) ++ (data.nmea ++ [0]) := by
    have length {T : Type} [Integral T] [LawfulIntegral T] (value : T) := length_wire native value
    rw [serializeLocationReport_eq, ← List.append_assoc]
    apply List.drop_left'
    simp only [List.length_append, length]
    rfl
  exact field_of_front layout

theorem header_count (header : Header) (payload : Bytes) :
    field 2 16 (serializeHeader native header ++ payload) = some header.length.toNat := by
  have read := deserializeHeader_serializeHeader native header payload
  exact ((decodes_header native).describes _ _ read).2.2.2

/-- A datagram states the length of its payload as long as that fits into sixteen bits. -/
theorem packet_count_iff (type : MessageType) (flag : UInt16) (number : UInt32) (payload : Bytes) :
    field 2 16 (serializeHeader native ⟨type, flag, number, UInt16.ofNat payload.length⟩ ++ payload) =
        some ((serializeHeader native ⟨type, flag, number, UInt16.ofNat payload.length⟩ ++
          payload).length - 18) ↔ payload.length ≤ 65535 := by
  rw [header_count, List.length_append, length_serializeHeader, Nat.add_sub_cancel_left,
    Option.some_inj, narrowed_iff]

/-- A length field says how many bytes follow exactly if they are fewer than 65536: a text has at most
32767 units, a sentence at most 65534 bytes, a payload at most 65535. -/
theorem length_fields_exact_iff :
    (∀ data : TextMessageData, field 2 14 (serializeTextMessage native data) =
      some ((serializeTextMessage native data).length - 16) ↔ unitCount data.text ≤ 32767) ∧
    (∀ data : Common.LocationReport, field 2 8 (serializeLocationReport native data) =
      some ((serializeLocationReport native data).length - 10) ↔ data.nmea.length ≤ 65534) ∧
    ∀ type flag payload, (transmitRaw native type flag payload).Issues
      (Posts fun packet => field 2 16 packet = some (packet.length - 18) ↔
        payload.length ≤ 65535) := by
  refine ⟨fun data => ?_, fun data => ?_, fun type flag payload => ?_⟩
  · rw [textMessage_count, length_serializeTextMessage, length_utf8ToUtf16,
      Nat.add_sub_cancel_left, Option.some_inj, narrowed_iff]
    omega
  · have rest : 11 + data.nmea.length - 10 = data.nmea.length + 1 := by omega
    rw [locationReport_count, length_serializeLocationReport, rest, Option.some_inj, narrowed_iff]
    omega
  · simp [Issues, transmitRaw, locked, report, invoke, wp_ite, issuing, Posts]
    intro number _
    simpa using packet_count_iff native type flag number payload

/-- A sentence of 65535 bytes: 65536 bytes follow, and the length field says 0. -/
theorem sentence_length_lost :
    field 2 8 (serializeLocationReport .little ⟨0, List.replicate 65535 0x24⟩) = some 0 ∧
      (serializeLocationReport .little ⟨0, List.replicate 65535 0x24⟩).length - 10 = 65536 ∧
      field 2 8 (serializeLocationReport .little ⟨0, List.replicate 65535 0x24⟩) ≠
        some ((serializeLocationReport .little ⟨0, List.replicate 65535 0x24⟩).length - 10) := by
  have count := locationReport_count .little ⟨0, List.replicate 65535 0x24⟩
  have length := length_serializeLocationReport .little ⟨0, List.replicate 65535 0x24⟩
  simp only [List.length_replicate] at count length
  rw [count, length]
  decide

/-! ### Received texts -/

/-- The text of an accepted payload, which is what the dispatcher hands to `onTextMessage`, is
well-formed UTF-8 exactly if the units of the payload are well-formed UTF-16. -/
theorem received_text_iff {payload : Bytes} {data : TextMessageData}
    (accepted : deserializeTextMessage native payload = some data) :
    (∀ number, deliver native .messageText number payload =
      some (.onTextMessage ⟨data.sourceId, data.destinationId, data.isGroup, data.text⟩)) ∧
    ((∃ text, data.text = utf8 text) ↔ WellFormed16 (bodyUnits payload)) := by
  refine ⟨fun number => ?_, text_wellFormed_iff native accepted⟩
  change (deserializeTextMessage native payload).map _ = _
  rw [accepted]
  rfl

/-- A payload of one unit. -/
def payloadOf (low high : Byte) : Bytes :=
  [0, 0, 0, 0] ++ [135, 214, 18, 0] ++ [91, 0, 0, 0] ++ [128, 0] ++ [2, 0] ++ [low, high]

theorem received_text_iff_letter :
    (∀ number, deliver .little .messageText number (payloadOf 0xBB 0x03) =
      some (.onTextMessage ⟨1234567, 91, true, [0xCE, 0xBB]⟩)) ∧
    ((∃ text, ([0xCE, 0xBB] : Bytes) = utf8 text) ↔
      WellFormed16 (bodyUnits (payloadOf 0xBB 0x03))) :=
  @received_text_iff .little (payloadOf 0xBB 0x03) ⟨1234567, 91, true, [0xCE, 0xBB]⟩
    (by decide +kernel)

/-- The unit U+D800 alone is accepted, and three bytes are passed on that are no UTF-8. -/
theorem lone_surrogate_received :
    deserializeTextMessage .little (payloadOf 0x00 0xD8) =
        some ⟨1234567, 91, true, [0xED, 0xA0, 0x80]⟩ ∧
      ¬ ∃ text, ([0xED, 0xA0, 0x80] : Bytes) = utf8 text := by
  refine ⟨by decide +kernel, ?_⟩
  rintro ⟨text, same⟩
  have units : utf8ToUtf16 [0xED, 0xA0, 0x80] = [0xD800] := by decide
  rw [same, utf8ToUtf16_text] at units
  have formed := wellFormed16_utf16 text
  rw [units] at formed
  exact wellFormed16_alone (by decide) formed

end OpenDTP.Client
