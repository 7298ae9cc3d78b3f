import OpenDTP.Protocol.Portable

/-! The decoders accept exactly their formats: a size, in two of them a length field, and in one a
sign decide, and no later read fails. The fields are little-endian numbers at fixed offsets. -/

namespace OpenDTP.Protocol
open Common

/-! ### Parts and fields -/

/-- The number that bytes stand for, least significant byte first. -/
def littleEndian : Bytes → Nat
  | [] => 0
  | byte :: rest => byte.toNat + 0x100 * littleEndian rest

/-- The bytes at an offset, unless they run out. -/
def part (size offset : Nat) (bytes : Bytes) : Option Bytes :=
  if offset + size ≤ bytes.length then some ((bytes.drop offset).take size) else none

/-- The little-endian number at an offset, unless the bytes run out. -/
def field (size offset : Nat) (bytes : Bytes) : Option Nat :=
  (part size offset bytes).map littleEndian

/-- An integral type whose bytes on the wire are its number in little-endian order. -/
class NumericIntegral (T : Type) [Integral T] extends LawfulIntegral T, PortableIntegral T where
  toNat : T → Nat
  littleEndian_wire : ∀ value : T, littleEndian (wire .little value) = toNat value

instance : NumericIntegral UInt8 where
  toNat := UInt8.toNat
  littleEndian_wire _ := rfl

instance : NumericIntegral UInt16 where
  toNat := UInt16.toNat
  littleEndian_wire value := by
    have bound := value.toNat_lt
    change value.toUInt8.toNat + 0x100 * ((value >>> 8).toUInt8.toNat + 0x100 * 0) = value.toNat
    rw [UInt16.toNat_toUInt8, UInt16.toNat_toUInt8, UInt16.toNat_shiftRight, Nat.shiftRight_eq_div_pow]
    change value.toNat % 0x100 + 0x100 * (value.toNat / 0x100 % 0x100 + 0) = value.toNat
    omega

instance : NumericIntegral UInt32 where
  toNat := UInt32.toNat
  littleEndian_wire value := by
    have bound := value.toNat_lt
    change value.toUInt8.toNat + 0x100 * ((value >>> 8).toUInt8.toNat +
      0x100 * ((value >>> 16).toUInt8.toNat +
        0x100 * ((value >>> 24).toUInt8.toNat + 0x100 * 0))) = value.toNat
    simp only [UInt32.toNat_toUInt8, UInt32.toNat_shiftRight, Nat.shiftRight_eq_div_pow]
    change value.toNat % 0x100 + 0x100 * (value.toNat / 0x100 % 0x100 +
      0x100 * (value.toNat / 0x10000 % 0x100 +
        0x100 * (value.toNat / 0x1000000 % 0x100 + 0))) = value.toNat
    omega

section

variable {T : Type} [Integral T] {native : Endian} {bytes : Bytes} {offset next : Nat}

/-- What is read is the field, and the offset moves behind it. -/
theorem field_of_readLE [NumericIntegral T] {value : T}
    (read : readLE T native bytes offset = some (value, next)) :
    field (Integral.size T) offset bytes = some (NumericIntegral.toNat value) ∧
      next = offset + Integral.size T := by
  obtain ⟨written, rfl, room⟩ := wire_readLE read
  rw [wire_portable] at written
  refine ⟨?_, rfl⟩
  rw [field, part, if_pos room, ← written, Option.map_some, NumericIntegral.littleEndian_wire]

/-- An integer at the front of what is left is the field there. -/
theorem field_of_front [NumericIntegral T] {value : T} {rest : Bytes}
    (here : bytes.drop offset = wire native value ++ rest) :
    field (Integral.size T) offset bytes = some (NumericIntegral.toNat value) :=
  (field_of_readLE (readLE_front native _ here rfl).1).1

theorem part_of_readBytes {size : Nat} {data : Bytes}
    (read : readBytes bytes offset size = some (data, next)) :
    part size offset bytes = some data ∧ next = offset + size := by
  unfold readBytes at read
  split at read
  · cases read
  · next enough =>
    cases read
    exact ⟨if_pos (by omega), rfl⟩

/-- A read within the bytes does not fail. -/
theorem readLE_room (T : Type) [Integral T] (native : Endian) (offset next : Nat)
    (step : offset + Integral.size T = next) (room : next ≤ bytes.length) :
    ∃ value, readLE T native bytes offset = some (value, next) := by
  subst step
  unfold readLE
  rw [if_neg (by omega)]
  exact ⟨_, rfl⟩

theorem readBytes_room (offset next size : Nat) (step : offset + size = next)
    (room : next ≤ bytes.length) : ∃ data, readBytes bytes offset size = some (data, next) := by
  subst step
  unfold readBytes
  rw [if_neg (by omega)]
  exact ⟨_, rfl⟩

theorem readUnits_room (native : Endian) (count offset : Nat)
    (room : offset + 2 * count ≤ bytes.length) :
    ∃ units, readUnits native bytes count offset = some units := by
  induction count generalizing offset with
  | zero => exact ⟨[], rfl⟩
  | succ count ih =>
    have first : offset + 2 ≤ bytes.length := by omega
    obtain ⟨unit, read⟩ := readLE_room UInt16 native offset (offset + 2) rfl first
    obtain ⟨units, rest⟩ := ih (offset + 2) (by omega)
    refine ⟨unit :: units, ?_⟩
    simp only [readUnits, read, rest, Option.bind_eq_bind, Option.bind_some]

/-- The units that are read are the two-byte fields one behind the other. -/
theorem field_of_readUnits {count : Nat} {units : List UInt16}
    (read : readUnits native bytes count offset = some units) :
    units.length = count ∧ ∀ index (inside : index < units.length),
      field 2 (offset + 2 * index) bytes = some units[index].toNat := by
  induction count generalizing offset units with
  | zero =>
    cases read
    exact ⟨rfl, fun index inside => absurd inside (Nat.not_lt_zero index)⟩
  | succ count ih =>
    simp only [readUnits, Option.bind_eq_bind, Option.bind_eq_some_iff, Prod.exists,
      Option.some.injEq] at read
    obtain ⟨unit, next, front, rest, back, rfl⟩ := read
    obtain ⟨first, rfl⟩ := field_of_readLE front
    obtain ⟨length, others⟩ := ih back
    refine ⟨by rw [List.length_cons, length], fun index inside => ?_⟩
    cases index with
    | zero => exact first
    | succ index =>
      have here := others index (Nat.lt_of_succ_lt_succ inside)
      have behind : offset + 2 * (index + 1) = offset + Integral.size UInt16 + 2 * index := by
        change _ = offset + 2 + 2 * index
        omega
      rw [behind]
      exact here

end

/-! ### Readers that look no further -/

/-- A reader takes no notice of what follows the bytes it accepts. -/
def Extends {Data : Type} (read : Bytes → Option Data) : Prop :=
  ∀ bytes extra data, read bytes = some data → read (bytes ++ extra) = some data

theorem Extends.readLE (T : Type) [Integral T] (native : Endian) (offset : Nat) :
    Extends fun bytes => readLE T native bytes offset := by
  intro bytes extra data read
  simp only [Protocol.readLE] at read ⊢
  split at read
  · cases read
  · next enough =>
    have room : offset + Integral.size T ≤ bytes.length := Nat.le_of_not_lt enough
    rw [if_neg (by rw [List.length_append]; omega), ← read,
      List.drop_append_of_le_length (by omega), List.take_append_of_le_length]
    rw [List.length_drop]
    omega

theorem Extends.part (size offset : Nat) : Extends (part size offset) := by
  intro bytes extra data read
  unfold Protocol.part at read ⊢
  split at read
  · next room =>
    rw [if_pos (by rw [List.length_append]; omega), ← read,
      List.drop_append_of_le_length (by omega), List.take_append_of_le_length]
    rw [List.length_drop]
    omega
  · cases read

theorem readBytes_eq (bytes : Bytes) (offset size : Nat) :
    readBytes bytes offset size = (part size offset bytes).map fun data => (data, offset + size) := by
  unfold readBytes part
  by_cases room : offset + size ≤ bytes.length
  · rw [if_neg (by omega), if_pos room, Option.map_some]
  · rw [if_pos (by omega), if_neg room, Option.map_none]

theorem Extends.pure {Data : Type} (result : Option Data) : Extends fun _ => result :=
  fun _ _ _ read => read

theorem Extends.bind {First Data : Type} {read : Bytes → Option First}
    {next : First → Bytes → Option Data} (first : Extends read)
    (rest : ∀ value, Extends (next value)) : Extends fun bytes => read bytes >>= fun value =>
      next value bytes := by
  intro bytes extra data accepted
  obtain ⟨value, front, back⟩ := Option.bind_eq_some_iff.mp accepted
  exact Option.bind_eq_some_iff.mpr
    ⟨value, first bytes extra value front, rest value bytes extra data back⟩

theorem Extends.map {First Data : Type} {read : Bytes → Option First} (first : Extends read)
    (change : First → Data) : Extends fun bytes => (read bytes).map change := by
  intro bytes extra data accepted
  obtain ⟨value, front, rfl⟩ := Option.map_eq_some_iff.mp accepted
  exact Option.map_eq_some_iff.mpr ⟨value, first bytes extra value front, rfl⟩

theorem Extends.readBytes (offset size : Nat) :
    Extends fun bytes => readBytes bytes offset size := by
  simp only [readBytes_eq]
  exact (Extends.part size offset).map _

/-- A check that there are enough bytes passes with more of them. -/
theorem Extends.guarded {Data : Type} {read : Bytes → Option Data} (size : Nat)
    (extends_ : Extends read) :
    Extends fun bytes => if bytes.length < size then none else read bytes := by
  intro bytes extra data accepted
  simp only at accepted ⊢
  split at accepted
  · cases accepted
  · rw [if_neg (by rw [List.length_append]; omega)]
    exact extends_ bytes extra data accepted

/-- So does, behind it, a check of those bytes. -/
theorem Extends.checked {Data : Type} {read : Bytes → Option Data} (size : Nat) {check : Bytes → Prop}
    [DecidablePred check]
    (settled : ∀ bytes extra, size ≤ bytes.length → (check (bytes ++ extra) ↔ check bytes))
    (extends_ : Extends read) :
    Extends fun bytes => if bytes.length < size then none else if check bytes then none
      else read bytes := by
  intro bytes extra data accepted
  simp only at accepted ⊢
  split at accepted
  · cases accepted
  · next long =>
    rw [if_neg (by rw [List.length_append]; omega)]
    split at accepted
    · cases accepted
    · next passed =>
      rw [if_neg fun fails => passed ((settled bytes extra (by omega)).mp fails)]
      exact extends_ bytes extra data accepted

theorem extends_readUnits (native : Endian) (count offset : Nat) :
    Extends fun bytes => readUnits native bytes count offset := by
  induction count generalizing offset with
  | zero => exact .pure _
  | succ count ih =>
    exact .bind (.readLE UInt16 native offset) fun (_, next) => .bind (ih next) fun _ => .pure _

/-- The part behind a check for it is the same with more bytes. -/
theorem Extends.measured {Data : Type} (size offset : Nat) (result : Bytes → Option Data) :
    Extends fun bytes => if bytes.length < offset + size then none
      else result ((bytes.drop offset).take size) := by
  have same : (fun bytes : Bytes => if bytes.length < offset + size then none
      else result ((bytes.drop offset).take size)) =
        fun bytes => Protocol.part size offset bytes >>= result := by
    funext bytes
    unfold Protocol.part
    by_cases room : offset + size ≤ bytes.length
    · rw [if_neg (by omega), if_pos room]
      rfl
    · rw [if_pos (by omega), if_neg room]
      rfl
  rw [same]
  exact .bind (.part size offset) fun data => .pure (result data)

section

variable (native : Endian)

theorem extends_header : Extends (deserializeHeader native) := by
  refine .checked 18 ?_
    (.bind (.readLE UInt16 native _) fun (_, _) => .bind (.readLE UInt16 native _) fun (_, _) =>
      .bind (.readLE UInt32 native _) fun (_, _) => .bind (.readLE UInt16 native _) fun (_, _) =>
        .pure _)
  intro bytes extra long
  have sign : (bytes ++ extra).take signLength = bytes.take signLength := by
    apply List.take_append_of_le_length
    change 8 ≤ bytes.length
    omega
  rw [sign]

theorem extends_subscription : Extends (deserializeSubscription native) :=
  .guarded 8 (.bind (.readLE UInt32 native 0) fun (_, _) =>
    .bind (.readLE UInt32 native _) fun (_, _) => .pure _)

theorem extends_sessionPoll : Extends (deserializeSessionPoll native) :=
  .guarded 16 (.bind (.readLE UInt32 native 0) fun (_, _) =>
    .bind (.readLE UInt32 native _) fun (_, _) => .bind (.readLE UInt32 native _) fun (_, _) =>
      .bind (.readLE UInt32 native _) fun (_, _) => .pure _)

theorem extends_superHeader : Extends (deserializeSuperHeader native) :=
  .guarded 32 (.bind (.readLE UInt32 native 0) fun (_, _) =>
    .bind (.readLE UInt32 native _) fun (_, _) => .bind (.readLE UInt32 native _) fun (_, _) =>
      .bind (.readBytes _ 10) fun (_, _) => .bind (.readBytes _ 10) fun (_, _) => .pure _)

theorem extends_textMessage : Extends (deserializeTextMessage native) :=
  .guarded 16 (.bind (.readLE UInt32 native 0) fun (_, _) =>
    .bind (.readLE UInt32 native _) fun (_, _) => .bind (.readLE UInt32 native _) fun (_, _) =>
      .bind (.readLE UInt16 native _) fun (_, _) => .bind (.readLE UInt16 native _) fun (_, _) =>
        .guarded _ (.bind (extends_readUnits native _ _) fun _ => .pure _))

theorem extends_textMessageStatus : Extends (deserializeTextMessageStatus native) :=
  .guarded 13 (.bind (.readLE UInt32 native 0) fun (_, _) =>
    .bind (.readLE UInt32 native _) fun (_, _) => .bind (.readLE UInt32 native _) fun (_, _) =>
      .bind (.readLE UInt8 native _) fun (_, _) => .pure _)

theorem extends_locationRequest : Extends (deserializeLocationRequest native) :=
  .guarded 12 (.bind (.readLE UInt32 native 0) fun (_, _) =>
    .bind (.readLE UInt32 native _) fun (_, _) => .bind (.readLE UInt32 native _) fun (_, _) =>
      .pure _)

theorem extends_locationReport : Extends (deserializeLocationReport native) :=
  .guarded 10 (.bind (.readLE UInt32 native 0) fun (_, _) =>
    .bind (.readLE UInt32 native _) fun (format, _) =>
      .bind (.readLE UInt16 native _) fun (length, offset) =>
        .measured length.toNat offset fun text =>
          (some ⟨format, if 0 < length then untilNul text else []⟩ : Option LocationReport))

end

/-! ### The formats -/

/-- Which byte strings are of a format, and what a value has to do with the fields of one. Each field
lies within the bytes. -/
structure Format (Data : Type) where
  accepts : Bytes → Prop
  describes : Bytes → Data → Prop

abbrev headerFormat : Format Header where
  accepts bytes := 18 ≤ bytes.length ∧ bytes.take signLength = protocolSign
  describes bytes header :=
    field 2 8 bytes = some header.type.raw.toNat ∧ field 2 10 bytes = some header.flags.toNat ∧
      field 4 12 bytes = some header.number.toNat ∧
      field 2 16 bytes = some header.length.toNat

abbrev versionDataFormat : Format VersionData where
  accepts bytes := 5 ≤ bytes.length
  describes bytes data :=
    field 4 0 bytes = some data.dmrId.toNat ∧ field 1 4 bytes = some data.service.raw.toNat ∧
      data.description = (bytes.drop 5).rdropWhile (· == 0)

abbrev subscriptionFormat : Format SubscriptionData where
  accepts bytes := 8 ≤ bytes.length
  describes bytes data :=
    field 4 0 bytes = some data.type.toNat ∧ field 4 4 bytes = some data.number.toNat

abbrev sessionPollFormat : Format SessionPollData where
  accepts bytes := 16 ≤ bytes.length
  describes bytes data :=
    field 4 0 bytes = some data.type.toNat ∧ field 4 4 bytes = some data.flag.toNat ∧
      field 4 8 bytes = some data.number.toNat ∧ field 4 12 bytes = some data.state.toNat

abbrev superHeaderFormat : Format SuperHeader where
  accepts bytes := 32 ≤ bytes.length
  describes bytes data :=
    field 4 0 bytes = some data.type.toNat ∧ field 4 4 bytes = some data.sourceId.toNat ∧
      field 4 8 bytes = some data.destinationId.toNat ∧
      (part 10 12 bytes).map untilNul = some data.sourceCall ∧
      (part 10 22 bytes).map untilNul = some data.destinationCall

abbrev textMessageFormat : Format TextMessageData where
  accepts bytes :=
    16 ≤ bytes.length ∧ ∃ length, field 2 14 bytes = some length ∧ 16 + length ≤ bytes.length
  describes bytes data :=
    field 4 4 bytes = some data.sourceId.toNat ∧
      field 4 8 bytes = some data.destinationId.toNat ∧
      (field 2 12 bytes).map (· == 128) = some data.isGroup ∧
      ∃ length units, field 2 14 bytes = some length ∧ units.length = length / 2 ∧
        (∀ index (inside : index < units.length),
          field 2 (16 + 2 * index) bytes = some units[index].toNat) ∧
        data.text = utf16ToUtf8 units

abbrev textMessageStatusFormat : Format TextMessageStatus where
  accepts bytes := 13 ≤ bytes.length
  describes bytes data :=
    field 4 4 bytes = some data.sourceId.toNat ∧
      field 4 8 bytes = some data.destinationId.toNat ∧ field 1 12 bytes = some data.status.toNat

abbrev locationRequestFormat : Format LocationRequest where
  accepts bytes := 12 ≤ bytes.length
  describes bytes data :=
    field 4 4 bytes = some data.type.toNat ∧ field 4 8 bytes = some data.interval.toNat

abbrev locationReportFormat : Format LocationReport where
  accepts bytes :=
    10 ≤ bytes.length ∧ ∃ length, field 2 8 bytes = some length ∧ 10 + length ≤ bytes.length
  describes bytes data :=
    field 4 4 bytes = some data.format.toNat ∧
      ∃ length, field 2 8 bytes = some length ∧
        (part length 10 bytes).map untilNul = some data.nmea

/-- A decoder accepts exactly the byte strings of a format, and makes the value of them that their
fields describe. -/
structure Decodes {Data : Type} (read : Bytes → Option Data) (format : Format Data) : Prop where
  accepts : ∀ bytes, (read bytes).isSome ↔ format.accepts bytes
  describes : ∀ bytes data, read bytes = some data → format.describes bytes data

/-- Behind a check for enough bytes a chain of reads never fails, and describes what it makes. -/
def Reads {Data : Type} (size : Nat) (read : Bytes → Option Data)
    (describes : Bytes → Data → Prop) : Prop :=
  ∀ bytes, size ≤ bytes.length → ∃ data, read bytes = some data ∧ describes bytes data

namespace Reads

variable {Data : Type} {size offset next : Nat} {describes : Bytes → Data → Prop}

theorem done {data : Bytes → Data}
    (described : ∀ bytes, size ≤ bytes.length → describes bytes (data bytes)) :
    Reads size (fun bytes => some (data bytes)) describes :=
  fun bytes long => ⟨data bytes, rfl, described bytes long⟩

/-- What is read first is a field, and the rest of the chain may rely on it. -/
theorem integer {T : Type} [Integral T] [NumericIntegral T] {native : Endian}
    {rest : T × Nat → Bytes → Option Data} (step : offset + Integral.size T = next)
    (fits : next ≤ size)
    (behind : ∀ value, Reads size (rest (value, next)) fun bytes data =>
      field (Integral.size T) offset bytes = some (NumericIntegral.toNat value) →
        describes bytes data) :
    Reads size (fun bytes => readLE T native bytes offset >>= fun read => rest read bytes)
      describes := by
  intro bytes long
  obtain ⟨value, read⟩ := readLE_room T native offset next step (fits.trans long)
  obtain ⟨data, made, described⟩ := behind value bytes long
  refine ⟨data, ?_, described (field_of_readLE read).1⟩
  dsimp only
  rw [read]
  exact made

theorem bytes {count : Nat} {rest : Bytes × Nat → Bytes → Option Data}
    (step : offset + count = next) (fits : next ≤ size)
    (behind : ∀ value, Reads size (rest (value, next)) fun bytes data =>
      part count offset bytes = some value → describes bytes data) :
    Reads size (fun bytes => readBytes bytes offset count >>= fun read => rest read bytes)
      describes := by
  intro bytes long
  obtain ⟨value, read⟩ := readBytes_room offset next count step (fits.trans long)
  obtain ⟨data, made, described⟩ := behind value bytes long
  refine ⟨data, ?_, described (part_of_readBytes read).1⟩
  dsimp only
  rw [read]
  exact made

end Reads

/-- A decoder that only checks for enough bytes accepts them, whatever they are. -/
theorem Decodes.of_reads {Data : Type} {size : Nat} {read : Bytes → Option Data}
    {format : Format Data} (reads : Reads size read format.describes)
    (accepts : ∀ bytes, size ≤ bytes.length ↔ format.accepts bytes) :
    Decodes (fun bytes => if bytes.length < size then none else read bytes) format where
  accepts bytes := by
    rw [← accepts]
    by_cases long : size ≤ bytes.length
    · obtain ⟨data, made, _⟩ := reads bytes long
      simp only [if_neg (Nat.not_lt.mpr long), made]
      exact iff_of_true rfl long
    · rw [if_pos (Nat.not_le.mp long)]
      exact iff_of_false Bool.false_ne_true long
  describes bytes data accepted := by
    split at accepted
    · cases accepted
    · next long =>
      obtain ⟨made, here, described⟩ := reads bytes (Nat.le_of_not_lt long)
      cases here.symm.trans accepted
      exact described

section

variable (native : Endian)

theorem decodes_header : Decodes (deserializeHeader native) headerFormat where
  accepts bytes := by
    unfold deserializeHeader
    by_cases long : 18 ≤ bytes.length
    · rw [if_neg (Nat.not_lt.mpr long)]
      by_cases signed : bytes.take signLength = protocolSign
      · have passed : ¬ bytes.take signLength ≠ protocolSign.take signLength := not_not.mpr signed
        obtain ⟨type, readType⟩ := readLE_room UInt16 native signLength 10 rfl
          (by omega : 10 ≤ bytes.length)
        obtain ⟨flags, readFlags⟩ := readLE_room UInt16 native 10 12 rfl
          (by omega : 12 ≤ bytes.length)
        obtain ⟨number, readNumber⟩ := readLE_room UInt32 native 12 16 rfl
          (by omega : 16 ≤ bytes.length)
        obtain ⟨length, readLength⟩ := readLE_room UInt16 native 16 18 rfl
          (by omega : 18 ≤ bytes.length)
        simp only [if_neg passed, readType, readFlags, readNumber, readLength, Option.bind_eq_bind,
          Option.bind_some]
        exact iff_of_true rfl ⟨long, signed⟩
      · have fails : bytes.take signLength ≠ protocolSign.take signLength := signed
        rw [if_pos fails]
        exact iff_of_false Bool.false_ne_true fun accepted => signed accepted.2
    · rw [if_pos (Nat.not_le.mp long)]
      exact iff_of_false Bool.false_ne_true fun accepted => long accepted.1
  describes bytes header accepted := by
    unfold deserializeHeader at accepted
    split at accepted
    · cases accepted
    · split at accepted
      · cases accepted
      · simp only [Option.bind_eq_bind, Option.bind_eq_some_iff, Prod.exists,
          Option.some.injEq] at accepted
        obtain ⟨type, _, readType, flags, _, readFlags, number, _, readNumber, length, _,
          readLength, rfl⟩ := accepted
        obtain ⟨type, rfl⟩ := field_of_readLE readType
        obtain ⟨flags, rfl⟩ := field_of_readLE readFlags
        obtain ⟨number, rfl⟩ := field_of_readLE readNumber
        obtain ⟨length, rfl⟩ := field_of_readLE readLength
        exact ⟨type, flags, number, length⟩

theorem decodes_subscription : Decodes (deserializeSubscription native) subscriptionFormat :=
  .of_reads
    (.integer rfl (by decide) fun _ => .integer rfl (by decide) fun _ =>
      .done fun _ _ number type => ⟨type, number⟩)
    fun _ => Iff.rfl

theorem decodes_sessionPoll : Decodes (deserializeSessionPoll native) sessionPollFormat :=
  .of_reads
    (.integer rfl (by decide) fun _ => .integer rfl (by decide) fun _ =>
      .integer rfl (by decide) fun _ => .integer rfl (by decide) fun _ =>
        .done fun _ _ state number flag type => ⟨type, flag, number, state⟩)
    fun _ => Iff.rfl

theorem decodes_superHeader : Decodes (deserializeSuperHeader native) superHeaderFormat :=
  .of_reads
    (.integer rfl (by decide) fun _ => .integer rfl (by decide) fun _ =>
      .integer rfl (by decide) fun _ => .bytes rfl (by decide) fun _ =>
        .bytes rfl (by decide) fun _ =>
          .done fun _ _ destCall srcCall destination source type =>
            ⟨type, source, destination, congrArg (Option.map untilNul) srcCall,
              congrArg (Option.map untilNul) destCall⟩)
    fun _ => Iff.rfl

theorem decodes_textMessageStatus :
    Decodes (deserializeTextMessageStatus native) textMessageStatusFormat :=
  .of_reads
    (.integer rfl (by decide) fun _ => .integer rfl (by decide) fun _ =>
      .integer rfl (by decide) fun _ => .integer rfl (by decide) fun _ =>
        .done fun _ _ status destination source _ => ⟨source, destination, status⟩)
    fun _ => Iff.rfl

theorem decodes_locationRequest :
    Decodes (deserializeLocationRequest native) locationRequestFormat :=
  .of_reads
    (.integer rfl (by decide) fun _ => .integer rfl (by decide) fun _ =>
      .integer rfl (by decide) fun _ => .done fun _ _ interval type _ => ⟨type, interval⟩)
    fun _ => Iff.rfl

theorem decodes_versionData : Decodes (deserializeVersionData native) versionDataFormat := by
  refine .of_reads (.integer rfl (by decide) fun _ => .integer rfl (by decide) fun _ =>
    .done fun bytes long service dmrId => ⟨dmrId, service, ?_⟩) fun _ => Iff.rfl
  change (if 5 < bytes.length then (bytes.drop 5).rdropWhile (· == 0) else []) = _
  split
  · rfl
  · next short =>
    rw [List.drop_eq_nil_of_le (by omega), List.rdropWhile_nil]

theorem decodes_textMessage : Decodes (deserializeTextMessage native) textMessageFormat where
  accepts bytes := by
    unfold deserializeTextMessage
    by_cases long : 16 ≤ bytes.length
    · obtain ⟨reserved, readReserved⟩ := readLE_room UInt32 native 0 4 rfl
        (by omega : 4 ≤ bytes.length)
      obtain ⟨source, readSource⟩ := readLE_room UInt32 native 4 8 rfl
        (by omega : 8 ≤ bytes.length)
      obtain ⟨destination, readDestination⟩ := readLE_room UInt32 native 8 12 rfl
        (by omega : 12 ≤ bytes.length)
      obtain ⟨option, readOption⟩ := readLE_room UInt16 native 12 14 rfl
        (by omega : 14 ≤ bytes.length)
      obtain ⟨length, readLength⟩ := readLE_room UInt16 native 14 16 rfl
        (by omega : 16 ≤ bytes.length)
      have measured : field 2 14 bytes = some length.toNat := (field_of_readLE readLength).1
      simp only [if_neg (Nat.not_lt.mpr long), readReserved, readSource, readDestination, readOption,
        readLength, Option.bind_eq_bind, Option.bind_some]
      by_cases enough : 16 + length.toNat ≤ bytes.length
      · obtain ⟨units, readUnits⟩ := readUnits_room native (length.toNat / 2) 16
          (by omega : 16 + 2 * (length.toNat / 2) ≤ bytes.length)
        simp only [if_neg (Nat.not_lt.mpr enough), readUnits, Option.bind_some]
        exact iff_of_true rfl ⟨long, length.toNat, measured, enough⟩
      · rw [if_pos (Nat.not_le.mp enough)]
        refine iff_of_false Bool.false_ne_true ?_
        rintro ⟨_, stated, same, fits⟩
        cases measured.symm.trans same
        exact enough fits
    · rw [if_pos (Nat.not_le.mp long)]
      exact iff_of_false Bool.false_ne_true fun accepted => long accepted.1
  describes bytes data accepted := by
    unfold deserializeTextMessage at accepted
    split at accepted
    · cases accepted
    · simp only [Option.bind_eq_bind, Option.bind_eq_some_iff, Prod.exists] at accepted
      obtain ⟨reserved, _, readReserved, source, _, readSource, destination, _, readDestination,
        option, _, readOption, length, _, readLength, accepted⟩ := accepted
      split at accepted
      · cases accepted
      · simp only [Option.bind_eq_some_iff, Option.some.injEq] at accepted
        obtain ⟨units, readUnits, rfl⟩ := accepted
        obtain ⟨reserved, rfl⟩ := field_of_readLE readReserved
        obtain ⟨source, rfl⟩ := field_of_readLE readSource
        obtain ⟨destination, rfl⟩ := field_of_readLE readDestination
        obtain ⟨optioned, rfl⟩ := field_of_readLE readOption
        obtain ⟨measured, rfl⟩ := field_of_readLE readLength
        obtain ⟨counted, each⟩ := field_of_readUnits readUnits
        refine ⟨source, destination, ?_, length.toNat, units, measured, counted, each, rfl⟩
        have grouped : (option.toNat == 128) = (option == 128) := by
          rw [Bool.eq_iff_iff, beq_iff_eq, beq_iff_eq, ← UInt16.toNat_inj]
          rfl
        exact (congrArg (Option.map (· == 128)) optioned).trans (congrArg some grouped)

theorem decodes_locationReport : Decodes (deserializeLocationReport native) locationReportFormat where
  accepts bytes := by
    unfold deserializeLocationReport
    by_cases long : 10 ≤ bytes.length
    · obtain ⟨reserved, readReserved⟩ := readLE_room UInt32 native 0 4 rfl
        (by omega : 4 ≤ bytes.length)
      obtain ⟨format, readFormat⟩ := readLE_room UInt32 native 4 8 rfl
        (by omega : 8 ≤ bytes.length)
      obtain ⟨length, readLength⟩ := readLE_room UInt16 native 8 10 rfl
        (by omega : 10 ≤ bytes.length)
      have measured : field 2 8 bytes = some length.toNat := (field_of_readLE readLength).1
      simp only [if_neg (Nat.not_lt.mpr long), readReserved, readFormat, readLength,
        Option.bind_eq_bind, Option.bind_some]
      by_cases enough : 10 + length.toNat ≤ bytes.length
      · rw [if_neg (Nat.not_lt.mpr enough)]
        exact iff_of_true rfl ⟨long, length.toNat, measured, enough⟩
      · rw [if_pos (Nat.not_le.mp enough)]
        refine iff_of_false Bool.false_ne_true ?_
        rintro ⟨_, stated, same, fits⟩
        cases measured.symm.trans same
        exact enough fits
    · rw [if_pos (Nat.not_le.mp long)]
      exact iff_of_false Bool.false_ne_true fun accepted => long accepted.1
  describes bytes data accepted := by
    unfold deserializeLocationReport at accepted
    split at accepted
    · cases accepted
    · simp only [Option.bind_eq_bind, Option.bind_eq_some_iff, Prod.exists] at accepted
      obtain ⟨reserved, _, readReserved, format, _, readFormat, length, _, readLength, accepted⟩ :=
        accepted
      split at accepted
      · cases accepted
      · next enough =>
        cases accepted
        obtain ⟨reserved, rfl⟩ := field_of_readLE readReserved
        obtain ⟨format, rfl⟩ := field_of_readLE readFormat
        obtain ⟨measured, rfl⟩ := field_of_readLE readLength
        refine ⟨format, length.toNat, measured, ?_⟩
        have room : 10 + length.toNat ≤ bytes.length := Nat.le_of_not_lt enough
        rw [part, if_pos room, Option.map_some]
        change some (untilNul ((bytes.drop 10).take length.toNat)) = some (if 0 < length then
          untilNul ((bytes.drop 10).take length.toNat) else [])
        split
        · rfl
        · next empty =>
          -- a text of no bytes is not even looked at
          have none : length.toNat = 0 := by
            rw [UInt16.lt_iff_toNat_lt] at empty
            exact Nat.eq_zero_of_not_pos empty
          rw [none]
          rfl

/-- Every decoder accepts exactly its format and fails no read behind its checks, and all but one
take no notice of what follows. -/
theorem decoders_exact :
    Decodes (deserializeHeader native) headerFormat ∧
      Decodes (deserializeVersionData native) versionDataFormat ∧
      Decodes (deserializeSubscription native) subscriptionFormat ∧
      Decodes (deserializeSessionPoll native) sessionPollFormat ∧
      Decodes (deserializeSuperHeader native) superHeaderFormat ∧
      Decodes (deserializeTextMessageStatus native) textMessageStatusFormat ∧
      Decodes (deserializeLocationRequest native) locationRequestFormat ∧
      Decodes (deserializeTextMessage native) textMessageFormat ∧
      Decodes (deserializeLocationReport native) locationReportFormat ∧
      Extends (deserializeHeader native) ∧ Extends (deserializeSubscription native) ∧
      Extends (deserializeSessionPoll native) ∧ Extends (deserializeSuperHeader native) ∧
      Extends (deserializeTextMessageStatus native) ∧
      Extends (deserializeLocationRequest native) ∧ Extends (deserializeTextMessage native) ∧
      Extends (deserializeLocationReport native) :=
  ⟨decodes_header native, decodes_versionData native, decodes_subscription native,
    decodes_sessionPoll native, decodes_superHeader native, decodes_textMessageStatus native,
    decodes_locationRequest native, decodes_textMessage native, decodes_locationReport native,
    extends_header native, extends_subscription native, extends_sessionPoll native,
    extends_superHeader native, extends_textMessageStatus native, extends_locationRequest native,
    extends_textMessage native, extends_locationReport native⟩

end

end OpenDTP.Protocol
