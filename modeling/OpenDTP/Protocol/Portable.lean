import OpenDTP.Protocol.Wire

/-! The byte order of the host is invisible on the wire: a swap on a big-endian host undoes what its
memory does to an integer. The formats of fixed size are exact in both directions, also when one
host writes and another one reads. -/

namespace OpenDTP.Protocol
open Common

/-! ### Integers -/

/-- An integral type whose swapped representation on a big-endian host is the one of a little-endian
host, and that has a value for every string of its size. -/
class PortableIntegral (T : Type) [Integral T] : Prop where
  toMemory_byteSwap : ∀ value : T,
    Integral.toMemory .big (Integral.byteSwap value) = Integral.toMemory .little value
  byteSwap_ofMemory : ∀ bytes : Bytes,
    Integral.byteSwap (Integral.ofMemory .big bytes : T) = Integral.ofMemory .little bytes
  toMemory_ofMemory : ∀ bytes : Bytes, bytes.length = Integral.size T →
    Integral.toMemory .little (Integral.ofMemory .little bytes : T) = bytes

instance : PortableIntegral UInt8 where
  toMemory_byteSwap _ := rfl
  byteSwap_ofMemory _ := rfl
  toMemory_ofMemory bytes length := by
    match bytes, length with
    | [_], _ => rfl

theorem byteSwap_two (a b : Byte) :
    Integral.byteSwap ((a.toUInt16 <<< 8) ||| b.toUInt16) = a.toUInt16 ||| (b.toUInt16 <<< 8) := by
  apply UInt16.eq_of_toBitVec_eq
  ext i bound
  interval_cases i <;> simp [Integral.byteSwap]

theorem byteSwap_four (a b c d : Byte) :
    Integral.byteSwap ((a.toUInt32 <<< 24) ||| (b.toUInt32 <<< 16) ||| (c.toUInt32 <<< 8) |||
        d.toUInt32) =
      a.toUInt32 ||| (b.toUInt32 <<< 8) ||| (c.toUInt32 <<< 16) ||| (d.toUInt32 <<< 24) := by
  apply UInt32.eq_of_toBitVec_eq
  ext i bound
  interval_cases i <;> simp [Integral.byteSwap]

instance : PortableIntegral UInt16 where
  toMemory_byteSwap value := by
    change [((value >>> 8 ||| value <<< 8) >>> 8).toUInt8, (value >>> 8 ||| value <<< 8).toUInt8] =
      [value.toUInt8, (value >>> 8).toUInt8]
    simp only [List.cons.injEq, and_true]
    constructor
    all_goals
      apply UInt8.eq_of_toBitVec_eq
      ext i bound
      interval_cases i <;> simp
  byteSwap_ofMemory bytes := byteSwap_two _ _
  toMemory_ofMemory bytes length := by
    match bytes, length with
    | [a, b], _ =>
      change [(a.toUInt16 ||| b.toUInt16 <<< 8).toUInt8,
        ((a.toUInt16 ||| b.toUInt16 <<< 8) >>> 8).toUInt8] = [a, b]
      simp only [List.cons.injEq, and_true]
      constructor
      all_goals
        apply UInt8.eq_of_toBitVec_eq
        ext i bound
        interval_cases i <;> simp

instance : PortableIntegral UInt32 where
  toMemory_byteSwap value := by
    simp only [Integral.toMemory, List.cons.injEq, and_true]
    refine ⟨?_, ?_, ?_, ?_⟩
    all_goals
      apply UInt8.eq_of_toBitVec_eq
      ext i bound
      interval_cases i <;> simp [Integral.byteSwap]
  byteSwap_ofMemory bytes := byteSwap_four _ _ _ _
  toMemory_ofMemory bytes length := by
    match bytes, length with
    | [a, b, c, d], _ =>
      simp only [Integral.toMemory, Integral.ofMemory, List.getD_cons_zero, List.getD_cons_succ,
        List.cons.injEq, and_true]
      refine ⟨?_, ?_, ?_, ?_⟩
      all_goals
        apply UInt8.eq_of_toBitVec_eq
        ext i bound
        interval_cases i <;> simp

section

variable {T : Type} [Integral T] [PortableIntegral T]

theorem wire_portable (native : Endian) (value : T) : wire native value = wire .little value := by
  cases native with
  | little => rfl
  | big => exact PortableIntegral.toMemory_byteSwap value

theorem writeLE_portable (native : Endian) (buf : Bytes) (value : T) :
    writeLE native buf value = writeLE .little buf value := by
  rw [writeLE_eq, writeLE_eq, wire_portable]

theorem readLE_portable (native : Endian) (bytes : Bytes) (offset : Nat) :
    readLE T native bytes offset = readLE T .little bytes offset := by
  cases native with
  | little => rfl
  | big =>
    simp only [readLE, littleToHost, hostToLittle, PortableIntegral.byteSwap_ofMemory,
      if_true, if_neg (by decide : ¬ Endian.little = .big)]

/-- What is read can be written back. -/
theorem wire_readLE {native : Endian} {bytes : Bytes} {offset next : Nat} {value : T}
    (read : readLE T native bytes offset = some (value, next)) :
    wire native value = (bytes.drop offset).take (Integral.size T) ∧
      next = offset + Integral.size T ∧ next ≤ bytes.length := by
  rw [readLE_portable] at read
  rw [wire_portable]
  unfold readLE at read
  split at read
  · cases read
  · next enough =>
    cases read
    refine ⟨?_, rfl, by omega⟩
    apply PortableIntegral.toMemory_ofMemory
    rw [List.length_take, List.length_drop]
    omega

end

/-! ### Formats -/

section

variable (native : Endian)

theorem serializeHeader_portable (header : Header) :
    serializeHeader native header = serializeHeader .little header := by
  simp only [serializeHeader_eq, wire_portable native]

theorem serializeVersionData_portable (data : VersionData) :
    serializeVersionData native data = serializeVersionData .little data := by
  simp only [serializeVersionData, writeLE_portable native]

theorem serializeSubscription_portable (data : SubscriptionData) :
    serializeSubscription native data = serializeSubscription .little data := by
  simp only [serializeSubscription, writeLE_portable native]

theorem serializeSessionPoll_portable (data : SessionPollData) :
    serializeSessionPoll native data = serializeSessionPoll .little data := by
  simp only [serializeSessionPoll, writeLE_portable native]

theorem serializeTextMessage_portable (data : TextMessageData) :
    serializeTextMessage native data = serializeTextMessage .little data := by
  simp only [serializeTextMessage, writeLE_portable native]

theorem serializeLocationReport_portable (data : LocationReport) :
    serializeLocationReport native data = serializeLocationReport .little data := by
  simp only [serializeLocationReport, writeLE_portable native]

theorem deserializeHeader_portable (bytes : Bytes) :
    deserializeHeader native bytes = deserializeHeader .little bytes := by
  simp only [deserializeHeader, readLE_portable native]

theorem deserializeVersionData_portable (bytes : Bytes) :
    deserializeVersionData native bytes = deserializeVersionData .little bytes := by
  simp only [deserializeVersionData, readLE_portable native]

theorem deserializeSubscription_portable (bytes : Bytes) :
    deserializeSubscription native bytes = deserializeSubscription .little bytes := by
  simp only [deserializeSubscription, readLE_portable native]

theorem deserializeSessionPoll_portable (bytes : Bytes) :
    deserializeSessionPoll native bytes = deserializeSessionPoll .little bytes := by
  simp only [deserializeSessionPoll, readLE_portable native]

theorem deserializeSuperHeader_portable (bytes : Bytes) :
    deserializeSuperHeader native bytes = deserializeSuperHeader .little bytes := by
  simp only [deserializeSuperHeader, readLE_portable native]

theorem readUnits_portable (bytes : Bytes) (count offset : Nat) :
    readUnits native bytes count offset = readUnits .little bytes count offset := by
  induction count generalizing offset with
  | zero => rfl
  | succ count ih => simp only [readUnits, readLE_portable native, ih]

theorem deserializeTextMessage_portable (bytes : Bytes) :
    deserializeTextMessage native bytes = deserializeTextMessage .little bytes := by
  simp only [deserializeTextMessage, readLE_portable native, readUnits_portable native]

theorem deserializeTextMessageStatus_portable (bytes : Bytes) :
    deserializeTextMessageStatus native bytes = deserializeTextMessageStatus .little bytes := by
  simp only [deserializeTextMessageStatus, readLE_portable native]

theorem deserializeLocationRequest_portable (bytes : Bytes) :
    deserializeLocationRequest native bytes = deserializeLocationRequest .little bytes := by
  simp only [deserializeLocationRequest, readLE_portable native]

theorem deserializeLocationReport_portable (bytes : Bytes) :
    deserializeLocationReport native bytes = deserializeLocationReport .little bytes := by
  simp only [deserializeLocationReport, readLE_portable native]

/-! ### Formats of fixed size -/

theorem deserializeSubscription_serializeSubscription (data : SubscriptionData) :
    deserializeSubscription native (serializeSubscription native data) = some data := by
  have layout : (serializeSubscription native data).drop 0 =
      wire native data.type ++ (wire native data.number ++ []) := by
    simp only [serializeSubscription, writeLE_eq, List.nil_append, List.append_nil, List.drop_zero]
  have long : ¬ (serializeSubscription native data).length < 8 := by
    have length := congrArg List.length layout
    simp only [List.length_append, length_wire, List.length_nil, List.drop_zero] at length
    rw [length]
    decide
  obtain ⟨type, layout⟩ := readLE_front native 4 layout rfl
  obtain ⟨number, _⟩ := readLE_front native 8 layout rfl
  unfold deserializeSubscription
  rw [if_neg long, type]
  simp only [Option.bind_eq_bind, Option.bind_some, number]

theorem deserializeSessionPoll_serializeSessionPoll (data : SessionPollData) :
    deserializeSessionPoll native (serializeSessionPoll native data) = some data := by
  have layout : (serializeSessionPoll native data).drop 0 =
      wire native data.type ++ (wire native data.flag ++
        (wire native data.number ++ (wire native data.state ++ []))) := by
    simp only [serializeSessionPoll, writeLE_eq, List.nil_append, List.append_nil,
      List.append_assoc, List.drop_zero]
  have long : ¬ (serializeSessionPoll native data).length < 16 := by
    have length := congrArg List.length layout
    simp only [List.length_append, length_wire, List.length_nil, List.drop_zero] at length
    rw [length]
    decide
  obtain ⟨type, layout⟩ := readLE_front native 4 layout rfl
  obtain ⟨flag, layout⟩ := readLE_front native 8 layout rfl
  obtain ⟨number, layout⟩ := readLE_front native 12 layout rfl
  obtain ⟨state, _⟩ := readLE_front native 16 layout rfl
  unfold deserializeSessionPoll
  rw [if_neg long, type]
  simp only [Option.bind_eq_bind, Option.bind_some, flag, number, state]

/-! What is accepted is written back as it stood. -/

theorem serializeHeader_deserializeHeader {bytes : Bytes} {header : Header}
    (accepted : deserializeHeader native bytes = some header) :
    serializeHeader native header = bytes.take 18 := by
  unfold deserializeHeader at accepted
  split at accepted
  · cases accepted
  · split at accepted
    · cases accepted
    · next signed =>
      simp only [Option.bind_eq_bind, Option.bind_eq_some_iff, Prod.exists,
        Option.some.injEq] at accepted
      obtain ⟨type, _, readType, flags, _, readFlags, number, _, readNumber, length, _, readLength,
        rfl⟩ := accepted
      obtain ⟨type, rfl, _⟩ := wire_readLE readType
      obtain ⟨flags, rfl, _⟩ := wire_readLE readFlags
      obtain ⟨number, rfl, _⟩ := wire_readLE readNumber
      obtain ⟨length, _, _⟩ := wire_readLE readLength
      have sign : protocolSign = bytes.take signLength := (not_not.mp signed).symm
      rw [serializeHeader_eq, type, flags, number, length, sign]
      simp only [← List.take_add]
      rfl

theorem serializeSubscription_deserializeSubscription {bytes : Bytes} {data : SubscriptionData}
    (accepted : deserializeSubscription native bytes = some data) :
    serializeSubscription native data = bytes.take 8 := by
  unfold deserializeSubscription at accepted
  split at accepted
  · cases accepted
  · simp only [Option.bind_eq_bind, Option.bind_eq_some_iff, Prod.exists,
      Option.some.injEq] at accepted
    obtain ⟨type, _, readType, number, _, readNumber, rfl⟩ := accepted
    obtain ⟨type, rfl, _⟩ := wire_readLE readType
    obtain ⟨number, _, _⟩ := wire_readLE readNumber
    simp only [serializeSubscription, writeLE_eq, List.nil_append]
    rw [type, number, List.drop_zero, Nat.zero_add, ← List.take_add]
    rfl

theorem serializeSessionPoll_deserializeSessionPoll {bytes : Bytes} {data : SessionPollData}
    (accepted : deserializeSessionPoll native bytes = some data) :
    serializeSessionPoll native data = bytes.take 16 := by
  unfold deserializeSessionPoll at accepted
  split at accepted
  · cases accepted
  · simp only [Option.bind_eq_bind, Option.bind_eq_some_iff, Prod.exists,
      Option.some.injEq] at accepted
    obtain ⟨type, _, readType, flag, _, readFlag, number, _, readNumber, state, _, readState, rfl⟩ :=
      accepted
    obtain ⟨type, rfl, _⟩ := wire_readLE readType
    obtain ⟨flag, rfl, _⟩ := wire_readLE readFlag
    obtain ⟨number, rfl, _⟩ := wire_readLE readNumber
    obtain ⟨state, _, _⟩ := wire_readLE readState
    simp only [serializeSessionPoll, writeLE_eq, List.nil_append]
    rw [type, flag, number, state, List.drop_zero, Nat.zero_add]
    simp only [← List.take_add]
    rfl

end

/-! ### Two hosts -/

/-- Two hosts write the same bytes and read the same values. -/
structure Agree (first second : Endian) : Prop where
  writesHeader : serializeHeader first = serializeHeader second
  writesVersionData : serializeVersionData first = serializeVersionData second
  writesSubscription : serializeSubscription first = serializeSubscription second
  writesSessionPoll : serializeSessionPoll first = serializeSessionPoll second
  writesTextMessage : serializeTextMessage first = serializeTextMessage second
  writesLocationReport : serializeLocationReport first = serializeLocationReport second
  readsHeader : deserializeHeader first = deserializeHeader second
  readsVersionData : deserializeVersionData first = deserializeVersionData second
  readsSubscription : deserializeSubscription first = deserializeSubscription second
  readsSessionPoll : deserializeSessionPoll first = deserializeSessionPoll second
  readsSuperHeader : deserializeSuperHeader first = deserializeSuperHeader second
  readsTextMessage : deserializeTextMessage first = deserializeTextMessage second
  readsTextMessageStatus : deserializeTextMessageStatus first = deserializeTextMessageStatus second
  readsLocationRequest : deserializeLocationRequest first = deserializeLocationRequest second
  readsLocationReport : deserializeLocationReport first = deserializeLocationReport second

theorem agree_little (native : Endian) : Agree native .little where
  writesHeader := funext (serializeHeader_portable native)
  writesVersionData := funext (serializeVersionData_portable native)
  writesSubscription := funext (serializeSubscription_portable native)
  writesSessionPoll := funext (serializeSessionPoll_portable native)
  writesTextMessage := funext (serializeTextMessage_portable native)
  writesLocationReport := funext (serializeLocationReport_portable native)
  readsHeader := funext (deserializeHeader_portable native)
  readsVersionData := funext (deserializeVersionData_portable native)
  readsSubscription := funext (deserializeSubscription_portable native)
  readsSessionPoll := funext (deserializeSessionPoll_portable native)
  readsSuperHeader := funext (deserializeSuperHeader_portable native)
  readsTextMessage := funext (deserializeTextMessage_portable native)
  readsTextMessageStatus := funext (deserializeTextMessageStatus_portable native)
  readsLocationRequest := funext (deserializeLocationRequest_portable native)
  readsLocationReport := funext (deserializeLocationReport_portable native)

/-- A format of fixed size between two hosts: what one writes the other reads, and what the other
accepts is written back by the first as it stood. -/
structure Exact {Data : Type} (size : Nat) (write : Data → Bytes) (read : Bytes → Option Data) :
    Prop where
  length : ∀ data, (write data).length = size
  reads : ∀ data, read (write data) = some data
  writes : ∀ bytes data, read bytes = some data → write data = bytes.take size

/-- Whatever the byte orders of two hosts are, they agree on every format, and the formats of fixed
size are exact between them. -/
theorem hosts_agree (first second : Endian) :
    Agree first second ∧ Exact 18 (serializeHeader first) (deserializeHeader second) ∧
      Exact 8 (serializeSubscription first) (deserializeSubscription second) ∧
      Exact 16 (serializeSessionPoll first) (deserializeSessionPoll second) := by
  have one := agree_little first
  have two := agree_little second
  refine ⟨?_, ?_, ?_, ?_⟩
  · constructor
    · exact one.writesHeader.trans two.writesHeader.symm
    · exact one.writesVersionData.trans two.writesVersionData.symm
    · exact one.writesSubscription.trans two.writesSubscription.symm
    · exact one.writesSessionPoll.trans two.writesSessionPoll.symm
    · exact one.writesTextMessage.trans two.writesTextMessage.symm
    · exact one.writesLocationReport.trans two.writesLocationReport.symm
    · exact one.readsHeader.trans two.readsHeader.symm
    · exact one.readsVersionData.trans two.readsVersionData.symm
    · exact one.readsSubscription.trans two.readsSubscription.symm
    · exact one.readsSessionPoll.trans two.readsSessionPoll.symm
    · exact one.readsSuperHeader.trans two.readsSuperHeader.symm
    · exact one.readsTextMessage.trans two.readsTextMessage.symm
    · exact one.readsTextMessageStatus.trans two.readsTextMessageStatus.symm
    · exact one.readsLocationRequest.trans two.readsLocationRequest.symm
    · exact one.readsLocationReport.trans two.readsLocationReport.symm
  · rw [one.writesHeader, two.readsHeader]
    refine ⟨length_serializeHeader .little, fun header => ?_,
      fun bytes header => serializeHeader_deserializeHeader .little⟩
    have read := deserializeHeader_serializeHeader .little header []
    rwa [List.append_nil] at read
  · rw [one.writesSubscription, two.readsSubscription]
    refine ⟨fun data => ?_, deserializeSubscription_serializeSubscription .little,
      fun bytes data => serializeSubscription_deserializeSubscription .little⟩
    simp only [serializeSubscription, writeLE_eq, List.length_append, length_wire]
    rfl
  · rw [one.writesSessionPoll, two.readsSessionPoll]
    refine ⟨fun data => ?_, deserializeSessionPoll_serializeSessionPoll .little,
      fun bytes data => serializeSessionPoll_deserializeSessionPoll .little⟩
    simp only [serializeSessionPoll, writeLE_eq, List.length_append, length_wire]
    rfl

end OpenDTP.Protocol
