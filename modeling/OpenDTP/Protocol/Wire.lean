import OpenDTP.Protocol
import Mathlib.Tactic.IntervalCases

/-! Reading back what was written: integers of each width on a host of either byte order, and from
them the header. -/

namespace OpenDTP.Protocol
open Common

/-! ### Bytes of an integer -/

theorem assemble_uint16 (value : UInt16) :
    value.toUInt8.toUInt16 ||| ((value >>> 8).toUInt8.toUInt16 <<< 8) = value := by
  apply UInt16.eq_of_toBitVec_eq
  simp only [UInt16.toBitVec_or, UInt16.toBitVec_shiftLeft, UInt8.toBitVec_toUInt16,
    UInt16.toBitVec_toUInt8, UInt16.toBitVec_shiftRight]
  ext i bound
  simp
  grind

theorem assemble_uint32 (value : UInt32) :
    value.toUInt8.toUInt32 ||| ((value >>> 8).toUInt8.toUInt32 <<< 8) |||
      ((value >>> 16).toUInt8.toUInt32 <<< 16) ||| ((value >>> 24).toUInt8.toUInt32 <<< 24) =
      value := by
  apply UInt32.eq_of_toBitVec_eq
  simp only [UInt32.toBitVec_or, UInt32.toBitVec_shiftLeft, UInt8.toBitVec_toUInt32,
    UInt32.toBitVec_toUInt8, UInt32.toBitVec_shiftRight]
  ext i bound
  simp
  grind

theorem or_reverse (a b c d : UInt32) : a ||| b ||| c ||| d = d ||| c ||| b ||| a := by
  ac_rfl

/-- An integral type whose object representation can be read back, on either host. -/
class LawfulIntegral (T : Type) [Integral T] : Prop where
  length_toMemory : ∀ (native : Endian) (value : T),
    (Integral.toMemory native value).length = Integral.size T
  ofMemory_toMemory : ∀ (native : Endian) (value : T),
    Integral.ofMemory native (Integral.toMemory native value) = value
  byteSwap_byteSwap : ∀ value : T, Integral.byteSwap (Integral.byteSwap value) = value
  size_pos : 0 < Integral.size T

instance : LawfulIntegral UInt8 where
  length_toMemory _ _ := rfl
  ofMemory_toMemory _ _ := rfl
  byteSwap_byteSwap _ := rfl
  size_pos := by decide

instance : LawfulIntegral UInt16 where
  length_toMemory native value := by cases native <;> rfl
  ofMemory_toMemory native value := by
    cases native with
    | little => exact assemble_uint16 value
    | big => exact (UInt16.or_comm _ _).trans (assemble_uint16 value)
  byteSwap_byteSwap value := by
    change ((value >>> 8 ||| value <<< 8) >>> 8) ||| ((value >>> 8 ||| value <<< 8) <<< 8) = value
    apply UInt16.eq_of_toBitVec_eq
    ext i bound
    simp
    grind
  size_pos := by decide

instance : LawfulIntegral UInt32 where
  length_toMemory native value := by cases native <;> rfl
  ofMemory_toMemory native value := by
    cases native with
    | little => exact assemble_uint32 value
    | big =>
      simp only [Integral.ofMemory, Integral.toMemory, List.getD_cons_zero, List.getD_cons_succ]
      rw [or_reverse]
      exact assemble_uint32 value
  byteSwap_byteSwap value := by
    apply UInt32.eq_of_toBitVec_eq
    ext i bound
    interval_cases i <;> simp [Integral.byteSwap]
  size_pos := by decide

instance : LawfulIntegral MessageType where
  length_toMemory native value := LawfulIntegral.length_toMemory native value.raw
  ofMemory_toMemory native value :=
    congrArg MessageType.mk (LawfulIntegral.ofMemory_toMemory native value.raw)
  byteSwap_byteSwap value :=
    congrArg MessageType.mk (LawfulIntegral.byteSwap_byteSwap value.raw)
  size_pos := by decide

section

variable {T : Type} [Integral T] [LawfulIntegral T] (native : Endian)

/-- The bytes that `WriteLE` appends. -/
def wire {T : Type} [Integral T] (native : Endian) (value : T) : Bytes :=
  Integral.toMemory native (hostToLittle native value)

theorem writeLE_eq {T : Type} [Integral T] (native : Endian) (buf : Bytes) (value : T) :
    writeLE native buf value = buf ++ wire native value := rfl

theorem length_wire (value : T) : (wire native value).length = Integral.size T :=
  LawfulIntegral.length_toMemory native _

theorem littleToHost_hostToLittle (value : T) :
    littleToHost native (hostToLittle native value) = value := by
  unfold littleToHost hostToLittle
  split
  · exact LawfulIntegral.byteSwap_byteSwap value
  · rfl

/-- An integer written behind `before` is read at that offset, whatever follows. -/
theorem readLE_wire (before : Bytes) (value : T) (rest : Bytes) {offset : Nat}
    (here : before.length = offset) :
    readLE T native (before ++ (wire native value ++ rest)) offset =
      some (value, offset + Integral.size T) := by
  subst here
  have length := length_wire native value
  have enough : ¬ (before ++ (wire native value ++ rest)).length <
      before.length + Integral.size T := by
    simp only [List.length_append, length]
    omega
  have taken : ((before ++ (wire native value ++ rest)).drop before.length).take
      (Integral.size T) = wire native value := by
    rw [List.drop_left, ← length, List.take_left]
  unfold readLE
  rw [if_neg enough, taken]
  simp only [wire, LawfulIntegral.ofMemory_toMemory, littleToHost_hostToLittle]

/-- An integer at the front of what is left is read, and the rest is left. -/
theorem readLE_front {bytes : Bytes} {offset : Nat} {value : T} {rest : Bytes} (next : Nat)
    (here : bytes.drop offset = wire native value ++ rest) (step : offset + Integral.size T = next) :
    readLE T native bytes offset = some (value, next) ∧ bytes.drop next = rest := by
  subst step
  have length := length_wire native value
  have positive := LawfulIntegral.size_pos (T := T)
  have enough : ¬ bytes.length < offset + Integral.size T := by
    have room := congrArg List.length here
    rw [List.length_drop, List.length_append, length] at room
    omega
  have taken : (bytes.drop offset).take (Integral.size T) = wire native value := by
    rw [here, ← length, List.take_left]
  constructor
  · unfold readLE
    rw [if_neg enough, taken]
    simp only [wire, LawfulIntegral.ofMemory_toMemory, littleToHost_hostToLittle]
  · rw [← List.drop_drop, here, ← length, List.drop_left]

theorem wire_raw (type : MessageType) : wire native type = wire native type.raw := by
  cases native <;> rfl

end

/-! ### The header -/

theorem serializeHeader_eq (native : Endian) (header : Header) :
    serializeHeader native header = protocolSign ++ wire native header.type.raw ++
      wire native header.flags ++ wire native header.number ++ wire native header.length := by
  simp only [serializeHeader, writeLE_eq, wire_raw]
  rfl

theorem length_serializeHeader (native : Endian) (header : Header) :
    (serializeHeader native header).length = 18 := by
  rw [serializeHeader_eq]
  simp only [List.length_append, length_wire]
  rfl

/-- A header is read back from the front of its datagram. -/
theorem deserializeHeader_serializeHeader (native : Endian) (header : Header) (payload : Bytes) :
    deserializeHeader native (serializeHeader native header ++ payload) = some header := by
  have long : ¬ (serializeHeader native header ++ payload).length < 18 := by
    rw [List.length_append, length_serializeHeader]
    omega
  have signed : (serializeHeader native header ++ payload).take signLength =
      protocolSign.take signLength := by
    rw [serializeHeader_eq]
    rfl
  have layout : serializeHeader native header ++ payload =
      protocolSign ++ (wire native header.type.raw ++ (wire native header.flags ++
        (wire native header.number ++ (wire native header.length ++ payload)))) := by
    simp only [serializeHeader_eq, List.append_assoc]
  have type : readLE UInt16 native (serializeHeader native header ++ payload) signLength =
      some (header.type.raw, 10) := by
    rw [layout]
    exact readLE_wire native protocolSign _ _ rfl
  have flags : readLE UInt16 native (serializeHeader native header ++ payload) 10 =
      some (header.flags, 12) := by
    rw [layout, ← List.append_assoc]
    exact readLE_wire native _ _ _ (by simp only [List.length_append, length_wire]; rfl)
  have number : readLE UInt32 native (serializeHeader native header ++ payload) 12 =
      some (header.number, 16) := by
    rw [layout, ← List.append_assoc, ← List.append_assoc]
    exact readLE_wire native _ _ _ (by simp only [List.length_append, length_wire]; rfl)
  have length : readLE UInt16 native (serializeHeader native header ++ payload) 16 =
      some (header.length, 18) := by
    rw [layout, ← List.append_assoc, ← List.append_assoc, ← List.append_assoc]
    exact readLE_wire native _ _ _ (by simp only [List.length_append, length_wire]; rfl)
  unfold deserializeHeader
  rw [if_neg long, if_neg (not_not.mpr signed), type]
  simp only [Option.bind_eq_bind, Option.bind_some, flags, number, length]

end OpenDTP.Protocol
