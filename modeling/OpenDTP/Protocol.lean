import Mathlib.Data.List.DropRight
import OpenDTP.Common

/-! Serialization of headers and payloads. Integers pass through memory in the byte order of the
host, `native`; the conversions swap bytes on a big-endian host. A reader returns the value and
the advanced offset, or nothing when the bytes run out. -/

namespace OpenDTP.Protocol
open Common

structure Header where
  type : MessageType
  flags : UInt16
  number : UInt32
  length : UInt16
  deriving DecidableEq, Repr

structure VersionData where
  dmrId : UInt32
  service : ServiceType
  description : Bytes
  deriving DecidableEq, Repr

structure SubscriptionData where
  type : UInt32
  number : UInt32
  deriving DecidableEq, Repr

structure SessionPollData where
  type : UInt32
  flag : UInt32
  number : UInt32
  state : UInt32
  deriving DecidableEq, Repr

structure SuperHeader where
  type : UInt32
  sourceId : UInt32
  destinationId : UInt32
  sourceCall : Bytes
  destinationCall : Bytes
  deriving DecidableEq, Repr

structure TextMessageData where
  sourceId : UInt32
  destinationId : UInt32
  isGroup : Bool
  text : Bytes
  deriving DecidableEq, Repr

structure TextMessageStatus where
  sourceId : UInt32
  destinationId : UInt32
  status : UInt8
  deriving DecidableEq, Repr

structure LocationRequest where
  type : UInt32
  interval : UInt32
  deriving DecidableEq, Repr

/-- The byte order of the host, `std::endian::native`. -/
inductive Endian where
  | little
  | big
  deriving DecidableEq, Repr

/-- The integer types that are read and written: their size in bytes, the object representation
that `memcpy` copies, and `ByteSwap` at their width. -/
class Integral (T : Type) where
  size : Nat
  toMemory : Endian → T → Bytes
  ofMemory : Endian → Bytes → T
  byteSwap : T → T

instance : Integral UInt8 where
  size := 1
  toMemory _ value := [value]
  ofMemory _ bytes := bytes.getD 0 0
  byteSwap value := value

instance : Integral UInt16 where
  size := 2
  toMemory
    | .little, value => [value.toUInt8, (value >>> 8).toUInt8]
    | .big, value => [(value >>> 8).toUInt8, value.toUInt8]
  ofMemory
    | .little, bytes => (bytes.getD 0 0).toUInt16 ||| ((bytes.getD 1 0).toUInt16 <<< 8)
    | .big, bytes => ((bytes.getD 0 0).toUInt16 <<< 8) ||| (bytes.getD 1 0).toUInt16
  byteSwap value := (value >>> 8) ||| (value <<< 8)

instance : Integral UInt32 where
  size := 4
  toMemory
    | .little, value =>
        [value.toUInt8, (value >>> 8).toUInt8, (value >>> 16).toUInt8, (value >>> 24).toUInt8]
    | .big, value =>
        [(value >>> 24).toUInt8, (value >>> 16).toUInt8, (value >>> 8).toUInt8, value.toUInt8]
  ofMemory
    | .little, bytes =>
        (bytes.getD 0 0).toUInt32 ||| ((bytes.getD 1 0).toUInt32 <<< 8) |||
          ((bytes.getD 2 0).toUInt32 <<< 16) ||| ((bytes.getD 3 0).toUInt32 <<< 24)
    | .big, bytes =>
        ((bytes.getD 0 0).toUInt32 <<< 24) ||| ((bytes.getD 1 0).toUInt32 <<< 16) |||
          ((bytes.getD 2 0).toUInt32 <<< 8) ||| (bytes.getD 3 0).toUInt32
  byteSwap value :=
    let u : UInt32 := value
    ((u >>> (24 : UInt32)) &&& (0x000000FF : UInt32)) |||
      ((u >>> (8 : UInt32)) &&& (0x0000FF00 : UInt32)) |||
      ((u <<< (8 : UInt32)) &&& (0x00FF0000 : UInt32)) |||
      ((u <<< (24 : UInt32)) &&& (0xFF000000 : UInt32))

/-- An enumeration is written and swapped through its underlying type. -/
instance : Integral MessageType where
  size := Integral.size UInt16
  toMemory native value := Integral.toMemory native value.raw
  ofMemory native bytes := ⟨Integral.ofMemory native bytes⟩
  byteSwap value := ⟨Integral.byteSwap value.raw⟩

def hostToLittle {T : Type} [Integral T] (native : Endian) (value : T) : T :=
  if native = .big then Integral.byteSwap value else value

def littleToHost {T : Type} [Integral T] (native : Endian) (value : T) : T :=
  hostToLittle native value

def writeBytes (buf data : Bytes) : Bytes := buf ++ data

def writeLE {T : Type} [Integral T] (native : Endian) (buf : Bytes) (value : T) : Bytes :=
  writeBytes buf (Integral.toMemory native (hostToLittle native value))

def readLE (T : Type) [Integral T] (native : Endian) (bytes : Bytes) (offset : Nat) :
    Option (T × Nat) :=
  if bytes.length < offset + Integral.size T then none
  else
    let rawVal : T := Integral.ofMemory native ((bytes.drop offset).take (Integral.size T))
    some (littleToHost native rawVal, offset + Integral.size T)

def readBytes (bytes : Bytes) (offset size : Nat) : Option (Bytes × Nat) :=
  if bytes.length < offset + size then none
  else some ((bytes.drop offset).take size, offset + size)

/-! ### Text conversion -/

/-- `(cp << 6) | (byte & 0x3F)`. -/
def continued (cp : UInt32) (byte : Byte) : UInt32 := (cp <<< 6) ||| (byte &&& 0x3F).toUInt32

/-- The units pushed for one decoded code point; none above `0x10FFFF`. -/
def pushUnits (cp : UInt32) : List UInt16 :=
  if cp < 0x10000 then [cp.toUInt16]
  else if cp ≤ 0x10FFFF then
    [(((cp - 0x10000) >>> 10) + 0xD800).toUInt16, (((cp - 0x10000) &&& 0x3FF) + 0xDC00).toUInt16]
  else []

/-- The loop stops at a sequence that the text is too short for, and skips a byte that cannot
start one. -/
def utf8ToUtf16 : Bytes → List UInt16
  | [] => []
  | c :: rest =>
    if c < 0x80 then pushUnits c.toUInt32 ++ utf8ToUtf16 rest
    else if c &&& 0xE0 = 0xC0 then
      match rest with
      | b₁ :: rest => pushUnits (continued (c &&& 0x1F).toUInt32 b₁) ++ utf8ToUtf16 rest
      | _ => []
    else if c &&& 0xF0 = 0xE0 then
      match rest with
      | b₁ :: b₂ :: rest =>
        pushUnits (continued (continued (c &&& 0x0F).toUInt32 b₁) b₂) ++ utf8ToUtf16 rest
      | _ => []
    else if c &&& 0xF8 = 0xF0 then
      match rest with
      | b₁ :: b₂ :: b₃ :: rest =>
        pushUnits (continued (continued (continued (c &&& 0x07).toUInt32 b₁) b₂) b₃) ++
          utf8ToUtf16 rest
      | _ => []
    else utf8ToUtf16 rest

/-- The bytes pushed for one code point. -/
def pushBytes (cp : UInt32) : Bytes :=
  if cp < 0x80 then [cp.toUInt8]
  else if cp < 0x800 then [((cp >>> 6) ||| 0xC0).toUInt8, ((cp &&& 0x3F) ||| 0x80).toUInt8]
  else if cp < 0x10000 then
    [((cp >>> 12) ||| 0xE0).toUInt8, (((cp >>> 6) &&& 0x3F) ||| 0x80).toUInt8,
      ((cp &&& 0x3F) ||| 0x80).toUInt8]
  else
    [((cp >>> 18) ||| 0xF0).toUInt8, (((cp >>> 12) &&& 0x3F) ||| 0x80).toUInt8,
      (((cp >>> 6) &&& 0x3F) ||| 0x80).toUInt8, ((cp &&& 0x3F) ||| 0x80).toUInt8]

def utf16ToUtf8 : List UInt16 → Bytes
  | [] => []
  | unit :: rest =>
    if 0xD800 ≤ unit ∧ unit ≤ 0xDBFF then
      match rest with
      | trail :: after =>
        if 0xDC00 ≤ trail ∧ trail ≤ 0xDFFF then
          pushBytes (((unit.toUInt32 - 0xD800) <<< 10) + (trail.toUInt32 - 0xDC00) + 0x10000) ++
            utf16ToUtf8 after
        else pushBytes unit.toUInt32 ++ utf16ToUtf8 (trail :: after)
      | [] => pushBytes unit.toUInt32
    else pushBytes unit.toUInt32 ++ utf16ToUtf8 rest

/-! ### Serializers -/

section

variable (native : Endian)

def serializeHeader (header : Header) : Bytes :=
  let buf := writeBytes [] (protocolSign.take signLength)
  let buf := writeLE native buf header.type
  let buf := writeLE native buf header.flags
  let buf := writeLE native buf header.number
  writeLE native buf header.length

def serializeVersionData (data : VersionData) : Bytes :=
  let buf := writeLE native [] data.dmrId
  let buf := writeLE native buf data.service.raw
  writeBytes buf data.description

def serializeSubscription (data : SubscriptionData) : Bytes :=
  let buf := writeLE native [] data.type
  writeLE native buf data.number

def serializeSessionPoll (data : SessionPollData) : Bytes :=
  let buf := writeLE native [] data.type
  let buf := writeLE native buf data.flag
  let buf := writeLE native buf data.number
  writeLE native buf data.state

def serializeTextMessage (data : TextMessageData) : Bytes :=
  let utf16Text := utf8ToUtf16 data.text
  let buf := writeLE native [] (0 : UInt32)
  let buf := writeLE native buf data.sourceId
  let buf := writeLE native buf data.destinationId
  let option : UInt16 := if data.isGroup then 128 else 0
  let buf := writeLE native buf option
  let byteLength := UInt16.ofNat (utf16Text.length * 2)
  let buf := writeLE native buf byteLength
  utf16Text.foldl (fun buf val => writeLE native buf val) buf

def serializeLocationReport (data : LocationReport) : Bytes :=
  let buf := writeLE native [] (0 : UInt32)
  let buf := writeLE native buf data.format
  let byteLength := UInt16.ofNat (data.nmea.length + 1)
  let buf := writeLE native buf byteLength
  let buf := writeBytes buf data.nmea
  buf ++ [0]

/-! ### Deserializers -/

def deserializeHeader (bytes : Bytes) : Option Header :=
  if bytes.length < 18 then none
  else if bytes.take signLength ≠ protocolSign.take signLength then none
  else do
    let (typeRaw, offset) ← readLE UInt16 native bytes signLength
    let (flags, offset) ← readLE UInt16 native bytes offset
    let (number, offset) ← readLE UInt32 native bytes offset
    let (length, _) ← readLE UInt16 native bytes offset
    some ⟨⟨typeRaw⟩, flags, number, length⟩

def deserializeVersionData (bytes : Bytes) : Option VersionData :=
  if bytes.length < 5 then none
  else do
    let (dmrId, offset) ← readLE UInt32 native bytes 0
    let (serviceRaw, offset) ← readLE UInt8 native bytes offset
    let description :=
      if offset < bytes.length then (bytes.drop offset).rdropWhile (· == 0) else []
    some ⟨dmrId, ⟨serviceRaw⟩, description⟩

def deserializeSubscription (bytes : Bytes) : Option SubscriptionData :=
  if bytes.length < 8 then none
  else do
    let (type, offset) ← readLE UInt32 native bytes 0
    let (number, _) ← readLE UInt32 native bytes offset
    some ⟨type, number⟩

def deserializeSessionPoll (bytes : Bytes) : Option SessionPollData :=
  if bytes.length < 16 then none
  else do
    let (type, offset) ← readLE UInt32 native bytes 0
    let (flag, offset) ← readLE UInt32 native bytes offset
    let (number, offset) ← readLE UInt32 native bytes offset
    let (state, _) ← readLE UInt32 native bytes offset
    some ⟨type, flag, number, state⟩

/-- The bytes before the first NUL, as `strnlen` bounds them. -/
def untilNul (bytes : Bytes) : Bytes := bytes.takeWhile (· ≠ 0)

def deserializeSuperHeader (bytes : Bytes) : Option SuperHeader :=
  if bytes.length < 32 then none
  else do
    let (type, offset) ← readLE UInt32 native bytes 0
    let (sourceId, offset) ← readLE UInt32 native bytes offset
    let (destinationId, offset) ← readLE UInt32 native bytes offset
    let (srcCall, offset) ← readBytes bytes offset 10
    let (destCall, _) ← readBytes bytes offset 10
    some ⟨type, sourceId, destinationId, untilNul srcCall, untilNul destCall⟩

/-- The loop over the units of a text. -/
def readUnits (bytes : Bytes) : (count offset : Nat) → Option (List UInt16)
  | 0, _ => some []
  | count + 1, offset => do
    let (unit, offset) ← readLE UInt16 native bytes offset
    let rest ← readUnits bytes count offset
    some (unit :: rest)

def deserializeTextMessage (bytes : Bytes) : Option TextMessageData :=
  if bytes.length < 16 then none
  else do
    let (_, offset) ← readLE UInt32 native bytes 0
    let (sourceId, offset) ← readLE UInt32 native bytes offset
    let (destinationId, offset) ← readLE UInt32 native bytes offset
    let (option, offset) ← readLE UInt16 native bytes offset
    let (byteLength, offset) ← readLE UInt16 native bytes offset
    if bytes.length < offset + byteLength.toNat then none
    else do
      let utf16Text ← readUnits native bytes (byteLength.toNat / 2) offset
      some ⟨sourceId, destinationId, option == 128, utf16ToUtf8 utf16Text⟩

def deserializeTextMessageStatus (bytes : Bytes) : Option TextMessageStatus :=
  if bytes.length < 13 then none
  else do
    let (_, offset) ← readLE UInt32 native bytes 0
    let (sourceId, offset) ← readLE UInt32 native bytes offset
    let (destinationId, offset) ← readLE UInt32 native bytes offset
    let (status, _) ← readLE UInt8 native bytes offset
    some ⟨sourceId, destinationId, status⟩

def deserializeLocationRequest (bytes : Bytes) : Option LocationRequest :=
  if bytes.length < 12 then none
  else do
    let (_, offset) ← readLE UInt32 native bytes 0
    let (type, offset) ← readLE UInt32 native bytes offset
    let (interval, _) ← readLE UInt32 native bytes offset
    some ⟨type, interval⟩

def deserializeLocationReport (bytes : Bytes) : Option LocationReport :=
  if bytes.length < 10 then none
  else do
    let (_, offset) ← readLE UInt32 native bytes 0
    let (format, offset) ← readLE UInt32 native bytes offset
    let (byteLength, offset) ← readLE UInt16 native bytes offset
    if bytes.length < offset + byteLength.toNat then none
    else
      let nmea :=
        if 0 < byteLength then untilNul ((bytes.drop offset).take byteLength.toNat) else []
      some ⟨format, nmea⟩

end

end OpenDTP.Protocol
