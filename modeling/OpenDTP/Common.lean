import Mathlib.Logic.Basic

/-! Protocol constants, message types and error codes. A message type arrives from the network
as any 16-bit value, so it is its raw value and the named types are constants. -/

namespace OpenDTP.Common

abbrev Byte := UInt8

/-- A byte string: a payload, a datagram, or the contents of a `std::string`. -/
abbrev Bytes := List Byte

def keepAliveIntervalSec : UInt32 := 5
def signLength : Nat := 8

/-- The signature `REWIND01`. -/
def protocolSign : Bytes := [0x52, 0x45, 0x57, 0x49, 0x4E, 0x44, 0x30, 0x31]

namespace MessageClass

def rewindControl : UInt16 := 0x0000
def systemConsole : UInt16 := 0x0100
def application : UInt16 := 0x0900
def terminal : UInt16 := 0x0A00

end MessageClass

structure MessageType where
  raw : UInt16
  deriving DecidableEq, Repr

namespace MessageType

def keepAlive : MessageType := ⟨MessageClass.rewindControl + 0⟩
def close : MessageType := ⟨MessageClass.rewindControl + 1⟩
def challenge : MessageType := ⟨MessageClass.rewindControl + 2⟩
def authentication : MessageType := ⟨MessageClass.rewindControl + 3⟩
def report : MessageType := ⟨MessageClass.systemConsole + 0⟩
def subscription : MessageType := ⟨MessageClass.application + 0x01⟩
def cancelling : MessageType := ⟨MessageClass.application + 0x02⟩
def dmrDataBase : MessageType := ⟨MessageClass.application + 0x10⟩
def dmrAudioFrame : MessageType := ⟨MessageClass.application + 0x20⟩
def messageText : MessageType := ⟨MessageClass.terminal + 0x10⟩
def messageStatus : MessageType := ⟨MessageClass.terminal + 0x11⟩
def locationReport : MessageType := ⟨MessageClass.terminal + 0x20⟩
def locationRequest : MessageType := ⟨MessageClass.terminal + 0x21⟩

/-- The voice header, `DMR_DATA_BASE + 1`, and the voice terminator, `DMR_DATA_BASE + 2`. -/
def voiceHeader : MessageType := ⟨dmrDataBase.raw + 1⟩
def voiceTerminator : MessageType := ⟨dmrDataBase.raw + 2⟩

end MessageType

namespace MessageFlag

def none : UInt16 := 0
def realTime1 : UInt16 := 1

end MessageFlag

structure ServiceType where
  raw : UInt8
  deriving DecidableEq, Repr

/-- `ServiceRole::APPLICATION + 1`. -/
def ServiceType.openTerminal : ServiceType := ⟨0x20 + 1⟩

def sessionTypeGroupVoice : UInt32 := 7

inductive ClientError where
  | success
  | socketIo
  | wrongAddress
  | wrongData
  | dnsResolve
  | wrongPassword
  | responseTimeout
  | alreadyConnected
  | notConnected
  deriving DecidableEq, Repr

structure TextMessage where
  sourceId : UInt32
  destinationId : UInt32
  isGroup : Bool
  text : Bytes
  deriving DecidableEq, Repr

structure LocationReport where
  format : UInt32 := 0
  nmea : Bytes
  deriving DecidableEq, Repr

structure AudioFrame where
  sequenceNumber : UInt32
  ambeData : Bytes
  deriving DecidableEq, Repr

end OpenDTP.Common
