import OpenDTP.Client.Rules

/-! What each method can do, said once: every way it can end with the client it leaves behind.
The errors a method reports and the end of a session are notified by callbacks that leave the
client alone; the other callbacks may change it as `meanwhile` allows. -/

namespace OpenDTP.Client
open Common Protocol Effects Effects.Program

/-- Callbacks that do nothing to the client. -/
def quiet : Meanwhile := fun _ before after => after = before

def Policy.mayThrow (policy : Policy) (c : Client) (hook : Hook) : Prop :=
  c.hooks hook = true ∧ policy.throws hook = true

structure Meanwhile.Settled (meanwhile : Meanwhile) : Prop where
  onError : ∀ {error : ClientError} {message : String} {before after : Client},
    meanwhile (.onError error message) before after ↔ after = before
  onDisconnected : ∀ {reason : ClientError} {before after : Client},
    meanwhile (.onDisconnected reason) before after ↔ after = before

theorem quiet_settled : quiet.Settled where
  onError := Iff.rfl
  onDisconnected := Iff.rfl

/-! ### Pieces -/

section

variable (native : Endian)

/-- The datagram that `TransmitRaw` builds. -/
def packetOf (type : MessageType) (flag : UInt16) (seqNum : UInt32) (payload : Bytes) : Bytes :=
  serializeHeader native ⟨type, flag, seqNum, UInt16.ofNat payload.length⟩ ++ payload

def isRealTime (flag : UInt16) : Bool := flag &&& MessageFlag.realTime1 ≠ 0

def nextSeq (flag : UInt16) (c : Client) : UInt32 :=
  if isRealTime flag then c.realTimeSeq else c.routineSeq

/-- The call of a hook, if it is assigned. -/
def announcement (callback : Callback) (c : Client) : List Event :=
  if c.hooks callback.hook then [.invoked callback] else []

/-- What `send_to` leaves behind: the datagram, and the report of a failure. -/
def sending (type : MessageType) (flag : UInt16) (payload : Bytes) (ec : ErrorCode) (c : Client) :
    List Event :=
  .sent (packetOf native type flag (nextSeq flag c) payload) c.serverEndpoint ::
    if ec = .success then []
    else announcement (.onError .socketIo ("Socket write error: " ++ ec.message)) c

def transmitted (type : MessageType) (flag : UInt16) (payload : Bytes) (ec : ErrorCode)
    (c : Client) : Client :=
  { c with
    routineSeq := if c.socketOpen ∧ ¬ isRealTime flag then c.routineSeq + 1 else c.routineSeq
    realTimeSeq := if c.socketOpen ∧ isRealTime flag then c.realTimeSeq + 1 else c.realTimeSeq
    lastError := if c.socketOpen ∧ ec ≠ .success then .socketIo else c.lastError
    log := c.log ++ .passed type flag payload ::
      if c.socketOpen then sending native type flag payload ec c else [] }

inductive Transmits (policy : Policy) (type : MessageType) (flag : UInt16) (payload : Bytes)
    (c : Client) : Outcome Unit → Client → Prop where
  | done (ec : ErrorCode) :
      Transmits policy type flag payload c (.ok ()) (transmitted native type flag payload ec c)
  | threw (ec : ErrorCode) (what : String) (isOpen : c.socketOpen = true) (failed : ec ≠ .success)
      (throws : policy.mayThrow c .onError) :
      Transmits policy type flag payload c (.error what) (transmitted native type flag payload ec c)

/-- What cancelling everything leaves of an operation. -/
def Outstanding.abort (operation : Outstanding) : Outstanding :=
  if operation.completion = none then
    { operation with completion := some { ec := .operationAborted } }
  else operation

/-- `ec` is the result of sending CLOSE, if the socket is open. -/
def saidClose (ec : ErrorCode) (c : Client) : Client :=
  { c with
    routineSeq := if c.socketOpen then c.routineSeq + 1 else c.routineSeq
    lastError := if c.socketOpen ∧ ec ≠ .success then .socketIo else c.lastError
    log := c.log ++ if c.socketOpen then
      .passed .close MessageFlag.none [] :: sending native .close MessageFlag.none [] ec c else [] }

/-- The client as `Disconnect` has stored DISCONNECTED and said CLOSE. -/
def closing (ec : ErrorCode) (c : Client) : Client :=
  saidClose native ec { c with state := .disconnected, log := c.log ++ [.stored .disconnected] }

/-- The client after `Disconnect` has ended a session. -/
def tornDown (ec : ErrorCode) (c : Client) : Client :=
  { closing native ec c with
    operations := c.operations.map Outstanding.abort
    socketOpen := false
    stopped := true
    log := (closing native ec c).log ++
      announcement (.onDisconnected (closing native ec c).lastError) c }

inductive Ended (policy : Policy) (c : Client) : Outcome Unit → Client → Prop where
  | done (ec : ErrorCode) : Ended policy c (.ok ()) (tornDown native ec c)
  | threw (ec : ErrorCode) (what : String) (throws : policy.mayThrow c .onDisconnected) :
      Ended policy c (.error what) (tornDown native ec c)

/-- The end of `Disconnect`: the background thread is joined unless the caller is that thread. -/
inductive Joins (thread : Thread) (c : Client) : Client → Prop where
  | skipped (own : thread = .io ∨ c.ioThread = .none) : Joins thread c c
  | exited (other : thread ≠ .io) (gone : c.ioThread = .exited) :
      Joins thread c { c with ioThread := .none }
  | returned (other : thread ≠ .io) (live : c.ioThread = .running) (returns : c.runReturns = true) :
      Joins thread c { c with ioThread := .none, stopped := true }

inductive Disconnects (policy : Policy) (thread : Thread) (c : Client) :
    Outcome Unit → Client → Prop where
  | idle {after : Client} (down : c.state = .disconnected) (joins : Joins thread c after) :
      Disconnects policy thread c (.ok ()) after
  | ended {middle after : Client} (up : c.state ≠ .disconnected)
      (ended : Ended native policy c (.ok ()) middle) (joins : Joins thread middle after) :
      Disconnects policy thread c (.ok ()) after
  | threw (what : String) {after : Client} (up : c.state ≠ .disconnected)
      (ended : Ended native policy c (.error what) after) :
      Disconnects policy thread c (.error what) after

def announced (callback : Callback) (c : Client) : Client :=
  { c with log := c.log ++ announcement callback c }

def complained (error : ClientError) (message : String) (c : Client) : Client :=
  announced (.onError error message) { c with lastError := error }

def notified (c : Client) : Client :=
  { c with waits := fun id => (c.waits id).notify, log := c.log ++ [.notified] }

/-- A handler of the background thread that fails the session it finds. -/
inductive Fails (policy : Policy) (error : ClientError) (message : String) (c : Client) :
    Outcome Unit → Client → Prop where
  | threw (what : String) (throws : policy.mayThrow c .onError) :
      Fails policy error message c (.error what) (complained error message c)
  | ended (ec : ErrorCode) :
      Fails policy error message c (.ok ())
        (notified (tornDown native ec (complained error message c)))
  | leftEarly (ec : ErrorCode) (what : String) (throws : policy.mayThrow c .onDisconnected) :
      Fails policy error message c (.error what) (tornDown native ec (complained error message c))

/-- A hook is called if it is assigned, and other things happen while it runs. -/
inductive Reports (policy : Policy) (meanwhile : Meanwhile) (callback : Callback) (c : Client) :
    Outcome Unit → Client → Prop where
  | unset (none : c.hooks callback.hook = false) : Reports policy meanwhile callback c (.ok ()) c
  | done {after : Client} (assigned : c.hooks callback.hook = true)
      (ran : meanwhile callback { c with log := c.log ++ [.invoked callback] } after) :
      Reports policy meanwhile callback c (.ok ()) after
  | threw (what : String) {after : Client} (throws : policy.mayThrow c callback.hook)
      (ran : meanwhile callback { c with log := c.log ++ [.invoked callback] } after) :
      Reports policy meanwhile callback c (.error what) after

def handshakes (c : Client) : Prop := c.state = .connecting ∨ c.state = .authenticating

instance (c : Client) : Decidable c.handshakes := inferInstanceAs (Decidable (_ ∨ _))

inductive TimesOut (policy : Policy) (ec : ErrorCode) (c : Client) :
    Outcome Unit → Client → Prop where
  | inert (idle : ec = .operationAborted ∨ ¬ c.handshakes) : TimesOut policy ec c (.ok ()) c
  | failed {outcome : Outcome Unit} {after : Client} (fired : ec ≠ .operationAborted)
      (handshakes : c.handshakes)
      (fails : Fails native policy .responseTimeout "Connection timed out during handshake" c
        outcome after) : TimesOut policy ec c outcome after

/-- The payload of every keep-alive. -/
def identity (c : Client) : Bytes :=
  serializeVersionData native ⟨c.dmrId, .openTerminal, c.description⟩

/-- The client whose resolver handler has chosen an endpoint and called `open`. -/
def targeted (endpoint : Endpoint) (openEc : ErrorCode) (c : Client) : Client :=
  { c with serverEndpoint := endpoint, log := c.log ++ [.opened openEc] }

/-- The client whose resolver handler has an open socket and has called `bind`. -/
def opened (endpoint : Endpoint) (bindEc : ErrorCode) (c : Client) : Client :=
  { c with
    serverEndpoint := endpoint
    socketOpen := true
    log := c.log ++ [.opened .success] ++ [.bound bindEc] }

/-- The client with a new receive operation. -/
def receiving (c : Client) : Client :=
  { c with operations := c.operations ++ [⟨.receive, c.session, none⟩] }

inductive Resolves (policy : Policy) (ec : ErrorCode) (endpoints : List Endpoint) (c : Client) :
    Outcome Unit → Client → Prop where
  | inert (idle : c.state ≠ .connecting) : Resolves policy ec endpoints c (.ok ()) c
  | unresolved (message : String) {outcome : Outcome Unit} {after : Client}
      (connecting : c.state = .connecting) (failed : ec ≠ .success ∨ endpoints = [])
      (fails : Fails native policy .dnsResolve message c outcome after) :
      Resolves policy ec endpoints c outcome after
  | unopened (endpoint : Endpoint) (openEc : ErrorCode) (message : String) {outcome : Outcome Unit}
      {after : Client} (connecting : c.state = .connecting) (resolved : ec = .success)
      (failed : openEc ≠ .success)
      (fails : Fails native policy .socketIo message (targeted endpoint openEc c) outcome after) :
      Resolves policy ec endpoints c outcome after
  | unbound (endpoint : Endpoint) (bindEc : ErrorCode) (message : String) {outcome : Outcome Unit}
      {after : Client} (connecting : c.state = .connecting) (resolved : ec = .success)
      (shut : c.socketOpen = false) (failed : bindEc ≠ .success)
      (fails : Fails native policy .socketIo message (opened endpoint bindEc c) outcome after) :
      Resolves policy ec endpoints c outcome after
  | started (endpoint : Endpoint) {outcome : Outcome Unit} {after : Client}
      (connecting : c.state = .connecting) (resolved : ec = .success) (found : endpoints ≠ [])
      (shut : c.socketOpen = false)
      (transmits : Transmits native policy .keepAlive MessageFlag.none (identity native c)
        (receiving (opened endpoint .success c)) outcome after) :
      Resolves policy ec endpoints c outcome after

/-- The client with a new wait of the keep-alive timer. -/
def armed (c : Client) : Client :=
  { c with
    operations := c.operations.map (·.cancel .keepAlive) ++ [⟨.keepAlive, c.session, none⟩] }

inductive KeepsAlive (policy : Policy) (ec : ErrorCode) (c : Client) :
    Outcome Unit → Client → Prop where
  | inert (idle : ec = .operationAborted ∨ c.state ≠ .connected) :
      KeepsAlive policy ec c (.ok ()) c
  | threw {what : String} {after : Client} (connected : c.state = .connected)
      (transmits : Transmits native policy .keepAlive MessageFlag.none (identity native c) c
        (.error what) after) : KeepsAlive policy ec c (.error what) after
  | beat {middle : Client} (connected : c.state = .connected)
      (transmits : Transmits native policy .keepAlive MessageFlag.none (identity native c) c
        (.ok ()) middle) : KeepsAlive policy ec c (.ok ()) (armed middle)

/-- The header and the payload of a well-formed datagram. -/
def wellFormed (packet : Bytes) : Option (Header × Bytes) :=
  match deserializeHeader native packet with
  | none => none
  | some header =>
    if packet.length < 18 + header.length.toNat then none
    else some (header, (packet.drop 18).take header.length.toNat)

/-- A datagram the dispatcher acts on in no way. -/
def Dull (packet : Bytes) (c : Client) : Prop :=
  match wellFormed native packet with
  | none => True
  | some (header, payload) =>
    if header.type = .challenge then c.state ≠ .connecting
    else if header.type = .keepAlive then header.length ≠ 0 ∨ c.state ≠ .authenticating
    else
      match deliver native header.type header.number payload with
      | none => True
      | some callback => c.hooks callback.hook = false

/-- The digest sent in answer to a challenge. -/
def answerTo (salt : Bytes) (c : Client) : Bytes := Sha256.sha256 (salt ++ c.password)

def challenged (c : Client) : Client :=
  { c with state := .authenticating, log := c.log ++ [.stored .authenticating] }

def welcomed (c : Client) : Client :=
  { c with
    state := .connected
    operations := ((c.operations.map (·.cancel .connectTimeout)).map (·.cancel .keepAlive)) ++
      [⟨.keepAlive, c.session, none⟩]
    waits := fun id => (c.waits id).notify
    log := c.log ++ [.stored .connected, .notified] }

inductive Processes (policy : Policy) (meanwhile : Meanwhile) (packet : Bytes) (c : Client) :
    Outcome Unit → Client → Prop where
  | ignored (dull : Dull native packet c) : Processes policy meanwhile packet c (.ok ()) c
  | answered {header : Header} {salt : Bytes} {outcome : Outcome Unit} {after : Client}
      (parsed : wellFormed native packet = some (header, salt)) (isChallenge : header.type = .challenge)
      (connecting : c.state = .connecting)
      (transmits : Transmits native policy .authentication MessageFlag.none (answerTo salt c)
        (challenged c) outcome after) : Processes policy meanwhile packet c outcome after
  | admitted {header : Header} {payload : Bytes} {outcome : Outcome Unit} {after : Client}
      (parsed : wellFormed native packet = some (header, payload))
      (isKeepAlive : header.type = .keepAlive) (isEmpty : header.length = 0)
      (authenticating : c.state = .authenticating)
      (reports : Reports policy meanwhile .onConnected (welcomed c) outcome after) :
      Processes policy meanwhile packet c outcome after
  | delivered {header : Header} {payload : Bytes} {callback : Callback} {outcome : Outcome Unit}
      {after : Client} (parsed : wellFormed native packet = some (header, payload))
      (decoded : deliver native header.type header.number payload = some callback)
      (assigned : c.hooks callback.hook = true)
      (reports : Reports policy meanwhile callback c outcome after) :
      Processes policy meanwhile packet c outcome after

/-- The end of `HandleReceive`. -/
def resumed (c : Client) : Client :=
  if c.state = .disconnected ∨ c.socketOpen = false then c else receiving c

def inspected (packet : Bytes) (c : Client) : Client :=
  { c with log := c.log ++ [.inspected c.senderEndpoint c.serverEndpoint packet] }

inductive Receives (policy : Policy) (meanwhile : Meanwhile) (ec : ErrorCode)
    (bytesTransferred : Nat) (c : Client) : Outcome Unit → Client → Prop where
  | inert (idle : c.state = .disconnected ∨ ec = .operationAborted) :
      Receives policy meanwhile ec bytesTransferred c (.ok ()) c
  | complaintThrew (message what : String) (up : c.state ≠ .disconnected) (failed : ec ≠ .success)
      (real : ec ≠ .operationAborted) (throws : policy.mayThrow c .onError) :
      Receives policy meanwhile ec bytesTransferred c (.error what) (complained .socketIo message c)
  | broke (message : String) {outcome : Outcome Unit} {after : Client}
      (up : c.state ≠ .disconnected) (failed : ec ≠ .success) (real : ec ≠ .operationAborted)
      (ended : Ended native policy (complained .socketIo message c) outcome after) :
      Receives policy meanwhile ec bytesTransferred c outcome after
  | empty (up : c.state ≠ .disconnected) (arrived : ec = .success) (none : bytesTransferred = 0) :
      Receives policy meanwhile ec bytesTransferred c (.ok ()) (resumed c)
  | foreign (up : c.state ≠ .disconnected) (arrived : ec = .success) (some : 0 < bytesTransferred)
      (other : c.senderEndpoint ≠ c.serverEndpoint) :
      Receives policy meanwhile ec bytesTransferred c (.ok ())
        (resumed (inspected (c.receiveBuffer.take bytesTransferred) c))
  | processed {middle : Client} (up : c.state ≠ .disconnected) (arrived : ec = .success)
      (some : 0 < bytesTransferred) (own : c.senderEndpoint = c.serverEndpoint)
      (processes : Processes native policy meanwhile (c.receiveBuffer.take bytesTransferred)
        (inspected (c.receiveBuffer.take bytesTransferred) c) (.ok ()) middle) :
      Receives policy meanwhile ec bytesTransferred c (.ok ()) (resumed middle)
  | threw {what : String} {after : Client} (up : c.state ≠ .disconnected) (arrived : ec = .success)
      (some : 0 < bytesTransferred) (own : c.senderEndpoint = c.serverEndpoint)
      (processes : Processes native policy meanwhile (c.receiveBuffer.take bytesTransferred)
        (inspected (c.receiveBuffer.take bytesTransferred) c) (.error what) after) :
      Receives policy meanwhile ec bytesTransferred c (.error what) after

inductive Handles (policy : Policy) (meanwhile : Meanwhile) (completion : Completion) (c : Client) :
    Kind → Outcome Unit → Client → Prop where
  | connectTimeout {outcome : Outcome Unit} {after : Client}
      (ran : TimesOut native policy completion.ec c outcome after) :
      Handles policy meanwhile completion c .connectTimeout outcome after
  | resolve {outcome : Outcome Unit} {after : Client}
      (ran : Resolves native policy completion.ec completion.endpoints c outcome after) :
      Handles policy meanwhile completion c .resolve outcome after
  | receive {outcome : Outcome Unit} {after : Client}
      (ran : Receives native policy meanwhile completion.ec completion.bytesTransferred c
        outcome after) : Handles policy meanwhile completion c .receive outcome after
  | keepAlive {outcome : Outcome Unit} {after : Client}
      (ran : KeepsAlive native policy completion.ec c outcome after) :
      Handles policy meanwhile completion c .keepAlive outcome after

/-! ### Public calls -/

/-- A new session, before its thread is started. -/
def accepted (password : Bytes) (c : Client) : Client :=
  { c with
    password := password
    routineSeq := 0
    realTimeSeq := 0
    inCall := false
    lastError := .success
    stopped := false
    workGuard := false
    session := c.session + 1
    log := c.log ++ [.accepted password] }

/-- The thread runs and the session is CONNECTING; the timeout of an earlier session is cancelled. -/
def started (c : Client) : Client :=
  { c with
    ioThread := .running
    state := .connecting
    operations := c.operations.map (·.cancel .connectTimeout)
    log := c.log ++ [.started] ++ [.stored .connecting] }

def timed (c : Client) : Client :=
  { c with operations := c.operations ++ [⟨.connectTimeout, c.session, none⟩] }

def launched (c : Client) : Client :=
  { c with operations := c.operations ++ [⟨.resolve, c.session, none⟩] }

/-- How far a startup came that threw: no thread, no timer, or no resolution. -/
inductive Stalls (c : Client) : Client → Prop where
  | noThread : Stalls c c
  | noTimer (idle : c.ioThread = .none) : Stalls c (started c)
  | noResolve (idle : c.ioThread = .none) : Stalls c (timed (started c))

/-- The catch clause of `Connect`. -/
def abandoned (what : String) (c : Client) : Client :=
  announced (.onError .socketIo ("Socket error during connection startup: " ++ what))
    { c with state := .disconnected, log := c.log ++ [.stored .disconnected] }

inductive Connects (policy : Policy) (password : Bytes) (c : Client) :
    Outcome ClientError → Client → Prop where
  | rejected (up : c.state ≠ .disconnected) :
      Connects policy password c (.ok .alreadyConnected) c
  | begun (down : c.state = .disconnected) (idle : c.ioThread = .none) :
      Connects policy password c (.ok .success) (launched (timed (started (accepted password c))))
  | failed (what : String) {middle : Client} (down : c.state = .disconnected)
      (throws : policy.startupThrows = true) (stalls : Stalls (accepted password c) middle) :
      Connects policy password c (.ok .socketIo) (abandoned what middle)
  | threw (what other : String) {middle : Client} (down : c.state = .disconnected)
      (throws : policy.startupThrows = true) (stalls : Stalls (accepted password c) middle)
      (complaintThrows : policy.mayThrow c .onError) :
      Connects policy password c (.error other) (abandoned what middle)

/-- The messages the application sends through a connected client, with their flags. -/
inductive Application : MessageType → UInt16 → Prop where
  | subscription : Application .subscription MessageFlag.none
  | cancelling : Application .cancelling MessageFlag.none
  | voiceHeader : Application .voiceHeader MessageFlag.realTime1
  | dmrAudioFrame : Application .dmrAudioFrame MessageFlag.realTime1
  | voiceTerminator : Application .voiceTerminator MessageFlag.realTime1
  | messageText : Application .messageText MessageFlag.none
  | locationReport : Application .locationReport MessageFlag.none

/-- What a sending call does, one message or one change of the voice call after another. -/
inductive Sends (policy : Policy) : Client → Outcome Unit → Client → Prop where
  | done (c : Client) : Sends policy c (.ok ()) c
  | inCall {c after : Client} {outcome : Outcome Unit} (value : Bool)
      (rest : Sends policy { c with inCall := value } outcome after) : Sends policy c outcome after
  | recount {c after : Client} {outcome : Outcome Unit}
      (rest : Sends policy { c with realTimeSeq := 0 } outcome after) : Sends policy c outcome after
  | passed {c middle after : Client} {outcome : Outcome Unit} {type : MessageType} {flag : UInt16}
      {payload : Bytes} (application : Application type flag) (connected : c.state = .connected)
      (transmits : Transmits native policy type flag payload c (.ok ()) middle)
      (rest : Sends policy middle outcome after) : Sends policy c outcome after
  | threw {c after : Client} {what : String} {type : MessageType} {flag : UInt16} {payload : Bytes}
      (application : Application type flag) (connected : c.state = .connected)
      (transmits : Transmits native policy type flag payload c (.error what) after) :
      Sends policy c (.error what) after

inductive Calls (policy : Policy) (thread : Thread) (c : Client) :
    PublicCall → Outcome (Option ClientError) → Client → Prop where
  | connect {host : String} {port : UInt16} {password : Bytes} {timeoutMs : UInt32}
      {outcome : Outcome ClientError} {after : Client}
      (connects : Connects policy password c outcome after) :
      Calls policy thread c (.connect host port password timeoutMs) (some <$> outcome) after
  | disconnect {outcome : Outcome Unit} {after : Client}
      (disconnects : Disconnects native policy thread c outcome after) :
      Calls policy thread c .disconnect ((fun _ => none) <$> outcome) after
  | sends {call : PublicCall} {outcome : Outcome Unit} {after : Client}
      (notConnect : ∀ host port password timeoutMs, call ≠ .connect host port password timeoutMs)
      (notDisconnect : call ≠ .disconnect) (sends : Sends native policy c outcome after) :
      Calls policy thread c call ((fun _ => none) <$> outcome) after

/-- A public call with the records of its start and of its return. -/
inductive Performs (policy : Policy) (thread : Thread) (c : Client) (call : PublicCall) :
    Outcome (Option ClientError) → Client → Prop where
  | returned {result : Option ClientError} {middle : Client}
      (calls : Calls native policy thread { c with log := c.log ++ [.called call] } call (.ok result)
        middle) :
      Performs policy thread c call (.ok result)
        { middle with log := middle.log ++ [.returned call result] }
  | threw {what : String} {after : Client}
      (calls : Calls native policy thread { c with log := c.log ++ [.called call] } call
        (.error what) after) : Performs policy thread c call (.error what) after

end

end OpenDTP.Client
