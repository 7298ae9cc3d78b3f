import OpenDTP.Client.State
import OpenDTP.Sha256

/-! The methods of the client and the handlers it registers, as programs over its atomic
operations. `native` is the byte order of the host. The lambdas passed to asio are named after the
operation they complete. -/

namespace OpenDTP.Client
open Common Protocol Effects Effects.Program

abbrev Method := Program Op

/-- `std::lock_guard`: the mutex is released however the scope is left. -/
def locked {α : Type} (mutex : Mutex) (scope : Method α) : Method α := do
  perform (.lock mutex)
  let outcome ← scope.attempt
  perform (.unlock mutex)
  ofOutcome outcome

/-- Calls a hook that is known to be assigned. -/
def invoke (callback : Callback) : Method Unit := do
  perform (.beginCallback callback)
  let outcome ← perform (.endCallback callback)
  ofOutcome outcome

/-- `if (hook) hook(...)`. -/
def report (callback : Callback) : Method Unit := do
  if ← perform (.hasHook callback.hook) then
    invoke callback

section

variable (native : Endian)

def transmitRaw (type : MessageType) (flag : UInt16) (payload : Bytes) : Method Unit := do
  perform (.note (.passed type flag payload))
  locked .writeMutex do
    if !(← perform .isOpen) then
      pure ()
    else
      let isRealTime := flag &&& MessageFlag.realTime1 ≠ 0
      let seqNum ← perform (.takeSeq isRealTime)
      let h : Header := ⟨type, flag, seqNum, UInt16.ofNat payload.length⟩
      let packet := serializeHeader native h ++ payload
      let serverEndpoint ← perform .readServerEndpoint
      let ec ← perform (.sendTo packet serverEndpoint)
      if ec ≠ .success then
        perform (.writeLastError .socketIo)
        report (.onError .socketIo ("Socket write error: " ++ ec.message))

def sendKeepAlive : Method Unit := do
  let (dmrId, description) ← perform .readIdentity
  let payload := serializeVersionData native ⟨dmrId, .openTerminal, description⟩
  transmitRaw native .keepAlive MessageFlag.none payload

def stopKeepAliveTimer : Method Unit := perform (.cancelTimer .keepAliveTimer)

def startKeepAliveTimer : Method Unit := do
  if (← perform .loadState) ≠ .connected then
    pure ()
  else
    perform (.expiresAfter .keepAliveTimer (keepAliveIntervalSec * 1000))
    let outcome ← perform (.asyncWait .keepAliveTimer)
    ofOutcome outcome

def startReceiveLoop : Method Unit := do
  if (← perform .loadState) = .disconnected then
    pure ()
  else if !(← perform .isOpen) then
    pure ()
  else
    perform .asyncReceiveFrom

/-- CLOSE is sent through an open socket, and nothing that goes wrong is passed on. -/
def sendClose : Method Unit := do
  if ← perform .isOpen then
    (transmitRaw native .close MessageFlag.none []).tryCatch (fun _ => pure ())

/-- The body of the state check in `Disconnect`. -/
def endSession : Method Unit := do
  perform (.storeState .disconnected)
  sendClose native
  stopKeepAliveTimer
  perform (.cancelTimer .connectTimeoutTimer)
  perform .cancelResolve
  perform .closeSocket
  perform .stop
  if ← perform (.hasHook .onDisconnected) then
    let lastError ← perform .readLastError
    invoke (.onDisconnected lastError)

/-- The join at the end of `Disconnect`. -/
def joinThread : Method Unit := do
  if ← perform .joinable then
    if !(← perform .onIoThread) then
      perform .join

def disconnect : Method Unit := do
  let expected ← perform .loadState
  if expected ≠ .disconnected then
    endSession native
  joinThread

/-! ### Handlers -/

/-- `state_ == CONNECTING || state_ == AUTHENTICATING`, with a second load for the second test. -/
def handshaking : Method Bool := do
  if (← perform .loadState) = .connecting then
    pure true
  else
    let state ← perform .loadState
    pure (state = .authenticating)

/-- Records an error, reports it, and ends the session, as the handlers that hold
`connectionMutex_` do. -/
def failSession (error : ClientError) (message : String) : Method Unit := do
  perform (.writeLastError error)
  report (.onError error message)
  disconnect native
  perform .notifyAll

def connectTimeoutHandler (ec : ErrorCode) : Method Unit := do
  if ec = .operationAborted then
    pure ()
  else
    locked .connectionMutex do
      if ← handshaking then
        failSession native .responseTimeout "Connection timed out during handshake"

def resolveHandler (ec : ErrorCode) (endpoints : List Endpoint) : Method Unit :=
  locked .connectionMutex do
    if (← perform .loadState) ≠ .connecting then
      pure ()
    else if ec ≠ .success ∨ endpoints = [] then
      let errMsg := if ec ≠ .success then ec.message else "No endpoints resolved"
      failSession native .dnsResolve ("DNS resolution failed: " ++ errMsg)
    else
      let endpoint := endpoints.headD ⟨[], 0⟩
      perform (.writeServerEndpoint endpoint)
      let openEc ← perform (.openSocket endpoint.isV6)
      if openEc ≠ .success then
        failSession native .socketIo ("Failed to open socket: " ++ openEc.message)
      else
        let bindEc ← perform (.bindSocket endpoint.isV6)
        if bindEc ≠ .success then
          failSession native .socketIo ("Failed to bind socket: " ++ bindEc.message)
        else
          startReceiveLoop
          sendKeepAlive native

def keepAliveHandler (ec : ErrorCode) : Method Unit := do
  if ec = .operationAborted then
    pure ()
  else if (← perform .loadState) ≠ .connected then
    pure ()
  else
    sendKeepAlive native
    startKeepAliveTimer

/-- The voice header fields of a received link control block. -/
def voiceHeaderOf (payload : Bytes) : Callback :=
  let byte (i : Nat) : UInt32 := (payload.getD i 0).toUInt32
  let destId := (byte 3 <<< 16) ||| (byte 4 <<< 8) ||| byte 5
  let srcId := (byte 6 <<< 16) ||| (byte 7 <<< 8) ||| byte 8
  .onVoiceHeader srcId destId ((payload.getD 0 0 &&& 0x3F) ≠ 0x03)

/-- The branches of the dispatcher that only hand a decoded payload to a hook; `none` when the
payload does not decode or the type is not one of these. -/
def deliver (type : MessageType) (number : UInt32) (payload : Bytes) : Option Callback :=
  if type = .report then some (.onDebugReport payload)
  else if type = .messageText then
    (deserializeTextMessage native payload).map fun text =>
      .onTextMessage ⟨text.sourceId, text.destinationId, text.isGroup, text.text⟩
  else if type = .messageStatus then
    (deserializeTextMessageStatus native payload).map fun status =>
      .onTextMessageStatus status.sourceId status.destinationId status.status
  else if type = .locationRequest then
    (deserializeLocationRequest native payload).map fun request =>
      .onLocationRequest request.type request.interval
  else if type = .locationReport then
    (deserializeLocationReport native payload).map .onLocationReport
  else if type = .voiceHeader then
    if 12 ≤ payload.length then some (voiceHeaderOf payload) else none
  else if type = .voiceTerminator then some .onVoiceTerminator
  else if type = .dmrAudioFrame then some (.onAudioFrame ⟨number, payload⟩)
  else none

def processPacket (packet : Bytes) : Method Unit :=
  match deserializeHeader native packet with
  | none => pure ()
  | some header => do
    if packet.length < 18 + header.length.toNat then
      pure ()
    else
      let payload := (packet.drop 18).take header.length.toNat
      if header.type = .challenge then
        if (← perform .loadState) = .connecting then
          perform (.storeState .authenticating)
          let password ← perform .readPassword
          let digest := Sha256.sha256 (payload ++ password)
          transmitRaw native .authentication MessageFlag.none digest
      else if header.type = .keepAlive then
        if header.length = 0 then
          if (← perform .loadState) = .authenticating then
            perform (.storeState .connected)
            perform (.cancelTimer .connectTimeoutTimer)
            startKeepAliveTimer
            locked .connectionMutex (perform .notifyAll)
            report .onConnected
      else
        match deliver native header.type header.number payload with
        | none => pure ()
        | some callback => report callback

def handleReceive (ec : ErrorCode) (bytesTransferred : Nat) : Method Unit := do
  if (← perform .loadState) = .disconnected then
    pure ()
  else if ec ≠ .success then
    if ec ≠ .operationAborted then
      perform (.writeLastError .socketIo)
      report (.onError .socketIo ("Socket read error: " ++ ec.message))
      disconnect native
  else
    if 0 < bytesTransferred then
      let sender ← perform .readSenderEndpoint
      let server ← perform .readServerEndpoint
      let packet ← perform (.readBuffer bytesTransferred)
      perform (.note (.inspected sender server packet))
      if sender = server then
        processPacket native packet
    startReceiveLoop

/-- The handler of an operation, with what its completion hands over. -/
def handler (kind : Kind) (completion : Completion) : Method Unit :=
  match kind with
  | .connectTimeout => connectTimeoutHandler native completion.ec
  | .resolve => resolveHandler native completion.ec completion.endpoints
  | .receive => handleReceive native completion.ec completion.bytesTransferred
  | .keepAlive => keepAliveHandler native completion.ec

/-! ### Public methods -/

/-- The body of the try block of `Connect`; the work guard lives as long as its scope. -/
def startUp (host : String) (port : UInt16) (timeoutMs : UInt32) : Method Unit := do
  perform .restart
  perform .makeWorkGuard
  let outcome ← attempt do
    let thread ← perform .startThread
    ofOutcome thread
    perform (.storeState .connecting)
    perform (.expiresAfter .connectTimeoutTimer timeoutMs)
    let wait ← perform (.asyncWait .connectTimeoutTimer)
    ofOutcome wait
    let resolve ← perform (.asyncResolve host port)
    ofOutcome resolve
  perform .dropWorkGuard
  ofOutcome outcome

def connect (host : String) (port : UInt16) (password : Bytes) (timeoutMs : UInt32) :
    Method ClientError :=
  locked .connectionMutex do
    if (← perform .loadState) ≠ .disconnected then
      pure .alreadyConnected
    else
      perform (.accept password)
      perform (.writePassword password)
      perform (.resetSeq false)
      perform (.resetSeq true)
      perform (.storeInCall false)
      perform (.writeLastError .success)
      match ← (startUp host port timeoutMs).attempt with
      | .ok _ => pure .success
      | .error what =>
        perform (.storeState .disconnected)
        report (.onError .socketIo ("Socket error during connection startup: " ++ what))
        pure .socketIo

/-- `state_ == CONNECTED || state_ == DISCONNECTED`, the predicate `ConnectSync` waits for. -/
def settled : Method Bool := do
  if (← perform .loadState) = .connected then
    pure true
  else
    let state ← perform .loadState
    pure (state = .disconnected)

/-- One evaluation of the predicate by a waiting `ConnectSync`, under the lock: its result when the
predicate holds, nothing when the thread blocks. -/
def awaitConnection : Method (Option ClientError) :=
  locked .connectionMutex do
    if ← settled then
      if (← perform .loadState) ≠ .connected then
        let lastError ← perform .readLastError
        pure (some (if lastError ≠ .success then lastError else .responseTimeout))
      else
        pure (some .success)
    else
      pure none

/-- Runs `body` if the client is connected. -/
def whenConnected (body : Method Unit) : Method Unit := do
  if (← perform .loadState) ≠ .connected then
    pure ()
  else
    body

/-- Runs `body` if the client is connected and in a call. -/
def whenInCall (body : Method Unit) : Method Unit :=
  whenConnected do
    if !(← perform .loadInCall) then
      pure ()
    else
      body

def subscribe (talkgroup : UInt32) : Method Unit :=
  whenConnected <|
    transmitRaw native .subscription MessageFlag.none
      (serializeSubscription native ⟨sessionTypeGroupVoice, talkgroup⟩)

def unsubscribe (talkgroup : UInt32) : Method Unit :=
  whenConnected <|
    transmitRaw native .cancelling MessageFlag.none
      (serializeSubscription native ⟨sessionTypeGroupVoice, talkgroup⟩)

/-- The twelve bytes of the voice header: the call type, both ids in big-endian order, no CRC. -/
def linkControl (sourceId destinationId : UInt32) (isGroup : Bool) : Bytes :=
  [if isGroup then 0x00 else 0x03, 0x00, 0x00,
    ((destinationId >>> 16) &&& 0xFF).toUInt8, ((destinationId >>> 8) &&& 0xFF).toUInt8,
    (destinationId &&& 0xFF).toUInt8,
    ((sourceId >>> 16) &&& 0xFF).toUInt8, ((sourceId >>> 8) &&& 0xFF).toUInt8,
    (sourceId &&& 0xFF).toUInt8,
    0x00, 0x00, 0x00]

def startVoiceCall (sourceId destinationId : UInt32) (isGroup : Bool) : Method Unit :=
  whenConnected do
    perform (.storeInCall true)
    perform (.resetSeq true)
    let header := linkControl sourceId destinationId isGroup
    transmitRaw native .voiceHeader MessageFlag.realTime1 header
    transmitRaw native .voiceHeader MessageFlag.realTime1 header
    transmitRaw native .voiceHeader MessageFlag.realTime1 header

def sendAudioFrame (ambeData : Bytes) : Method Unit :=
  whenInCall <| transmitRaw native .dmrAudioFrame MessageFlag.realTime1 ambeData

def endVoiceCall : Method Unit :=
  whenInCall do
    transmitRaw native .voiceTerminator MessageFlag.realTime1 []
    perform (.storeInCall false)

def sendTextMessage (destinationId : UInt32) (isGroup : Bool) (text : Bytes) : Method Unit :=
  whenConnected do
    let (dmrId, _) ← perform .readIdentity
    let payload := serializeTextMessage native ⟨dmrId, destinationId, isGroup, text⟩
    transmitRaw native .messageText MessageFlag.none payload

def sendLocationReport (nmeaSentence : Bytes) : Method Unit :=
  whenConnected <|
    transmitRaw native .locationReport MessageFlag.none
      (serializeLocationReport native ⟨0, nmeaSentence⟩)

/-- The method a public call names, with the code it returns if it has one. -/
def method : PublicCall → Method (Option ClientError)
  | .connect host port password timeoutMs => some <$> connect host port password timeoutMs
  | .disconnect => do disconnect native; pure none
  | .subscribe talkgroup => do subscribe native talkgroup; pure none
  | .unsubscribe talkgroup => do unsubscribe native talkgroup; pure none
  | .startVoiceCall sourceId destinationId isGroup => do
      startVoiceCall native sourceId destinationId isGroup; pure none
  | .sendAudioFrame ambeData => do sendAudioFrame native ambeData; pure none
  | .endVoiceCall => do endVoiceCall native; pure none
  | .sendTextMessage destinationId isGroup text => do
      sendTextMessage native destinationId isGroup text; pure none
  | .sendLocationReport nmeaSentence => do sendLocationReport native nmeaSentence; pure none

/-- A public call as the application makes it, with its start and its return recorded. -/
def publicCall (call : PublicCall) : Method (Option ClientError) := do
  perform (.note (.called call))
  let result ← method native call
  perform (.note (.returned call result))
  pure result

end

end OpenDTP.Client
