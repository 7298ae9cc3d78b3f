import OpenDTP.Effects.Execution
import OpenDTP.Protocol

/-! The client object, the asio objects it owns, and the atomic operations its methods are made
of. Two fields are ghosts that no method reads: `session` counts the accepted `Connect` calls and
`log` records what was done, oldest first. -/

namespace OpenDTP.Client
open Common Protocol Effects

inductive State where
  | disconnected
  | connecting
  | authenticating
  | connected
  deriving DecidableEq, Repr

inductive Mutex where
  | connectionMutex
  | writeMutex
  deriving DecidableEq, Repr

inductive Timer where
  | keepAliveTimer
  | connectTimeoutTimer
  deriving DecidableEq, Repr

/-- The background thread that runs the io context, and the threads of the application. -/
inductive Thread where
  | io
  | app (id : Nat)
  deriving DecidableEq, Repr

structure Endpoint where
  address : Bytes
  port : UInt16
  deriving DecidableEq, Repr

/-- `endpoint.protocol()`: an address of sixteen bytes is IPv6. -/
def Endpoint.isV6 (endpoint : Endpoint) : Bool := endpoint.address.length == 16

inductive ErrorCode where
  | success
  | operationAborted
  | failure (text : String)
  deriving DecidableEq, Repr

def ErrorCode.message : ErrorCode → String
  | .success => "Success"
  | .operationAborted => "Operation canceled"
  | .failure text => text

inductive Hook where
  | onConnected
  | onDisconnected
  | onError
  | onDebugReport
  | onTextMessage
  | onTextMessageStatus
  | onLocationRequest
  | onLocationReport
  | onVoiceHeader
  | onAudioFrame
  | onVoiceTerminator
  deriving DecidableEq, Repr

/-- An invocation of a hook with its arguments. -/
inductive Callback where
  | onConnected
  | onDisconnected (reason : ClientError)
  | onError (error : ClientError) (message : String)
  | onDebugReport (report : Bytes)
  | onTextMessage (message : TextMessage)
  | onTextMessageStatus (srcId destId : UInt32) (status : UInt8)
  | onLocationRequest (requestType interval : UInt32)
  | onLocationReport (report : Common.LocationReport)
  | onVoiceHeader (sourceId destinationId : UInt32) (isGroup : Bool)
  | onAudioFrame (frame : AudioFrame)
  | onVoiceTerminator
  deriving DecidableEq, Repr

def Callback.hook : Callback → Hook
  | .onConnected => .onConnected
  | .onDisconnected _ => .onDisconnected
  | .onError _ _ => .onError
  | .onDebugReport _ => .onDebugReport
  | .onTextMessage _ => .onTextMessage
  | .onTextMessageStatus _ _ _ => .onTextMessageStatus
  | .onLocationRequest _ _ => .onLocationRequest
  | .onLocationReport _ => .onLocationReport
  | .onVoiceHeader _ _ _ => .onVoiceHeader
  | .onAudioFrame _ => .onAudioFrame
  | .onVoiceTerminator => .onVoiceTerminator

inductive PublicCall where
  | connect (host : String) (port : UInt16) (password : Bytes) (timeoutMs : UInt32)
  | disconnect
  | subscribe (talkgroup : UInt32)
  | unsubscribe (talkgroup : UInt32)
  | startVoiceCall (sourceId destinationId : UInt32) (isGroup : Bool)
  | sendAudioFrame (ambeData : Bytes)
  | endVoiceCall
  | sendTextMessage (destinationId : UInt32) (isGroup : Bool) (text : Bytes)
  | sendLocationReport (nmeaSentence : Bytes)
  deriving DecidableEq, Repr

/-- The four kinds of asynchronous operation the client starts. -/
inductive Kind where
  | connectTimeout
  | resolve
  | receive
  | keepAlive
  deriving DecidableEq, Repr

def Timer.kind : Timer → Kind
  | .keepAliveTimer => .keepAlive
  | .connectTimeoutTimer => .connectTimeout

/-- What a completed operation hands to its handler. -/
structure Completion where
  ec : ErrorCode := .success
  endpoints : List Endpoint := []
  bytesTransferred : Nat := 0
  deriving DecidableEq, Repr

/-- An operation whose handler has not run. Without a completion it is still pending; with one its
handler is queued. `session` is the session that started it. -/
structure Outstanding where
  kind : Kind
  session : Nat
  completion : Option Completion
  deriving DecidableEq, Repr

/-- `cancel()`: a pending operation completes with `operation_aborted`; a queued one keeps its result. -/
def Outstanding.cancel (kind : Kind) (operation : Outstanding) : Outstanding :=
  if operation.kind = kind ∧ operation.completion = none then
    { operation with completion := some { ec := .operationAborted } }
  else operation

/-- `ioThread_`: no thread, a thread in `run()` between handlers, one inside a handler, or one that
has left `run()` and waits to be joined. -/
inductive IoThread where
  | none
  | running
  | handling
  | exited
  deriving DecidableEq, Repr

/-- A thread's place in `connectionCv_.wait`: outside, about to evaluate the predicate, or blocked. -/
inductive Wait where
  | outside
  | checking
  | blocked
  deriving DecidableEq, Repr

def Wait.notify : Wait → Wait
  | .blocked => .checking
  | wait => wait

inductive Event where
  | called (call : PublicCall)
  | returned (call : PublicCall) (result : Option ClientError)
  | accepted (password : Bytes)
  | started
  | stored (state : State)
  | notified
  | opened (ec : ErrorCode)
  | bound (ec : ErrorCode)
  | inspected (sender server : Endpoint) (packet : Bytes)
  | passed (type : MessageType) (flag : UInt16) (payload : Bytes)
  | sent (packet : Bytes) (destination : Endpoint)
  | invoked (callback : Callback)
  deriving DecidableEq, Repr

end OpenDTP.Client

namespace OpenDTP
open Common Client

structure Client where
  dmrId : UInt32
  description : Bytes
  password : Bytes
  state : State
  connectionMutex : Option Thread
  writeMutex : Option Thread
  waits : Nat → Wait
  lastError : ClientError
  routineSeq : UInt32
  realTimeSeq : UInt32
  inCall : Bool
  stopped : Bool
  workGuard : Bool
  operations : List Outstanding
  socketOpen : Bool
  serverEndpoint : Endpoint
  ioThread : IoThread
  receiveBuffer : Bytes
  senderEndpoint : Endpoint
  hooks : Hook → Bool
  session : Nat
  log : List Event

end OpenDTP

namespace OpenDTP.Client
open Common Protocol Effects

/-- A client after its constructor, with the given hooks assigned. -/
def fresh (dmrId : UInt32) (description : Bytes) (hooks : Hook → Bool) : Client where
  dmrId := dmrId
  description := description
  password := []
  state := .disconnected
  connectionMutex := none
  writeMutex := none
  waits := fun _ => .outside
  lastError := .success
  routineSeq := 0
  realTimeSeq := 0
  inCall := false
  stopped := false
  workGuard := false
  operations := []
  socketOpen := false
  serverEndpoint := ⟨[], 0⟩
  ioThread := .none
  receiveBuffer := List.replicate 1024 0
  senderEndpoint := ⟨[], 0⟩
  hooks := hooks
  session := 0
  log := []

def owner (client : Client) : Mutex → Option Thread
  | .connectionMutex => client.connectionMutex
  | .writeMutex => client.writeMutex

def setOwner (client : Client) (owner : Option Thread) : Mutex → Client
  | .connectionMutex => { client with connectionMutex := owner }
  | .writeMutex => { client with writeMutex := owner }

@[simp] theorem owner_connectionMutex (client : Client) :
    client.owner .connectionMutex = client.connectionMutex := rfl

@[simp] theorem owner_writeMutex (client : Client) :
    client.owner .writeMutex = client.writeMutex := rfl

@[simp] theorem setOwner_connectionMutex (client : Client) (owner : Option Thread) :
    client.setOwner owner .connectionMutex = { client with connectionMutex := owner } := rfl

@[simp] theorem setOwner_writeMutex (client : Client) (owner : Option Thread) :
    client.setOwner owner .writeMutex = { client with writeMutex := owner } := rfl

def record (client : Client) (event : Event) : Client :=
  { client with log := client.log ++ [event] }

def begin (client : Client) (kind : Kind) : Client :=
  { client with operations := client.operations ++ [⟨kind, client.session, none⟩] }

def cancel (client : Client) (kind : Kind) : Client :=
  { client with operations := client.operations.map (·.cancel kind) }

/-- `run()` returns when the context is stopped or has nothing left to do. -/
def runReturns (client : Client) : Bool :=
  client.stopped || (client.operations.isEmpty && !client.workGuard)

/-- The atomic operations: loads and stores of members, locks, and calls into asio. The last two
only write the ghosts: `accept` where `Connect` passes its state check, `note` where a step of
interest begins. -/
inductive Op : Type → Type where
  | loadState : Op State
  | storeState (value : State) : Op Unit
  | loadInCall : Op Bool
  | storeInCall (value : Bool) : Op Unit
  | readIdentity : Op (UInt32 × Bytes)
  | readPassword : Op Bytes
  | writePassword (value : Bytes) : Op Unit
  | readLastError : Op ClientError
  | writeLastError (value : ClientError) : Op Unit
  | resetSeq (realTime : Bool) : Op Unit
  | takeSeq (realTime : Bool) : Op UInt32
  | readServerEndpoint : Op Endpoint
  | writeServerEndpoint (value : Endpoint) : Op Unit
  | readSenderEndpoint : Op Endpoint
  | readBuffer (bytesTransferred : Nat) : Op Bytes
  | lock (mutex : Mutex) : Op Unit
  | unlock (mutex : Mutex) : Op Unit
  | notifyAll : Op Unit
  | restart : Op Unit
  | stop : Op Unit
  | makeWorkGuard : Op Unit
  | dropWorkGuard : Op Unit
  | startThread : Op (Outcome Unit)
  | joinable : Op Bool
  | onIoThread : Op Bool
  | join : Op Unit
  | expiresAfter (timer : Timer) (milliseconds : UInt32) : Op Unit
  | asyncWait (timer : Timer) : Op (Outcome Unit)
  | cancelTimer (timer : Timer) : Op Unit
  | asyncResolve (host : String) (port : UInt16) : Op (Outcome Unit)
  | cancelResolve : Op Unit
  | isOpen : Op Bool
  | openSocket (isV6 : Bool) : Op ErrorCode
  | bindSocket (isV6 : Bool) : Op ErrorCode
  | closeSocket : Op Unit
  | sendTo (packet : Bytes) (destination : Endpoint) : Op ErrorCode
  | asyncReceiveFrom : Op Unit
  | hasHook (hook : Hook) : Op Bool
  | beginCallback (callback : Callback) : Op Unit
  | endCallback (callback : Callback) : Op (Outcome Unit)
  | accept (password : Bytes) : Op Unit
  | note (event : Event) : Op Unit

/-- What the environment decides at one operation: the error code of a socket call, and whether a
startup step or a callback throws. -/
structure Answer where
  ec : ErrorCode := .success
  failure : Option String := none
  deriving DecidableEq, Repr

instance : Inhabited Answer := ⟨{}⟩

/-- Which steps outside the library's own code may throw in the runs considered. -/
structure Policy where
  startupThrows : Bool
  throws : Hook → Bool

/-- The effect of one operation of `thread`. A startup step that throws leaves everything as it was;
a thread is never assigned over a joinable one, since that terminates the program. -/
def step (policy : Policy) (thread : Thread) :
    {β : Type} → Op β → Answer → Client → Option (β × Client)
  | _, .loadState, _, c => some (c.state, c)
  | _, .storeState value, _, c => some ((), { c with state := value }.record (.stored value))
  | _, .loadInCall, _, c => some (c.inCall, c)
  | _, .storeInCall value, _, c => some ((), { c with inCall := value })
  | _, .readIdentity, _, c => some ((c.dmrId, c.description), c)
  | _, .readPassword, _, c => some (c.password, c)
  | _, .writePassword value, _, c => some ((), { c with password := value })
  | _, .readLastError, _, c => some (c.lastError, c)
  | _, .writeLastError value, _, c => some ((), { c with lastError := value })
  | _, .resetSeq realTime, _, c =>
      some ((), if realTime then { c with realTimeSeq := 0 } else { c with routineSeq := 0 })
  | _, .takeSeq realTime, _, c =>
      if realTime then some (c.realTimeSeq, { c with realTimeSeq := c.realTimeSeq + 1 })
      else some (c.routineSeq, { c with routineSeq := c.routineSeq + 1 })
  | _, .readServerEndpoint, _, c => some (c.serverEndpoint, c)
  | _, .writeServerEndpoint value, _, c => some ((), { c with serverEndpoint := value })
  | _, .readSenderEndpoint, _, c => some (c.senderEndpoint, c)
  | _, .readBuffer bytesTransferred, _, c => some (c.receiveBuffer.take bytesTransferred, c)
  | _, .lock mutex, _, c =>
      if c.owner mutex = none then some ((), c.setOwner (some thread) mutex) else none
  | _, .unlock mutex, _, c => some ((), c.setOwner none mutex)
  | _, .notifyAll, _, c =>
      some ((), { c with waits := fun id => (c.waits id).notify }.record .notified)
  | _, .restart, _, c => some ((), { c with stopped := false })
  | _, .stop, _, c => some ((), { c with stopped := true })
  | _, .makeWorkGuard, _, c => some ((), { c with workGuard := true })
  | _, .dropWorkGuard, _, c => some ((), { c with workGuard := false })
  | _, .startThread, answer, c =>
      match answer.failure with
      | some what => if policy.startupThrows then some (.error what, c) else none
      | none =>
          if c.ioThread = .none then some (.ok (), { c with ioThread := .running }.record .started)
          else none
  | _, .joinable, _, c => some (c.ioThread ≠ .none, c)
  | _, .onIoThread, _, c => some (thread = .io, c)
  | _, .join, _, c =>
      if c.ioThread = .exited then some ((), { c with ioThread := .none })
      else if c.ioThread = .running ∧ c.runReturns then
        some ((), { c with ioThread := .none, stopped := true })
      else none
  | _, .expiresAfter timer _, _, c => some ((), c.cancel timer.kind)
  | _, .asyncWait timer, answer, c =>
      match answer.failure with
      | some what =>
          if policy.startupThrows ∧ timer = .connectTimeoutTimer then some (.error what, c) else none
      | none => some (.ok (), c.begin timer.kind)
  | _, .cancelTimer timer, _, c => some ((), c.cancel timer.kind)
  | _, .asyncResolve _ _, answer, c =>
      match answer.failure with
      | some what => if policy.startupThrows then some (.error what, c) else none
      | none => some (.ok (), c.begin .resolve)
  | _, .cancelResolve, _, c => some ((), c.cancel .resolve)
  | _, .isOpen, _, c => some (c.socketOpen, c)
  | _, .openSocket _, answer, c =>
      if answer.ec ≠ .success then some (answer.ec, c.record (.opened answer.ec))
      else if c.socketOpen then none
      else some (.success, { c with socketOpen := true }.record (.opened .success))
  | _, .bindSocket _, answer, c => some (answer.ec, c.record (.bound answer.ec))
  | _, .closeSocket, _, c => some ((), { c.cancel .receive with socketOpen := false })
  | _, .sendTo packet destination, answer, c =>
      if answer.ec = .success ∧ ¬ c.socketOpen then none
      else some (answer.ec, c.record (.sent packet destination))
  | _, .asyncReceiveFrom, _, c => some ((), c.begin .receive)
  | _, .hasHook hook, _, c => some (c.hooks hook, c)
  | _, .beginCallback callback, _, c => some ((), c.record (.invoked callback))
  | _, .endCallback callback, answer, c =>
      match answer.failure with
      | some what => if policy.throws callback.hook then some (.error what, c) else none
      | none => some (.ok (), c)
  | _, .accept password, _, c =>
      some ((), { c with session := c.session + 1 }.record (.accepted password))
  | _, .note event, _, c => some ((), c.record event)

/-- A mutex is taken only when it is free. -/
theorem step_lock {policy : Policy} {thread : Thread} {mutex : Mutex} {answer : Answer}
    {c after : Client} {value : Unit}
    (stepped : step policy thread (.lock mutex) answer c = some (value, after)) :
    c.owner mutex = none ∧ after = c.setOwner (some thread) mutex := by
  simp only [step] at stepped
  split at stepped
  · next free =>
    cases stepped
    exact ⟨free, rfl⟩
  · cases stepped

/-- A callback that ends, thrown or not, changes nothing by itself. -/
theorem step_endCallback {policy : Policy} {thread : Thread} {callback : Callback} {answer : Answer}
    {c after : Client} {value : Outcome Unit}
    (stepped : step policy thread (.endCallback callback) answer c = some (value, after)) :
    after = c := by
  simp only [step] at stepped
  split at stepped
  · split at stepped <;> cases stepped
    rfl
  · cases stepped
    rfl

def semantics (policy : Policy) (thread : Thread) : Semantics Op Answer Client where
  step := step policy thread

end OpenDTP.Client
