import OpenDTP.Client.Methods

/-! How the methods are put together: from calls of `TransmitRaw` and from operations that take no
part in sending. What a call of `TransmitRaw` and each of these operations keeps, every method
keeps. -/

namespace OpenDTP.Client
open Common Protocol Effects Effects.Program

/-- The operations that belong to sending. Outside of `TransmitRaw` no method issues one. -/
def Op.isTransmission : {β : Type} → Op β → Bool
  | _, .takeSeq _ | _, .sendTo _ _ | _, .note (.passed _ _ _) | _, .note (.sent _ _) => true
  | _, .lock mutex | _, .unlock mutex => mutex = .writeMutex
  | _, _ => false

inductive Composed (native : Endian) : {α : Type} → Method α → Prop where
  | ret {α : Type} (value : α) : Composed native (.ret value)
  | throw {α : Type} (what : String) : Composed native (.throw what : Method α)
  | perform {β : Type} (operation : Op β) (apart : operation.isTransmission = false) :
      Composed native (Program.perform operation)
  | transmitRaw (type : MessageType) (flag : UInt16) (payload : Bytes) :
      Composed native (transmitRaw native type flag payload)
  | bind {α β : Type} {program : Method α} {rest : α → Method β}
      (first : Composed native program) (next : ∀ value, Composed native (rest value)) :
      Composed native (program >>= rest)
  | attempt {α : Type} {program : Method α} (composed : Composed native program) :
      Composed native program.attempt

namespace Composed

variable {native : Endian} {α : Type}

theorem ofOutcome (outcome : Outcome α) :
    Composed native (Program.ofOutcome outcome : Method α) := by
  cases outcome with
  | ok value => exact .ret value
  | error what => exact .throw what

theorem tryCatch {program : Method α} {handler : String → Method α}
    (first : Composed native program) (caught : ∀ what, Composed native (handler what)) :
    Composed native (program.tryCatch handler) := by
  refine .bind first.attempt fun outcome => ?_
  cases outcome with
  | ok value => exact .ret value
  | error what => exact caught what

theorem locked {scope : Method α} (composed : Composed native scope) :
    Composed native (locked .connectionMutex scope) :=
  .bind (.perform _ rfl) fun _ => .bind composed.attempt fun outcome =>
    .bind (.perform _ rfl) fun _ => ofOutcome outcome

theorem invoke (callback : Callback) : Composed native (invoke callback) :=
  .bind (.perform _ rfl) fun _ => .bind (.perform _ rfl) fun outcome => ofOutcome outcome

theorem report (callback : Callback) : Composed native (report callback) := by
  refine .bind (.perform _ rfl) fun assigned => ?_
  split
  · exact invoke callback
  · exact .ret ()

theorem sendKeepAlive : Composed native (sendKeepAlive native) :=
  .bind (.perform _ rfl) fun _ => .transmitRaw _ _ _

theorem startKeepAliveTimer : Composed native startKeepAliveTimer := by
  refine .bind (.perform _ rfl) fun state => ?_
  split
  · exact .ret ()
  · exact .bind (.perform _ rfl) fun _ => .bind (.perform _ rfl) fun outcome => ofOutcome outcome

theorem startReceiveLoop : Composed native startReceiveLoop := by
  refine .bind (.perform _ rfl) fun state => ?_
  split
  · exact .ret ()
  · refine .bind (.perform _ rfl) fun isOpen => ?_
    split
    · exact .ret ()
    · exact .perform _ rfl

theorem sendClose : Composed native (sendClose native) := by
  refine .bind (.perform _ rfl) fun isOpen => ?_
  split
  · exact .tryCatch (.transmitRaw _ _ _) fun _ => .ret ()
  · exact .ret ()

theorem endSession : Composed native (endSession native) := by
  refine .bind (.perform _ rfl) fun _ => .bind sendClose fun _ => .bind (.perform _ rfl) fun _ =>
    .bind (.perform _ rfl) fun _ => .bind (.perform _ rfl) fun _ => .bind (.perform _ rfl) fun _ =>
    .bind (.perform _ rfl) fun _ => .bind (.perform _ rfl) fun assigned => ?_
  split
  · exact .bind (.perform _ rfl) fun lastError => invoke _
  · exact .ret ()

theorem joinThread : Composed native joinThread := by
  refine .bind (.perform _ rfl) fun joinable => ?_
  split
  · refine .bind (.perform _ rfl) fun onIoThread => ?_
    split
    · exact .perform _ rfl
    · exact .ret ()
  · exact .ret ()

theorem disconnect : Composed native (disconnect native) := by
  refine .bind (.perform _ rfl) fun expected => ?_
  split
  · exact .bind endSession fun _ => joinThread
  · exact joinThread

/-! ### Handlers -/

theorem handshaking : Composed native handshaking := by
  refine .bind (.perform _ rfl) fun state => ?_
  split
  · exact .ret true
  · exact .bind (.perform _ rfl) fun state => .ret _

theorem failSession (error : ClientError) (message : String) :
    Composed native (failSession native error message) :=
  .bind (.perform _ rfl) fun _ => .bind (report _) fun _ => .bind disconnect fun _ =>
    .perform _ rfl

theorem connectTimeoutHandler (ec : ErrorCode) :
    Composed native (connectTimeoutHandler native ec) := by
  unfold Client.connectTimeoutHandler
  split
  · exact .ret ()
  · refine locked (.bind handshaking fun waiting => ?_)
    split
    · exact failSession _ _
    · exact .ret ()

theorem resolveHandler (ec : ErrorCode) (endpoints : List Endpoint) :
    Composed native (resolveHandler native ec endpoints) := by
  refine locked (.bind (.perform _ rfl) fun state => ?_)
  split
  · exact .ret ()
  · split
    · exact failSession _ _
    · refine .bind (.perform _ rfl) fun _ => .bind (.perform _ rfl) fun openEc => ?_
      split
      · exact failSession _ _
      · refine .bind (.perform _ rfl) fun bindEc => ?_
        split
        · exact failSession _ _
        · exact .bind startReceiveLoop fun _ => sendKeepAlive

theorem keepAliveHandler (ec : ErrorCode) : Composed native (keepAliveHandler native ec) := by
  unfold Client.keepAliveHandler
  split
  · exact .ret ()
  · refine .bind (.perform _ rfl) fun state => ?_
    split
    · exact .ret ()
    · exact .bind sendKeepAlive fun _ => startKeepAliveTimer

theorem processPacket (packet : Bytes) : Composed native (processPacket native packet) := by
  unfold Client.processPacket
  split
  · exact .ret ()
  · split
    · exact .ret ()
    · split
      · refine .bind (.perform _ rfl) fun state => ?_
        split
        · exact .bind (.perform _ rfl) fun _ => .bind (.perform _ rfl) fun password =>
            .transmitRaw _ _ _
        · exact .ret ()
      · split
        · split
          · refine .bind (.perform _ rfl) fun state => ?_
            split
            · exact .bind (.perform _ rfl) fun _ => .bind (.perform _ rfl) fun _ =>
                .bind startKeepAliveTimer fun _ => .bind (locked (.perform _ rfl)) fun _ =>
                report _
            · exact .ret ()
          · exact .ret ()
        · dsimp only
          split
          · exact .ret ()
          · exact report _

theorem handleReceive (ec : ErrorCode) (bytesTransferred : Nat) :
    Composed native (handleReceive native ec bytesTransferred) := by
  refine .bind (.perform _ rfl) fun state => ?_
  split
  · exact .ret ()
  · split
    · split
      · exact .bind (.perform _ rfl) fun _ => .bind (report _) fun _ => disconnect
      · exact .ret ()
    · split
      · refine .bind (.perform _ rfl) fun sender => .bind (.perform _ rfl) fun server =>
          .bind (.perform _ rfl) fun packet => .bind (.perform _ rfl) fun _ => ?_
        split
        · exact .bind (processPacket packet) fun _ => startReceiveLoop
        · exact startReceiveLoop
      · exact startReceiveLoop

theorem handler (kind : Kind) (completion : Completion) :
    Composed native (handler native kind completion) := by
  cases kind with
  | connectTimeout => exact connectTimeoutHandler _
  | resolve => exact resolveHandler _ _
  | receive => exact handleReceive _ _
  | keepAlive => exact keepAliveHandler _

/-! ### Public methods -/

theorem startUp (host : String) (port : UInt16) (timeoutMs : UInt32) :
    Composed native (startUp host port timeoutMs) :=
  .bind (.perform _ rfl) fun _ => .bind (.perform _ rfl) fun _ =>
    .bind (.attempt (.bind (.perform _ rfl) fun thread => .bind (ofOutcome thread) fun _ =>
      .bind (.perform _ rfl) fun _ => .bind (.perform _ rfl) fun _ =>
      .bind (.perform _ rfl) fun wait => .bind (ofOutcome wait) fun _ =>
      .bind (.perform _ rfl) fun resolve => ofOutcome resolve)) fun outcome =>
    .bind (.perform _ rfl) fun _ => ofOutcome outcome

theorem connect (host : String) (port : UInt16) (password : Bytes) (timeoutMs : UInt32) :
    Composed native (connect host port password timeoutMs) := by
  refine locked (.bind (.perform _ rfl) fun state => ?_)
  split
  · exact .ret _
  · refine .bind (.perform _ rfl) fun _ => .bind (.perform _ rfl) fun _ =>
      .bind (.perform _ rfl) fun _ => .bind (.perform _ rfl) fun _ => .bind (.perform _ rfl) fun _ =>
      .bind (.perform _ rfl) fun _ => .bind (startUp _ _ _).attempt fun outcome => ?_
    split
    · exact .ret _
    · exact .bind (.perform _ rfl) fun _ => .bind (report _) fun _ => .ret _

theorem awaitConnection : Composed native awaitConnection := by
  have settled : Composed native settled := by
    refine .bind (.perform _ rfl) fun state => ?_
    split
    · exact .ret true
    · exact .bind (.perform _ rfl) fun state => .ret _
  refine locked (.bind settled fun holds => ?_)
  split
  · refine .bind (.perform _ rfl) fun state => ?_
    split
    · exact .bind (.perform _ rfl) fun lastError => .ret _
    · exact .ret _
  · exact .ret _

theorem whenConnected {body : Method Unit} (composed : Composed native body) :
    Composed native (whenConnected body) := by
  refine .bind (.perform _ rfl) fun state => ?_
  split
  · exact .ret ()
  · exact composed

theorem whenInCall {body : Method Unit} (composed : Composed native body) :
    Composed native (whenInCall body) := by
  refine whenConnected (.bind (.perform _ rfl) fun inCall => ?_)
  split
  · exact .ret ()
  · exact composed

theorem method (made : PublicCall) : Composed native (method native made) := by
  cases made with
  | connect host port password timeoutMs => exact .bind (connect _ _ _ _) fun _ => .ret _
  | disconnect => exact .bind disconnect fun _ => .ret _
  | subscribe talkgroup => exact .bind (whenConnected (.transmitRaw _ _ _)) fun _ => .ret _
  | unsubscribe talkgroup => exact .bind (whenConnected (.transmitRaw _ _ _)) fun _ => .ret _
  | startVoiceCall sourceId destinationId isGroup =>
    exact .bind (whenConnected (.bind (.perform _ rfl) fun _ => .bind (.perform _ rfl) fun _ =>
      .bind (.transmitRaw _ _ _) fun _ => .bind (.transmitRaw _ _ _) fun _ =>
      .transmitRaw _ _ _)) fun _ => .ret _
  | sendAudioFrame ambeData => exact .bind (whenInCall (.transmitRaw _ _ _)) fun _ => .ret _
  | endVoiceCall =>
    exact .bind (whenInCall (.bind (.transmitRaw _ _ _) fun _ => .perform _ rfl)) fun _ => .ret _
  | sendTextMessage destinationId isGroup text =>
    exact .bind (whenConnected (.bind (.perform _ rfl) fun _ => .transmitRaw _ _ _)) fun _ =>
      .ret _
  | sendLocationReport nmeaSentence =>
    exact .bind (whenConnected (.transmitRaw _ _ _)) fun _ => .ret _

theorem publicCall (made : PublicCall) : Composed native (publicCall native made) :=
  .bind (.perform _ rfl) fun _ => .bind (method made) fun _ => .bind (.perform _ rfl) fun _ =>
    .ret _

end Composed

end OpenDTP.Client
