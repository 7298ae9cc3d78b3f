import OpenDTP.Client.Frames

/-! Which operations a method can come down to. Sending a message touches little besides the socket
and the counters. A public call never opens the socket, reads the receive buffer or delivers what
was received, so whatever callbacks call, they leave these alone. -/

namespace OpenDTP.Client
open Common Protocol Effects Effects.Program

/-- The calls that send something. -/
def PublicCall.sends : PublicCall → Bool
  | .connect _ _ _ _ | .disconnect => false
  | _ => true

/-- The operations that it takes to send a message. -/
def Sending : (β : Type) → Op β → Prop
  | _, .loadState | _, .loadInCall | _, .storeInCall _ | _, .readIdentity | _, .takeSeq _
  | _, .readServerEndpoint | _, .isOpen | _, .sendTo _ _ => True
  | _, .resetSeq realTime => realTime = true
  | _, .writeLastError error => error = .socketIo
  | _, .lock mutex | _, .unlock mutex => mutex = .writeMutex
  | _, .hasHook hook => hook = .onError
  | _, .beginCallback callback | _, .endCallback callback => callback.hook = .onError
  | _, .note (.passed _ _ _) => True
  | _, _ => False

section

variable (native : Endian)

theorem transmitRaw_sending (type : MessageType) (flag : UInt16) (payload : Bytes) :
    (transmitRaw native type flag payload).Issues Sending := by
  have reports (message : String) : (report (.onError .socketIo message)).Issues Sending := by
    simp [Issues, report, invoke, wp_ite, issuing, Sending, Callback.hook]
  refine .bind (.perform trivial) fun _ => .bind (.perform rfl) fun _ =>
    .bind (.attempt (.bind (.perform trivial) fun isOpen => ?_)) fun outcome =>
    .bind (.perform rfl) fun _ => .ofOutcome outcome
  split
  · exact .pure _
  · refine .bind (.perform trivial) fun _ => .bind (.perform trivial) fun _ =>
      .bind (.perform trivial) fun ec => ?_
    split
    · exact .bind (.perform rfl) fun _ => reports _
    · exact .pure _

theorem sendKeepAlive_sending : (sendKeepAlive native).Issues Sending :=
  .bind (.perform trivial) fun _ => transmitRaw_sending native _ _ _

theorem sendClose_sending : (sendClose native).Issues Sending := by
  refine .bind (.perform trivial) fun isOpen => ?_
  split
  · exact .tryCatch (transmitRaw_sending native _ _ _) fun _ => .pure _
  · exact .pure _

theorem whenConnected_sending {body : Method Unit} (issues : body.Issues Sending) :
    (whenConnected body).Issues Sending := by
  refine .bind (.perform trivial) fun state => ?_
  split
  · exact .pure _
  · exact issues

theorem whenInCall_sending {body : Method Unit} (issues : body.Issues Sending) :
    (whenInCall body).Issues Sending := by
  refine whenConnected_sending (.bind (.perform trivial) fun inCall => ?_)
  split
  · exact .pure _
  · exact issues

theorem method_sending {call : PublicCall} (sends : call.sends = true) :
    (method native call).Issues Sending := by
  have message (type : MessageType) (flag : UInt16) (payload : Bytes) :
      (transmitRaw native type flag payload).Issues Sending := transmitRaw_sending native _ _ _
  cases call with
  | connect host port password timeoutMs => cases sends
  | disconnect => cases sends
  | subscribe talkgroup => exact .bind (whenConnected_sending (message _ _ _)) fun _ => .pure _
  | unsubscribe talkgroup => exact .bind (whenConnected_sending (message _ _ _)) fun _ => .pure _
  | startVoiceCall sourceId destinationId isGroup =>
    exact .bind (whenConnected_sending (.bind (.perform trivial) fun _ =>
      .bind (.perform rfl) fun _ => .bind (message _ _ _) fun _ => .bind (message _ _ _)
        fun _ => message _ _ _)) fun _ => .pure _
  | sendAudioFrame ambeData => exact .bind (whenInCall_sending (message _ _ _)) fun _ => .pure _
  | endVoiceCall =>
    exact .bind (whenInCall_sending (.bind (message _ _ _) fun _ => .perform trivial))
      fun _ => .pure _
  | sendTextMessage destinationId isGroup text =>
    exact .bind (whenConnected_sending (.bind (.perform trivial) fun _ => message _ _ _))
      fun _ => .pure _
  | sendLocationReport nmeaSentence =>
    exact .bind (whenConnected_sending (message _ _ _)) fun _ => .pure _

end

/-- The operations that it takes to process a datagram of the server. -/
def Processing : (β : Type) → Op β → Prop
  | _, .storeState value => value = .authenticating ∨ value = .connected
  | _, .readPassword | _, .notifyAll | _, .expiresAfter _ _ | _, .cancelTimer _ => True
  | _, .asyncWait timer => timer = .keepAliveTimer
  | _, .lock _ | _, .unlock _ | _, .hasHook _ => True
  | _, .beginCallback callback | _, .endCallback callback => callback.hook ≠ .onDisconnected
  | β, operation => Sending β operation

theorem Sending.processing {β : Type} (operation : Op β) (sending : Sending β operation) :
    Processing β operation := by
  have other {callback : Callback} (same : callback.hook = .onError) :
      callback.hook ≠ .onDisconnected := by
    rw [same]
    decide
  cases operation <;> first | exact sending | trivial | exact other sending

section

variable (native : Endian)

theorem report_processing {callback : Callback} (other : callback.hook ≠ .onDisconnected) :
    (report callback).Issues Processing := by
  simp [Issues, report, invoke, wp_ite, issuing, Processing, other]

theorem startKeepAliveTimer_processing : startKeepAliveTimer.Issues Processing := by
  simp [Issues, startKeepAliveTimer, wp_ite, issuing, Processing, Sending]

theorem processPacket_processing (packet : Bytes) :
    (processPacket native packet).Issues Processing := by
  unfold processPacket
  split
  · exact .pure _
  · split
    · exact .pure _
    · split
      · refine .bind (.perform trivial) fun state => ?_
        split
        · exact .bind (.perform (.inl rfl)) fun _ => .bind (.perform trivial) fun _ =>
            (transmitRaw_sending native _ _ _).mono Sending.processing
        · exact .pure _
      · split
        · split
          · refine .bind (.perform trivial) fun state => ?_
            split
            · have notifies : (locked .connectionMutex (perform .notifyAll)).Issues Processing :=
                .bind (.perform trivial) fun _ => .bind (.attempt (.perform trivial)) fun outcome =>
                  .bind (.perform trivial) fun _ => .ofOutcome outcome
              exact .bind (.perform (.inr rfl)) fun _ => .bind (.perform trivial) fun _ =>
                .bind startKeepAliveTimer_processing fun _ => .bind notifies fun _ =>
                report_processing (by simp [Callback.hook])
            · exact .pure _
          · exact .pure _
        · dsimp only
          split
          · exact .pure _
          · next callback delivers => exact report_processing (deliver_other delivers).1

end

/-- The hooks that say something about the client itself. The others deliver messages. -/
def Hook.isOwn : Hook → Bool
  | .onConnected | .onDisconnected | .onError => true
  | _ => false

/-- The records that public calls make. -/
def Event.isCall : Event → Bool
  | .called _ | .returned _ _ | .passed _ _ _ => true
  | _ => false

def Public : (β : Type) → Op β → Prop
  | _, .storeState value => value = .disconnected ∨ value = .connecting
  | _, .readPassword => False
  | _, .writeServerEndpoint _ => False
  | _, .readSenderEndpoint => False
  | _, .readBuffer _ => False
  | _, .notifyAll => False
  | _, .openSocket _ => False
  | _, .bindSocket _ => False
  | _, .asyncReceiveFrom => False
  | _, .asyncWait timer => timer = .connectTimeoutTimer
  | _, .beginCallback callback => callback.hook.isOwn = true
  | _, .note event => event.isCall = true
  | _, _ => True

section

variable (native : Endian)

theorem locked_public {α : Type} (mutex : Mutex) {scope : Method α}
    (issues : scope.Issues Public) : (locked mutex scope).Issues Public :=
  .bind (.perform trivial) fun _ => .bind issues.attempt fun outcome =>
    .bind (.perform trivial) fun _ => .ofOutcome outcome

theorem report_public {callback : Callback} (own : callback.hook.isOwn = true) :
    (report callback).Issues Public := by
  simp [Issues, report, invoke, wp_ite, issuing, Public, own]

theorem Sending.toPublic {β : Type} (operation : Op β) (sending : Sending β operation) :
    Public β operation := by
  cases operation <;> first | trivial | exact sending.elim | skip
  case beginCallback callback =>
    have same : callback.hook = .onError := sending
    change callback.hook.isOwn = true
    rw [same]
    rfl
  case note event =>
    cases event <;> first | rfl | exact sending.elim

theorem disconnect_public : (disconnect native).Issues Public := by
  have joins : joinThread.Issues Public := by
    simp [Issues, joinThread, wp_ite, issuing, Public]
  have closes : (sendClose native).Issues Public := (sendClose_sending native).mono Sending.toPublic
  have ends : (endSession native).Issues Public := by
    refine .bind (.perform (.inl rfl)) fun _ => .bind closes fun _ => ?_
    simp [Issues, stopKeepAliveTimer, invoke, wp_ite, issuing, Public, Callback.hook, Hook.isOwn]
  refine .bind (.perform trivial) fun expected => ?_
  split
  · exact .bind ends fun _ => joins
  · exact joins

theorem connect_public (host : String) (port : UInt16) (password : Bytes) (timeoutMs : UInt32) :
    (connect host port password timeoutMs).Issues Public := by
  have starts : (startUp host port timeoutMs).Issues Public := by
    refine .bind (.perform trivial) fun _ => .bind (.perform trivial) fun _ =>
      .bind (.attempt (.bind (.perform trivial) fun thread => .bind (.ofOutcome thread) fun _ =>
        .bind (.perform (.inr rfl)) fun _ => .bind (.perform trivial) fun _ =>
        .bind (.perform rfl) fun wait => .bind (.ofOutcome wait) fun _ =>
        .bind (.perform trivial) fun resolve => .ofOutcome resolve)) fun outcome =>
      .bind (.perform trivial) fun _ => .ofOutcome outcome
  refine locked_public _ (.bind (.perform trivial) fun state => ?_)
  split
  · exact .pure _
  · refine .bind (.perform trivial) fun _ => .bind (.perform trivial) fun _ =>
      .bind (.perform trivial) fun _ => .bind (.perform trivial) fun _ =>
      .bind (.perform trivial) fun _ => .bind (.perform trivial) fun _ =>
      .bind starts.attempt fun outcome => ?_
    split
    · exact .pure _
    · exact .bind (.perform (.inl rfl)) fun _ => .bind (report_public rfl) fun _ => .pure _

theorem method_public (call : PublicCall) : (method native call).Issues Public := by
  by_cases sends : call.sends = true
  · exact (method_sending native sends).mono Sending.toPublic
  · cases call with
    | connect host port password timeoutMs =>
      exact .bind (connect_public host port password timeoutMs) fun _ => .pure _
    | disconnect => exact .bind (disconnect_public native) fun _ => .pure _
    | _ => exact absurd rfl sends

theorem publicCall_public (call : PublicCall) : (publicCall native call).Issues Public :=
  .bind (.perform rfl) fun _ => .bind (method_public native call) fun _ =>
    .bind (.perform rfl) fun _ => .pure _

end

/-- What public operations keep, callbacks keep whatever they call. -/
theorem covers_of_public (rules : Rules) (thread : Thread) {holds : Client → Client → Prop}
    (refl : ∀ c, holds c c)
    (trans : ∀ {first second third}, holds first second → holds second third → holds first third)
    (steps : ∀ {β : Type} (operation : Op β) answer c value after, Public β operation →
      step rules.policy thread operation answer c = some (value, after) → holds c after) :
    Covers (semantics rules.policy thread) rules.nesting (during fun _ => holds) where
  refl operation c := by
    cases operation
    case endCallback => exact refl c
    all_goals rfl
  trans operation first second third one two := by
    cases operation
    case endCallback => exact trans one two
    all_goals exact Eq.trans two one
  nested operation c inner nested := by
    cases operation
    case endCallback =>
      obtain ⟨call, _, rfl⟩ := nested
      have issues : ((fun _ => ()) <$> publicCall rules.native call : Method Unit).Issues Public :=
        .bind (publicCall_public rules.native call) fun _ => .pure _
      change Program.wp _ _ (fun _ after => holds c after) c
      apply demonic_keeps _ _ _ issues (refl c)
      · exact fun operation answer state value after allowed reached stepped =>
          trans reached (steps operation answer state value after allowed stepped)
      · intro β operation state between reached moved
        cases operation
        case endCallback => exact trans reached moved
        all_goals
          rw [show between = state from moved]
          exact reached
    all_goals exact nested.elim

end OpenDTP.Client
