import OpenDTP.Client.Replay

/-! What has happened in a session that is CONNECTED. The log since the `Connect` that was accepted
last shows the challenge, its answer, and the acknowledgement, in this order. Callbacks may make any
calls and may throw. -/

namespace OpenDTP.Client
open Common Protocol Effects Effects.Program

/-! ### Histories of a session -/

def Event.isAuthentication : Event → Bool
  | .passed type _ _ => type = .authentication
  | _ => false

/-- How many AUTHENTICATION messages were passed to `TransmitRaw`. -/
def answers (events : List Event) : Nat := events.countP Event.isAuthentication

/-- A well-formed CHALLENGE with this payload was processed, sent by the server. -/
def Asks (native : Endian) (salt : Bytes) : Event → Prop
  | .inspected sender server packet =>
      sender = server ∧ ∃ header, wellFormed native packet = some (header, salt) ∧
        header.type = .challenge
  | _ => False

/-- A well-formed KEEP_ALIVE of length 0 was processed, sent by the server. -/
def Acknowledges (native : Endian) : Event → Prop
  | .inspected sender server packet =>
      sender = server ∧ ∃ header payload, wellFormed native packet = some (header, payload) ∧
        header.type = .keepAlive ∧ header.length = 0
  | _ => False

def answer (salt password : Bytes) : Event :=
  .passed .authentication MessageFlag.none (Sha256.sha256 (salt ++ password))

/-- A challenge was answered, and nothing else was. -/
def Answered (native : Endian) (password : Bytes) (since : List Event) : Prop :=
  ∃ salt first challenge second third,
    since = first ++ challenge :: second ++ answer salt password :: third ∧
      Asks native salt challenge ∧ answers since = 1

/-- A challenge was answered, nothing else was, and the answer was acknowledged. -/
def Authenticated (native : Endian) (password : Bytes) (since : List Event) : Prop :=
  ∃ salt first challenge second third acknowledgement fourth,
    since = first ++ challenge :: second ++ answer salt password :: third ++
        acknowledgement :: fourth ∧
      Asks native salt challenge ∧ answers since = 1 ∧ Acknowledges native acknowledgement

/-- The session has come as far as its state says. -/
def Stage (native : Endian) (password : Bytes) (since : List Event) : State → Prop
  | .disconnected => True
  | .connecting => answers since = 0
  | .authenticating => Answered native password since
  | .connected => Authenticated native password since

/-- The events of the current session, and its password. -/
structure Since (c : Client) (since : List Event) : Prop where
  log : ∃ earlier, c.log = earlier ++ .accepted c.password :: since
  current : ∀ event ∈ since, event.isAccepted = false

def Faithful (native : Endian) (c : Client) : Prop :=
  c.state ≠ .disconnected → ∃ since, Since c since ∧ Stage native c.password since c.state

/-- Events that neither begin a session nor answer a challenge. -/
def Event.isRoutine (event : Event) : Bool := !event.isAccepted && !event.isAuthentication

theorem answers_routine {events : List Event}
    (routine : ∀ event ∈ events, event.isRoutine = true) : answers events = 0 := by
  rw [answers, List.countP_eq_zero]
  intro event member answered
  have plain := routine event member
  rw [Event.isRoutine, answered] at plain
  simp at plain

theorem Stage.append {native : Endian} {password : Bytes} {since events : List Event} {state : State}
    (stage : Stage native password since state)
    (routine : ∀ event ∈ events, event.isRoutine = true) :
    Stage native password (since ++ events) state := by
  have same : answers (since ++ events) = answers since := by
    rw [answers, List.countP_append]
    exact congrArg _ (answers_routine routine)
  cases state with
  | disconnected => trivial
  | connecting => exact same.trans stage
  | authenticating =>
    obtain ⟨salt, first, challenge, second, third, split, asks, once⟩ := stage
    refine ⟨salt, first, challenge, second, third ++ events, ?_, asks, same.trans once⟩
    rw [split]
    simp
  | connected =>
    obtain ⟨salt, first, challenge, second, third, last, fourth, split, asks, once, admits⟩ := stage
    refine ⟨salt, first, challenge, second, third, last, fourth ++ events, ?_, asks,
      same.trans once, admits⟩
    rw [split]
    simp

theorem Since.append {c after : Client} {since events : List Event} (hence : Since c since)
    (password : after.password = c.password) (extended : after.log = c.log ++ events)
    (routine : ∀ event ∈ events, event.isAccepted = false) : Since after (since ++ events) := by
  obtain ⟨earlier, split⟩ := hence.log
  constructor
  · exact ⟨earlier, by rw [extended, split, password]; simp⟩
  · intro event member
    rcases List.mem_append.mp member with early | late
    · exact hence.current event early
    · exact routine event late

theorem current_of_routine {event : Event} (routine : event.isRoutine = true) :
    event.isAccepted = false := by
  rw [Event.isRoutine, Bool.and_eq_true] at routine
  simpa using routine.1

/-- A step that changes no session: `state_` is kept or falls back to DISCONNECTED. -/
structure Routine (c after : Client) : Prop where
  state : after.state = c.state ∨ after.state = .disconnected
  password : after.password = c.password
  log : ∃ events, after.log = c.log ++ events ∧ ∀ event ∈ events, event.isRoutine = true

theorem Faithful.routine {native : Endian} {c after : Client} (faithful : Faithful native c)
    (routine : Routine c after) : Faithful native after := by
  intro up
  have same : after.state = c.state := by
    rcases routine.state with same | down
    · exact same
    · exact absurd down up
  obtain ⟨since, hence, stage⟩ := faithful (by rw [← same]; exact up)
  obtain ⟨events, extended, plain⟩ := routine.log
  refine ⟨since ++ events, ?_, ?_⟩
  · exact hence.append routine.password extended fun event member =>
      current_of_routine (plain event member)
  · rw [same, routine.password]
    exact stage.append plain

/-! ### Operations that change no session -/

def Harmless : (β : Type) → Op β → Prop
  | _, .storeState value => value = .disconnected
  | _, .writePassword _ => False
  | _, .accept _ => False
  | _, .note event => event.isRoutine = true
  | _, _ => True

attribute [simp] Harmless

theorem Harmless.step_routine {policy : Policy} {thread : Thread} {β : Type} {operation : Op β}
    (harmless : Harmless β operation) {answer : Answer} {c after : Client} {value : β}
    (stepped : step policy thread operation answer c = some (value, after)) : Routine c after := by
  have still {after : Client} (state : after.state = c.state) (password : after.password = c.password)
      (log : after.log = c.log) : Routine c after :=
    ⟨.inl state, password, [], by rw [log, List.append_nil], by simp⟩
  have told {event : Event} {after : Client} (state : after.state = c.state)
      (password : after.password = c.password) (log : after.log = c.log ++ [event])
      (plain : event.isRoutine = true) : Routine c after :=
    ⟨.inl state, password, [event], log, fun other member => by
      rw [List.mem_singleton.mp member]
      exact plain⟩
  cases operation <;> simp only [step] at stepped <;> (repeat' split at stepped) <;>
    cases stepped
  case storeState =>
    exact ⟨.inr harmless, rfl, _, rfl, by simp [Event.isRoutine, Event.isAccepted,
      Event.isAuthentication]⟩
  case note => exact told rfl rfl rfl harmless
  all_goals first
    | exact still rfl rfl rfl
    | exact told rfl rfl rfl rfl
    | exact harmless.elim
    | (cases ‹Mutex› <;> exact still rfl rfl rfl)

/-! ### What every method keeps -/

/-- Callbacks may do whatever keeps what holds. -/
def keeping (holds : Client → Prop) : Meanwhile := fun _ before after => holds before → holds after

/-- What the operations of a program keep, the program keeps. -/
theorem keeps_of_issues {policy : Policy} {thread : Thread} {holds : Client → Prop}
    {allowed : (β : Type) → Op β → Prop}
    (steps : ∀ {β : Type} {operation : Op β} {answer : Answer} {c after : Client} {value : β},
      allowed β operation → holds c → step policy thread operation answer c = some (value, after) →
        holds after)
    {α : Type} {program : Method α} (issues : program.Issues allowed) {c : Client} (held : holds c) :
    program.wp (effect policy thread (keeping holds)) (fun _ after => holds after) c := by
  apply demonic_keeps _ _ program issues held
  · exact fun operation answer state value after may held stepped => steps may held stepped
  · intro β operation state between held reached
    cases operation
    case endCallback => exact reached held
    all_goals
      rw [show between = state from reached]
      exact held

/-- What calls and handlers keep, whichever calls are nested in them. -/
structure Preserved (rules : Rules) (holds : Client → Prop) : Prop where
  silent : ∀ {c after : Client}, holds c → after.state = c.state → after.password = c.password →
    after.log = c.log → holds after
  calls : ∀ (thread : Thread) (c : Client), holds c → ∀ made,
    (publicCall rules.native made).wp (effect rules.policy thread (keeping holds))
      (fun _ after => holds after) c
  handlers : ∀ c : Client, holds c → ∀ kind completion,
    (handler rules.native kind completion).wp (effect rules.policy .io (keeping holds))
      (fun _ after => holds after) c
  awaits : ∀ (thread : Thread) (c : Client), holds c →
    awaitConnection.wp (effect rules.policy thread (keeping holds)) (fun _ after => holds after) c

namespace Preserved

variable {rules : Rules} {holds : Client → Prop} {c after : Client} {label : Label}

theorem covers (preserved : Preserved rules holds) (thread : Thread) :
    Covers (semantics rules.policy thread) rules.nesting (during (keeping holds)) where
  refl operation state := by
    cases operation
    case endCallback => exact fun held => held
    all_goals rfl
  trans operation first second third one two := by
    cases operation
    case endCallback => exact fun held => two (one held)
    all_goals exact Eq.trans two one
  nested operation state inner nested := by
    cases operation
    case endCallback callback =>
      by_cases held : holds state
      · obtain ⟨call, _, rfl⟩ := nested
        rw [wp_map]
        apply wp_mono (effect_monotone _ _ _) _ _ _ (preserved.calls thread state held call)
        intro outcome after kept
        cases outcome <;> exact fun _ => kept
      · exact wp_mono (effect_monotone _ _ _) _ (fun _ _ _ other => absurd other held) _
          (demonic_trivial inner state)
    all_goals exact nested.elim

theorem step (preserved : Preserved rules holds) (held : holds c) (step : Step rules c label after) :
    holds after := by
  cases step with
  | call _ ran => exact (preserved.covers _).sound ran _ (preserved.calls _ c held _)
  | connectSync _ ran =>
    have kept := (preserved.covers _).sound ran _ (preserved.calls _ c held _)
    unfold entering
    split
    · exact preserved.silent kept rfl rfl rfl
    · exact kept
  | awaits _ ran =>
    have kept := (preserved.covers _).sound ran _ (preserved.awaits _ c held)
    exact preserved.silent kept rfl rfl rfl
  | @handles after before rest operation completion outcome found queued idle going ran =>
    have taken : holds (dequeued before rest c) := preserved.silent held rfl rfl rfl
    have kept := (preserved.covers _).sound ran _ (preserved.handlers _ taken _ _)
    exact preserved.silent kept rfl rfl rfl
  | completes => exact preserved.silent held rfl rfl rfl
  | arrives => exact preserved.silent held rfl rfl rfl
  | leaves => exact preserved.silent held rfl rfl rfl

theorem reachable (preserved : Preserved rules holds)
    (start : ∀ dmrId description hooks, holds (fresh dmrId description hooks))
    (reached : rules.Reachable c) : holds c := by
  obtain ⟨dmrId, description, hooks, reached⟩ := reached
  apply reached.invariant holds (start dmrId description hooks)
  exact fun before label after held step => preserved.step held step

end Preserved

/-! ### Methods that change no session -/

section

variable (native : Endian)

theorem locked_harmless {α : Type} (mutex : Mutex) {scope : Method α}
    (issues : scope.Issues Harmless) : (locked mutex scope).Issues Harmless :=
  .bind (.perform trivial) fun _ => .bind issues.attempt fun outcome =>
    .bind (.perform trivial) fun _ => .ofOutcome outcome

theorem report_harmless (callback : Callback) : (report callback).Issues Harmless := by
  simp [Issues, report, invoke, wp_ite, issuing, Harmless]

theorem transmitRaw_harmless {type : MessageType} (other : type ≠ .authentication) (flag : UInt16)
    (payload : Bytes) : (transmitRaw native type flag payload).Issues Harmless := by
  have routine : (Event.passed type flag payload).isRoutine = true := by
    simp [Event.isRoutine, Event.isAccepted, Event.isAuthentication, other]
  simp [Issues, transmitRaw, locked, report, invoke, wp_ite, issuing, Harmless, routine]

theorem sendKeepAlive_harmless : (sendKeepAlive native).Issues Harmless :=
  .bind (.perform trivial) fun _ => transmitRaw_harmless native (by decide) _ _

theorem startKeepAliveTimer_harmless : startKeepAliveTimer.Issues Harmless := by
  simp [Issues, startKeepAliveTimer, wp_ite, issuing, Harmless]

theorem startReceiveLoop_harmless : startReceiveLoop.Issues Harmless := by
  simp [Issues, startReceiveLoop, wp_ite, issuing, Harmless]

theorem sendClose_harmless : (sendClose native).Issues Harmless := by
  refine .bind (.perform trivial) fun isOpen => ?_
  cases isOpen with
  | false => exact .pure _
  | true => exact .tryCatch (transmitRaw_harmless native (by decide) _ _) fun _ => .pure _

theorem endSession_harmless : (endSession native).Issues Harmless := by
  refine .bind (.perform rfl) fun _ => .bind (sendClose_harmless native) fun _ => ?_
  simp [Issues, stopKeepAliveTimer, invoke, wp_ite, issuing, Harmless]

theorem disconnect_harmless : (disconnect native).Issues Harmless := by
  have joins : joinThread.Issues Harmless := by
    simp [Issues, joinThread, wp_ite, issuing, Harmless]
  refine .bind (.perform trivial) fun expected => ?_
  split
  · exact .bind (endSession_harmless native) fun _ => joins
  · exact joins

theorem failSession_harmless (error : ClientError) (message : String) :
    (failSession native error message).Issues Harmless :=
  .bind (.perform trivial) fun _ => .bind (report_harmless _) fun _ =>
    .bind (disconnect_harmless native) fun _ => .perform trivial

theorem connectTimeoutHandler_harmless (ec : ErrorCode) :
    (connectTimeoutHandler native ec).Issues Harmless := by
  unfold connectTimeoutHandler
  split
  · exact .pure _
  · refine locked_harmless _ (.bind ?_ fun handshaking => ?_)
    · simp [Issues, handshaking, wp_ite, issuing, Harmless]
    · split
      · exact failSession_harmless native _ _
      · exact .pure _

theorem resolveHandler_harmless (ec : ErrorCode) (endpoints : List Endpoint) :
    (resolveHandler native ec endpoints).Issues Harmless := by
  refine locked_harmless _ (.bind (.perform trivial) fun state => ?_)
  split
  · exact .pure _
  · split
    · exact failSession_harmless native _ _
    · refine .bind (.perform trivial) fun _ => .bind (.perform trivial) fun openEc => ?_
      split
      · exact failSession_harmless native _ _
      · refine .bind (.perform trivial) fun bindEc => ?_
        split
        · exact failSession_harmless native _ _
        · exact .bind startReceiveLoop_harmless fun _ => sendKeepAlive_harmless native

theorem keepAliveHandler_harmless (ec : ErrorCode) :
    (keepAliveHandler native ec).Issues Harmless := by
  unfold keepAliveHandler
  split
  · exact .pure _
  · refine .bind (.perform trivial) fun state => ?_
    split
    · exact .pure _
    · exact .bind (sendKeepAlive_harmless native) fun _ => startKeepAliveTimer_harmless

theorem whenConnected_harmless {body : Method Unit} (issues : body.Issues Harmless) :
    (whenConnected body).Issues Harmless := by
  refine .bind (.perform trivial) fun state => ?_
  split
  · exact .pure _
  · exact issues

theorem whenInCall_harmless {body : Method Unit} (issues : body.Issues Harmless) :
    (whenInCall body).Issues Harmless := by
  refine whenConnected_harmless (.bind (.perform trivial) fun inCall => ?_)
  split
  · exact .pure _
  · exact issues

/-- All public methods but `Connect`. -/
theorem method_harmless {call : PublicCall}
    (other : ∀ host port password timeoutMs, call ≠ .connect host port password timeoutMs) :
    (method native call).Issues Harmless := by
  unfold method
  cases call with
  | connect host port password timeoutMs => exact absurd rfl (other _ _ _ _)
  | disconnect => exact .bind (disconnect_harmless native) fun _ => .pure _
  | subscribe talkgroup =>
    exact .bind (whenConnected_harmless (transmitRaw_harmless native (by decide) _ _))
      fun _ => .pure _
  | unsubscribe talkgroup =>
    exact .bind (whenConnected_harmless (transmitRaw_harmless native (by decide) _ _))
      fun _ => .pure _
  | startVoiceCall sourceId destinationId isGroup =>
    have header : (transmitRaw native .voiceHeader MessageFlag.realTime1
        (linkControl sourceId destinationId isGroup)).Issues Harmless :=
      transmitRaw_harmless native (by decide) _ _
    exact .bind (whenConnected_harmless (.bind (.perform trivial) fun _ =>
      .bind (.perform trivial) fun _ => .bind header fun _ => .bind header fun _ => header))
      fun _ => .pure _
  | sendAudioFrame ambeData =>
    exact .bind (whenInCall_harmless (transmitRaw_harmless native (by decide) _ _))
      fun _ => .pure _
  | endVoiceCall =>
    exact .bind (whenInCall_harmless (.bind (transmitRaw_harmless native (by decide) _ _) fun _ =>
      .perform trivial)) fun _ => .pure _
  | sendTextMessage destinationId isGroup text =>
    exact .bind (whenConnected_harmless (.bind (.perform trivial) fun _ =>
      transmitRaw_harmless native (by decide) _ _)) fun _ => .pure _
  | sendLocationReport nmeaSentence =>
    exact .bind (whenConnected_harmless (transmitRaw_harmless native (by decide) _ _))
      fun _ => .pure _

end

/-! ### The methods that do -/

/-- The client that has answered the challenge it has just processed. -/
def answered (salt : Bytes) (challenge : Event) (c : Client) : Client :=
  { c with
    state := .authenticating
    log := c.log ++ [challenge] ++ [.stored .authenticating] ++ [answer salt c.password] }

/-- The client that was admitted by the acknowledgement it has just processed. -/
def admitted (acknowledgement : Event) (c : Client) : Client :=
  { c with state := .connected, log := c.log ++ [acknowledgement] ++ [.stored .connected] }

/-- What holds whatever the methods do to the state, the password and the log: they go on with
routine, answer a challenge, are admitted, or begin a session. -/
structure Chronicled (native : Endian) (holds : Client → Prop) : Prop where
  routine : ∀ {c after : Client}, holds c → Routine c after → holds after
  answered : ∀ {c : Client} {salt : Bytes} {challenge : Event}, holds c → c.state = .connecting →
    Asks native salt challenge → holds (answered salt challenge c)
  admitted : ∀ {c : Client} {acknowledgement : Event}, holds c → c.state = .authenticating →
    Acknowledges native acknowledgement → holds (admitted acknowledgement c)
  begun : ∀ {c after : Client} (events : List Event), holds c →
    after.log = c.log ++ .accepted after.password :: events →
    (∀ event ∈ events, event.isRoutine = true) →
    after.state = .disconnected ∨ after.state = .connecting → holds after

namespace Chronicled

variable {native : Endian} {holds : Client → Prop} {policy : Policy} {thread : Thread}
  {c after : Client}

/-- Whatever a step changes outside `state_`, the password and the log does not matter. -/
theorem same (chronicled : Chronicled native holds) (held : holds c)
    (state : after.state = c.state) (password : after.password = c.password)
    (log : after.log = c.log) : holds after :=
  chronicled.routine held ⟨.inl state, password, [], by rw [log, List.append_nil], by simp⟩

theorem inspected (chronicled : Chronicled native holds) (held : holds c)
    (sender server : Endpoint) (packet : Bytes) :
    holds { c with log := c.log ++ [.inspected sender server packet] } :=
  chronicled.routine held ⟨.inl rfl, rfl, [.inspected sender server packet], rfl,
    by simp [Event.isRoutine, Event.isAccepted, Event.isAuthentication]⟩

theorem harmless (chronicled : Chronicled native holds) {α : Type} {program : Method α}
    (issues : program.Issues Harmless) (held : holds c) :
    program.wp (effect policy thread (keeping holds)) (fun _ after => holds after) c :=
  keeps_of_issues
    (fun harmless held stepped => chronicled.routine held (Harmless.step_routine harmless stepped))
    issues held

theorem processPacket (chronicled : Chronicled native holds) (held : holds c)
    {sender server : Endpoint} (own : sender = server) (packet : Bytes) :
    (processPacket native packet).wp (effect policy thread (keeping holds))
      (fun _ after => holds after)
      { c with log := c.log ++ [.inspected sender server packet] } := by
  have unchanged := chronicled.inspected held sender server packet
  unfold Client.processPacket
  split
  · exact unchanged
  · next header decoded =>
    rw [wp_ite]
    split
    · exact unchanged
    · next long =>
      have parsed : wellFormed native packet =
          some (header, (packet.drop 18).take header.length.toNat) := by
        simp [wellFormed, decoded, long]
      rw [wp_ite]
      split
      · next isChallenge =>
        rw [wp_bind, wp_perform, effect_loadState, andThen_ok, wp_ite]
        split
        · next connecting =>
          rw [wp_bind, wp_perform, effect_storeState, andThen_ok, wp_bind, wp_perform,
            effect_readPassword, andThen_ok, transmitRaw, wp_bind, wp_perform, effect_note,
            andThen_ok]
          apply chronicled.harmless
          · simp [Issues, locked, report, invoke, wp_ite, issuing, Harmless]
          · exact chronicled.answered held connecting ⟨own, header, parsed, isChallenge⟩
        · exact unchanged
      · rw [wp_ite]
        split
        · next isKeepAlive =>
          rw [wp_ite]
          split
          · next isEmpty =>
            rw [wp_bind, wp_perform, effect_loadState, andThen_ok, wp_ite]
            split
            · next authenticating =>
              rw [wp_bind, wp_perform, effect_storeState, andThen_ok]
              apply chronicled.harmless
              · exact .bind (.perform trivial) fun _ => .bind startKeepAliveTimer_harmless fun _ =>
                  .bind (locked_harmless _ (.perform trivial)) fun _ => report_harmless _
              · exact chronicled.admitted held authenticating
                  ⟨own, header, _, parsed, isKeepAlive, isEmpty⟩
            · exact unchanged
          · exact unchanged
        · split
          · exact unchanged
          · exact chronicled.harmless (report_harmless _) unchanged

theorem handleReceive (chronicled : Chronicled native holds) (held : holds c) (ec : ErrorCode)
    (bytesTransferred : Nat) :
    (handleReceive native ec bytesTransferred).wp (effect policy thread (keeping holds))
      (fun _ after => holds after) c := by
  rw [Client.handleReceive, wp_bind, wp_perform, effect_loadState, andThen_ok, wp_ite]
  split
  · exact held
  · rw [wp_ite]
    split
    · apply chronicled.harmless _ held
      split
      · exact .bind (.perform trivial) fun _ => .bind (report_harmless _) fun _ =>
          disconnect_harmless native
      · exact .pure _
    · rw [wp_ite]
      split
      · rw [wp_bind, wp_perform, effect_readSenderEndpoint, andThen_ok, wp_bind, wp_perform,
          effect_readServerEndpoint, andThen_ok, wp_bind, wp_perform, effect_readBuffer, andThen_ok,
          wp_bind, wp_perform, effect_note, andThen_ok, wp_ite]
        split
        · next own =>
          rw [wp_bind]
          apply wp_mono (effect_monotone _ _ _) _ _ _ (chronicled.processPacket held own _)
          intro outcome middle kept
          cases outcome with
          | error what => exact kept
          | ok value => exact chronicled.harmless startReceiveLoop_harmless kept
        · exact chronicled.harmless startReceiveLoop_harmless (chronicled.inspected held _ _ _)
      · exact chronicled.harmless startReceiveLoop_harmless held

theorem handler (chronicled : Chronicled native holds) (held : holds c) (kind : Kind)
    (completion : Completion) :
    (handler native kind completion).wp (effect policy thread (keeping holds))
      (fun _ after => holds after) c := by
  cases kind with
  | connectTimeout => exact chronicled.harmless (connectTimeoutHandler_harmless native _) held
  | resolve => exact chronicled.harmless (resolveHandler_harmless native _ _) held
  | receive => exact chronicled.handleReceive held _ _
  | keepAlive => exact chronicled.harmless (keepAliveHandler_harmless native _) held

theorem connect (chronicled : Chronicled native holds) (held : holds c) (host : String)
    (port : UInt16) (password : Bytes) (timeoutMs : UInt32) :
    (connect host port password timeoutMs).wp (effect policy thread (keeping holds))
      (fun _ after => holds after) c := by
  simp only [Client.connect, startUp, wp_locked, owner_connectionMutex, setOwner_connectionMutex,
    wp_bind, wp_perform, effect_loadState, andThen_ok, wp_ite, wp_pure, effect_accept,
    effect_writePassword, effect_resetRoutineSeq, effect_resetRealTimeSeq, effect_storeInCall,
    effect_writeLastError, wp_attempt, effect_restart, effect_makeWorkGuard, effect_startThread,
    wp_ofOutcome, effect_dropWorkGuard, effect_storeState, effect_expiresAfter, effect_asyncWait,
    effect_asyncResolve, andThen_error, Timer.kind]
  intro _
  have unlocked {c : Client} (held : holds c) : holds { c with connectionMutex := none } :=
    chronicled.same held rfl rfl rfl
  split
  · exact chronicled.same held rfl rfl rfl
  · -- The catch clause stores DISCONNECTED, whatever happened before it.
    have caught (what : String) {middle : Client} (held : holds middle) :
        (report (.onError .socketIo ("Socket error during connection startup: " ++ what))).wp
          (effect policy thread (keeping holds))
          (andThen (fun _ after => holds { after with connectionMutex := none })
            (fun _ after => holds { after with connectionMutex := none })) middle := by
      apply wp_mono (effect_monotone _ _ _) _ _ _ (chronicled.harmless (report_harmless _) held)
      intro outcome after kept
      cases outcome <;> exact unlocked kept
    have routine : Event.started.isRoutine = true ∧ ∀ state, (Event.stored state).isRoutine = true :=
      ⟨rfl, fun _ => rfl⟩
    refine ⟨fun _ what => caught what ?_, fun _ => ⟨fun _ _ what => caught what ?_,
      fun _ what => caught what ?_, ?_⟩⟩
    · exact chronicled.begun [.stored .disconnected] held (by simp)
        (by simp [routine]) (.inl rfl)
    · exact chronicled.begun [.started, .stored .connecting, .stored .disconnected] held
        (by simp) (by simp [routine]) (.inl rfl)
    · exact chronicled.begun [.started, .stored .connecting, .stored .disconnected] held
        (by simp) (by simp [routine]) (.inl rfl)
    · exact chronicled.begun [.started, .stored .connecting] held (by simp)
        (by simp [routine]) (.inr rfl)

theorem publicCall (chronicled : Chronicled native holds) (held : holds c) (call : PublicCall) :
    (publicCall native call).wp (effect policy thread (keeping holds))
      (fun _ after => holds after) c := by
  have noted : Routine c { c with log := c.log ++ [.called call] } :=
    ⟨.inl rfl, rfl, [.called call], rfl, by simp [Event.isRoutine, Event.isAccepted,
      Event.isAuthentication]⟩
  have returns (result : Option ClientError) :
      (perform (.note (.returned call result))).Issues Harmless := .perform rfl
  rw [Client.publicCall, wp_bind, wp_perform, effect_note, andThen_ok, wp_bind]
  have ran : (method native call).wp (effect policy thread (keeping holds))
      (fun _ after => holds after) { c with log := c.log ++ [.called call] } := by
    by_cases connects : ∃ host port password timeoutMs,
        call = .connect host port password timeoutMs
    · obtain ⟨host, port, password, timeoutMs, rfl⟩ := connects
      rw [method, wp_map]
      apply wp_mono (effect_monotone _ _ _) _ _ _
        (chronicled.connect (chronicled.routine held noted) _ _ _ _)
      intro outcome after kept
      cases outcome <;> exact kept
    · refine chronicled.harmless (method_harmless native ?_) (chronicled.routine held noted)
      rintro host port password timeoutMs rfl
      exact connects ⟨_, _, _, _, rfl⟩
  apply wp_mono (effect_monotone _ _ _) _ _ _ ran
  intro outcome after kept
  cases outcome with
  | error what => exact kept
  | ok result => exact chronicled.harmless (.bind (returns result) fun _ => .pure _) kept

end Chronicled

theorem Chronicled.preserved {rules : Rules} {holds : Client → Prop}
    (chronicled : Chronicled rules.native holds) : Preserved rules holds where
  silent held state password log := chronicled.same held state password log
  calls _ _ held made := chronicled.publicCall held made
  handlers _ held kind completion := chronicled.handler held kind completion
  awaits _ _ held := by
    apply chronicled.harmless _ held
    simp [Issues, awaitConnection, locked, settled, wp_ite, issuing, Harmless]

/-! ### Sessions that show what their state says -/

section

variable {native : Endian} {c : Client}

/-- A session that has nothing to show yet. -/
theorem Faithful.of_disconnected (down : c.state = .disconnected) : Faithful native c :=
  fun up => absurd down up

theorem answered_faithful (faithful : Faithful native c) (connecting : c.state = .connecting)
    {salt : Bytes} {challenge : Event} (asks : Asks native salt challenge) :
    Faithful native (answered salt challenge c) := by
  intro _
  obtain ⟨since, hence, stage⟩ := faithful (by simp [connecting])
  rw [connecting] at stage
  have plain : challenge.isAccepted = false ∧ challenge.isAuthentication = false := by
    cases challenge <;> first | exact ⟨rfl, rfl⟩ | exact asks.elim
  refine ⟨since ++ [challenge, .stored .authenticating, answer salt c.password], ?_, ?_⟩
  · refine hence.append rfl (by simp [answered]) ?_
    exact List.forall_mem_cons.mpr ⟨plain.1, by simp [Event.isAccepted, answer]⟩
  · refine ⟨salt, since, challenge, [.stored .authenticating], [], by simp [answered], asks, ?_⟩
    rw [answers, List.countP_append]
    have one : List.countP Event.isAuthentication
        [challenge, .stored .authenticating, answer salt c.password] = 1 := by
      rw [List.countP_cons, plain.2]
      rfl
    rw [one]
    exact congrArg (· + 1) stage

theorem admitted_faithful (faithful : Faithful native c) (authenticating : c.state = .authenticating)
    {acknowledgement : Event} (acknowledges : Acknowledges native acknowledgement) :
    Faithful native (admitted acknowledgement c) := by
  intro _
  obtain ⟨since, hence, stage⟩ := faithful (by simp [authenticating])
  rw [authenticating] at stage
  obtain ⟨salt, first, challenge, second, third, split, asks, once⟩ := stage
  have plain : acknowledgement.isAccepted = false ∧ acknowledgement.isAuthentication = false := by
    cases acknowledgement <;> first | exact ⟨rfl, rfl⟩ | exact acknowledges.elim
  refine ⟨since ++ [acknowledgement, .stored .connected], ?_, ?_⟩
  · refine hence.append rfl (by simp [admitted]) ?_
    exact List.forall_mem_cons.mpr ⟨plain.1, by simp [Event.isAccepted]⟩
  · refine ⟨salt, first, challenge, second, third, acknowledgement, [.stored .connected], ?_, asks, ?_,
      acknowledges⟩
    · rw [split]
      rfl
    · rw [answers, List.countP_append]
      have none : List.countP Event.isAuthentication [acknowledgement, .stored .connected] = 0 := by
        rw [List.countP_cons, plain.2]
        rfl
      rw [none]
      exact once

/-- A new session has answered nothing. -/
theorem begun_faithful (earlier since : List Event)
    (log : c.log = earlier ++ .accepted c.password :: since) (connecting : c.state = .connecting)
    (routine : ∀ event ∈ since, event.isRoutine = true) : Faithful native c := by
  intro _
  refine ⟨since, ⟨⟨earlier, log⟩, fun event member => current_of_routine (routine event member)⟩, ?_⟩
  rw [connecting]
  exact answers_routine routine

theorem faithful_chronicled (native : Endian) : Chronicled native (Faithful native) where
  routine := Faithful.routine
  answered := fun faithful connecting asks => answered_faithful faithful connecting asks
  admitted := fun faithful authenticating acknowledges =>
    admitted_faithful faithful authenticating acknowledges
  begun := by
    intro c after events _ log routine state
    rcases state with down | connecting
    · exact .of_disconnected down
    · exact begun_faithful c.log events log connecting routine

end

/-- Whenever the client is CONNECTED, the log since the last accepted `Connect` shows a challenge
from the server, then the only answer, made with the password of that `Connect`, and then the
acknowledgement from the server. -/
theorem connected_authenticated (rules : Rules) {c : Client} (reached : rules.Reachable c)
    (connected : c.state = .connected) :
    ∃ earlier password since, c.log = earlier ++ .accepted password :: since ∧
      (∀ event ∈ since, event.isAccepted = false) ∧ Authenticated rules.native password since := by
  have faithful : Faithful rules.native c :=
    (faithful_chronicled rules.native).preserved.reachable
      (fun _ _ _ => .of_disconnected rfl) reached
  obtain ⟨since, hence, stage⟩ := faithful (by simp [connected])
  rw [connected] at stage
  obtain ⟨earlier, split⟩ := hence.log
  exact ⟨earlier, c.password, since, split, hence.current, stage⟩

theorem connected_authenticated_handshake :
    ∃ c, sampleRules.Reachable c ∧ c.state = .connected ∧
      ∃ earlier password since, c.log = earlier ++ .accepted password :: since ∧
        (∀ event ∈ since, event.isAccepted = false) ∧ Authenticated .little password since := by
  obtain ⟨transitions, last, run, ended⟩ := replay_checked sampleRules sampleClient handshakeScript
    (fun _ last => last.state = .connected) (by decide +kernel)
  have reached : sampleRules.Reachable last := ⟨_, _, _, transitions, run⟩
  have connected := of_decide_eq_true ended
  exact ⟨last, reached, connected, connected_authenticated sampleRules reached connected⟩

end OpenDTP.Client
