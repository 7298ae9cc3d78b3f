import OpenDTP.Client.Composition

/-! Who looks after a session, as each thread knows it. A `Connect` holds the work guard until the
connect timer runs; a handler that took a timer out of the queue starts it anew, finds the session gone,
or knows that no session will be up. Calls nested in callbacks leave a thread where they found it. -/

namespace OpenDTP.Client
open Common Protocol Effects Effects.Program

/-- The kind of operation whose handler looks after a session in this state. -/
def watcher : State → Kind
  | .connected => .keepAlive
  | _ => .connectTimeout

/-! ### Where a thread stands -/

/-- How far a `Connect` has come: it holds the work guard, has started the thread, has stored
CONNECTING and has still to start the connect timer. -/
inductive Launch where
  | none
  | guarded
  | spawned
  | started
  deriving DecidableEq

/-- Whether the thread works on anything; how far its `Connect` has come; which session its handler has
found or moved on; which kind of operation has left the queue with its handler and is not started
anew; whether it has stopped the keep-alive timer of a session that is over; whether it knows that no
session will be up before its handler ends; and how many callbacks it is inside. -/
structure Duty where
  busy : Bool
  launch : Launch
  stage : Option State
  lacks : Option Kind
  ending : Bool
  down : Bool
  depth : Nat

/-- A handler that finds another session than the one it looks after, or none, owes nothing. -/
def Duty.found (duty : Duty) (state : State) : Duty :=
  { duty with
    stage := if state = .disconnected then duty.stage else some state
    lacks := if state ≠ .disconnected ∧ duty.lacks = some (watcher state) then duty.lacks else none }

def minding (thread : Thread) : Transformer Op Duty
  | _, .loadState, post, duty =>
    match thread with
    | .io =>
      duty.busy = true ∧ ∀ state, (∀ stage, duty.stage = some stage →
        state = stage ∨ state = .disconnected) → post state (duty.found state)
    | .app _ => ∀ state, post state { duty with lacks := none }
  | _, .storeState value, post, duty =>
    match value with
    | .disconnected => post () { duty with lacks := none }
    | .connecting => duty.launch = .spawned ∧ post () { duty with launch := .started }
    | .authenticating =>
      thread = .io ∧ duty.stage = some .connecting ∧
        post () { duty with stage := some .authenticating }
    | .connected =>
      thread = .io ∧ duty.stage = some .authenticating ∧
        post () { duty with stage := some .connected, lacks := some .keepAlive }
  | _, .makeWorkGuard, post, duty =>
    duty.launch = .none ∧ post () { duty with launch := .guarded }
  | _, .dropWorkGuard, post, duty =>
    duty.launch = .guarded ∧ post () { duty with launch := .none }
  | _, .startThread, post, duty =>
    duty.launch = .guarded ∧ duty.busy = true ∧ (∀ what, post (.error what) duty) ∧
      post (.ok ()) { duty with launch := .spawned }
  | _, .expiresAfter timer _, post, duty =>
    match timer with
    | .connectTimeoutTimer => duty.launch = .started ∧ post () duty
    | .keepAliveTimer =>
      thread = .io ∧ duty.busy = true ∧ duty.lacks ≠ some .connectTimeout ∧
        post () { duty with lacks := some .keepAlive }
  | _, .asyncWait timer, post, duty =>
    match timer with
    | .connectTimeoutTimer =>
      duty.launch = .started ∧ post (.ok ()) { duty with launch := .guarded }
    | .keepAliveTimer =>
      duty.lacks ≠ some .connectTimeout ∧ post (.ok ()) { duty with lacks := none }
  | _, .cancelTimer timer, post, duty =>
    match timer with
    | .keepAliveTimer => post () { duty with ending := true }
    | .connectTimeoutTimer =>
      (duty.ending = true ∨ thread = .io ∧ duty.stage = some .connected) ∧ post () duty
  | _, .hasHook _, post, duty => ∀ answer, post answer { duty with ending := false }
  | _, .beginCallback _, post, duty =>
    post () { duty with ending := false, depth := duty.depth + 1 }
  | _, .endCallback _, post, duty =>
    duty.busy = true ∧ duty.launch = .none ∧ (thread = .io → duty.stage ≠ none) ∧
      ∀ lacks down outcome, (lacks ≠ none → lacks = duty.lacks) →
        (∀ what, outcome = .error what → duty.depth = 1 → down = true) → post outcome { duty with
          lacks := lacks
          ending := false
          down := down
          depth := duty.depth - 1 }
  | _, .unlock mutex, post, duty =>
    match mutex with
    | .connectionMutex => duty.launch = .none ∧ post () duty
    | .writeMutex => post () duty
  | _, _, post, duty => ∀ answer, post answer duty

attribute [simp] minding

/-- A thread at work inside so many callbacks, outside of a start. -/
structure Dutiful (depth : Nat) (stage : Option State) (lacks : Option Kind) (duty : Duty) : Prop where
  busy : duty.busy = true
  launch : duty.launch = .none
  depth : duty.depth = depth
  stage : duty.stage = stage
  lacks : duty.lacks ≠ none → duty.lacks = lacks

/-- Outside of callbacks an exception is on its way only when no session will be up. -/
def Fallen (depth : Nat) (stage : Option State) (lacks : Option Kind) (duty : Duty) : Prop :=
  Dutiful depth stage lacks duty ∧ (depth = 0 → duty.down = true)

abbrev Minds (thread : Thread) (depth : Nat) (stage : Option State) (lacks : Option Kind) {α : Type}
    (program : Method α) : Prop :=
  program.Ends (minding thread) (Dutiful depth stage lacks) (Dutiful depth stage lacks)
    (Fallen depth stage lacks)

/-- The operations that neither begin, move on or end a session, nor start or cancel its timers. -/
def Op.isCalm : {β : Type} → Op β → Bool
  | _, .loadState | _, .storeState _ | _, .makeWorkGuard | _, .dropWorkGuard | _, .startThread
  | _, .expiresAfter _ _ | _, .asyncWait _ | _, .cancelTimer _ | _, .beginCallback _
  | _, .endCallback _ => false
  | _, _ => true

section

variable {native : Endian} {thread : Thread} {α β : Type} {depth : Nat} {stage : Option State}
  {lacks : Option Kind}

theorem minding_monotone (thread : Thread) : Transformer.Monotone (minding thread) := by
  intro β operation first second weaker duty holds
  cases operation
  case loadState =>
    cases thread with
    | io => exact ⟨holds.1, fun state same => weaker _ _ (holds.2 state same)⟩
    | app id => exact fun state => weaker _ _ (holds state)
  case storeState value =>
    cases value
    case disconnected => exact weaker _ _ holds
    case connecting => exact ⟨holds.1, weaker _ _ holds.2⟩
    all_goals exact ⟨holds.1, holds.2.1, weaker _ _ holds.2.2⟩
  case makeWorkGuard => exact ⟨holds.1, weaker _ _ holds.2⟩
  case dropWorkGuard => exact ⟨holds.1, weaker _ _ holds.2⟩
  case startThread =>
    exact ⟨holds.1, holds.2.1, fun what => weaker _ _ (holds.2.2.1 what), weaker _ _ holds.2.2.2⟩
  case expiresAfter timer _ =>
    cases timer
    · exact ⟨holds.1, holds.2.1, holds.2.2.1, weaker _ _ holds.2.2.2⟩
    · exact ⟨holds.1, weaker _ _ holds.2⟩
  case asyncWait timer => cases timer <;> exact ⟨holds.1, weaker _ _ holds.2⟩
  case cancelTimer timer =>
    cases timer
    · exact weaker _ _ holds
    · exact ⟨holds.1, weaker _ _ holds.2⟩
  case hasHook => exact fun answer => weaker _ _ (holds answer)
  case beginCallback => exact weaker _ _ holds
  case endCallback =>
    exact ⟨holds.1, holds.2.1, holds.2.2.1, fun lacks down outcome fewer fallen =>
      weaker _ _ (holds.2.2.2 lacks down outcome fewer fallen)⟩
  case unlock mutex =>
    cases mutex
    · exact ⟨holds.1, weaker _ _ holds.2⟩
    · exact weaker _ _ holds
  all_goals exact fun answer => weaker _ _ (holds answer)

theorem Dutiful.unending {duty : Duty} (kept : Dutiful depth stage lacks duty) (ending : Bool) :
    Dutiful depth stage lacks { duty with ending := ending } :=
  ⟨kept.busy, kept.launch, kept.depth, kept.stage, kept.lacks⟩

theorem Dutiful.owing {duty : Duty} (dutiful : Dutiful depth stage none duty) :
    Dutiful depth stage lacks duty :=
  ⟨dutiful.busy, dutiful.launch, dutiful.depth, dutiful.stage,
    fun some => absurd (dutiful.lacks some) some⟩

theorem minding_calm {operation : Op β} (calm : operation.isCalm = true) {post : β → Duty → Prop}
    {duty : Duty} (launch : duty.launch = .none)
    (holds : ∀ answer ending, post answer { duty with ending := ending }) :
    minding thread β operation post duty := by
  have same (answer : β) : post answer duty := holds answer duty.ending
  cases operation <;> try first | exact same | cases calm
  case hasHook hook => exact fun answer => holds answer false
  case unlock mutex =>
    cases mutex
    · exact ⟨launch, same ()⟩
    · exact same ()

theorem Minds.calm {operation : Op β} (calm : operation.isCalm = true) :
    Minds thread depth stage lacks (perform operation) :=
  .perform fun _ _ dutiful holds => minding_calm calm dutiful.launch fun answer ending =>
    holds answer _ (dutiful.unending ending)

theorem locked_ends {before after failed : Duty → Prop} {mutex : Mutex} {scope : Method α}
    (kept : ∀ duty, after duty → duty.launch = .none) (held : ∀ duty, failed duty → duty.launch = .none)
    (ends : scope.Ends (minding thread) before after failed) :
    (locked mutex scope).Ends (minding thread) before after failed := by
  intro post duty here holds fails
  have leaves {post : Unit → Duty → Prop} {after : Duty} (launch : after.launch = .none)
      (holds : post () after) : minding thread _ (.unlock mutex) post after := by
    cases mutex
    · exact ⟨launch, holds⟩
    · exact holds
  simp only [Client.locked, wp_bind, wp_perform, wp_attempt, wp_ofOutcome, andThen_ok]
  refine fun _ => ends _ _ here (fun value after there => ?_) fun what after fallen => ?_
  · exact leaves (kept after there) (holds value after there)
  · exact leaves (held after fallen) (fails what after fallen)

theorem Minds.locked {mutex : Mutex} {scope : Method α} (minds : Minds thread depth stage lacks scope) :
    Minds thread depth stage lacks (locked mutex scope) :=
  locked_ends (fun _ dutiful => dutiful.launch) (fun _ fallen => fallen.1.launch) minds

theorem Minds.ret (value : α) :
    Minds thread depth stage lacks (Program.ret value : Method α) :=
  Ends.ret value fun _ dutiful => dutiful

theorem Minds.bind {program : Method α} {rest : α → Method β}
    (first : Minds thread depth stage lacks program)
    (next : ∀ value, Minds thread depth stage lacks (rest value)) :
    Minds thread depth stage lacks (program >>= rest) := Ends.bind first next

theorem invoke_minds (awake : thread = .io → stage ≠ none) (callback : Callback) :
    Minds thread depth stage lacks (invoke callback) := by
  intro post duty dutiful holds fails
  simp only [invoke, wp_bind, wp_perform, wp_ofOutcome, andThen_ok, minding]
  refine ⟨dutiful.busy, dutiful.launch, fun own => by rw [dutiful.stage]; exact awake own, ?_⟩
  intro left down outcome fewer fallen
  have still : Dutiful depth stage lacks { duty with
      lacks := left
      ending := false
      down := down
      depth := duty.depth + 1 - 1 } := by
    refine ⟨dutiful.busy, dutiful.launch, dutiful.depth, dutiful.stage, fun some => ?_⟩
    have same : left = duty.lacks := fewer some
    rw [same] at some ⊢
    exact dutiful.lacks some
  cases outcome with
  | ok value => exact holds value _ still
  | error what =>
    refine fails what _ ⟨still, fun outermost => fallen what rfl ?_⟩
    rw [dutiful.depth, outermost]

theorem report_minds (awake : thread = .io → stage ≠ none) (callback : Callback) :
    Minds thread depth stage lacks (report callback) := by
  refine Minds.bind (.calm rfl) fun assigned => ?_
  split
  · exact invoke_minds awake callback
  · exact Minds.ret ()

theorem transmitRaw_minds (awake : thread = .io → stage ≠ none) (type : MessageType) (flag : UInt16)
    (payload : Bytes) : Minds thread depth stage lacks (transmitRaw native type flag payload) := by
  refine Minds.bind (Minds.calm rfl) fun _ => Minds.locked (Minds.bind (Minds.calm rfl) fun isOpen => ?_)
  split
  · exact Minds.ret ()
  · refine Minds.bind (Minds.calm rfl) fun number => Minds.bind (Minds.calm rfl) fun server =>
      Minds.bind (Minds.calm rfl) fun ec => ?_
    split
    · exact Minds.bind (Minds.calm rfl) fun _ => report_minds awake _
    · exact Minds.ret ()

/-- What a handler knows when it has loaded `state_`, and what it owes then. -/
structure Found (depth : Nat) (before : Option State) (lacks : Option Kind) (found : State)
    (duty : Duty) : Prop where
  down : found = .disconnected → Dutiful depth before none duty
  known : found ≠ .disconnected → before = none ∨ before = some found
  up : found ≠ .disconnected →
    Dutiful depth (some found) (if lacks = some (watcher found) then lacks else none) duty

/-- A handler that has found a session finds it again or none. -/
theorem io_load {post : State → Duty → Prop} {duty : Duty} (dutiful : Dutiful depth stage lacks duty)
    (holds : ∀ found after, Found depth stage lacks found after → post found after) :
    minding .io _ .loadState post duty := by
  obtain ⟨busy, launch, depth, same, owes⟩ := dutiful
  refine ⟨busy, fun found finds => holds found _ ⟨fun down => ?_, fun up => ?_, fun up => ?_⟩⟩
  · subst down
    exact ⟨busy, launch, depth, same, fun some => absurd rfl some⟩
  · rw [← same]
    cases known : duty.stage with
    | none => exact .inl rfl
    | some here => exact .inr (congrArg _ ((finds here known).resolve_right up).symm)
  · refine ⟨busy, launch, depth, if_neg up, fun some => ?_⟩
    simp only [Duty.found] at some ⊢
    split at some
    · next both =>
      have kept := owes (by simp [both.2])
      rw [if_pos both, kept, if_pos (kept.symm.trans both.2)]
    · exact absurd rfl some

/-- A thread inside a session finds that session or none. -/
theorem minding_load (awake : thread = .io → stage ≠ none) {post : State → Duty → Prop} {duty : Duty}
    (dutiful : Dutiful depth stage lacks duty)
    (holds : ∀ state after, Dutiful depth stage lacks after →
      (state = .disconnected → Dutiful depth stage none after) → post state after) :
    minding thread _ .loadState post duty := by
  cases thread with
  | app id =>
    have freed (lacks : Option Kind) : Dutiful depth stage lacks { duty with lacks := none } :=
      ⟨dutiful.busy, dutiful.launch, dutiful.depth, dutiful.stage, fun some => absurd rfl some⟩
    exact fun state => holds state _ (freed lacks) fun _ => freed none
  | io =>
    refine io_load dutiful fun state after finds => holds state after ?_ finds.down
    by_cases other : state = .disconnected
    · exact (finds.down other).owing
    · obtain rfl := (finds.known other).resolve_left (awake rfl)
      have still := finds.up other
      split at still
      · exact still
      · exact still.owing

theorem loadState_minds (awake : thread = .io → stage ≠ none) :
    Minds thread depth stage lacks (perform .loadState) :=
  .perform fun _ _ dutiful holds =>
    minding_load awake dutiful fun state after still _ => holds state after still

/-! ### Disconnect -/

theorem sendClose_minds (awake : thread = .io → stage ≠ none) :
    Minds thread depth stage lacks (sendClose native) := by
  refine Minds.bind (Minds.calm rfl) fun isOpen => ?_
  split
  · exact Ends.tryCatch (transmitRaw_minds awake _ _ _) fun _ => .ret () fun _ fallen => fallen.1
  · exact Minds.ret ()

theorem joinThread_minds : Minds thread depth stage lacks joinThread := by
  refine Minds.bind (Minds.calm rfl) fun joinable => ?_
  split
  · refine Minds.bind (Minds.calm rfl) fun own => ?_
    split
    · exact Minds.calm rfl
    · exact Minds.ret ()
  · exact Minds.ret ()

theorem storeDown_ends {fallen : Duty → Prop} :
    (perform (.storeState .disconnected)).Ends (minding thread) (Dutiful depth stage lacks)
      (Dutiful depth stage none) fallen :=
  .perform fun _ _ dutiful holds => holds () _
    ⟨dutiful.busy, dutiful.launch, dutiful.depth, dutiful.stage, fun some => absurd rfl some⟩

/-- When the session is over there is nothing to look after. -/
theorem endSession_ends (awake : thread = .io → stage ≠ none) :
    (endSession native).Ends (minding thread) (Dutiful depth stage lacks) (Dutiful depth stage none)
      (Fallen depth stage none) := by
  refine .bind storeDown_ends fun _ =>
    Minds.bind (sendClose_minds awake) fun _ post duty dutiful holds fails => ?_
  simp only [stopKeepAliveTimer, wp_bind, wp_perform, wp_ite, wp_pure, andThen_ok, minding]
  refine ⟨.inl trivial, fun _ _ _ assigned => ?_⟩
  split
  · exact fun lastError => invoke_minds awake _ _ _ (dutiful.unending false) holds fails
  · exact holds () _ (dutiful.unending false)

theorem disconnect_ends (awake : thread = .io → stage ≠ none) :
    (disconnect native).Ends (minding thread) (Dutiful depth stage lacks) (Dutiful depth stage none)
      (Fallen depth stage none) := by
  intro post duty dutiful holds fails
  simp only [disconnect, wp_bind, wp_perform, andThen_ok]
  refine minding_load awake dutiful fun expected after still settled => ?_
  split
  · rw [wp_bind]
    exact endSession_ends awake _ _ still
      (fun _ after still => joinThread_minds _ _ still holds fails) fails
  · next down => exact joinThread_minds _ _ (settled (by simpa using down)) holds fails

theorem disconnect_minds (awake : thread = .io → stage ≠ none) :
    Minds thread depth stage lacks (disconnect native) :=
  (disconnect_ends awake).weaken (fun _ dutiful => dutiful) (fun _ dutiful => dutiful.owing)
    fun _ fallen => ⟨fallen.1.owing, fallen.2⟩

/-! ### Connect -/

/-- After the try block nobody holds the work guard any more. -/
theorem startUp_minds (host : String) (port : UInt16) (timeoutMs : UInt32)
    {post : Outcome Unit → Duty → Prop} {duty : Duty} (dutiful : Dutiful depth stage lacks duty)
    (holds : ∀ outcome after, Dutiful depth stage lacks after → post outcome after) :
    (startUp host port timeoutMs).wp (minding thread) post duty := by
  have settles (outcome : Outcome Unit) (launch : Launch) (none : launch = .none) :
      post outcome { duty with launch := launch } :=
    holds outcome _ ⟨dutiful.busy, none, dutiful.depth, dutiful.stage, dutiful.lacks⟩
  simp only [startUp, wp_bind, wp_perform, wp_attempt, wp_ofOutcome, andThen_ok, minding]
  refine fun _ => ⟨dutiful.launch, ?_⟩
  refine ⟨trivial, dutiful.busy, fun what => ⟨rfl, settles _ .none rfl⟩, ?_⟩
  exact ⟨trivial, trivial, trivial, fun resolve => ⟨trivial, settles _ .none rfl⟩⟩

theorem connect_minds (awake : thread = .io → stage ≠ none) (host : String) (port : UInt16)
    (password : Bytes) (timeoutMs : UInt32) :
    Minds thread depth stage lacks (connect host port password timeoutMs) := by
  refine Minds.locked (Minds.bind (loadState_minds awake) fun state => ?_)
  split
  · exact Minds.ret _
  · refine Minds.bind (Minds.calm rfl) fun _ => Minds.bind (Minds.calm rfl) fun _ =>
      Minds.bind (Minds.calm rfl) fun _ => Minds.bind (Minds.calm rfl) fun _ =>
      Minds.bind (Minds.calm rfl) fun _ => Minds.bind (Minds.calm rfl) fun _ => ?_
    refine Minds.bind (fun _ _ dutiful holds _ => ?_) fun outcome => ?_
    · rw [wp_attempt]
      exact startUp_minds _ _ _ dutiful fun outcome after still => holds outcome after still
    · split
      · exact Minds.ret _
      · refine Minds.bind (storeDown_ends.weaken (fun _ dutiful => dutiful)
          (fun _ dutiful => dutiful.owing) fun _ fallen => fallen) fun _ =>
          Minds.bind (report_minds awake _) fun _ => Minds.ret _

/-! ### Public methods -/

theorem whenConnected_minds (awake : thread = .io → stage ≠ none) {body : Method Unit}
    (minds : Minds thread depth stage lacks body) :
    Minds thread depth stage lacks (whenConnected body) := by
  refine Minds.bind (loadState_minds awake) fun state => ?_
  split
  · exact Minds.ret ()
  · exact minds

theorem whenInCall_minds (awake : thread = .io → stage ≠ none) {body : Method Unit}
    (minds : Minds thread depth stage lacks body) :
    Minds thread depth stage lacks (whenInCall body) := by
  refine whenConnected_minds awake (Minds.bind (Minds.calm rfl) fun inCall => ?_)
  split
  · exact Minds.ret ()
  · exact minds

theorem method_minds (awake : thread = .io → stage ≠ none) (made : PublicCall) :
    Minds thread depth stage lacks (method native made) := by
  have sends (type : MessageType) (flag : UInt16) (payload : Bytes) :
      Minds thread depth stage lacks (transmitRaw native type flag payload) :=
    transmitRaw_minds awake type flag payload
  cases made with
  | connect => exact Minds.bind (connect_minds awake _ _ _ _) fun _ => Minds.ret _
  | disconnect => exact Minds.bind (disconnect_minds awake) fun _ => Minds.ret _
  | subscribe talkgroup =>
    exact Minds.bind (whenConnected_minds awake (sends _ _ _)) fun _ => Minds.ret _
  | unsubscribe talkgroup =>
    exact Minds.bind (whenConnected_minds awake (sends _ _ _)) fun _ => Minds.ret _
  | startVoiceCall sourceId destinationId isGroup =>
    exact Minds.bind (whenConnected_minds awake (Minds.bind (Minds.calm rfl) fun _ =>
      Minds.bind (Minds.calm rfl) fun _ => Minds.bind (sends _ _ _) fun _ =>
      Minds.bind (sends _ _ _) fun _ => sends _ _ _)) fun _ => Minds.ret _
  | sendAudioFrame ambeData =>
    exact Minds.bind (whenInCall_minds awake (sends _ _ _)) fun _ => Minds.ret _
  | endVoiceCall =>
    exact Minds.bind (whenInCall_minds awake (Minds.bind (sends _ _ _) fun _ => Minds.calm rfl))
      fun _ => Minds.ret _
  | sendTextMessage destinationId isGroup text =>
    exact Minds.bind (whenConnected_minds awake (Minds.bind (Minds.calm rfl) fun _ => sends _ _ _))
      fun _ => Minds.ret _
  | sendLocationReport nmeaSentence =>
    exact Minds.bind (whenConnected_minds awake (sends _ _ _)) fun _ => Minds.ret _

theorem publicCall_minds (awake : thread = .io → stage ≠ none) (made : PublicCall) :
    Minds thread depth stage lacks (publicCall native made) :=
  Minds.bind (Minds.calm rfl) fun _ => Minds.bind (method_minds awake made) fun _ =>
    Minds.bind (Minds.calm rfl) fun _ => Minds.ret _

theorem awaitConnection_minds (awake : thread = .io → stage ≠ none) :
    Minds thread depth stage lacks awaitConnection := by
  have settled : Minds thread depth stage lacks settled := by
    refine Minds.bind (loadState_minds awake) fun state => ?_
    split
    · exact Minds.ret true
    · exact Minds.bind (loadState_minds awake) fun state => Minds.ret _
  refine Minds.locked (Minds.bind settled fun holds => ?_)
  split
  · refine Minds.bind (loadState_minds awake) fun state => ?_
    split
    · exact Minds.bind (Minds.calm rfl) fun lastError => Minds.ret _
    · exact Minds.ret _
  · exact Minds.ret _

end

/-! ### Handlers -/

/-- What the handler of an operation owes: to start anew the timer that has left the queue with it. -/
def owing (kind : Kind) (completion : Completion) : Option Kind :=
  match kind with
  | .connectTimeout | .keepAlive =>
    if completion.ec = .operationAborted then none else some kind
  | _ => none

/-- A handler that returns owes nothing. -/
def Done (duty : Duty) : Prop := ∃ stage, Dutiful 0 stage none duty

def Threw (duty : Duty) : Prop := ∃ stage lacks, Fallen 0 stage lacks duty

/-- A handler has found a session and owes nothing. -/
def Tending (duty : Duty) : Prop := ∃ state, Dutiful 0 (some state) none duty

section

variable {native : Endian} {α β : Type} {depth : Nat} {state : State} {lacks : Option Kind}

theorem awake_some (state : State) : Thread.io = .io → some state ≠ none := fun _ => by simp

theorem Minds.handles {program : Method α} (minds : Minds .io 0 (some state) none program) :
    program.Ends (minding .io) (Dutiful 0 (some state) none) Done Threw :=
  minds.weaken (fun _ dutiful => dutiful) (fun _ dutiful => ⟨_, dutiful⟩) fun _ fallen => ⟨_, _, fallen⟩

theorem Minds.tends {program : Method α} (minds : ∀ state, Minds .io 0 (some state) none program) :
    program.Ends (minding .io) Tending Tending Threw :=
  fun post duty ⟨state, dutiful⟩ holds fails => minds state post duty dutiful
    (fun value after still => holds value after ⟨state, still⟩)
    fun what after fallen => fails what after ⟨_, _, fallen⟩

theorem Done.of_tends {program : Method α} (tends : program.Ends (minding .io) Tending Tending Threw) :
    program.Ends (minding .io) Tending Done Threw :=
  tends.weaken (fun _ tending => tending) (fun _ tending => ⟨_, tending.choose_spec⟩)
    fun _ threw => threw

theorem sendKeepAlive_minds : Minds .io depth (some state) lacks (sendKeepAlive native) :=
  Minds.bind (Minds.calm rfl) fun _ => transmitRaw_minds (awake_some state) _ _ _

theorem startReceiveLoop_minds : Minds .io depth (some state) lacks startReceiveLoop := by
  refine Minds.bind (loadState_minds (awake_some state)) fun state => ?_
  split
  · exact Minds.ret ()
  · refine Minds.bind (Minds.calm rfl) fun isOpen => ?_
    split
    · exact Minds.ret ()
    · exact Minds.calm rfl

/-- A session that is up has its keep-alive timer running again. -/
theorem startKeepAliveTimer_ends : startKeepAliveTimer.Ends (minding .io)
    (Dutiful depth (some .connected) (some .keepAlive)) (Dutiful depth (some .connected) none)
    (Fallen depth (some .connected) none) := by
  intro post duty dutiful holds fails
  simp only [startKeepAliveTimer, wp_bind, wp_perform, andThen_ok]
  refine io_load dutiful fun found after finds => ?_
  split
  · next other =>
    refine holds () after (finds.down ?_)
    by_contra live
    have same := (finds.known live).resolve_left (by simp)
    exact other (Option.some.inj same).symm
  · next same =>
    obtain rfl : found = .connected := by simpa using same
    have still := finds.up (by decide)
    have free : after.lacks ≠ some .connectTimeout := by
      intro other
      have owes := still.lacks (by simp [other])
      rw [other] at owes
      cases owes
    simp only [wp_bind, wp_perform, wp_ofOutcome, andThen_ok, minding]
    exact ⟨trivial, still.busy, free, by simp, holds () _
      ⟨still.busy, still.launch, still.depth, still.stage, fun some => absurd rfl some⟩⟩

theorem failSession_ends (error : ClientError) (message : String) :
    (failSession native error message).Ends (minding .io) (Dutiful depth (some state) lacks)
      (Dutiful depth (some state) none) (Fallen depth (some state) lacks) := by
  refine .bind (Minds.calm rfl) fun _ => .bind (report_minds (awake_some state) _) fun _ =>
    .bind ((disconnect_ends (awake_some state)).weaken (fun _ dutiful => dutiful)
      (fun _ dutiful => dutiful) fun _ fallen => ⟨fallen.1.owing, fallen.2⟩) fun _ => ?_
  exact (Minds.calm rfl).weaken (fun _ dutiful => dutiful) (fun _ dutiful => dutiful)
    fun _ fallen => ⟨fallen.1.owing, fallen.2⟩

theorem Done.launch {duty : Duty} (done : Done duty) : duty.launch = .none := done.choose_spec.launch

theorem Threw.launch {duty : Duty} (threw : Threw duty) : duty.launch = .none := by
  obtain ⟨_, _, fallen⟩ := threw
  exact fallen.1.launch

/-- Once its session is not there any more, or another timer looks after it, a handler owes nothing. -/
theorem Found.done {before : Option State} {found : State} {duty : Duty}
    (finds : Found 0 before lacks found duty)
    (other : lacks = some (watcher found) → found = .disconnected) : Done duty := by
  by_cases past : found = .disconnected
  · exact ⟨_, finds.down past⟩
  · have still := finds.up past
    rw [if_neg fun owes => past (other owes)] at still
    exact ⟨_, still⟩

theorem Found.free {before : Option State} {found : State} {duty : Duty}
    (finds : Found depth before none found duty) (up : found ≠ .disconnected) :
    Dutiful depth (some found) none duty := by
  simpa using finds.up up

theorem Found.tending {before found : State} {duty : Duty}
    (finds : Found 0 (some before) none found duty) : Tending duty := by
  by_cases past : found = .disconnected
  · exact ⟨_, finds.down past⟩
  · exact ⟨_, finds.free past⟩

theorem resolveHandler_done (ec : ErrorCode) (endpoints : List Endpoint) :
    (resolveHandler native ec endpoints).Ends (minding .io) (Dutiful 0 none none) Done Threw := by
  refine locked_ends (fun _ done => done.launch) (fun _ threw => threw.launch) ?_
  intro post duty dutiful holds fails
  rw [wp_bind, wp_perform]
  refine io_load dutiful fun state after finds => ?_
  rw [andThen_ok]
  by_cases other : state ≠ .connecting
  · rw [if_pos other]
    exact holds () after (finds.done fun owes => by cases owes)
  · obtain rfl : state = .connecting := by simpa using other
    rw [if_neg other]
    have ends (error : ClientError) (message : String) :
        Minds .io 0 (some .connecting) none (failSession native error message) :=
      failSession_ends error message
    refine Minds.handles ?_ post after (finds.free (by decide)) holds fails
    split
    · exact ends _ _
    · refine Minds.bind (Minds.calm rfl) fun _ => Minds.bind (Minds.calm rfl) fun openEc => ?_
      split
      · exact ends _ _
      · refine Minds.bind (Minds.calm rfl) fun bindEc => ?_
        split
        · exact ends _ _
        · exact Minds.bind startReceiveLoop_minds fun _ => sendKeepAlive_minds

theorem keepAliveHandler_done (ec : ErrorCode) :
    (keepAliveHandler native ec).Ends (minding .io)
      (Dutiful 0 none (if ec = .operationAborted then none else some .keepAlive)) Done Threw := by
  unfold keepAliveHandler
  split
  · exact .ret () fun _ dutiful => ⟨_, dutiful⟩
  · intro post duty dutiful holds fails
    rw [wp_bind, wp_perform]
    refine io_load dutiful fun found after finds => ?_
    rw [andThen_ok]
    by_cases other : found ≠ .connected
    · rw [if_pos other]
      refine holds () after (finds.done fun owes => ?_)
      cases found <;> first | rfl | exact absurd rfl other | cases owes
    · obtain rfl : found = .connected := by simpa using other
      rw [if_neg other, wp_bind]
      refine sendKeepAlive_minds _ after (finds.up (by decide)) (fun _ after still => ?_)
        fun what after fallen => fails what after ⟨_, _, fallen⟩
      exact startKeepAliveTimer_ends _ after still (fun _ after still => holds () after ⟨_, still⟩)
        fun what after fallen => fails what after ⟨_, _, fallen⟩

/-- The second test of the connect timeout handler, which has found AUTHENTICATING before or owes
nothing. -/
theorem expire_done {before : Option State} (settled : lacks = none ∨ before = some .authenticating)
    {post : Outcome Unit → Duty → Prop} {duty : Duty} (dutiful : Dutiful 0 before lacks duty)
    (holds : ∀ after, Done after → post (.ok ()) after)
    (fails : ∀ what after, Threw after → post (.error what) after) :
    minding .io _ .loadState (fun state after =>
      (if state = .authenticating then
        failSession native .responseTimeout "Connection timed out during handshake"
      else pure ()).wp (minding .io) post after) duty := by
  refine io_load dutiful fun found after finds => ?_
  by_cases same : found = .authenticating
  · subst same
    exact failSession_ends _ _ _ _ (finds.up (by decide)) (fun _ after still => holds after ⟨_, still⟩)
      fun what after fallen => fails what after ⟨_, _, fallen⟩
  · rw [if_neg same]
    refine holds after (finds.done fun owes => by_contra fun up => ?_)
    rcases settled with rfl | rfl
    · cases owes
    · exact same (Option.some.inj ((finds.known up).resolve_left (by simp))).symm

theorem connectTimeoutHandler_done (ec : ErrorCode) :
    (connectTimeoutHandler native ec).Ends (minding .io)
      (Dutiful 0 none (if ec = .operationAborted then none else some .connectTimeout)) Done Threw := by
  unfold connectTimeoutHandler
  split
  · exact .ret () fun _ dutiful => ⟨_, dutiful⟩
  · refine locked_ends (fun _ done => done.launch) (fun _ threw => threw.launch) ?_
    intro post duty dutiful holds fails
    rw [wp_bind, handshaking, wp_bind, wp_perform]
    refine io_load dutiful fun found after finds => ?_
    rw [andThen_ok]
    by_cases same : found = .connecting
    · subst same
      rw [if_pos rfl, wp_pure, andThen_ok, if_pos rfl]
      exact failSession_ends _ _ _ _ (finds.up (by decide))
        (fun _ after still => holds () after ⟨_, still⟩)
        fun what after fallen => fails what after ⟨_, _, fallen⟩
    · rw [if_neg same]
      simp only [wp_bind, wp_perform, wp_pure, andThen_ok, decide_eq_true_eq]
      by_cases past : found = .disconnected
      · exact expire_done (.inl rfl) (finds.down past) (holds ()) fails
      · refine expire_done ?_ (finds.up past) (holds ()) fails
        cases found <;> first | exact .inr rfl | exact .inl rfl | contradiction

/-- CHALLENGE and the acknowledgement move the session on that the handler has found. -/
theorem processPacket_tends (packet : Bytes) :
    (processPacket native packet).Ends (minding .io) Tending Tending Threw := by
  unfold processPacket
  split
  · exact .ret () fun _ tending => tending
  · split
    · exact .ret () fun _ tending => tending
    · split
      · rintro post duty ⟨state, dutiful⟩ holds fails
        rw [wp_bind, wp_perform]
        refine io_load dutiful fun found after finds => ?_
        rw [andThen_ok]
        by_cases same : found = .connecting
        · subst same
          have still := finds.free (by decide)
          rw [if_pos rfl, wp_bind, wp_perform]
          refine ⟨rfl, still.stage, ?_⟩
          have moved : Dutiful 0 (some .authenticating) none
              { after with stage := some .authenticating } :=
            ⟨still.busy, still.launch, still.depth, rfl, still.lacks⟩
          exact (Minds.bind (Minds.calm rfl) fun _ => transmitRaw_minds (awake_some _) _ _ _) _ _ moved
            (fun _ after still => holds () after ⟨_, still⟩)
            fun what after fallen => fails what after ⟨_, _, fallen⟩
        · rw [if_neg same]
          exact holds () after finds.tending
      · split
        · split
          · rintro post duty ⟨state, dutiful⟩ holds fails
            rw [wp_bind, wp_perform]
            refine io_load dutiful fun found after finds => ?_
            rw [andThen_ok]
            by_cases same : found = .authenticating
            · subst same
              have still := finds.free (by decide)
              rw [if_pos rfl]
              simp only [wp_bind, wp_perform, andThen_ok]
              refine ⟨rfl, still.stage, .inr ⟨rfl, rfl⟩, ?_⟩
              have moved : Dutiful 0 (some .connected) (some .keepAlive)
                  { after with stage := some .connected, lacks := some .keepAlive } :=
                ⟨still.busy, still.launch, still.depth, rfl, fun _ => rfl⟩
              refine startKeepAliveTimer_ends _ _ moved (fun _ after still => ?_)
                fun what after fallen => fails what after ⟨_, _, fallen⟩
              refine Minds.locked (Minds.calm rfl) _ _ still (fun _ after still => ?_)
                fun what after fallen => fails what after ⟨_, _, fallen⟩
              exact report_minds (awake_some _) _ _ _ still
                (fun _ after still => holds () after ⟨_, still⟩)
                fun what after fallen => fails what after ⟨_, _, fallen⟩
            · rw [if_neg same]
              exact holds () after finds.tending
          · exact .ret () fun _ tending => tending
        · dsimp only
          split
          · exact .ret () fun _ tending => tending
          · exact Minds.tends fun state => report_minds (awake_some state) _

theorem handleReceive_done (ec : ErrorCode) (bytesTransferred : Nat) :
    (handleReceive native ec bytesTransferred).Ends (minding .io) (Dutiful 0 none none) Done Threw := by
  intro post duty dutiful holds fails
  rw [handleReceive, wp_bind, wp_perform]
  refine io_load dutiful fun found after finds => ?_
  rw [andThen_ok]
  by_cases past : found = .disconnected
  · rw [if_pos past]
    exact holds () after ⟨_, finds.down past⟩
  · rw [if_neg past]
    have still : Tending after := ⟨_, finds.free past⟩
    have receives : startReceiveLoop.Ends (minding .io) Tending Done Threw :=
      Done.of_tends (Minds.tends fun _ => startReceiveLoop_minds)
    refine (?_ : Ends (minding .io) Tending Done Threw _) post after still holds fails
    split
    · split
      · refine Done.of_tends (Minds.tends fun state => Minds.bind (Minds.calm rfl) fun _ =>
          Minds.bind (report_minds (awake_some state) _) fun _ => disconnect_minds (awake_some state))
      · exact .ret () fun _ tending => ⟨_, tending.choose_spec⟩
    · split
      · have reads {β : Type} {operation : Op β} (calm : operation.isCalm = true) :
            (perform operation).Ends (minding .io) Tending Tending Threw :=
          Minds.tends fun _ => Minds.calm calm
        refine .bind (reads rfl) fun sender => .bind (reads rfl) fun server =>
          .bind (reads rfl) fun packet => .bind (reads rfl) fun _ => ?_
        split
        · exact .bind (processPacket_tends packet) fun _ => receives
        · exact receives
      · exact receives

/-- A handler that returns has started its timer anew, or the session is not there any more. -/
theorem handler_done (kind : Kind) (completion : Completion) :
    (handler native kind completion).Ends (minding .io) (Dutiful 0 none (owing kind completion)) Done
      Threw := by
  cases kind with
  | connectTimeout => exact connectTimeoutHandler_done _
  | resolve => exact resolveHandler_done _ _
  | receive => exact handleReceive_done _ _
  | keepAlive => exact keepAliveHandler_done _

end

end OpenDTP.Client
