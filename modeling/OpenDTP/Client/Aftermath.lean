import OpenDTP.Client.Teardown

/-! What holds after `Disconnect`. It ends with the join of the background thread, so when it has
returned nobody is left to store `state_` or to open the socket. But a handler may act on a load of
`state_` from before `Disconnect` stored DISCONNECTED. Where none does, the client is DISCONNECTED
and its socket closed from the return of `Disconnect` to the next `Connect`. -/

namespace OpenDTP.Client
open Common Protocol Effects Effects.Program

/-- `Disconnect` returns. -/
def Event.isDeparture : Event → Bool
  | .returned .disconnect _ => true
  | _ => false

/-- Per thread whether its latest load of `state_` found a session, and the threads that have stored
DISCONNECTED in `Disconnect` and not yet closed the socket. Of one application thread whether it has
found or stored DISCONNECTED last, with no `Connect` accepted on it since, and whether its latest
`Disconnect` has returned, with no `Connect` accepted since. -/
structure Partings where
  found : Thread → Bool
  closing : List Thread
  settled : Bool
  returned : Bool

def aftermath (id : Nat) : Scribe Op Client Thread Partings
  | thread, _, .loadState, c, seen =>
    { seen with
      found := Function.update seen.found thread (c.state ≠ .disconnected)
      settled := if thread = .app id then decide (c.state = .disconnected) else seen.settled }
  | thread, _, .storeState value, _, seen =>
    if value = .disconnected then
      { seen with
        closing := if seen.found thread then thread :: seen.closing else seen.closing
        settled := seen.settled || decide (thread = .app id) }
    else seen
  | thread, _, .closeSocket, _, seen =>
    { seen with closing := seen.closing.filter (· ≠ thread) }
  | thread, _, .accept _, _, seen =>
    { seen with settled := seen.settled && decide (thread ≠ .app id), returned := false }
  | thread, _, .note event, _, seen =>
    { seen with returned := seen.returned || event.isDeparture && decide (thread = .app id) }
  | _, _, _, _, seen => seen

def unreturned : Partings := ⟨fun _ => false, [], false, false⟩

/-- What a handler tested still holds when it acts on it: the session is there that `ProcessPacket`
moves on, and the one that the socket is opened for, or its end has still to close the socket. And
when `Disconnect` returns, its callbacks have not connected again, and it is not itself called by a
callback of another one that has still to close the socket. -/
def lasting (id : Nat) (seen : Partings) (thread : Thread) (c : Client) : {β : Type} → Op β → Bool
  | _, .storeState value =>
    value = .disconnected || value = .connecting || c.state ≠ .disconnected
  | _, .openSocket _ => c.state ≠ .disconnected || !seen.closing.isEmpty
  | _, .note event =>
    !event.isDeparture || decide (thread ≠ .app id) ||
      seen.settled && decide (thread ∉ seen.closing)
  | _, _ => true

def Undelayed (id : Nat) (seen : Partings) (turn : Turn) : Prop :=
  executing (fun thread _ operation c => lasting id seen thread c operation) turn = true

instance (id : Nat) (seen : Partings) (turn : Turn) : Decidable (Undelayed id seen turn) :=
  instDecidableEqBool _ _

/-! ### Where a thread stands -/

/-- Whether the thread is inside `connectionMutex_`; whether it has found DISCONNECTED there; whether
it starts a session, and has started the background thread; what its latest load of `state_` found;
whether it has still to close the socket; whether no background thread is left to it; and whether it
works on anything. -/
structure Stance where
  inside : Bool
  clear : Bool
  starting : Bool
  spawned : Bool
  found : Option Bool
  closing : Bool
  joined : Bool
  busy : Bool

def departing (thread : Thread) : Transformer Op Stance
  | _, .loadState, post, stance =>
    stance.starting = false ∧ ∀ state, post state { stance with
      clear := stance.inside && state = .disconnected
      found := some (state ≠ .disconnected) }
  | _, .storeState value, post, stance =>
    match value with
    | .disconnected =>
      match stance.found with
      | none => False
      | some found =>
        if found then
          stance.starting = false ∧ stance.busy = true ∧
            post () { stance with clear := false, closing := true }
        else
          stance.starting = true ∧
            post () { stance with clear := false, starting := false, spawned := false }
    | .connecting =>
      stance.starting = true ∧ stance.spawned = true ∧
        post () { stance with clear := false, spawned := false }
    | _ => post () { stance with clear := false }
  | _, .accept _, post, stance =>
    stance.clear = true ∧ stance.busy = true ∧ post () { stance with starting := true }
  | _, .startThread, post, stance =>
    stance.starting = true ∧ stance.busy = true ∧ (∀ what, post (.error what) stance) ∧
      post (.ok ()) { stance with spawned := true, joined := false }
  | _, .openSocket _, post, stance =>
    stance.inside = true ∧ stance.starting = false ∧ ∀ ec, post ec stance
  | _, .closeSocket, post, stance => post () { stance with closing := false }
  | _, .joinable, post, stance => ∀ answer, post answer { stance with joined := !answer }
  | _, .onIoThread, post, stance => post (thread = .io) stance
  | _, .join, post, stance => post () { stance with joined := true }
  | _, .endCallback _, post, stance =>
    stance.starting = false ∧ stance.spawned = false ∧ stance.busy = true ∧
      ∀ found joined closing outcome, (closing = true → stance.closing = true) →
        post outcome { stance with
          clear := false
          found := found
          joined := joined
          closing := closing }
  | _, .lock mutex, post, stance =>
    match mutex with
    | .connectionMutex => stance.inside = false → post () { stance with inside := true }
    | .writeMutex => post () stance
  | _, .unlock mutex, post, stance =>
    match mutex with
    | .connectionMutex =>
      stance.inside = true ∧ post () { stance with
        inside := false
        clear := false
        starting := false
        spawned := false }
    | .writeMutex => post () stance
  | _, .note event, post, stance =>
    if event.isDeparture then
      (thread ≠ .io → stance.joined = true) ∧ stance.starting = false ∧
        post () { stance with found := none }
    else post () stance
  | _, _, post, stance => ∀ answer, post answer stance

attribute [simp] departing

/-- A thread at work outside of a start, which has to close the socket only if `closing`. -/
structure Poised (inside closing : Bool) (stance : Stance) : Prop where
  inside : stance.inside = inside
  starting : stance.starting = false
  spawned : stance.spawned = false
  closing : stance.closing = true → closing = true
  busy : stance.busy = true

abbrev Returns (thread : Thread) (inside closing : Bool) {α : Type} (program : Method α) : Prop :=
  program.Stays (departing thread) (Poised inside closing)

/-- The operations that neither lock `connectionMutex_` nor belong to a start, nor to the end of a
session. -/
def Idly : (β : Type) → Op β → Prop
  | _, .storeState value => value = .authenticating ∨ value = .connected
  | _, .accept _ | _, .startThread | _, .openSocket _ => False
  | _, .lock mutex | _, .unlock mutex => mutex = .writeMutex
  | _, .note event => event.isDeparture = false
  | _, _ => True

section

variable {native : Endian} {thread : Thread} {α β : Type} {inside closing : Bool}

theorem departing_monotone (thread : Thread) : Transformer.Monotone (departing thread) := by
  intro β operation first second weaker stance holds
  cases operation
  case loadState => exact ⟨holds.1, fun state => weaker _ _ (holds.2 state)⟩
  case storeState value =>
    cases value
    case disconnected =>
      rcases stance with ⟨inside, clear, starting, spawned, _ | _ | _, closing, joined, busy⟩
      · exact holds
      · exact ⟨holds.1, weaker _ _ holds.2⟩
      · exact ⟨holds.1, holds.2.1, weaker _ _ holds.2.2⟩
    case connecting => exact ⟨holds.1, holds.2.1, weaker _ _ holds.2.2⟩
    all_goals exact weaker _ _ holds
  case accept => exact ⟨holds.1, holds.2.1, weaker _ _ holds.2.2⟩
  case startThread =>
    exact ⟨holds.1, holds.2.1, fun what => weaker _ _ (holds.2.2.1 what), weaker _ _ holds.2.2.2⟩
  case openSocket => exact ⟨holds.1, holds.2.1, fun ec => weaker _ _ (holds.2.2 ec)⟩
  case closeSocket => exact weaker _ _ holds
  case joinable => exact fun answer => weaker _ _ (holds answer)
  case onIoThread => exact weaker _ _ holds
  case join => exact weaker _ _ holds
  case endCallback =>
    exact ⟨holds.1, holds.2.1, holds.2.2.1, fun found joined closing outcome fewer =>
      weaker _ _ (holds.2.2.2 found joined closing outcome fewer)⟩
  case lock mutex =>
    cases mutex
    · exact fun outside => weaker _ _ (holds outside)
    · exact weaker _ _ holds
  case unlock mutex =>
    cases mutex
    · exact ⟨holds.1, weaker _ _ holds.2⟩
    · exact weaker _ _ holds
  case note event =>
    cases departs : event.isDeparture with
    | true =>
      simp only [departing, departs, if_true] at holds ⊢
      exact ⟨holds.1, holds.2.1, weaker _ _ holds.2.2⟩
    | false =>
      simp only [departing, departs] at holds ⊢
      exact weaker _ _ holds
  all_goals exact fun answer => weaker _ _ (holds answer)

theorem departing_steady {operation : Op β} (idle : Idly β operation) :
    Steady (departing thread) (Poised inside closing) operation := by
  intro post stance poised holds
  have same (answer : β) : post answer stance := holds answer stance poised
  cases operation <;> try exact same
  case loadState =>
    exact ⟨poised.starting, fun state => holds state _
      ⟨poised.inside, poised.starting, poised.spawned, poised.closing, poised.busy⟩⟩
  case storeState value =>
    cases value
    case disconnected => exact idle.elim (fun same => by cases same) fun same => by cases same
    case connecting => exact idle.elim (fun same => by cases same) fun same => by cases same
    all_goals
      exact holds () _
        ⟨poised.inside, poised.starting, poised.spawned, poised.closing, poised.busy⟩
  case accept => exact idle.elim
  case startThread => exact idle.elim
  case openSocket => exact idle.elim
  case closeSocket =>
    exact holds () _ ⟨poised.inside, poised.starting, poised.spawned, by simp, poised.busy⟩
  case joinable =>
    exact fun answer => holds answer _
      ⟨poised.inside, poised.starting, poised.spawned, poised.closing, poised.busy⟩
  case onIoThread => exact same _
  case join =>
    exact holds () _
      ⟨poised.inside, poised.starting, poised.spawned, poised.closing, poised.busy⟩
  case endCallback callback =>
    exact ⟨poised.starting, poised.spawned, poised.busy, fun found joined closing outcome fewer =>
      holds outcome _ ⟨poised.inside, poised.starting, poised.spawned,
        fun closes => poised.closing (fewer closes), poised.busy⟩⟩
  case lock mutex =>
    obtain rfl : mutex = .writeMutex := idle
    exact same ()
  case unlock mutex =>
    obtain rfl : mutex = .writeMutex := idle
    exact same ()
  case note event =>
    have stays : event.isDeparture = false := idle
    simp only [departing, stays]
    exact same ()

theorem Returns.of_issues {program : Method α} (issues : program.Issues Idly) :
    Returns thread inside closing program := issues.stays fun _ => departing_steady

theorem Op.isPlain.idly {operation : Op β} (plain : operation.isPlain = true) :
    Idly β operation := by
  cases operation <;> first | trivial | cases plain | skip
  case storeState value =>
    cases value
    case authenticating => exact .inl rfl
    case connected => exact .inr rfl
    all_goals cases plain
  case note event =>
    cases event <;> try rfl
    case returned made result => cases made <;> first | rfl | cases plain

theorem Returns.locked {scope : Method α} (returns : Returns thread true closing scope) :
    Returns thread false closing (locked .connectionMutex scope) := by
  rintro post stance ⟨outside, starting, spawned, closes, busy⟩ holds
  simp only [Client.locked, wp_bind, wp_perform, wp_attempt, wp_ofOutcome, andThen_ok, departing]
  intro _
  refine returns _ _ ⟨rfl, starting, spawned, closes, busy⟩ fun outcome after poised => ?_
  exact ⟨poised.inside, holds _ _ ⟨rfl, rfl, rfl, poised.closing, poised.busy⟩⟩

theorem transmitRaw_returns (type : MessageType) (flag : UInt16) (payload : Bytes) :
    Returns thread inside closing (transmitRaw native type flag payload) := by
  refine Returns.of_issues ?_
  simp [Issues, transmitRaw, Client.locked, report, invoke, wp_ite, issuing, Idly,
    Event.isDeparture]

/-! ### Disconnect -/

/-- CLOSE goes out or does not, but `Disconnect` goes on. -/
theorem sendClose_returns {post : Outcome Unit → Stance → Prop} {stance : Stance}
    (poised : Poised inside closing stance)
    (holds : ∀ after, Poised inside closing after → post (.ok ()) after) :
    (sendClose native).wp (departing thread) post stance := by
  simp only [sendClose, wp_bind, wp_perform, wp_ite, wp_tryCatch, wp_pure, andThen_ok, departing]
  intro isOpen
  split
  · refine transmitRaw_returns _ _ _ _ _ poised fun outcome after still => ?_
    cases outcome with
    | ok _ => exact holds after still
    | error what => exact holds after still
  · exact holds stance poised

/-- However `onDisconnected` ends, the socket is closed. -/
theorem endSession_closes {post : Outcome Unit → Stance → Prop} {stance : Stance}
    (poised : Poised inside closing stance) (found : stance.found = some true)
    (holds : ∀ outcome after, Poised inside false after → post outcome after) :
    (endSession native).wp (departing thread) post stance := by
  have reports (lastError : ClientError) :
      Returns thread inside false (invoke (.onDisconnected lastError)) :=
    .of_issues (by simp [Issues, invoke, issuing, Idly])
  obtain ⟨here, starting, spawned, _, busy⟩ := poised
  unfold endSession
  rw [wp_bind, wp_perform]
  simp only [departing, found, if_true, andThen_ok]
  refine ⟨starting, busy, ?_⟩
  rw [wp_bind]
  have closes : Poised inside true
      { stance with clear := false, found := some true, closing := true } :=
    ⟨here, starting, spawned, fun _ => rfl, busy⟩
  refine sendClose_returns closes fun after poised => ?_
  have closed : Poised inside false { after with closing := false } :=
    ⟨poised.inside, poised.starting, poised.spawned, id, poised.busy⟩
  simp only [stopKeepAliveTimer, wp_bind, wp_perform, wp_ite, wp_pure, andThen_ok, departing]
  intro _ _ _ _ assigned
  split
  · exact fun lastError => reports lastError _ _ closed holds
  · exact holds _ _ closed

/-- An application thread has no background thread left after the join. -/
theorem joinThread_joins {post : Outcome Unit → Stance → Prop} {stance : Stance}
    (poised : Poised inside closing stance)
    (holds : ∀ after, Poised inside closing after → (thread ≠ .io → after.joined = true) →
      post (.ok ()) after) :
    joinThread.wp (departing thread) post stance := by
  obtain ⟨here, starting, spawned, closes, busy⟩ := poised
  simp only [joinThread, wp_bind, wp_perform, wp_ite, wp_pure, andThen_ok, departing]
  intro joinable
  split
  · split
    · exact holds _ ⟨here, starting, spawned, closes, busy⟩ fun _ => rfl
    · next own =>
      refine holds _ ⟨here, starting, spawned, closes, busy⟩ fun other => ?_
      simp [other] at own
  · next none => exact holds _ ⟨here, starting, spawned, closes, busy⟩ fun _ => by simpa using none

/-- When `Disconnect` returns it has joined, unless the background thread itself calls it. -/
theorem disconnect_joins {post : Outcome Unit → Stance → Prop} {stance : Stance}
    (poised : Poised inside closing stance)
    (holds : ∀ outcome after, Poised inside closing after →
      (outcome = .ok () → thread ≠ .io → after.joined = true) → post outcome after) :
    (disconnect native).wp (departing thread) post stance := by
  obtain ⟨here, starting, spawned, closes, busy⟩ := poised
  simp only [disconnect, wp_bind, wp_perform, andThen_ok, departing]
  refine ⟨starting, fun expected => ?_⟩
  split
  · next other =>
    rw [wp_bind]
    refine endSession_closes ⟨here, starting, spawned, closes, busy⟩ (by simp [other])
      fun outcome after poised => ?_
    have still : Poised inside closing after :=
      ⟨poised.inside, poised.starting, poised.spawned,
        fun closes => absurd (poised.closing closes) (by decide), poised.busy⟩
    cases outcome with
    | ok _ =>
      exact joinThread_joins still fun after poised joined => holds _ _ poised fun _ => joined
    | error what => exact holds _ _ still fun same => by cases same
  · exact joinThread_joins ⟨here, starting, spawned, closes, busy⟩
      fun after poised joined => holds _ _ poised fun _ => joined

theorem disconnect_returns : Returns thread inside closing (disconnect native) :=
  fun _ _ poised holds =>
    disconnect_joins poised fun outcome after still _ => holds outcome after still

theorem departs_returns : Returns thread inside closing (publicCall native .disconnect) := by
  intro post stance poised holds
  simp only [publicCall, method, wp_bind, wp_perform, wp_pure, andThen_ok, departing,
    Event.isDeparture]
  refine disconnect_joins poised fun outcome after still joined => ?_
  cases outcome with
  | ok _ =>
    refine ⟨joined rfl, still.starting, holds _ _ ?_⟩
    exact ⟨still.inside, still.starting, still.spawned, still.closing, still.busy⟩
  | error what => exact holds _ _ still

theorem Framed.returns {program : Method α} (framed : Framed native inside program) :
    Returns thread inside closing program :=
  framed.stays (fun inside => Poised inside closing)
    (fun plain => departing_steady (Op.isPlain.idly plain))
    (fun _ _ _ poised holds => ⟨poised.inside, poised.starting, fun ec => holds ec _ poised⟩)
    (fun _ => transmitRaw_returns _) (fun _ => disconnect_returns) (fun _ => departs_returns)
    Returns.locked

/-! ### Connect -/

/-- Whether a start succeeds or fails, it is not over before `Connect` says so. -/
theorem startUp_starts (host : String) (port : UInt16) (timeoutMs : UInt32)
    {post : Outcome Unit → Stance → Prop} {stance : Stance} (starting : stance.starting = true)
    (busy : stance.busy = true) (unspawned : stance.spawned = false)
    (holds : ∀ outcome clear joined, post outcome { stance with clear := clear, joined := joined }) :
    (startUp host port timeoutMs).wp (departing thread) post stance := by
  have same : stance = { stance with clear := stance.clear, joined := stance.joined } := rfl
  simp only [startUp, wp_bind, wp_perform, wp_attempt, wp_ofOutcome, andThen_ok, departing]
  refine fun _ _ => ⟨starting, busy, fun what _ => holds _ stance.clear stance.joined, ?_⟩
  refine ⟨starting, trivial, fun _ wait => ?_⟩
  have unspawned : ({ stance with clear := false, spawned := false, joined := false } : Stance) =
      { stance with clear := false, joined := false } := by rw [← unspawned]
  cases wait with
  | error what =>
    intro _
    rw [unspawned]
    exact holds _ _ _
  | ok _ =>
    intro resolve _
    rw [unspawned]
    exact holds _ _ _

/-- Inside `connectionMutex_` a `Connect` waits forever. -/
theorem connect_returns (host : String) (port : UInt16) (password : Bytes) (timeoutMs : UInt32) :
    Returns thread inside closing (connect host port password timeoutMs) := by
  intro post stance poised holds
  obtain ⟨here, starting, spawned, closes, busy⟩ := poised
  simp only [connect, Client.locked, wp_bind, wp_perform, wp_attempt, wp_ofOutcome, wp_ite, wp_pure,
    andThen_ok, departing]
  intro free
  rw [free] at here
  refine ⟨starting, fun state => ?_⟩
  split
  · exact ⟨trivial, holds _ _ ⟨here, rfl, rfl, closes, busy⟩⟩
  · next same =>
    obtain rfl : state = .disconnected := by simpa using same
    refine ⟨rfl, busy, fun _ _ _ _ _ => ?_⟩
    refine startUp_starts host port timeoutMs rfl busy spawned fun outcome clear joined => ?_
    cases outcome with
    | ok _ => exact ⟨rfl, holds _ _ ⟨here, rfl, rfl, closes, busy⟩⟩
    | error what =>
      have reports : Returns thread true closing
          (report (.onError .socketIo ("Socket error during connection startup: " ++ what))) :=
        .of_issues (by simp [Issues, report, invoke, wp_ite, issuing, Idly])
      dsimp only
      rw [wp_bind, wp_perform]
      simp only [departing, ne_eq, not_true_eq_false, decide_false, Bool.false_eq_true, if_false,
        andThen_ok]
      refine ⟨trivial, ?_⟩
      rw [wp_bind]
      refine reports _ _ ⟨rfl, rfl, rfl, closes, busy⟩ fun outcome after still => ?_
      cases outcome with
      | ok _ => exact ⟨still.inside, holds _ _ ⟨here, rfl, rfl, still.closing, still.busy⟩⟩
      | error what => exact ⟨still.inside, holds _ _ ⟨here, rfl, rfl, still.closing, still.busy⟩⟩

theorem publicCall_returns (made : PublicCall) :
    Returns thread inside closing (publicCall native made) := by
  cases connects : made.connects with
  | false => exact (Framed.publicCall connects).returns
  | true =>
    cases made <;> try cases connects
    exact .bind (.perform (departing_steady rfl)) fun _ =>
      .bind (.bind (connect_returns _ _ _ _) fun _ => .ret _) fun _ =>
      .bind (.perform (departing_steady rfl)) fun _ => .ret _

end

/-! ### What holds between steps -/

def leisure : Stance := ⟨false, false, false, false, none, false, false, false⟩

structure Stood (id : Nat) (c : Client) (seen : Partings) (thread : Thread) (stance : Stance) :
    Prop where
  inside : stance.inside = true ↔ c.connectionMutex = some thread
  clear : stance.clear = true → stance.inside = true ∧ c.state = .disconnected
  starting : stance.starting = true → stance.inside = true ∧ seen.returned = false ∧
    (thread = .app id → seen.settled = false) ∧ (c.socketOpen = true → seen.closing ≠ [])
  spawned : stance.spawned = true → thread = .app id
  found : ∀ found, stance.found = some found → seen.found thread = found
  closing : thread ∈ seen.closing ↔ stance.closing = true
  rest : stance.busy = false → stance.starting = false ∧ stance.closing = false

/-- The application thread finds DISCONNECTED as long as it has not begun another session. A socket
that is open while the client is DISCONNECTED is about to be closed, and when `Disconnect` has
returned there is none, nor a thread to open one. -/
structure Departed (id : Nat) (c : Client) (seen : Partings) (stances : Thread → Stance) : Prop where
  each : ∀ thread, Stood id c seen thread (stances thread)
  others : ∀ thread, thread ≠ .io → thread ≠ .app id → stances thread = leisure
  handling : (stances .io).busy = true → c.ioThread = .handling
  joined : (stances (.app id)).joined = true → c.ioThread = .none
  shut : c.state = .disconnected → c.socketOpen = true → seen.closing ≠ []
  settled : seen.settled = true → c.state = .disconnected
  returned : seen.returned = true → seen.settled = true ∧ c.socketOpen = false ∧
    c.ioThread = .none ∧ seen.closing = [] ∧ (stances (.app id)).found ≠ some true

def departed (id : Nat) : Discipline Op Client Partings Thread Stance where
  idle := leisure
  protocol := departing
  ended := fun thread finish stance =>
    (∀ c, (finish c).connectionMutex = c.connectionMutex ∧ (finish c).state = c.state ∧
      (finish c).socketOpen = c.socketOpen ∧ (thread ≠ .io → (finish c).ioThread = c.ioThread)) ∧
      Poised false false stance
  scribe := aftermath id
  joint := Departed id

section

variable {id : Nat} {policy : Policy} {thread : Thread} {c after : Client} {seen : Partings}
  {stances : Thread → Stance} {stance : Stance}

/-- What `Departed` reads of the client is the same. -/
structure Undeparted (c after : Client) : Prop where
  connectionMutex : after.connectionMutex = c.connectionMutex
  state : after.state = c.state
  socketOpen : after.socketOpen = c.socketOpen
  ioThread : after.ioThread = c.ioThread

theorem Stood.same (stood : Stood id c seen thread stance)
    (connectionMutex : after.connectionMutex = c.connectionMutex) (state : after.state = c.state)
    (socketOpen : after.socketOpen = c.socketOpen) : Stood id after seen thread stance := by
  refine ⟨?_, ?_, ?_, stood.spawned, stood.found, stood.closing, stood.rest⟩
  · rw [connectionMutex]
    exact stood.inside
  · rw [state]
    exact stood.clear
  · rw [socketOpen]
    exact stood.starting

namespace Departed

theorem undeparted (departed : Departed id c seen stances) (same : Undeparted c after) :
    Departed id after seen stances where
  each thread := (departed.each thread).same same.connectionMutex same.state same.socketOpen
  others := departed.others
  handling := by
    rw [same.ioThread]
    exact departed.handling
  joined := by
    rw [same.ioThread]
    exact departed.joined
  shut := by
    rw [same.state, same.socketOpen]
    exact departed.shut
  settled := by
    rw [same.state]
    exact departed.settled
  returned := by
    rw [same.socketOpen, same.ioThread]
    exact departed.returned

/-- One thread moves, and the others still stand where they stood. -/
theorem of_move (departed : Departed id c seen stances) {seenAfter : Partings}
    (mine : thread = .io ∨ thread = .app id) (stood : Stood id after seenAfter thread stance)
    (others : ∀ other, other ≠ thread → Stood id after seenAfter other (stances other))
    (handling : thread = .io → stance.busy = true → after.ioThread = .handling)
    (handled : thread ≠ .io → (stances .io).busy = true → after.ioThread = .handling)
    (joined : thread = .app id → stance.joined = true → after.ioThread = .none)
    (alone : thread ≠ .app id → (stances (.app id)).joined = true → after.ioThread = .none)
    (shut : after.state = .disconnected → after.socketOpen = true → seenAfter.closing ≠ [])
    (settled : seenAfter.settled = true → after.state = .disconnected)
    (returned : seenAfter.returned = true → seenAfter.settled = true ∧ after.socketOpen = false ∧
      after.ioThread = .none ∧ seenAfter.closing = [] ∧
      (if thread = .app id then stance.found else (stances (.app id)).found) ≠ some true) :
    Departed id after seenAfter (Function.update stances thread stance) where
  each := (Function.forall_update_iff stances fun thread stance =>
    Stood id after seenAfter thread stance).mpr ⟨stood, others⟩
  others other away apart := by
    have elsewhere : other ≠ thread := by
      rintro rfl
      exact mine.elim away apart
    rw [Function.update_of_ne elsewhere]
    exact departed.others other away apart
  handling := by
    by_cases own : thread = .io
    · subst own
      rw [Function.update_self]
      exact handling rfl
    · rw [Function.update_of_ne (Ne.symm own)]
      exact handled own
  joined := by
    by_cases own : thread = .app id
    · subst own
      rw [Function.update_self]
      exact joined rfl
    · rw [Function.update_of_ne (Ne.symm own)]
      exact alone own
  shut := shut
  settled := settled
  returned ended := by
    obtain ⟨settles, closed, gone, nobody, found⟩ := returned ended
    refine ⟨settles, closed, gone, nobody, ?_⟩
    by_cases own : thread = .app id
    · subst own
      rw [Function.update_self]
      rwa [if_pos rfl] at found
    · rw [Function.update_of_ne (Ne.symm own)]
      rwa [if_neg own] at found

/-- The background thread is neither started nor joined, and no `Disconnect` returns. -/
theorem still (departed : Departed id c seen stances) {seenAfter : Partings}
    (mine : thread = .io ∨ thread = .app id) (stood : Stood id after seenAfter thread stance)
    (others : ∀ other, other ≠ thread → Stood id after seenAfter other (stances other))
    (ioThread : after.ioThread = c.ioThread) (busy : stance.busy = (stances thread).busy)
    (joined : stance.joined = true → (stances thread).joined = true)
    (shut : after.state = .disconnected → after.socketOpen = true → seenAfter.closing ≠ [])
    (settled : seenAfter.settled = true → after.state = .disconnected)
    (returned : seenAfter.returned = true → seen.returned = true ∧ seenAfter.settled = true ∧
      after.socketOpen = false ∧ seenAfter.closing = [] ∧
      (thread = .app id → stance.found ≠ some true)) :
    Departed id after seenAfter (Function.update stances thread stance) := by
  refine departed.of_move mine stood others ?_ ?_ ?_ ?_ shut settled fun ended => ?_
  · rintro rfl works
    rw [ioThread]
    exact departed.handling (busy ▸ works)
  · intro _ works
    rw [ioThread]
    exact departed.handling works
  · rintro rfl gone
    rw [ioThread]
    exact departed.joined (joined gone)
  · intro _ gone
    rw [ioThread]
    exact departed.joined gone
  · obtain ⟨before, settles, closed, nobody, found⟩ := returned ended
    have past := departed.returned before
    refine ⟨settles, closed, ioThread.trans past.2.2.1, nobody, ?_⟩
    split
    · next own => exact found own
    · exact past.2.2.2.2

theorem others_outside (departed : Departed id c seen stances) {other : Thread}
    (here : (stances thread).inside = true) (away : other ≠ thread) :
    (stances other).inside = false := by
  have owner := (departed.each thread).inside.mp here
  by_contra inside
  have same := (departed.each other).inside.mp (by simpa using inside)
  rw [owner] at same
  exact away (Option.some.inj same).symm

/-- Nobody else has found DISCONNECTED under the mutex that this thread is inside, or starts. -/
theorem others_unready (departed : Departed id c seen stances) {other : Thread}
    (here : (stances thread).inside = true) (away : other ≠ thread) :
    (stances other).clear = false ∧ (stances other).starting = false := by
  have outside := departed.others_outside here away
  have stood := departed.each other
  constructor
  · by_contra clear
    have inside := (stood.clear (by simpa using clear)).1
    simp [outside] at inside
  · by_contra starting
    have inside := (stood.starting (by simpa using starting)).1
    simp [outside] at inside

theorem moved (departed : Departed id c seen stances) (mine : thread = .io ∨ thread = .app id)
    (stood : Stood id c seen thread stance) (busy : stance.busy = (stances thread).busy)
    (joined : stance.joined = true → (stances thread).joined = true)
    (found : stance.found = some true → (stances thread).found = some true) :
    Departed id c seen (Function.update stances thread stance) := by
  refine departed.still mine stood (fun other _ => departed.each other) rfl busy joined departed.shut
    departed.settled fun ended => ?_
  obtain ⟨settles, closed, _, nobody, unfound⟩ := departed.returned ended
  refine ⟨ended, settles, closed, nobody, ?_⟩
  rintro rfl up
  exact unfound (found up)

theorem loads (departed : Departed id c seen stances) (mine : thread = .io ∨ thread = .app id)
    (unstarted : (stances thread).starting = false) :
    Departed id c (aftermath id thread _ .loadState c seen) (Function.update stances thread
      { stances thread with
        clear := (stances thread).inside && c.state = .disconnected
        found := some (c.state ≠ .disconnected) }) := by
  have here := departed.each thread
  refine departed.still mine ?_ (fun other away => ?_) rfl rfl (fun gone => gone) departed.shut
    (fun settled => ?_) fun ended => ?_
  · refine ⟨here.inside, fun clear => by simpa using clear, fun starting => ?_, here.spawned,
      fun found same => ?_, here.closing, here.rest⟩
    · simp [unstarted] at starting
    · rw [← Option.some.inj same]
      exact Function.update_self _ _ _
  · have there := departed.each other
    refine ⟨there.inside, there.clear, fun starting => ?_, there.spawned, fun found same => ?_,
      there.closing, there.rest⟩
    · obtain ⟨inside, unreturned, unsettled, opens⟩ := there.starting starting
      refine ⟨inside, unreturned, fun own => ?_, opens⟩
      have apart : thread ≠ .app id := fun same => away (own.trans same.symm)
      simpa only [aftermath, if_neg apart] using unsettled own
    · rw [← there.found found same]
      exact Function.update_of_ne away _ _
  · simp only [aftermath] at settled
    split at settled
    · simpa using settled
    · exact departed.settled settled
  · obtain ⟨settles, closed, _, nobody, _⟩ := departed.returned ended
    have down := departed.settled settles
    exact ⟨ended, by simp [aftermath, down, settles], closed, nobody, fun _ => by simp [down]⟩

/-- `Disconnect` stores DISCONNECTED, and the socket is to be closed. -/
theorem tears (departed : Departed id c seen stances) (mine : thread = .io ∨ thread = .app id)
    (unstarted : (stances thread).starting = false) (busy : (stances thread).busy = true)
    (found : (stances thread).found = some true) :
    Departed id ({ c with state := .disconnected }.record (.stored .disconnected))
      { seen with
        closing := thread :: seen.closing
        settled := seen.settled || decide (thread = .app id) }
      (Function.update stances thread
        { stances thread with clear := false, closing := true }) := by
  have here := departed.each thread
  refine departed.still mine ?_ (fun other away => ?_) rfl rfl (fun gone => gone)
    (fun _ _ => List.cons_ne_nil _ _) (fun _ => rfl) fun ended => ?_
  · refine ⟨here.inside, by simp, fun starting => ?_, here.spawned, here.found, by simp,
      fun rest => ?_⟩
    · simp [unstarted] at starting
    · simp [busy] at rest
  · have there := departed.each other
    refine ⟨there.inside, fun clear => ⟨(there.clear clear).1, rfl⟩, fun starting => ?_,
      there.spawned, there.found, ?_, there.rest⟩
    · obtain ⟨inside, unreturned, unsettled, _⟩ := there.starting starting
      refine ⟨inside, unreturned, fun own => ?_, fun _ => List.cons_ne_nil _ _⟩
      have apart : thread ≠ .app id := fun same => away (own.trans same.symm)
      simp [unsettled own, apart]
    · rw [← there.closing]
      simp [away]
  · -- After `Disconnect` has returned there is no session to be found.
    obtain ⟨_, _, gone, _, unfound⟩ := departed.returned ended
    rcases mine with rfl | rfl
    · cases (departed.handling busy).symm.trans gone
    · exact absurd found unfound

/-- A start that failed stores DISCONNECTED. -/
theorem gives_up (departed : Departed id c seen stances) (mine : thread = .io ∨ thread = .app id)
    (starting : (stances thread).starting = true) :
    Departed id ({ c with state := .disconnected }.record (.stored .disconnected))
      { seen with settled := seen.settled || decide (thread = .app id) }
      (Function.update stances thread
        { stances thread with clear := false, starting := false, spawned := false }) := by
  have here := departed.each thread
  obtain ⟨inside, unreturned, _, opens⟩ := here.starting starting
  refine departed.still mine ?_ (fun other away => ?_) rfl rfl (fun gone => gone)
    (fun _ open_ => opens open_) (fun _ => rfl) fun ended => ?_
  · exact ⟨here.inside, by simp, by simp, by simp, here.found, here.closing,
      fun rest => ⟨rfl, (here.rest rest).2⟩⟩
  · have there := departed.each other
    refine ⟨there.inside, fun clear => ⟨(there.clear clear).1, rfl⟩, fun starts => ?_,
      there.spawned, there.found, there.closing, there.rest⟩
    simp [(departed.others_unready inside away).2] at starts
  · simp [unreturned] at ended

/-- A session is begun, or moved on; none of it was over. -/
theorem goes_up (departed : Departed id c seen stances) (mine : thread = .io ∨ thread = .app id)
    {value : State} (up : value ≠ .disconnected) (unsettled : seen.settled = false)
    (unready : ∀ other, other ≠ thread → (stances other).clear = false)
    (inside : stance.inside = (stances thread).inside) (clear : stance.clear = false)
    (starting : stance.starting = (stances thread).starting) (spawned : stance.spawned = true →
      (stances thread).spawned = true) (found : stance.found = (stances thread).found)
    (closing : stance.closing = (stances thread).closing)
    (joined : stance.joined = (stances thread).joined)
    (busy : stance.busy = (stances thread).busy) :
    Departed id ({ c with state := value }.record (.stored value)) seen
      (Function.update stances thread stance) := by
  have here := departed.each thread
  refine departed.still mine ?_ (fun other away => ?_) rfl busy (fun gone => joined ▸ gone)
    (fun down => absurd down up) (fun settled => ?_) fun ended => ?_
  · refine ⟨by rw [inside]; exact here.inside, by simp [clear], ?_, fun starts =>
      here.spawned (spawned starts), by rw [found]; exact here.found, by
      rw [closing]; exact here.closing, ?_⟩
    · rw [starting, inside]
      exact here.starting
    · rw [busy, starting, closing]
      exact here.rest
  · have there := departed.each other
    exact ⟨there.inside, fun ready => by simp [unready other away] at ready, there.starting,
      there.spawned, there.found, there.closing, there.rest⟩
  · simp [unsettled] at settled
  · simp [(departed.returned ended).1] at unsettled

theorem accepts (departed : Departed id c seen stances) (mine : thread = .io ∨ thread = .app id)
    (clear : (stances thread).clear = true) (busy : (stances thread).busy = true)
    (password : Bytes) :
    Departed id ({ c with session := c.session + 1 }.record (.accepted password))
      { seen with settled := seen.settled && decide (thread ≠ .app id), returned := false }
      (Function.update stances thread { stances thread with starting := true }) := by
  have here := departed.each thread
  obtain ⟨inside, down⟩ := here.clear clear
  refine departed.still mine ?_ (fun other away => ?_) rfl rfl (fun gone => gone) departed.shut
    (fun settled => ?_) fun ended => ?_
  · refine ⟨here.inside, here.clear, fun _ => ⟨inside, rfl, fun own => ?_, departed.shut down⟩,
      here.spawned, here.found, here.closing, fun rest => ?_⟩
    · simp [own]
    · simp [busy] at rest
  · have there := departed.each other
    refine ⟨there.inside, there.clear, fun starts => ?_, there.spawned, there.found, there.closing,
      there.rest⟩
    simp [(departed.others_unready inside away).2] at starts
  · exact departed.settled (Bool.and_eq_true_iff.mp settled).1
  · cases ended

/-- Only the application thread can start a background thread, since there must be none. -/
theorem spawns (departed : Departed id c seen stances) (mine : thread = .io ∨ thread = .app id)
    (starting : (stances thread).starting = true) (busy : (stances thread).busy = true)
    (none : c.ioThread = .none) :
    Departed id ({ c with ioThread := .running }.record .started) seen
      (Function.update stances thread { stances thread with spawned := true, joined := false }) := by
  have here := departed.each thread
  have unreturned := (here.starting starting).2.1
  have resting : (stances .io).busy = false := by
    by_contra works
    cases (departed.handling (by simpa using works)).symm.trans none
  have own : thread = .app id := by
    rcases mine with rfl | own
    · simp [busy] at resting
    · exact own
  refine departed.of_move mine ?_ (fun other away => ?_) ?_ ?_ (fun _ gone => by simp at gone)
    (fun apart => absurd own apart) departed.shut departed.settled fun ended => ?_
  · exact ⟨here.inside, here.clear, here.starting, fun _ => own, here.found, here.closing, here.rest⟩
  · exact (departed.each other).same rfl rfl rfl
  · rintro rfl
    cases own
  · intro _ works
    simp [resting] at works
  · simp [unreturned] at ended

/-- The socket is opened under the mutex, for a session that is there or is about to be closed. -/
theorem opens (departed : Departed id c seen stances) (mine : thread = .io ∨ thread = .app id)
    (inside : (stances thread).inside = true) (unstarted : (stances thread).starting = false)
    (lasts : c.state ≠ .disconnected ∨ seen.closing ≠ []) :
    Departed id ({ c with socketOpen := true }.record (.opened .success)) seen
      (Function.update stances thread (stances thread)) := by
  have here := departed.each thread
  refine departed.still mine ?_ (fun other away => ?_) rfl rfl (fun gone => gone)
    (fun down _ => lasts.resolve_left fun up => up down) departed.settled fun ended => ?_
  · exact ⟨here.inside, here.clear, fun starts => by simp [unstarted] at starts, here.spawned,
      here.found, here.closing, here.rest⟩
  · have there := departed.each other
    refine ⟨there.inside, there.clear, fun starts => ?_, there.spawned, there.found, there.closing,
      there.rest⟩
    simp [(departed.others_unready inside away).2] at starts
  · obtain ⟨settles, _, _, nobody, _⟩ := departed.returned ended
    exact absurd nobody (lasts.resolve_left fun up => up (departed.settled settles))

theorem closes (departed : Departed id c seen stances) (mine : thread = .io ∨ thread = .app id) :
    Departed id { c.cancel .receive with socketOpen := false }
      { seen with closing := seen.closing.filter (· ≠ thread) }
      (Function.update stances thread { stances thread with closing := false }) := by
  have here := departed.each thread
  refine departed.still mine ?_ (fun other away => ?_) rfl rfl (fun gone => gone)
    (fun _ open_ => by cases open_) departed.settled fun ended => ?_
  · refine ⟨here.inside, here.clear, fun starts => ?_, here.spawned, here.found, by simp,
      fun rest => ⟨(here.rest rest).1, rfl⟩⟩
    obtain ⟨inside, unreturned, unsettled, _⟩ := here.starting starts
    exact ⟨inside, unreturned, unsettled, fun open_ => by cases open_⟩
  · have there := departed.each other
    refine ⟨there.inside, there.clear, fun starts => ?_, there.spawned, there.found, ?_,
      there.rest⟩
    · obtain ⟨inside, unreturned, unsettled, _⟩ := there.starting starts
      exact ⟨inside, unreturned, unsettled, fun open_ => by cases open_⟩
    · rw [← there.closing, List.mem_filter]
      simp [away]
  · obtain ⟨settles, _, _, nobody, found⟩ := departed.returned ended
    refine ⟨ended, settles, rfl, by simp [nobody], ?_⟩
    rintro rfl
    exact found

/-- There is no background thread, or it is joined. -/
theorem joins (departed : Departed id c seen stances) (mine : thread = .io ∨ thread = .app id)
    {joined stopped : Bool} {ioThread : IoThread}
    (gone : (stances .io).busy = true → ioThread = .handling)
    (none : joined = true → ioThread = .none) (fewer : c.ioThread = .none → ioThread = .none) :
    Departed id { c with ioThread := ioThread, stopped := stopped } seen
      (Function.update stances thread { stances thread with joined := joined }) := by
  have here := departed.each thread
  refine departed.of_move mine ?_ (fun other _ => (departed.each other).same rfl rfl rfl) ?_
    (fun _ => gone) (fun _ => none) (fun _ same => fewer (departed.joined same)) departed.shut
    departed.settled fun ended => ?_
  · exact ⟨here.inside, here.clear, here.starting, here.spawned, here.found, here.closing, here.rest⟩
  · rintro rfl works
    exact gone works
  · obtain ⟨settles, closed, absent, nobody, found⟩ := departed.returned ended
    refine ⟨settles, closed, fewer absent, nobody, ?_⟩
    split
    · next own =>
      subst own
      exact found
    · exact found

theorem locks (departed : Departed id c seen stances) (mine : thread = .io ∨ thread = .app id)
    (free : c.connectionMutex = none) :
    Departed id { c with connectionMutex := some thread } seen
      (Function.update stances thread { stances thread with inside := true }) := by
  have here := departed.each thread
  refine departed.still mine ?_ (fun other away => ?_) rfl rfl (fun gone => gone) departed.shut
    departed.settled fun ended => ?_
  · exact ⟨by simp, fun clear => ⟨rfl, (here.clear clear).2⟩,
      fun starts => ⟨rfl, (here.starting starts).2⟩, here.spawned, here.found, here.closing,
      here.rest⟩
  · have there := departed.each other
    refine ⟨?_, there.clear, there.starting, there.spawned, there.found, there.closing, there.rest⟩
    rw [there.inside, free]
    simp [Ne.symm away]
  · obtain ⟨settles, closed, _, nobody, found⟩ := departed.returned ended
    refine ⟨ended, settles, closed, nobody, ?_⟩
    rintro rfl
    exact found

theorem unlocks (departed : Departed id c seen stances) (mine : thread = .io ∨ thread = .app id)
    (inside : (stances thread).inside = true) :
    Departed id { c with connectionMutex := none } seen
      (Function.update stances thread { stances thread with
        inside := false
        clear := false
        starting := false
        spawned := false }) := by
  have here := departed.each thread
  refine departed.still mine ?_ (fun other away => ?_) rfl rfl (fun gone => gone) departed.shut
    departed.settled fun ended => ?_
  · exact ⟨by simp, by simp, by simp, by simp, here.found, here.closing,
      fun rest => ⟨rfl, (here.rest rest).2⟩⟩
  · have there := departed.each other
    refine ⟨?_, there.clear, there.starting, there.spawned, there.found, there.closing, there.rest⟩
    simp [departed.others_outside inside away]
  · obtain ⟨settles, closed, _, nobody, found⟩ := departed.returned ended
    refine ⟨ended, settles, closed, nobody, ?_⟩
    rintro rfl
    exact found

/-- `Disconnect` returns: the background thread is gone, and nobody has a socket to close. -/
theorem departs (departed : Departed id c seen stances) (own : thread = .app id)
    (joined : (stances thread).joined = true) (unstarted : (stances thread).starting = false)
    (settled : seen.settled = true) (away : thread ∉ seen.closing) (event : Event) :
    Departed id (c.record event) { seen with returned := true }
      (Function.update stances thread { stances thread with found := none }) := by
  subst own
  have here := departed.each (.app id)
  have none := departed.joined joined
  have resting : (stances .io).busy = false := by
    by_contra works
    cases (departed.handling (by simpa using works)).symm.trans none
  have idle (other : Thread) (apart : other ≠ .app id) :
      (stances other).starting = false ∧ (stances other).closing = false := by
    by_cases background : other = .io
    · subst background
      exact (departed.each .io).rest resting
    · rw [departed.others other background apart]
      exact ⟨rfl, rfl⟩
  have nobody : seen.closing = [] := by
    refine List.eq_nil_iff_forall_not_mem.mpr fun other member => ?_
    by_cases same : other = .app id
    · exact away (same ▸ member)
    · have closes := (departed.each other).closing.mp member
      simp [(idle other same).2] at closes
  have down := departed.settled settled
  have closed : c.socketOpen = false := by
    by_contra open_
    exact departed.shut down (by simpa using open_) nobody
  refine departed.of_move (.inr rfl) ?_ (fun other apart => ?_) (fun same => by cases same)
    (fun _ => departed.handling) (fun _ => fun _ => none) (fun other => absurd rfl other)
    departed.shut departed.settled
    fun _ => ⟨settled, closed, none, nobody, by simp⟩
  · exact ⟨here.inside, here.clear, fun starts => by simp [unstarted] at starts, here.spawned,
      by simp, here.closing, here.rest⟩
  · have there := departed.each other
    exact ⟨there.inside, there.clear, fun starts => by simp [(idle other apart).1] at starts,
      there.spawned, there.found, there.closing, there.rest⟩

theorem stores (departed : Departed id c seen stances) (mine : thread = .io ∨ thread = .app id)
    {value : State} (lasts : lasting id seen thread c (.storeState value) = true)
    {post : Unit → Stance → Prop}
    (holds : departing thread _ (.storeState value) post (stances thread)) :
    ∃ stance, post () stance ∧
      Departed id ({ c with state := value }.record (.stored value))
        (aftermath id thread _ (.storeState value) c seen)
        (Function.update stances thread stance) := by
  have here := departed.each thread
  have up (away : value ≠ .disconnected) (other : value ≠ .connecting)
      (next : post () { stances thread with clear := false }) : ∃ stance, post () stance ∧
      Departed id ({ c with state := value }.record (.stored value))
        (aftermath id thread _ (.storeState value) c seen)
        (Function.update stances thread stance) := by
    have live : c.state ≠ .disconnected := by simpa [lasting, away, other] using lasts
    have unsettled : seen.settled = false := by
      by_contra settled
      exact live (departed.settled (by simpa using settled))
    have unready (other : Thread) (_ : other ≠ thread) : (stances other).clear = false := by
      by_contra clear
      exact live ((departed.each other).clear (by simpa using clear)).2
    have same : aftermath id thread _ (.storeState value) c seen = seen := if_neg away
    rw [same]
    exact ⟨_, next, departed.goes_up mine away unsettled unready rfl rfl rfl (fun spawned => spawned)
      rfl rfl rfl rfl⟩
  cases value with
  | disconnected =>
    cases found : (stances thread).found with
    | none => simp [departing, found] at holds
    | some live =>
      have known := here.found live found
      cases live with
      | true =>
        simp only [departing, found, if_true] at holds
        obtain ⟨unstarted, busy, next⟩ := holds
        have same : aftermath id thread _ (.storeState .disconnected) c seen =
            { seen with
              closing := thread :: seen.closing
              settled := seen.settled || decide (thread = .app id) } := by
          simp only [aftermath, known, if_true]
        rw [same]
        exact ⟨_, next, by simpa only [found] using departed.tears mine unstarted busy found⟩
      | false =>
        simp only [departing, found, Bool.false_eq_true, if_false] at holds
        have same : aftermath id thread _ (.storeState .disconnected) c seen =
            { seen with settled := seen.settled || decide (thread = .app id) } := by
          simp only [aftermath, known, if_true, Bool.false_eq_true, if_false]
        rw [same]
        exact ⟨_, holds.2, by simpa only [found] using departed.gives_up mine holds.1⟩
  | connecting =>
    obtain ⟨starting, spawned, next⟩ := holds
    obtain ⟨inside, _, unsettled, _⟩ := here.starting starting
    have same : aftermath id thread _ (.storeState .connecting) c seen = seen := rfl
    rw [same]
    exact ⟨_, next, departed.goes_up mine (by decide) (unsettled (here.spawned spawned))
      (fun other away => (departed.others_unready inside away).1) rfl rfl rfl
      (fun spawned => by cases spawned) rfl rfl rfl rfl⟩
  | authenticating => exact up (by decide) (by decide) holds
  | connected => exact up (by decide) (by decide) holds

theorem acts (departed : Departed id c seen stances) (mine : thread = .io ∨ thread = .app id)
    {β : Type} {operation : Op β} {answer : Answer} {value : β}
    (stepped : step policy thread operation answer c = some (value, after))
    (lasts : lasting id seen thread c operation = true) {post : β → Stance → Prop}
    (holds : departing thread β operation post (stances thread)) :
    ∃ stance, post value stance ∧ Departed id after (aftermath id thread β operation c seen)
      (Function.update stances thread stance) := by
  have here := departed.each thread
  have stays (same : Undeparted c after) :
      Departed id after seen (Function.update stances thread (stances thread)) := by
    rw [Function.update_eq_self]
    exact departed.undeparted same
  cases operation
  case loadState =>
    cases stepped
    exact ⟨_, holds.2 c.state, departed.loads mine holds.1⟩
  case storeState value =>
    cases stepped
    exact departed.stores mine lasts holds
  case accept password =>
    cases stepped
    exact ⟨_, holds.2.2, departed.accepts mine holds.1 holds.2.1 password⟩
  case startThread =>
    obtain ⟨starting, busy, fails, starts⟩ := holds
    simp only [step] at stepped
    split at stepped
    · split at stepped <;> cases stepped
      exact ⟨_, fails _, stays ⟨rfl, rfl, rfl, rfl⟩⟩
    · split at stepped
      · next none =>
        cases stepped
        exact ⟨_, starts, departed.spawns mine starting busy none⟩
      · cases stepped
  case openSocket isV6 =>
    obtain ⟨inside, unstarted, next⟩ := holds
    have lasts : c.state ≠ .disconnected ∨ seen.closing ≠ [] := by simpa [lasting] using lasts
    simp only [step] at stepped
    split at stepped
    · cases stepped
      exact ⟨_, next _, stays ⟨rfl, rfl, rfl, rfl⟩⟩
    · split at stepped <;> cases stepped
      exact ⟨_, next _, departed.opens mine inside unstarted lasts⟩
  case closeSocket =>
    cases stepped
    exact ⟨_, holds, departed.closes mine⟩
  case joinable =>
    cases stepped
    refine ⟨_, holds _, departed.joins mine departed.handling (fun joined => ?_) fun none => none⟩
    simpa using joined
  case onIoThread =>
    cases stepped
    exact ⟨_, holds, stays ⟨rfl, rfl, rfl, rfl⟩⟩
  case join =>
    have joined (away : c.ioThread ≠ .handling) {stopped : Bool} :
        Departed id { c with ioThread := .none, stopped := stopped } seen
          (Function.update stances thread { stances thread with joined := true }) :=
      departed.joins mine (fun works => absurd (departed.handling works) away) (fun _ => rfl)
        fun _ => rfl
    simp only [step] at stepped
    split at stepped
    · next gone =>
      cases stepped
      exact ⟨_, holds, joined (by simp [gone])⟩
    · split at stepped
      · next leaving =>
        cases stepped
        exact ⟨_, holds, joined (by simp [leaving.1])⟩
      · cases stepped
  case endCallback callback =>
    obtain ⟨unstarted, unspawned, busy, next⟩ := holds
    have resumes : Departed id c seen (Function.update stances thread
        { stances thread with clear := false, found := none, joined := false }) := by
      refine departed.moved mine ?_ rfl (fun gone => by cases gone) fun found => by cases found
      exact ⟨here.inside, by simp, here.starting, here.spawned, by simp, here.closing, here.rest⟩
    refine ⟨_, next none false (stances thread).closing value fun closes => closes, ?_⟩
    rw [step_endCallback stepped]
    exact resumes
  case lock mutex =>
    obtain ⟨free, rfl⟩ := step_lock stepped
    cases mutex with
    | connectionMutex =>
      have outside : (stances thread).inside = false := by
        by_contra inside
        have owner := here.inside.mp (by simpa using inside)
        rw [owner_connectionMutex, owner] at free
        cases free
      exact ⟨_, holds outside, departed.locks mine free⟩
    | writeMutex => exact ⟨_, holds, stays ⟨rfl, rfl, rfl, rfl⟩⟩
  case unlock mutex =>
    cases stepped
    cases mutex with
    | connectionMutex => exact ⟨_, holds.2, departed.unlocks mine holds.1⟩
    | writeMutex => exact ⟨_, holds, stays ⟨rfl, rfl, rfl, rfl⟩⟩
  case note event =>
    cases stepped
    cases departs : event.isDeparture with
    | false =>
      have same : aftermath id thread _ (.note event) c seen = seen := by
        simp [aftermath, departs]
      simp only [departing, departs] at holds
      rw [same]
      exact ⟨_, holds, stays ⟨rfl, rfl, rfl, rfl⟩⟩
    | true =>
      simp only [departing, departs, if_true] at holds
      obtain ⟨joined, unstarted, next⟩ := holds
      rcases mine with rfl | own
      · have same : aftermath id .io _ (.note event) c seen = seen := by
          simp [aftermath]
        rw [same]
        have recorded : Departed id (c.record event) seen stances :=
          departed.undeparted ⟨rfl, rfl, rfl, rfl⟩
        refine ⟨_, next, recorded.moved (.inl rfl) ?_ rfl (fun gone => gone) ?_⟩
        · exact ⟨here.inside, here.clear, here.starting, here.spawned, by simp, here.closing,
            here.rest⟩
        · intro found
          cases found
      · have held : seen.settled = true ∧ thread ∉ seen.closing := by
          simpa [lasting, departs, own] using lasts
        have same : aftermath id thread _ (.note event) c seen = { seen with returned := true } := by
          simp [aftermath, departs, own]
        rw [same]
        have background : thread ≠ .io := by
          rintro rfl
          cases own
        exact ⟨_, next, departed.departs own (joined background) unstarted held.1 held.2 event⟩
  all_goals
    simp only [step] at stepped
    (repeat' split at stepped) <;> cases stepped <;>
      exact ⟨_, holds _, stays ⟨rfl, rfl, rfl, rfl⟩⟩

/-- The background thread comes or goes. -/
theorem background (departed : Departed id c seen stances)
    (connectionMutex : after.connectionMutex = c.connectionMutex) (state : after.state = c.state)
    (socketOpen : after.socketOpen = c.socketOpen) (present : c.ioThread ≠ .none)
    (handling : (stances .io).busy = true → after.ioThread = .handling) :
    Departed id after seen stances where
  each thread := (departed.each thread).same connectionMutex state socketOpen
  others := departed.others
  handling := handling
  joined gone := absurd (departed.joined gone) present
  shut := by
    rw [state, socketOpen]
    exact departed.shut
  settled := by
    rw [state]
    exact departed.settled
  returned ended := absurd (departed.returned ended).2.2.1 present

/-- A thread takes up or lays down its work outside of everything. -/
theorem turns (departed : Departed id c seen stances) (mine : thread = .io ∨ thread = .app id)
    (inside : (stances thread).inside = false) (closing : (stances thread).closing = false)
    {busy : Bool} (handling : thread = .io → busy = true → c.ioThread = .handling) :
    Departed id c seen (Function.update stances thread { leisure with busy := busy }) := by
  have here := departed.each thread
  refine departed.of_move mine ?_ (fun other _ => departed.each other) handling
    (fun _ => departed.handling) (fun _ gone => by cases gone) (fun _ => departed.joined)
    departed.shut departed.settled fun ended => ?_
  · refine ⟨?_, ?_, ?_, ?_, ?_, ?_, fun _ => ⟨rfl, rfl⟩⟩
    · rw [← here.inside, inside]
      rfl
    · intro clear
      cases clear
    · intro starts
      cases starts
    · intro spawned
      cases spawned
    · intro found same
      cases same
    · rw [here.closing, closing]
      rfl
  · obtain ⟨settles, closed, gone, nobody, found⟩ := departed.returned ended
    refine ⟨settles, closed, gone, nobody, ?_⟩
    split
    · simp [leisure]
    · exact found

end Departed

theorem Returns.keeps {α : Type} {program : Method α}
    (returns : Returns thread false false program) {rest : Outcome α → Client → Client}
    (aside : ∀ outcome c, (rest outcome c).connectionMutex = c.connectionMutex ∧
      (rest outcome c).state = c.state ∧ (rest outcome c).socketOpen = c.socketOpen ∧
      (thread ≠ .io → (rest outcome c).ioThread = c.ioThread)) :
    (departed id).Keeps thread (program.settle fun outcome => .ret (rest outcome))
      { leisure with busy := true } := by
  unfold Discipline.Keeps
  rw [wp_settle]
  exact returns _ _ ⟨rfl, rfl, rfl, fun closes => closes, rfl⟩
    fun outcome stance poised => ⟨aside outcome, poised⟩

end

/-- Besides the background thread one thread moves, and what they have tested holds when they act. -/
def Lasts (id : Nat) (seen : Partings) (turn : Turn) : Prop :=
  solo id turn = true ∧ Undelayed id seen turn

theorem solo_thread {id : Nat} {turn : Turn} {thread : Thread} (apart : solo id turn = true)
    (moves : (∃ job, turn.label = .begins thread job) ∨
      (∃ answer, turn.label = .acts thread answer) ∨ turn.label = .ends thread) :
    thread = .io ∨ thread = .app id := by
  obtain ⟨before, label, after⟩ := turn
  rcases moves with ⟨job, rfl⟩ | ⟨answer, rfl⟩ | rfl <;> simpa [solo] using apart

theorem threads_departed (rules : Rules) (id : Nat) :
    Respects (threads rules) (departed id) (Lasts id) where
  monotone := departing_monotone
  begins {config seen stances thread job after task} guided idle begun may := by
    have mine := solo_thread may.1 (.inl ⟨_, rfl⟩)
    have resting : stances thread = leisure := guided.resting thread idle
    have starts {c : Client} (departed : Departed id c seen stances)
        (handling : thread = .io → c.ioThread = .handling) :
        Departed id c seen (Function.update stances thread { leisure with busy := true }) :=
      departed.turns mine (by rw [resting]; rfl) (by rw [resting]; rfl) fun own _ => handling own
    refine ⟨{ leisure with busy := true }, ?_⟩
    cases begins_cases begun with
    | call =>
      exact ⟨(publicCall_returns _).keeps fun _ _ => ⟨rfl, rfl, rfl, fun _ => rfl⟩,
        starts guided.joint fun own => by cases own⟩
    | connectSync =>
      refine ⟨(publicCall_returns _).keeps fun outcome c => ?_,
        starts guided.joint fun own => by cases own⟩
      unfold entering
      split <;> exact ⟨rfl, rfl, rfl, fun _ => rfl⟩
    | awaits =>
      refine ⟨(@Framed.awaitConnection rules.native).returns.keeps fun outcome c => ?_,
        starts guided.joint fun own => by cases own⟩
      cases outcome <;> exact ⟨rfl, rfl, rfl, fun _ => rfl⟩
    | @handles index operation completion found queued running going =>
      have goes (before rest : List Outstanding) :
          Departed id (dequeued before rest config.shared) seen stances :=
        guided.joint.background rfl rfl rfl (by simp [running]) fun _ => rfl
      exact ⟨(Framed.handler _ _).returns.keeps fun _ _ =>
          ⟨rfl, rfl, rfl, fun own => absurd rfl own⟩,
        starts (goes _ _) fun _ => rfl⟩
  acts {config seen stances thread job β operation next answer value after} guided works stepped may
      post holds := by
    exact guided.joint.acts (solo_thread may.1 (.inr (.inl ⟨_, rfl⟩))) stepped
      ((executing_acts works).symm.trans may.2) holds
  nests {config seen stances thread job β operation next made} guided works allowed _ post holds := by
    cases operation <;> try exact allowed.elim
    case endCallback callback =>
      obtain ⟨unstarted, unspawned, busy, next⟩ := holds
      have returns : Returns thread (stances thread).inside (stances thread).closing
          ((threads rules).body made) :=
        .bind (publicCall_returns made) fun _ => .ret ()
      refine returns _ _ ⟨rfl, unstarted, unspawned, fun closes => closes, busy⟩
        fun outcome after poised => ?_
      refine ⟨poised.starting, poised.spawned, poised.busy,
        fun found joined closing answer fewer => ?_⟩
      have same : { after with
            clear := false
            found := found
            joined := joined
            closing := closing } =
          { stances thread with
            clear := false
            found := found
            joined := joined
            closing := closing } := by
        dsimp only
        rw [poised.inside, poised.starting, poised.spawned, poised.busy, unstarted, unspawned, busy]
      rw [same]
      exact next found joined closing answer fun closes => poised.closing (fewer closes)
  ends {config seen stances thread job finish} guided works may ended := by
    have mine := solo_thread may.1 (.inr (.inr rfl))
    obtain ⟨aside, poised⟩ := ended
    obtain ⟨mutex, state, socketOpen, ioThread⟩ := aside config.shared
    have rests : Departed id config.shared seen (Function.update stances thread leisure) :=
      guided.joint.turns mine poised.inside (by simpa using poised.closing)
        fun _ works => by cases works
    by_cases own : thread = .io
    · subst own
      have handling := guided.joint.handling poised.busy
      refine rests.background mutex state socketOpen (by simp [handling]) fun works => ?_
      rw [Function.update_self] at works
      cases works
    · exact rests.undeparted ⟨mutex, state, socketOpen, ioThread own⟩
  happens {config seen stances event after} guided happened _ := by
    rcases happens_cases happened with ⟨_, rfl⟩ | ⟨_, _, _, rfl⟩ | ⟨running, _, rfl⟩
    · exact guided.joint.undeparted ⟨rfl, rfl, rfl, rfl⟩
    · exact guided.joint.undeparted ⟨rfl, rfl, rfl, rfl⟩
    · refine guided.joint.background rfl rfl rfl (by simp [running]) fun works => ?_
      cases (guided.joint.handling works).symm.trans running

theorem Departed.start (id : Nat) (dmrId : UInt32) (description : Bytes) (hooks : Hook → Bool) :
    Departed id (fresh dmrId description hooks) unreturned fun _ => (departed id).idle where
  each thread := by
    refine ⟨⟨fun inside => ?_, fun owner => ?_⟩, ?_, ?_, ?_, ?_,
      ⟨fun member => ?_, fun closes => ?_⟩, fun _ => ⟨rfl, rfl⟩⟩
    · cases inside
    · cases owner
    · intro clear
      cases clear
    · intro starts
      cases starts
    · intro spawned
      cases spawned
    · intro found same
      cases same
    · cases member
    · cases closes
  others _ _ _ := rfl
  handling works := by cases works
  joined gone := by cases gone
  shut _ open_ := by cases open_
  settled settles := by cases settles
  returned ended := by cases ended

/-- However the background thread and one application thread interleave, and whatever callbacks call
or throw: when `Disconnect` has returned the client is DISCONNECTED and its socket closed until the
next `Connect`, as long as no handler moves on a session, or opens a socket for one, that has ended
since it looked. -/
theorem disconnect_lasts {rules : Rules} {dmrId : UInt32} {description : Bytes}
    {hooks : Hook → Bool} {id : Nat} {turns : List Turn} {last : Config Op Client Thread Job}
    (run : Effects.Run (threads rules).Step (unworked (fresh dmrId description hooks)) turns last)
    (apart : ∀ turn ∈ turns, solo id turn = true)
    (undelayed : Always (fun earlier => Undelayed id (history (aftermath id) unreturned earlier))
      turns)
    (returned : (history (aftermath id) unreturned turns).returned = true) :
    last.shared.state = .disconnected ∧ last.shared.socketOpen = false := by
  have begun := @Guided.start Op Client Thread Job _ _ (departed id) unreturned _
    (Departed.start id dmrId description hooks)
  have every : Always (fun earlier => Lasts id (history (aftermath id) unreturned earlier))
      turns := by
    intro earlier turn later parts
    have member : turn ∈ turns := by simp [parts]
    exact ⟨apart turn member, undelayed earlier turn later parts⟩
  obtain ⟨stances, guided⟩ := (threads_departed rules id).run begun run every
  obtain ⟨settles, closed, _⟩ := guided.joint.returned returned
  exact ⟨guided.joint.settled settles, closed⟩

/-- The server acknowledges the login while the application disconnects. The handler executes `ahead`
instructions before `Disconnect` begins, and `behind` while it waits for the background thread. -/
def departingTurns (ahead behind : Nat) :
    List (Action Answer Thread Job PublicCall Happening) :=
  let challenge := packetOf .little .challenge MessageFlag.none 0 []
  let acknowledgement := packetOf .little .keepAlive MessageFlag.none 1 []
  throughout (.app 0) (.call (.connect "master" 54006 [0x70] 1000)) 19 ++
    .happens (.completes 1 { endpoints := [sampleServer] }) :: throughout .io (.handles 1) 17 ++
    .happens (.arrives 1 sampleServer challenge) :: throughout .io (.handles 1) 18 ++
    .happens (.arrives 1 sampleServer acknowledgement) :: .begins .io (.handles 1) ::
    List.replicate ahead (.acts .io {}) ++
    .begins (.app 0) (.call .disconnect) :: List.replicate 22 (.acts (.app 0) {}) ++
    List.replicate behind (.acts .io {}) ++ .ends .io :: List.replicate 2 (.acts (.app 0) {})

/-- The name resolves, and the handler has found CONNECTING when the application disconnects. -/
def openingTurns : List (Action Answer Thread Job PublicCall Happening) :=
  throughout (.app 0) (.call (.connect "master" 54006 [0x70] 1000)) 19 ++
    .happens (.completes 1 { endpoints := [sampleServer] }) :: .begins .io (.handles 1) ::
    List.replicate 3 (.acts .io {}) ++
    .begins (.app 0) (.call .disconnect) :: List.replicate 15 (.acts (.app 0) {}) ++
    List.replicate 12 (.acts .io {}) ++ .ends .io :: List.replicate 2 (.acts (.app 0) {})

/-- The handler looks again after `Disconnect` has stored, and leaves the session alone. -/
theorem disconnect_lasts_midway : ∃ (turns : List Turn) (last : Config Op Client Thread Job),
    Effects.Run (threads sampleRules).Step (unworked attentive) turns last ∧
      (history (aftermath 0) unreturned turns).returned = true ∧
      last.shared.state = .disconnected ∧ last.shared.socketOpen = false := by
  obtain ⟨turns, last, run, checked⟩ := threads_checked sampleRules (unworked attentive)
    (departingTurns 1 6)
    (fun turns _ => (∀ turn ∈ turns, solo 0 turn = true) ∧
      (history (aftermath 0) unreturned turns).returned = true ∧
      Along (aftermath 0) (Undelayed 0) unreturned turns) (by decide +kernel)
  obtain ⟨apart, returned, undelayed⟩ := of_decide_eq_true checked
  exact ⟨turns, last, run, returned, disconnect_lasts run apart undelayed.always returned⟩

/-- The acknowledgement is acted on after `Disconnect` has stored DISCONNECTED, or the socket opened
after it was closed; and `Disconnect` returns. -/
theorem disconnect_undone :
    (∃ (turns : List Turn) (last : Config Op Client Thread Job),
      Effects.Run (threads sampleRules).Step (unworked attentive) turns last ∧
        (∀ turn ∈ turns, solo 0 turn = true) ∧
        (history (aftermath 0) unreturned turns).returned = true ∧
        last.shared.state = .connected) ∧
    ∃ (turns : List Turn) (last : Config Op Client Thread Job),
      Effects.Run (threads sampleRules).Step (unworked attentive) turns last ∧
        (∀ turn ∈ turns, solo 0 turn = true) ∧
        (history (aftermath 0) unreturned turns).returned = true ∧
        last.shared.socketOpen = true := by
  constructor
  · obtain ⟨turns, last, run, checked⟩ := threads_checked sampleRules (unworked attentive)
      (departingTurns 6 13)
      (fun turns last => (∀ turn ∈ turns, solo 0 turn = true) ∧
        (history (aftermath 0) unreturned turns).returned = true ∧
        last.shared.state = .connected) (by decide +kernel)
    exact ⟨turns, last, run, of_decide_eq_true checked⟩
  · obtain ⟨turns, last, run, checked⟩ := threads_checked sampleRules (unworked attentive)
      openingTurns
      (fun turns last => (∀ turn ∈ turns, solo 0 turn = true) ∧
        (history (aftermath 0) unreturned turns).returned = true ∧
        last.shared.socketOpen = true) (by decide +kernel)
    exact ⟨turns, last, run, of_decide_eq_true checked⟩

end OpenDTP.Client
