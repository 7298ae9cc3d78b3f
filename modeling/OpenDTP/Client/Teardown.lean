import OpenDTP.Client.Authentication
import OpenDTP.Client.Numbering
import OpenDTP.Client.Scopes

/-! How often a session is torn down. `Disconnect` loads `state_`, compares, and stores later, with no
lock and no exchange, so two threads can pass the comparison. Where none comes in between, CLOSE is
sent and `onDisconnected` invoked at most once between two accepted `Connect`s. -/

namespace OpenDTP.Client
open Common Protocol Effects Effects.Program

/-- The events since the latest accepted `Connect`. -/
def sinceAccepted (events : List Event) : List Event :=
  events.foldl (fun since event => if event.isAccepted then [] else since ++ [event]) []

section

variable (native : Endian)

def isClose (packet : Bytes) : Bool :=
  (deserializeHeader native packet).any fun header => header.type = .close

def Event.isCloseSent : Event → Bool
  | .sent packet _ => isClose native packet
  | _ => false

/-- The CLOSE datagrams of the current session. -/
def closes (events : List Event) : Nat :=
  (sinceAccepted events).countP (Event.isCloseSent native)

/-- The invocations of `onDisconnected` of the current session. -/
def partings (events : List Event) : Nat := farewells (sinceAccepted events)

end

/-- Per thread whether its latest load of `state_` found a session, and the threads that have stored
DISCONNECTED in `Disconnect` and not yet come to `onDisconnected`. -/
structure Endings where
  found : Thread → Bool
  ending : List Thread

def endings : Scribe Op Client Thread Endings
  | thread, _, .loadState, c, seen =>
    { seen with found := Function.update seen.found thread (c.state ≠ .disconnected) }
  | thread, _, .storeState value, _, seen =>
    if value = .disconnected ∧ seen.found thread = true then
      { seen with ending := thread :: seen.ending }
    else seen
  | thread, _, .hasHook hook, c, seen =>
    if hook = .onDisconnected ∧ c.hooks hook = false then
      { seen with ending := seen.ending.filter (· ≠ thread) }
    else seen
  | thread, _, .beginCallback callback, _, seen =>
    if callback.hook = .onDisconnected then
      { seen with ending := seen.ending.filter (· ≠ thread) }
    else seen
  | _, _, _, _, seen => seen

def unended : Endings := ⟨fun _ => false, []⟩

/-- What was tested still holds: the session that `Disconnect` found is there when it stores
DISCONNECTED, so is the one that `ProcessPacket` moves on, and no teardown is under way when a
`Connect` is accepted. -/
def timely (seen : Endings) (thread : Thread) (c : Client) : {β : Type} → Op β → Bool
  | _, .storeState value =>
    match value with
    | .disconnected => !seen.found thread || c.state != .disconnected
    | .connecting => true
    | _ => c.state != .disconnected
  | _, .accept _ => seen.ending.isEmpty
  | _, _ => true

def Unhurried (seen : Endings) (turn : Turn) : Prop :=
  executing (fun thread _ operation c => timely seen thread c operation) turn = true

instance (seen : Endings) (turn : Turn) : Decidable (Unhurried seen turn) := instDecidableEqBool _ _

/-! ### Where a thread stands -/

/-- Whether the thread is inside `connectionMutex_`; whether it has found DISCONNECTED there; what its
latest load of `state_` found; whether it has accepted a `Connect` and not started it; and of a
teardown whether CLOSE is still to be sent. -/
structure Bearing where
  inside : Bool
  clear : Bool
  found : Option Bool
  accepting : Bool
  ending : Option Bool

def tearing (native : Endian) : Transformer Op Bearing
  | _, .loadState, post, bearing =>
    ∀ state, (bearing.ending ≠ none → state = .disconnected) →
      post state { bearing with
        clear := bearing.inside && state = .disconnected
        found := some (state ≠ .disconnected) }
  | _, .storeState value, post, bearing =>
    match value with
    | .disconnected =>
      match bearing.found with
      | none => False
      | some found =>
        if found then
          bearing.accepting = false ∧ post () { bearing with clear := false, ending := some true }
        else post () { bearing with clear := false, accepting := false }
    | .connecting =>
      bearing.accepting = true ∧ post () { bearing with clear := false, accepting := false }
    | _ => post () { bearing with clear := false }
  | _, .accept _, post, bearing =>
    bearing.clear = true ∧ (bearing.ending = none → post () { bearing with accepting := true })
  | _, .makeWorkGuard, post, bearing => bearing.inside = true ∧ post () bearing
  | _, .dropWorkGuard, post, bearing => bearing.inside = true ∧ post () bearing
  | _, .startThread, post, bearing => bearing.accepting = true ∧ ∀ outcome, post outcome bearing
  | _, .cancelTimer timer, post, bearing =>
    (timer = .keepAliveTimer → bearing.ending ≠ none) ∧ post () bearing
  | _, .stop, post, bearing => bearing.ending ≠ none ∧ post () bearing
  | _, .sendTo packet _, post, bearing =>
    if isClose native packet then
      bearing.ending = some true ∧ ∀ ec, post ec { bearing with ending := some false }
    else ∀ ec, post ec bearing
  | _, .hasHook hook, post, bearing =>
    post true bearing ∧
      post false (if hook = .onDisconnected then { bearing with ending := none } else bearing)
  | _, .beginCallback callback, post, bearing =>
    if callback.hook = .onDisconnected then
      bearing.ending ≠ none ∧ post () { bearing with ending := none }
    else post () bearing
  | _, .endCallback _, post, bearing =>
    bearing.accepting = false ∧
      ∀ found outcome, post outcome { bearing with clear := false, found := found }
  | _, .lock mutex, post, bearing =>
    match mutex with
    | .connectionMutex => bearing.inside = false → post () { bearing with inside := true }
    | .writeMutex => post () bearing
  | _, .unlock mutex, post, bearing =>
    match mutex with
    | .connectionMutex =>
      bearing.inside = true ∧ bearing.accepting = false ∧
        post () { bearing with inside := false, clear := false }
    | .writeMutex => post () bearing
  | _, .note event, post, bearing =>
    match event with
    | .sent _ _ | .accepted _ | .invoked _ => False
    | _ => post () bearing
  | _, _, post, bearing => ∀ answer, post answer bearing

attribute [simp] tearing

/-- The program begins and ends outside of a start, with a teardown as far as before. -/
abbrev Level (native : Endian) (inside : Bool) (ending : Option Bool) {α : Type}
    (program : Method α) : Prop :=
  program.Stays (tearing native) fun bearing =>
    bearing.inside = inside ∧ bearing.accepting = false ∧ bearing.ending = ending

/-- The operations that neither lock `connectionMutex_` nor belong to a start or a teardown. -/
def Quietly (native : Endian) : (β : Type) → Op β → Prop
  | _, .storeState value => value = .authenticating ∨ value = .connected
  | _, .accept _ | _, .makeWorkGuard | _, .dropWorkGuard | _, .startThread | _, .stop => False
  | _, .cancelTimer timer => timer ≠ .keepAliveTimer
  | _, .sendTo packet _ => isClose native packet = false
  | _, .hasHook hook => hook ≠ .onDisconnected
  | _, .beginCallback callback => callback.hook ≠ .onDisconnected
  | _, .lock mutex | _, .unlock mutex => mutex = .writeMutex
  | _, .note event =>
    match event with
    | .sent _ _ | .accepted _ | .invoked _ => False
    | _ => True
  | _, _ => True

section

variable {native : Endian} {α β : Type} {inside : Bool} {ending : Option Bool}

theorem tearing_monotone (native : Endian) : Transformer.Monotone (tearing native) := by
  intro β operation first second weaker bearing holds
  cases operation
  case loadState => exact fun state down => weaker _ _ (holds state down)
  case storeState value =>
    cases value
    case disconnected =>
      rcases bearing with ⟨inside, clear, _ | _ | _, accepting, ending⟩
      · exact holds
      · exact weaker _ _ holds
      · exact ⟨holds.1, weaker _ _ holds.2⟩
    case connecting => exact ⟨holds.1, weaker _ _ holds.2⟩
    all_goals exact weaker _ _ holds
  case accept => exact ⟨holds.1, fun none => weaker _ _ (holds.2 none)⟩
  case startThread => exact ⟨holds.1, fun outcome => weaker _ _ (holds.2 outcome)⟩
  case makeWorkGuard => exact ⟨holds.1, weaker _ _ holds.2⟩
  case dropWorkGuard => exact ⟨holds.1, weaker _ _ holds.2⟩
  case cancelTimer => exact ⟨holds.1, weaker _ _ holds.2⟩
  case stop => exact ⟨holds.1, weaker _ _ holds.2⟩
  case sendTo packet destination =>
    by_cases close : isClose native packet = true
    · simp only [tearing, close, if_true] at holds ⊢
      exact ⟨holds.1, fun ec => weaker _ _ (holds.2 ec)⟩
    · simp only [tearing, close] at holds ⊢
      exact fun ec => weaker _ _ (holds ec)
  case hasHook => exact ⟨weaker _ _ holds.1, weaker _ _ holds.2⟩
  case beginCallback callback =>
    by_cases parts : callback.hook = .onDisconnected
    · simp only [tearing, if_pos parts] at holds ⊢
      exact ⟨holds.1, weaker _ _ holds.2⟩
    · simp only [tearing, if_neg parts] at holds ⊢
      exact weaker _ _ holds
  case endCallback => exact ⟨holds.1, fun found outcome => weaker _ _ (holds.2 found outcome)⟩
  case lock mutex =>
    cases mutex
    · exact fun outside => weaker _ _ (holds outside)
    · exact weaker _ _ holds
  case unlock mutex =>
    cases mutex
    · exact ⟨holds.1, holds.2.1, weaker _ _ holds.2.2⟩
    · exact weaker _ _ holds
  case note event => cases event <;> first | exact weaker _ _ holds | exact holds
  all_goals exact fun answer => weaker _ _ (holds answer)

theorem tearing_steady {operation : Op β} (quiet : Quietly native β operation) :
    Steady (tearing native) (fun bearing =>
      bearing.inside = inside ∧ bearing.accepting = false ∧ bearing.ending = ending) operation := by
  intro post bearing level holds
  have same (answer : β) : post answer bearing := holds answer bearing level
  cases operation <;> try exact same
  case loadState => exact fun state _ => holds state _ level
  case storeState value =>
    cases value
    case disconnected => exact quiet.elim (fun same => by cases same) fun same => by cases same
    case connecting => exact quiet.elim (fun same => by cases same) fun same => by cases same
    all_goals exact holds () _ level
  case accept => exact quiet.elim
  case makeWorkGuard => exact quiet.elim
  case dropWorkGuard => exact quiet.elim
  case startThread => exact quiet.elim
  case stop => exact quiet.elim
  case cancelTimer => exact ⟨fun same => absurd same quiet, same ()⟩
  case sendTo packet destination =>
    have other : isClose native packet = false := quiet
    simp only [tearing, other]
    exact same
  case hasHook hook =>
    have other : hook ≠ .onDisconnected := quiet
    simp only [tearing, if_neg other]
    exact ⟨same true, same false⟩
  case beginCallback callback =>
    have other : callback.hook ≠ .onDisconnected := quiet
    simp only [tearing, if_neg other]
    exact same ()
  case endCallback callback => exact ⟨level.2.1, fun found outcome => holds outcome _ level⟩
  case lock mutex =>
    obtain rfl : mutex = .writeMutex := quiet
    exact same ()
  case unlock mutex =>
    obtain rfl : mutex = .writeMutex := quiet
    exact same ()
  case note event => cases event <;> first | exact same () | exact quiet.elim

theorem Level.of_issues {program : Method α} (issues : program.Issues (Quietly native)) :
    Level native inside ending program := issues.stays fun _ => tearing_steady

theorem Op.isPlain.quietly {operation : Op β} (plain : operation.isPlain = true) :
    Quietly native β operation := by
  cases operation <;> first | trivial | cases plain | skip
  case storeState value =>
    cases value
    case authenticating => exact .inl rfl
    case connected => exact .inr rfl
    all_goals cases plain
  case hasHook hook =>
    have other : hook ≠ .onDisconnected := by simpa [Op.isPlain] using plain
    exact other
  case cancelTimer timer =>
    obtain rfl : timer = .connectTimeoutTimer := by simpa [Op.isPlain] using plain
    exact fun same => by cases same
  case beginCallback callback =>
    have other : callback.hook ≠ .onDisconnected := by simpa [Op.isPlain] using plain
    exact other
  case note event => cases event <;> trivial

theorem Level.locked {scope : Method α} (level : Level native true ending scope) :
    Level native false ending (locked .connectionMutex scope) := by
  rintro post ⟨_, clear, found, _, _⟩ ⟨rfl, rfl, rfl⟩ holds
  simp only [Client.locked, wp_bind, wp_perform, wp_attempt, wp_ofOutcome, andThen_ok, tearing]
  intro _
  exact level _ _ ⟨rfl, rfl, rfl⟩ fun outcome after here =>
    ⟨here.1, here.2.1, holds _ _ ⟨rfl, here.2⟩⟩

theorem isClose_packetOf (type : MessageType) (flag : UInt16) (number : UInt32) (payload : Bytes) :
    isClose native (packetOf native type flag number payload) = decide (type = .close) := by
  rw [isClose, header_packetOf]
  rfl

/-! ### Disconnect -/

/-- Outside of a call of `Disconnect` nothing that is sent is a CLOSE. -/
theorem transmitRaw_level {type : MessageType} (other : type ≠ .close) (flag : UInt16)
    (payload : Bytes) : Level native inside ending (transmitRaw native type flag payload) := by
  have apart (number : UInt32) : isClose native (serializeHeader native
      ⟨type, flag, number, UInt16.ofNat payload.length⟩ ++ payload) = false := by
    rw [← decide_eq_false other]
    exact isClose_packetOf type flag number payload
  refine Level.of_issues ?_
  simp [Issues, transmitRaw, Client.locked, report, invoke, wp_ite, issuing, Quietly, apart,
    Callback.hook]

/-- A thread is inside a teardown, and CLOSE may have been sent. -/
def Ending (inside : Bool) (bearing : Bearing) : Prop :=
  bearing.inside = inside ∧ bearing.accepting = false ∧ bearing.ending ≠ none

theorem transmitClose_ends {post : Outcome Unit → Bearing → Prop} {bearing : Bearing}
    (level : bearing.inside = inside ∧ bearing.accepting = false ∧ bearing.ending = some true)
    (holds : ∀ outcome after, Ending inside after → post outcome after) :
    (transmitRaw native .close MessageFlag.none []).wp (tearing native) post bearing := by
  have same (number : UInt32) : isClose native (serializeHeader native
      ⟨.close, MessageFlag.none, number, UInt16.ofNat 0⟩ ++ []) = true :=
    isClose_packetOf .close MessageFlag.none number []
  obtain ⟨here, started, owes⟩ := level
  simp only [transmitRaw, Client.locked, wp_bind, wp_perform, wp_attempt, wp_ite, wp_pure,
    wp_ofOutcome, andThen_ok, tearing, same, List.length_nil]
  intro isOpen
  split
  · exact holds _ _ ⟨here, started, by simp [owes]⟩
  · refine fun number server => ⟨owes, fun ec => ?_⟩
    split
    · intro _
      have reports : Level native inside (some false)
          (report (.onError .socketIo ("Socket write error: " ++ ec.message))) :=
        Level.of_issues (by
          simp [Issues, report, invoke, wp_ite, issuing, Quietly, Callback.hook])
      exact reports _ _ ⟨here, started, rfl⟩ fun outcome after level =>
        holds _ _ ⟨level.1, level.2.1, by simp [level.2.2]⟩
    · exact holds _ _ ⟨here, started, by simp⟩

/-- CLOSE goes out or does not, but `Disconnect` goes on. -/
theorem sendClose_ends {post : Outcome Unit → Bearing → Prop} {bearing : Bearing}
    (level : bearing.inside = inside ∧ bearing.accepting = false ∧ bearing.ending = some true)
    (holds : ∀ after, Ending inside after → post (.ok ()) after) :
    (sendClose native).wp (tearing native) post bearing := by
  simp only [sendClose, wp_bind, wp_perform, wp_ite, wp_tryCatch, wp_pure, andThen_ok, tearing]
  intro isOpen
  split
  · refine transmitClose_ends level fun outcome after ends => ?_
    cases outcome with
    | ok _ => exact holds after ends
    | error what => exact holds after ends
  · exact holds bearing ⟨level.1, level.2.1, by simp [level.2.2]⟩

theorem endSession_level {post : Outcome Unit → Bearing → Prop} {bearing : Bearing}
    (level : bearing.inside = inside ∧ bearing.accepting = false)
    (found : bearing.found = some true)
    (holds : ∀ outcome after,
      after.inside = inside ∧ after.accepting = false ∧ after.ending = none → post outcome after) :
    (endSession native).wp (tearing native) post bearing := by
  obtain ⟨here, started⟩ := level
  unfold endSession
  rw [wp_bind, wp_perform]
  simp only [tearing, found, if_true, andThen_ok]
  refine ⟨started, ?_⟩
  rw [wp_bind]
  refine sendClose_ends ⟨here, started, rfl⟩ fun after ends => ?_
  -- What is left only cancels and stops, until the session is over.
  obtain ⟨here, started, ending⟩ := ends
  simp only [stopKeepAliveTimer, invoke, wp_bind, wp_perform, wp_ite, wp_pure, wp_ofOutcome,
    andThen_ok, tearing, Callback.hook, if_true]
  refine ⟨fun _ => ending, (fun same => absurd same (by decide)), fun _ _ => ⟨ending, ?_⟩⟩
  refine ⟨fun lastError => ⟨ending, started, fun found outcome => ?_⟩, ?_⟩
  · exact holds _ _ ⟨here, started, rfl⟩
  · exact holds _ _ ⟨here, started, rfl⟩

theorem joinThread_level : Level native inside ending joinThread :=
  Level.of_issues (by simp [Issues, joinThread, wp_ite, issuing, Quietly])

/-- In a teardown `Disconnect` finds DISCONNECTED and only joins. -/
theorem disconnect_level : Level native inside ending (disconnect native) := by
  intro post bearing level holds
  obtain ⟨here, started, reached⟩ := level
  simp only [disconnect, wp_bind, wp_perform, andThen_ok, tearing]
  intro expected down
  split
  · next other =>
    have ended : ending = none := by
      by_contra under
      exact other (down (by rwa [reached]))
    rw [wp_bind]
    refine endSession_level ⟨here, started⟩ (by simp [other]) fun outcome after level => ?_
    rw [← ended] at level
    cases outcome with
    | ok _ => exact joinThread_level _ _ level holds
    | error what => exact holds _ _ level
  · exact joinThread_level _ _ ⟨here, started, reached⟩ holds

theorem Framed.level {program : Method α} (framed : Framed native inside program) :
    Level native inside ending program :=
  framed.stays (fun inside (bearing : Bearing) =>
      bearing.inside = inside ∧ bearing.accepting = false ∧ bearing.ending = ending)
    (fun plain => tearing_steady (Op.isPlain.quietly plain))
    (fun _ => tearing_steady trivial) transmitRaw_level (fun _ => disconnect_level)
    (fun _ => .bind (.perform (tearing_steady trivial)) fun _ =>
      .bind (.bind disconnect_level fun _ => .ret _) fun _ =>
      .bind (.perform (tearing_steady trivial)) fun _ => .ret _) Level.locked

/-! ### Connect -/

/-- After the try block the client is CONNECTING, or the start has failed. -/
theorem startUp_level (host : String) (port : UInt16) (timeoutMs : UInt32)
    {post : Outcome Unit → Bearing → Prop} {bearing : Bearing} (here : bearing.inside = true)
    (accepting : bearing.accepting = true)
    (holds : ∀ outcome clear accepting, (outcome = .ok () → accepting = false) →
      post outcome { bearing with clear := clear, accepting := accepting }) :
    (startUp host port timeoutMs).wp (tearing native) post bearing := by
  simp only [startUp, wp_bind, wp_perform, wp_attempt, wp_ofOutcome, andThen_ok, tearing]
  refine fun _ => ⟨here, accepting, fun thread => ?_⟩
  cases thread with
  | error what =>
    exact ⟨here, holds _ bearing.clear bearing.accepting fun same => by cases same⟩
  | ok _ =>
    refine ⟨accepting, fun _ wait => ?_⟩
    cases wait with
    | error what => exact ⟨here, holds _ _ _ fun _ => rfl⟩
    | ok _ => exact fun resolve => ⟨here, holds _ _ _ fun _ => rfl⟩

/-- Inside `connectionMutex_` a `Connect` waits forever, and in a teardown it is not accepted. -/
theorem connect_level (host : String) (port : UInt16) (password : Bytes) (timeoutMs : UInt32) :
    Level native inside ending (connect host port password timeoutMs) := by
  intro post bearing level holds
  obtain ⟨here, started, reached⟩ := level
  simp only [connect, Client.locked, wp_bind, wp_perform, wp_attempt, wp_ofOutcome, wp_ite, wp_pure,
    andThen_ok, tearing]
  intro free state _
  rw [free] at here
  split
  · exact ⟨trivial, started, holds _ _ ⟨here, started, reached⟩⟩
  · next same =>
    obtain rfl : state = .disconnected := by simpa using same
    refine ⟨rfl, fun ended _ _ _ _ _ => ?_⟩
    refine startUp_level host port timeoutMs rfl rfl fun outcome clear accepting success => ?_
    cases outcome with
    | ok _ => exact ⟨rfl, success rfl, holds _ _ ⟨here, success rfl, reached⟩⟩
    | error what =>
      have reports : Level native true ending
          (report (.onError .socketIo ("Socket error during connection startup: " ++ what))) :=
        Framed.level (.report (by simp [Callback.hook]))
      dsimp only
      rw [wp_bind, wp_perform]
      simp only [tearing, ne_eq, not_true_eq_false, decide_false, Bool.false_eq_true, if_false,
        andThen_ok]
      rw [wp_bind]
      refine reports _ _ ⟨rfl, rfl, reached⟩ fun outcome after level => ?_
      obtain ⟨inside, started, reached⟩ := level
      cases outcome with
      | ok _ => exact ⟨inside, started, holds _ _ ⟨here, started, reached⟩⟩
      | error what => exact ⟨inside, started, holds _ _ ⟨here, started, reached⟩⟩

theorem publicCall_level (made : PublicCall) : Level native inside ending (publicCall native made) := by
  cases connects : made.connects with
  | false => exact (Framed.publicCall connects).level
  | true =>
    cases made <;> try cases connects
    exact .bind (.perform (tearing_steady trivial)) fun _ =>
      .bind (.bind (connect_level _ _ _ _) fun _ => .ret _) fun _ =>
      .bind (.perform (tearing_steady trivial)) fun _ => .ret _

end

/-! ### What holds between steps -/

/-- No CLOSE was sent in this session, and no end of it announced. -/
def Unparted (native : Endian) (c : Client) : Prop := closes native c.log = 0 ∧ partings c.log = 0

structure Borne (native : Endian) (c : Client) (seen : Endings) (thread : Thread)
    (bearing : Bearing) : Prop where
  inside : bearing.inside = true ↔ c.connectionMutex = some thread
  clear : bearing.clear = true ∨ bearing.accepting = true →
    bearing.inside = true ∧ c.state = .disconnected
  found : ∀ found, bearing.found = some found → seen.found thread = found
  ending : thread ∈ seen.ending ↔ bearing.ending ≠ none
  accepting : bearing.accepting = true → seen.ending = [] ∧ Unparted native c
  owes : bearing.ending = some true → closes native c.log = 0

/-- At most one thread is in a teardown, and then the client is DISCONNECTED; as long as it is not, or
a `Connect` that was accepted has not started it, nothing of a teardown was sent or announced. -/
structure Torn (native : Endian) (c : Client) (seen : Endings) (bearings : Thread → Bearing) :
    Prop where
  each : ∀ thread, Borne native c seen thread (bearings thread)
  one : seen.ending.length ≤ 1
  down : seen.ending ≠ [] → c.state = .disconnected ∧ partings c.log = 0
  live : c.state ≠ .disconnected → Unparted native c
  oneClose : closes native c.log ≤ 1
  oneParting : partings c.log ≤ 1

def torn (native : Endian) : Discipline Op Client Endings Thread Bearing where
  idle := ⟨false, false, none, false, none⟩
  protocol := fun _ => tearing native
  ended := fun _ finish bearing =>
    (∀ c, (finish c).connectionMutex = c.connectionMutex ∧ (finish c).state = c.state ∧
      (finish c).log = c.log) ∧
      bearing.inside = false ∧ bearing.accepting = false ∧ bearing.ending = none
  scribe := endings
  joint := Torn native

section

variable {native : Endian} {policy : Policy} {thread : Thread} {c after : Client} {seen : Endings}
  {bearings : Thread → Bearing} {bearing : Bearing} {log : List Event} {event : Event}

theorem sinceAccepted_snoc (log : List Event) (event : Event) :
    sinceAccepted (log ++ [event]) =
      if event.isAccepted then [] else sinceAccepted log ++ [event] := by
  rw [sinceAccepted, List.foldl_append]
  rfl

theorem closes_snoc (current : event.isAccepted = false) :
    closes native (log ++ [event]) =
      closes native log + if event.isCloseSent native then 1 else 0 := by
  rw [closes, sinceAccepted_snoc, current, if_neg (by decide), List.countP_append,
    List.countP_singleton]
  rfl

theorem partings_snoc (current : event.isAccepted = false) :
    partings (log ++ [event]) = partings log + if event.isFarewell then 1 else 0 := by
  rw [partings, sinceAccepted_snoc, current, if_neg (by decide), farewells_append]
  simp [farewells, List.countP_singleton]
  rfl

/-- What `Torn` reads of the client is the same. -/
structure Unstirred (native : Endian) (c after : Client) : Prop where
  connectionMutex : after.connectionMutex = c.connectionMutex
  state : after.state = c.state
  closes : Client.closes native after.log = Client.closes native c.log
  partings : Client.partings after.log = Client.partings c.log

/-- The events that are counted, and those that begin to count anew. -/
def Event.isCounted (native : Endian) (event : Event) : Bool :=
  event.isAccepted || event.isCloseSent native || event.isFarewell

theorem Unstirred.of_log (connectionMutex : after.connectionMutex = c.connectionMutex)
    (state : after.state = c.state) (log : after.log = c.log) : Unstirred native c after :=
  ⟨connectionMutex, state, by rw [log], by rw [log]⟩

theorem Unstirred.recorded (connectionMutex : after.connectionMutex = c.connectionMutex)
    (state : after.state = c.state) (log : after.log = c.log ++ [event])
    (other : event.isCounted native = false) : Unstirred native c after := by
  simp only [Event.isCounted, Bool.or_eq_false_iff] at other
  obtain ⟨⟨current, notClose⟩, notFarewell⟩ := other
  refine ⟨connectionMutex, state, ?_, ?_⟩
  · rw [log, closes_snoc current, notClose]
    rfl
  · rw [log, partings_snoc current, notFarewell]
    rfl

namespace Torn

theorem unstirred (torn : Torn native c seen bearings) (same : Unstirred native c after) :
    Torn native after seen bearings where
  each thread := by
    have borne := torn.each thread
    refine ⟨?_, ?_, borne.found, borne.ending, ?_, ?_⟩
    · rw [same.connectionMutex]
      exact borne.inside
    · rw [same.state]
      exact borne.clear
    · unfold Unparted
      rw [same.closes, same.partings]
      exact borne.accepting
    · rw [same.closes]
      exact borne.owes
  one := torn.one
  down := by
    rw [same.state, same.partings]
    exact torn.down
  live := by
    unfold Unparted
    rw [same.state, same.closes, same.partings]
    exact torn.live
  oneClose := by
    rw [same.closes]
    exact torn.oneClose
  oneParting := by
    rw [same.partings]
    exact torn.oneParting

/-- One thread moves, and the others still stand where they stood. -/
theorem of_move {seenAfter : Endings} (mine : Borne native after seenAfter thread bearing)
    (others : ∀ other, other ≠ thread → Borne native after seenAfter other (bearings other))
    (one : seenAfter.ending.length ≤ 1)
    (down : seenAfter.ending ≠ [] → after.state = .disconnected ∧ partings after.log = 0)
    (live : after.state ≠ .disconnected → Unparted native after)
    (oneClose : closes native after.log ≤ 1) (oneParting : partings after.log ≤ 1) :
    Torn native after seenAfter (Function.update bearings thread bearing) where
  each := (Function.forall_update_iff bearings fun thread bearing =>
    Borne native after seenAfter thread bearing).mpr ⟨mine, others⟩
  one := one
  down := down
  live := live
  oneClose := oneClose
  oneParting := oneParting

theorem moved (torn : Torn native c seen bearings) (borne : Borne native c seen thread bearing) :
    Torn native c seen (Function.update bearings thread bearing) :=
  of_move borne (fun other _ => torn.each other) torn.one torn.down torn.live torn.oneClose
    torn.oneParting

theorem ending_unique (torn : Torn native c seen bearings) {other : Thread}
    (here : thread ∈ seen.ending) (there : other ∈ seen.ending) : other = thread := by
  have one := torn.one
  rcases members : seen.ending with _ | ⟨first, _ | ⟨second, rest⟩⟩
  · rw [members] at here
    cases here
  · rw [members] at here there
    rw [List.mem_singleton.mp here, List.mem_singleton.mp there]
  · rw [members] at one
    simp at one

/-- While the client is not DISCONNECTED nobody tears down or starts. -/
theorem up (torn : Torn native c seen bearings) (other : c.state ≠ .disconnected) :
    seen.ending = [] ∧ Unparted native c ∧
      ∀ thread, (bearings thread).clear = false ∧ (bearings thread).accepting = false := by
  refine ⟨?_, torn.live other, fun thread => ?_⟩
  · by_contra ends
    exact other (torn.down ends).1
  · have clear := (torn.each thread).clear
    constructor
    · by_contra found
      exact other (clear (.inl (by simpa using found))).2
    · by_contra found
      exact other (clear (.inr (by simpa using found))).2

theorem loads (torn : Torn native c seen bearings) :
    Torn native c { seen with found := Function.update seen.found thread (c.state ≠ .disconnected) }
      (Function.update bearings thread { bearings thread with
        clear := (bearings thread).inside && c.state = .disconnected
        found := some (c.state ≠ .disconnected) }) := by
  have here := torn.each thread
  refine of_move ?_ (fun other away => ?_) torn.one torn.down torn.live torn.oneClose
    torn.oneParting
  · refine ⟨here.inside, fun cleared => ?_, fun found same => ?_, here.ending, here.accepting,
      here.owes⟩
    · rcases cleared with clear | accepting
      · simpa using clear
      · exact here.clear (.inr accepting)
    · rw [← Option.some.inj same]
      exact Function.update_self _ _ _
  · have there := torn.each other
    refine ⟨there.inside, there.clear, fun found same => ?_, there.ending, there.accepting,
      there.owes⟩
    rw [← there.found found same]
    exact Function.update_of_ne away _ _

/-- A thread that others are not inside `connectionMutex_` with. -/
theorem others_outside (torn : Torn native c seen bearings) {other : Thread}
    (here : (bearings thread).inside = true) (away : other ≠ thread) :
    (bearings other).inside = false := by
  have owner := (torn.each thread).inside.mp here
  by_contra inside
  have same := (torn.each other).inside.mp (by simpa using inside)
  rw [owner] at same
  exact away (Option.some.inj same).symm

/-- Storing a state changes no count. -/
theorem counts_stored (c : Client) (state value : State) :
    closes native ({ c with state := state }.record (.stored value)).log = closes native c.log ∧
      partings ({ c with state := state }.record (.stored value)).log = partings c.log :=
  ⟨closes_snoc rfl, partings_snoc rfl⟩

/-- `Disconnect` stores DISCONNECTED where a session is. -/
theorem ends (torn : Torn native c seen bearings) (other : c.state ≠ .disconnected) :
    Torn native ({ c with state := .disconnected }.record (.stored .disconnected))
      { seen with ending := thread :: seen.ending }
      (Function.update bearings thread
        { bearings thread with clear := false, ending := some true }) := by
  obtain ⟨nobody, ⟨noClose, noParting⟩, still⟩ := torn.up other
  obtain ⟨sameCloses, samePartings⟩ :=
    @counts_stored native c .disconnected .disconnected
  rw [noClose] at sameCloses
  rw [noParting] at samePartings
  have here := torn.each thread
  refine of_move ?_ (fun other away => ?_) (by simp [nobody]) (fun _ => ⟨rfl, samePartings⟩)
    (fun up => absurd rfl up) (by omega) (by omega)
  · refine ⟨here.inside, fun cleared => ?_, here.found, by simp, fun accepting => ?_,
      fun _ => sameCloses⟩
    · simp [(still thread).2] at cleared
    · simp [(still thread).2] at accepting
  · have there := torn.each other
    refine ⟨there.inside, fun cleared => ?_, there.found, ?_, fun accepting => ?_,
      fun _ => sameCloses⟩
    · simp [still other] at cleared
    · rw [← there.ending]
      simp [away]
    · rw [(still other).2] at accepting
      cases accepting

/-- A start that failed stores DISCONNECTED. -/
theorem gives_up (torn : Torn native c seen bearings) :
    Torn native ({ c with state := .disconnected }.record (.stored .disconnected)) seen
      (Function.update bearings thread
        { bearings thread with clear := false, accepting := false }) := by
  obtain ⟨sameCloses, samePartings⟩ :=
    @counts_stored native c .disconnected .disconnected
  have here := torn.each thread
  refine of_move ?_ (fun other away => ?_) torn.one (fun ends => ⟨rfl, ?_⟩)
    (fun up => absurd rfl up) (by rw [sameCloses]; exact torn.oneClose)
    (by rw [samePartings]; exact torn.oneParting)
  · exact ⟨here.inside, by simp, here.found, here.ending, by simp,
      by rw [sameCloses]; exact here.owes⟩
  · have there := torn.each other
    refine ⟨there.inside, fun cleared => ⟨(there.clear cleared).1, rfl⟩, there.found, there.ending,
      fun accepting => ?_, by rw [sameCloses]; exact there.owes⟩
    unfold Unparted
    rw [sameCloses, samePartings]
    exact there.accepting accepting
  · rw [samePartings]
    exact (torn.down ends).2

/-- A state other than DISCONNECTED is stored when nothing of a teardown is under way or was seen. -/
theorem goes_up (torn : Torn native c seen bearings) {value : State}
    (nobody : seen.ending = []) (unparted : Unparted native c)
    (alone : ∀ other, other ≠ thread →
      (bearings other).clear = false ∧ (bearings other).accepting = false)
    (inside : bearing.inside = (bearings thread).inside) (clear : bearing.clear = false)
    (found : bearing.found = (bearings thread).found) (accepting : bearing.accepting = false)
    (ending : bearing.ending = (bearings thread).ending) :
    Torn native ({ c with state := value }.record (.stored value)) seen
      (Function.update bearings thread bearing) := by
  obtain ⟨sameCloses, samePartings⟩ := @counts_stored native c value value
  rw [unparted.1] at sameCloses
  rw [unparted.2] at samePartings
  have here := torn.each thread
  refine of_move ?_ (fun other away => ?_) torn.one (fun ends => absurd nobody ends)
    (fun _ => ⟨sameCloses, samePartings⟩) (by omega) (by omega)
  · refine ⟨by rw [inside]; exact here.inside, fun cleared => ?_, by rw [found]; exact here.found,
      by rw [ending]; exact here.ending, fun starts => ?_, fun _ => sameCloses⟩
    · simp [clear, accepting] at cleared
    · simp [accepting] at starts
  · have there := torn.each other
    obtain ⟨unclear, unstarted⟩ := alone other away
    refine ⟨there.inside, fun cleared => ?_, there.found, there.ending, fun starts => ?_,
      fun _ => sameCloses⟩
    · simp [unclear, unstarted] at cleared
    · simp [unstarted] at starts

/-- Nobody else has found DISCONNECTED under the mutex that this thread is inside. -/
theorem alone (torn : Torn native c seen bearings) (inside : (bearings thread).inside = true)
    (other : Thread) (away : other ≠ thread) :
    (bearings other).clear = false ∧ (bearings other).accepting = false := by
  have outside := torn.others_outside inside away
  have clear := (torn.each other).clear
  constructor
  · by_contra found
    have inside := (clear (.inl (by simpa using found))).1
    simp [outside] at inside
  · by_contra found
    have inside := (clear (.inr (by simpa using found))).1
    simp [outside] at inside

/-- A `Connect` is accepted, and everything is counted anew. -/
theorem accepts (torn : Torn native c seen bearings) (clear : (bearings thread).clear = true)
    (nobody : seen.ending = []) (password : Bytes) :
    Torn native ({ c with session := c.session + 1 }.record (.accepted password)) seen
      (Function.update bearings thread { bearings thread with accepting := true }) := by
  have here := torn.each thread
  obtain ⟨inside, down⟩ := here.clear (.inl clear)
  have none : closes native (c.log ++ [.accepted password]) = 0 ∧
      partings (c.log ++ [.accepted password]) = 0 := by
    rw [closes, partings, sinceAccepted_snoc]
    exact ⟨rfl, rfl⟩
  refine of_move ?_ (fun other away => ?_) torn.one (fun ends => absurd nobody ends)
    (fun up => absurd down up) (none.1.le.trans (by decide)) (none.2.le.trans (by decide))
  · exact ⟨here.inside, fun _ => ⟨inside, down⟩, here.found, here.ending,
      fun _ => ⟨nobody, none⟩, fun _ => none.1⟩
  · have there := torn.each other
    exact ⟨there.inside, there.clear, there.found, there.ending, fun _ => ⟨nobody, none⟩,
      fun _ => none.1⟩

/-- The CLOSE of a teardown is the first of the session. -/
theorem says_close (torn : Torn native c seen bearings)
    (owes : (bearings thread).ending = some true) {packet : Bytes} (same : isClose native packet)
    (destination : Endpoint) :
    Torn native (c.record (.sent packet destination)) seen
      (Function.update bearings thread { bearings thread with ending := some false }) := by
  have here := torn.each thread
  have tears : thread ∈ seen.ending := here.ending.mpr (by simp [owes])
  obtain ⟨down, noParting⟩ := torn.down (List.ne_nil_of_mem tears)
  have once : closes native (c.log ++ [.sent packet destination]) = 1 := by
    rw [closes_snoc rfl, here.owes owes]
    simp [Event.isCloseSent, same]
  have sames : partings (c.log ++ [.sent packet destination]) = partings c.log := partings_snoc rfl
  refine of_move ?_ (fun other away => ?_) torn.one (fun _ => ⟨down, sames.trans noParting⟩)
    (fun up => absurd down up) once.le (sames.trans_le torn.oneParting)
  · refine ⟨here.inside, here.clear, here.found, ?_, fun accepting => ?_, by simp⟩
    · exact ⟨fun _ => by simp, fun _ => tears⟩
    · exact absurd (here.accepting accepting).1 (List.ne_nil_of_mem tears)
  · have there := torn.each other
    refine ⟨there.inside, there.clear, there.found, there.ending, fun accepting => ?_,
      fun still => ?_⟩
    · exact absurd (there.accepting accepting).1 (List.ne_nil_of_mem tears)
    · exact absurd (torn.ending_unique tears (there.ending.mpr (by simp [still]))) away

/-- A thread that comes to `onDisconnected` is through with its teardown. -/
theorem leaves (torn : Torn native c seen bearings) :
    Torn native c { seen with ending := seen.ending.filter (· ≠ thread) }
      (Function.update bearings thread { bearings thread with ending := none }) := by
  have here := torn.each thread
  have fewer (none : seen.ending = []) : seen.ending.filter (· ≠ thread) = [] := by simp [none]
  refine of_move ?_ (fun other away => ?_) ((List.length_filter_le _ _).trans torn.one)
    (fun ends => torn.down fun none => ends (fewer none)) torn.live torn.oneClose torn.oneParting
  · exact ⟨here.inside, here.clear, here.found, by simp,
      fun accepting => ⟨fewer (here.accepting accepting).1, (here.accepting accepting).2⟩, by simp⟩
  · have there := torn.each other
    refine ⟨there.inside, there.clear, there.found, ?_,
      fun accepting => ⟨fewer (there.accepting accepting).1, (there.accepting accepting).2⟩,
      there.owes⟩
    rw [← there.ending, List.mem_filter]
    simp [away]

/-- The announcement of a teardown is the first of the session. -/
theorem announces (torn : Torn native c seen bearings) (ending : (bearings thread).ending ≠ none)
    (callback : Callback) :
    Torn native (c.record (.invoked callback))
      { seen with ending := seen.ending.filter (· ≠ thread) }
      (Function.update bearings thread { bearings thread with ending := none }) := by
  have here := torn.each thread
  have tears : thread ∈ seen.ending := here.ending.mpr ending
  have only (other : Thread) (there : other ∈ seen.ending) : other = thread :=
    torn.ending_unique tears there
  have nobody : seen.ending.filter (· ≠ thread) = [] := by
    simpa [List.filter_eq_nil_iff] using only
  obtain ⟨down, noParting⟩ := torn.down (List.ne_nil_of_mem tears)
  have sames : closes native (c.log ++ [.invoked callback]) = closes native c.log := closes_snoc rfl
  have once : partings (c.log ++ [.invoked callback]) ≤ 1 := by
    rw [partings_snoc rfl, noParting]
    split <;> decide
  refine of_move ?_ (fun other away => ?_) (by rw [nobody]; exact Nat.zero_le _)
    (fun ends => absurd nobody ends) (fun up => absurd down up) (sames.trans_le torn.oneClose) once
  · refine ⟨here.inside, here.clear, here.found, by simp, fun accepting => ?_, by simp⟩
    exact absurd (here.accepting accepting).1 (List.ne_nil_of_mem tears)
  · have there := torn.each other
    refine ⟨there.inside, there.clear, there.found, ?_, fun accepting => ?_, fun still => ?_⟩
    · rw [← there.ending]
      simp [away]
    · exact absurd (there.accepting accepting).1 (List.ne_nil_of_mem tears)
    · exact absurd (only other (there.ending.mpr (by simp [still]))) away

theorem locks (torn : Torn native c seen bearings) (free : c.connectionMutex = none) :
    Torn native { c with connectionMutex := some thread } seen
      (Function.update bearings thread { bearings thread with inside := true }) := by
  have here := torn.each thread
  refine of_move ?_ (fun other away => ?_) torn.one torn.down torn.live torn.oneClose
    torn.oneParting
  · exact ⟨by simp, fun cleared => ⟨rfl, (here.clear cleared).2⟩, here.found, here.ending,
      here.accepting, here.owes⟩
  · have there := torn.each other
    refine ⟨?_, there.clear, there.found, there.ending, there.accepting, there.owes⟩
    rw [there.inside, free]
    simp [Ne.symm away]

theorem unlocks (torn : Torn native c seen bearings) (inside : (bearings thread).inside = true)
    (started : (bearings thread).accepting = false) :
    Torn native { c with connectionMutex := none } seen
      (Function.update bearings thread { bearings thread with inside := false, clear := false }) := by
  have here := torn.each thread
  refine of_move ?_ (fun other away => ?_) torn.one torn.down torn.live torn.oneClose
    torn.oneParting
  · exact ⟨by simp, by simp [started], here.found, here.ending, here.accepting, here.owes⟩
  · have there := torn.each other
    refine ⟨?_, there.clear, there.found, there.ending, there.accepting, there.owes⟩
    simp [torn.others_outside inside away]

theorem stores (torn : Torn native c seen bearings) {value : State}
    (intime : timely seen thread c (.storeState value) = true) {post : Unit → Bearing → Prop}
    (holds : tearing native _ (.storeState value) post (bearings thread)) :
    ∃ bearing, post () bearing ∧ Torn native ({ c with state := value }.record (.stored value))
      (endings thread _ (.storeState value) c seen) (Function.update bearings thread bearing) := by
  have here := torn.each thread
  have up (other : c.state ≠ .disconnected) (away : value ≠ .disconnected)
      (post : Unit → Bearing → Prop) (next : post () { bearings thread with clear := false }) :
      ∃ bearing, post () bearing ∧ Torn native ({ c with state := value }.record (.stored value))
        (endings thread _ (.storeState value) c seen) (Function.update bearings thread bearing) := by
    obtain ⟨nobody, unparted, still⟩ := torn.up other
    have same : endings thread _ (.storeState value) c seen = seen := if_neg fun both => away both.1
    rw [same]
    exact ⟨_, next, torn.goes_up nobody unparted (fun other _ => still other) rfl rfl rfl
      (still thread).2 rfl⟩
  cases value with
  | disconnected =>
    cases found : (bearings thread).found with
    | none => simp [tearing, found] at holds
    | some live =>
      have known := here.found live found
      cases live with
      | true =>
        simp only [tearing, found, if_true] at holds
        have same : endings thread _ (.storeState .disconnected) c seen =
            { seen with ending := thread :: seen.ending } := if_pos ⟨rfl, known⟩
        rw [same]
        have other : c.state ≠ .disconnected := by simpa [timely, known] using intime
        exact ⟨_, holds.2,
          by simpa only [found] using @ends native thread c seen bearings torn other⟩
      | false =>
        simp only [tearing, found, Bool.false_eq_true, if_false] at holds
        have same : endings thread _ (.storeState .disconnected) c seen = seen :=
          if_neg fun both => by simp [known] at both
        rw [same]
        exact ⟨_, holds, by simpa only [found] using @gives_up native thread c seen bearings torn⟩
  | connecting =>
    obtain ⟨accepting, next⟩ := holds
    obtain ⟨nobody, unparted⟩ := here.accepting accepting
    have inside := (here.clear (.inr accepting)).1
    exact ⟨_, next, torn.goes_up nobody unparted (torn.alone inside) rfl rfl rfl rfl rfl⟩
  | authenticating => exact up (by simpa [timely] using intime) (by decide) post holds
  | connected => exact up (by simpa [timely] using intime) (by decide) post holds

theorem acts (torn : Torn native c seen bearings) {β : Type} {operation : Op β} {answer : Answer}
    {value : β} (stepped : step policy thread operation answer c = some (value, after))
    (intime : timely seen thread c operation = true) {post : β → Bearing → Prop}
    (holds : tearing native β operation post (bearings thread)) :
    ∃ bearing, post value bearing ∧ Torn native after (endings thread β operation c seen)
      (Function.update bearings thread bearing) := by
  have here := torn.each thread
  have stays (same : Unstirred native c after) :
      Torn native after seen (Function.update bearings thread (bearings thread)) := by
    rw [Function.update_eq_self]
    exact torn.unstirred same
  cases operation
  case loadState =>
    cases stepped
    exact ⟨_, holds c.state fun ending => (torn.down (List.ne_nil_of_mem
      (here.ending.mpr ending))).1, torn.loads⟩
  case storeState value =>
    cases stepped
    exact torn.stores intime holds
  case accept password =>
    cases stepped
    have nobody : seen.ending = [] := List.isEmpty_iff.mp intime
    have none : (bearings thread).ending = none := by
      by_contra ending
      have tears := here.ending.mpr ending
      rw [nobody] at tears
      cases tears
    exact ⟨_, holds.2 none, torn.accepts holds.1 nobody password⟩
  case sendTo packet destination =>
    simp only [step] at stepped
    split at stepped
    · cases stepped
    · cases stepped
      cases same : isClose native packet with
      | true =>
        simp only [tearing, same, if_true] at holds
        exact ⟨_, holds.2 _, torn.says_close holds.1 same destination⟩
      | false =>
        simp only [tearing, same] at holds
        have uncounted : Event.isCounted native (.sent packet destination) = false := by
          simp [Event.isCounted, Event.isAccepted, Event.isCloseSent, Event.isFarewell, same]
        exact ⟨_, holds _, stays (.recorded rfl rfl rfl uncounted)⟩
  case hasHook hook =>
    cases stepped
    by_cases parts : hook = .onDisconnected
    · subst parts
      cases assigned : c.hooks .onDisconnected with
      | true =>
        have same : endings thread _ (.hasHook .onDisconnected) c seen = seen :=
          if_neg fun both => by simp [assigned] at both
        rw [same]
        exact ⟨_, holds.1, stays (.of_log rfl rfl rfl)⟩
      | false =>
        have same : endings thread _ (.hasHook .onDisconnected) c seen =
            { seen with ending := seen.ending.filter (· ≠ thread) } := if_pos ⟨rfl, assigned⟩
        rw [same]
        exact ⟨_, holds.2, torn.leaves⟩
    · have same : endings thread _ (.hasHook hook) c seen = seen := if_neg fun both => parts both.1
      simp only [tearing, if_neg parts] at holds
      rw [same]
      cases assigned : c.hooks hook with
      | true => exact ⟨_, holds.1, stays (.of_log rfl rfl rfl)⟩
      | false => exact ⟨_, holds.2, stays (.of_log rfl rfl rfl)⟩
  case beginCallback callback =>
    cases stepped
    by_cases parts : callback.hook = .onDisconnected
    · have same : endings thread _ (.beginCallback callback) c seen =
          { seen with ending := seen.ending.filter (· ≠ thread) } := if_pos parts
      simp only [tearing, if_pos parts] at holds
      rw [same]
      exact ⟨_, holds.2, torn.announces holds.1 callback⟩
    · have same : endings thread _ (.beginCallback callback) c seen = seen := if_neg parts
      simp only [tearing, if_neg parts] at holds
      have uncounted : Event.isCounted native (.invoked callback) = false := by
        cases callback <;> first | rfl | exact absurd rfl parts
      rw [same]
      exact ⟨_, holds, stays (.recorded rfl rfl rfl uncounted)⟩
  case endCallback callback =>
    have borne : Borne native c seen thread
        { bearings thread with clear := false, found := none } :=
      ⟨here.inside, fun cleared => by simp [holds.1] at cleared, by simp, here.ending,
        here.accepting, here.owes⟩
    refine ⟨_, holds.2 none value, ?_⟩
    rw [step_endCallback stepped]
    exact torn.moved borne
  case lock mutex =>
    obtain ⟨free, rfl⟩ := step_lock stepped
    cases mutex with
    | connectionMutex =>
      have outside : (bearings thread).inside = false := by
        by_contra inside
        have owner := here.inside.mp (by simpa using inside)
        rw [owner_connectionMutex, owner] at free
        cases free
      exact ⟨_, holds outside, torn.locks free⟩
    | writeMutex => exact ⟨_, holds, stays (.of_log rfl rfl rfl)⟩
  case unlock mutex =>
    cases stepped
    cases mutex with
    | connectionMutex => exact ⟨_, holds.2.2, torn.unlocks holds.1 holds.2.1⟩
    | writeMutex => exact ⟨_, holds, stays (.of_log rfl rfl rfl)⟩
  case makeWorkGuard =>
    cases stepped
    exact ⟨_, holds.2, stays (.of_log rfl rfl rfl)⟩
  case dropWorkGuard =>
    cases stepped
    exact ⟨_, holds.2, stays (.of_log rfl rfl rfl)⟩
  case cancelTimer =>
    cases stepped
    exact ⟨_, holds.2, stays (.of_log rfl rfl rfl)⟩
  case stop =>
    cases stepped
    exact ⟨_, holds.2, stays (.of_log rfl rfl rfl)⟩
  case startThread =>
    simp only [step] at stepped
    (repeat' split at stepped) <;> cases stepped <;> first
      | exact ⟨_, holds.2 _, stays (.of_log rfl rfl rfl)⟩
      | exact ⟨_, holds.2 _, stays (.recorded rfl rfl rfl rfl)⟩
  case note event =>
    cases stepped
    cases event <;> first
      | exact ⟨_, holds, stays (.recorded rfl rfl rfl rfl)⟩
      | exact holds.elim
  all_goals
    simp only [step] at stepped
    (repeat' split at stepped) <;> cases stepped <;> first
      | exact ⟨_, holds _, stays (.of_log rfl rfl rfl)⟩
      | exact ⟨_, holds _, stays (.recorded rfl rfl rfl rfl)⟩

end Torn

/-- A job starts and ends outside of `connectionMutex_`, of a start and of a teardown. -/
theorem Level.keeps {α : Type} {program : Method α} (level : Level native false none program)
    {rest : Outcome α → Client → Client}
    (aside : ∀ outcome c, (rest outcome c).connectionMutex = c.connectionMutex ∧
      (rest outcome c).state = c.state ∧ (rest outcome c).log = c.log) :
    (torn native).Keeps thread (program.settle fun outcome => .ret (rest outcome))
      (torn native).idle := by
  unfold Discipline.Keeps
  rw [wp_settle]
  exact level _ _ ⟨rfl, rfl, rfl⟩ fun outcome bearing held => ⟨aside outcome, held⟩

end

theorem threads_torn (rules : Rules) :
    Respects (threads rules) (torn rules.native) Unhurried where
  monotone _ := tearing_monotone rules.native
  begins {config seen bearings thread job after task} guided idle begun _ := by
    have resting := guided.resting thread idle
    have stays : Function.update bearings thread (torn rules.native).idle = bearings := by
      rw [← resting, Function.update_eq_self]
    refine ⟨(torn rules.native).idle, ?_⟩
    rw [stays]
    cases begins_cases begun with
    | call => exact ⟨(publicCall_level _).keeps fun _ _ => ⟨rfl, rfl, rfl⟩, guided.joint⟩
    | connectSync =>
      refine ⟨(publicCall_level _).keeps fun outcome c => ?_, guided.joint⟩
      unfold entering
      split <;> exact ⟨rfl, rfl, rfl⟩
    | awaits =>
      refine ⟨(@Framed.awaitConnection rules.native).level.keeps fun outcome c => ?_, guided.joint⟩
      cases outcome <;> exact ⟨rfl, rfl, rfl⟩
    | handles =>
      exact ⟨(Framed.handler _ _).level.keeps fun _ _ => ⟨rfl, rfl, rfl⟩,
        guided.joint.unstirred (.of_log rfl rfl rfl)⟩
  acts {config seen bearings thread job β operation next answer value after} guided works stepped may
      post holds := by
    exact guided.joint.acts stepped ((executing_acts works).symm.trans may) holds
  nests {config seen bearings thread job β operation next made} guided works allowed _ post holds := by
    cases operation <;> try exact allowed.elim
    case endCallback callback =>
      obtain ⟨started, next⟩ := holds
      have level : Level rules.native (bearings thread).inside (bearings thread).ending
          ((threads rules).body made) :=
        .bind (publicCall_level made) fun _ => .ret ()
      refine level _ _ ⟨rfl, started, rfl⟩ fun outcome after held => ?_
      obtain ⟨inside, accepting, ending⟩ := held
      refine ⟨accepting, fun found answer => ?_⟩
      have same : { after with clear := false, found := found } =
          { bearings thread with clear := false, found := found } := by
        dsimp only
        rw [inside, ending, accepting, started]
      rw [same]
      exact next found answer
  ends {config seen bearings thread job finish} guided works _ ended := by
    obtain ⟨aside, inside, accepting, ending⟩ := ended
    obtain ⟨mutex, state, log⟩ := aside config.shared
    have here := guided.joint.each thread
    have borne : Borne rules.native config.shared seen thread (torn rules.native).idle := by
      refine ⟨?_, ?_, ?_, ?_, ?_, ?_⟩
      · rw [← here.inside, inside]
        rfl
      · rintro (clear | accepting)
        · cases clear
        · cases accepting
      · rintro found same
        cases same
      · rw [here.ending, ending]
        rfl
      · intro accepting
        cases accepting
      · intro owes
        cases owes
    exact (guided.joint.moved borne).unstirred (.of_log mutex state log)
  happens {config seen bearings event after} guided happened _ := by
    rcases happens_cases happened with ⟨_, rfl⟩ | ⟨_, _, _, rfl⟩ | ⟨_, _, rfl⟩ <;>
      exact guided.joint.unstirred (.of_log rfl rfl rfl)

theorem Torn.start (native : Endian) (dmrId : UInt32) (description : Bytes) (hooks : Hook → Bool) :
    Torn native (fresh dmrId description hooks) unended fun _ => (torn native).idle where
  each thread := by
    refine ⟨⟨fun inside => ?_, fun owner => ?_⟩, ?_, ?_, ⟨fun member => ?_, fun other => ?_⟩, ?_, ?_⟩
    · cases inside
    · cases owner
    · rintro (clear | accepting)
      · cases clear
      · cases accepting
    · rintro found same
      cases same
    · cases member
    · exact absurd rfl other
    · intro accepting
      cases accepting
    · intro owes
      cases owes
  one := Nat.zero_le _
  down ends := absurd rfl ends
  live up := absurd rfl up
  oneClose := Nat.zero_le _
  oneParting := Nat.zero_le _

/-- However the threads interleave, and whatever callbacks call or throw: as long as no thread acts
on a `state_` that has changed since, and no `Connect` is accepted before a teardown has come to
`onDisconnected`, a session has at most one CLOSE and one `onDisconnected`, and none before the
client is DISCONNECTED. -/
theorem one_teardown {rules : Rules} {dmrId : UInt32} {description : Bytes} {hooks : Hook → Bool}
    {turns : List Turn} {last : Config Op Client Thread Job}
    (run : Effects.Run (threads rules).Step (unworked (fresh dmrId description hooks)) turns last)
    (unhurried : Always (fun earlier => Unhurried (history endings unended earlier)) turns) :
    closes rules.native last.shared.log ≤ 1 ∧ partings last.shared.log ≤ 1 ∧
      (last.shared.state ≠ .disconnected → Unparted rules.native last.shared) := by
  have begun := @Guided.start Op Client Thread Job _ _ (torn rules.native) unended _
    (Torn.start rules.native dmrId description hooks)
  obtain ⟨bearings, guided⟩ := (threads_torn rules).run begun run unhurried
  exact ⟨guided.joint.oneClose, guided.joint.oneParting, guided.joint.live⟩

/-- Two threads disconnect a session with an open socket. The first executes `ahead` instructions before
the second loads `state_`. -/
def partingTurns (ahead : Nat) (rest : List (Action Answer Thread Job PublicCall Happening)) :
    List (Action Answer Thread Job PublicCall Happening) :=
  throughout (.app 0) (.call (.connect "master" 54006 [0x70] 1000)) 19 ++
    .happens (.completes 1 { endpoints := [sampleServer] }) :: throughout .io (.handles 1) 17 ++
    .begins (.app 0) (.call .disconnect) :: List.replicate ahead (.acts (.app 0) {}) ++
    .begins (.app 1) (.call .disconnect) :: List.replicate 2 (.acts (.app 1) {}) ++ rest

/-- The second finds what the first has stored. -/
theorem one_teardown_rivals : ∃ (turns : List Turn) (last : Config Op Client Thread Job),
    Effects.Run (threads sampleRules).Step (unworked attentive) turns last ∧
      (closes .little last.shared.log = 1 ∧ partings last.shared.log = 1) ∧
      closes .little last.shared.log ≤ 1 ∧ partings last.shared.log ≤ 1 ∧
      (last.shared.state ≠ .disconnected → Unparted .little last.shared) := by
  obtain ⟨turns, last, run, checked⟩ := threads_checked sampleRules (unworked attentive)
    (partingTurns 3 (List.replicate 17 (.acts (.app 0) {})))
    (fun turns last => (closes .little last.shared.log = 1 ∧ partings last.shared.log = 1) ∧
      Along endings Unhurried unended turns) (by decide +kernel)
  obtain ⟨once, unhurried⟩ := of_decide_eq_true checked
  exact ⟨turns, last, run, once, one_teardown run unhurried.always⟩

/-- Besides the background thread only one thread moves. -/
def solo (id : Nat) (turn : Turn) : Bool :=
  match turn.label with
  | .begins thread _ | .acts thread _ | .nests thread _ | .ends thread =>
    thread = .io || thread = .app id
  | .happens _ => true

/-- The connect timeout fires, and its handler and a `Disconnect` of the application both load `state_`
before one of them stores. -/
def collidingTurns : List (Action Answer Thread Job PublicCall Happening) :=
  throughout (.app 0) (.call (.connect "master" 54006 [0x70] 1000)) 19 ++
    .happens (.completes 1 { endpoints := [sampleServer] }) :: throughout .io (.handles 1) 17 ++
    .happens (.completes 0 {}) :: .begins .io (.handles 0) :: List.replicate 7 (.acts .io {}) ++
    .begins (.app 0) (.call .disconnect) :: List.replicate 2 (.acts (.app 0) {}) ++
    List.replicate 9 (.acts .io {}) ++ List.replicate 18 (.acts (.app 0) {}) ++
    List.replicate 9 (.acts .io {})

/-- Both find the session, and both tear it down. -/
theorem two_teardowns : ∃ (turns : List Turn) (last : Config Op Client Thread Job),
    Effects.Run (threads sampleRules).Step (unworked attentive) turns last ∧
      (∀ turn ∈ turns, solo 0 turn = true) ∧
      closes .little last.shared.log = 2 ∧ partings last.shared.log = 2 := by
  obtain ⟨turns, last, run, checked⟩ := threads_checked sampleRules (unworked attentive)
    collidingTurns
    (fun turns last => (∀ turn ∈ turns, solo 0 turn = true) ∧
      closes .little last.shared.log = 2 ∧ partings last.shared.log = 2)
    (by decide +kernel)
  exact ⟨turns, last, run, of_decide_eq_true checked⟩

end OpenDTP.Client
