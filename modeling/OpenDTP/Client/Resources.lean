import OpenDTP.Client.Frames
import OpenDTP.Client.Replay

/-! The asynchronous operations of the first session. In each state of the handshake certain
operations are outstanding, exactly once each; when the session is over the socket is closed and
nothing is left that could still wait. Callbacks for inbound datagrams may call `Disconnect`. -/

namespace OpenDTP.Client
open Common Protocol Effects Effects.Program

/-! ### Counting operations -/

/-- How many operations of a kind have a handler that has not run. -/
def held (kind : Kind) (operations : List Outstanding) : Nat :=
  operations.countP fun operation => operation.kind = kind

def Outstanding.isAborted (operation : Outstanding) : Bool :=
  match operation.completion with
  | some completion => completion.ec = .operationAborted
  | none => false

theorem held_append (kind : Kind) (first second : List Outstanding) :
    held kind (first ++ second) = held kind first + held kind second := List.countP_append

theorem held_cons (kind : Kind) (operation : Outstanding) (operations : List Outstanding) :
    held kind (operation :: operations) =
      held kind operations + if operation.kind = kind then 1 else 0 := by
  simp [held, List.countP_cons]

@[simp] theorem held_single (kind other : Kind) (session : Nat) (completion : Option Completion) :
    held kind [⟨other, session, completion⟩] = if other = kind then 1 else 0 := by
  rw [held_cons]
  exact Nat.zero_add _

theorem held_split (kind : Kind) (before rest : List Outstanding) (operation : Outstanding) :
    held kind (before ++ operation :: rest) =
      held kind (before ++ rest) + if operation.kind = kind then 1 else 0 := by
  rw [held_append, held_cons, held_append]
  omega

theorem held_pos {kind : Kind} {operation : Outstanding} {operations : List Outstanding}
    (member : operation ∈ operations) (same : operation.kind = kind) : 0 < held kind operations :=
  List.countP_pos_iff.mpr ⟨operation, member, decide_eq_true same⟩

theorem cancel_kind (kind : Kind) (operation : Outstanding) :
    (operation.cancel kind).kind = operation.kind := by
  unfold Outstanding.cancel
  split <;> rfl

@[simp] theorem held_cancel (kind other : Kind) (operations : List Outstanding) :
    held kind (operations.map (·.cancel other)) = held kind operations := by
  unfold held
  rw [List.countP_map]
  congr 1
  funext operation
  simp only [Function.comp, cancel_kind]

/-- What a cancellation aborts was pending. -/
theorem cancel_aborted {kind : Kind} {operation : Outstanding}
    (aborted : (operation.cancel kind).isAborted = true) :
    operation.isAborted = true ∨ operation.kind = kind := by
  unfold Outstanding.cancel at aborted
  split at aborted
  · next pending => exact .inr pending.1
  · exact .inl aborted

theorem abort_completed (operation : Outstanding) : operation.abort.completion ≠ none := by
  unfold Outstanding.abort
  split
  · simp
  · next completed => exact completed

/-! ### The invariant -/

/-- The session is over: the socket is closed, and every operation whose handler has not run was
cancelled or had completed. -/
structure Down (c : Client) : Prop where
  state : c.state = .disconnected
  socketOpen : c.socketOpen = false
  completed : ∀ operation ∈ c.operations, operation.completion ≠ none

structure Tended (c : Client) : Prop where
  connecting : c.state = .connecting →
    held .connectTimeout c.operations = 1 ∧ held .keepAlive c.operations = 0 ∧
      (held .resolve c.operations = 1 ∧ c.socketOpen = false ∧ held .receive c.operations = 0 ∨
        held .resolve c.operations = 0 ∧ c.socketOpen = true ∧ held .receive c.operations = 1)
  authenticating : c.state = .authenticating →
    held .connectTimeout c.operations = 1 ∧ held .keepAlive c.operations = 0 ∧
      held .resolve c.operations = 0 ∧ c.socketOpen = true ∧ held .receive c.operations = 1
  connected : c.state = .connected →
    held .keepAlive c.operations = 1 ∧ held .resolve c.operations = 0 ∧ c.socketOpen = true ∧
      held .receive c.operations = 1
  disconnected : c.state = .disconnected → Down c
  /-- While the session is up nothing but the connect timeout is ever cancelled. -/
  whole : c.state ≠ .disconnected → ∀ operation ∈ c.operations, operation.isAborted = true →
    operation.kind = .connectTimeout ∧ c.state = .connected

theorem Down.tended {c : Client} (down : Down c) : Tended c where
  connecting here := by cases down.state.symm.trans here
  authenticating here := by cases down.state.symm.trans here
  connected here := by cases down.state.symm.trans here
  disconnected _ := down
  whole up := absurd down.state up

section

variable {c : Client}

theorem Tended.of_connecting (here : c.state = .connecting)
    (timeout : held .connectTimeout c.operations = 1) (timer : held .keepAlive c.operations = 0)
    (stage : held .resolve c.operations = 1 ∧ c.socketOpen = false ∧ held .receive c.operations = 0 ∨
      held .resolve c.operations = 0 ∧ c.socketOpen = true ∧ held .receive c.operations = 1)
    (whole : ∀ operation ∈ c.operations, operation.isAborted = false) : Tended c where
  connecting _ := ⟨timeout, timer, stage⟩
  authenticating other := by cases here.symm.trans other
  connected other := by cases here.symm.trans other
  disconnected other := by cases here.symm.trans other
  whole _ operation member aborted := by cases (whole operation member).symm.trans aborted

theorem Tended.of_authenticating (here : c.state = .authenticating)
    (timeout : held .connectTimeout c.operations = 1) (timer : held .keepAlive c.operations = 0)
    (resolve : held .resolve c.operations = 0) (isOpen : c.socketOpen = true)
    (receive : held .receive c.operations = 1)
    (whole : ∀ operation ∈ c.operations, operation.isAborted = false) : Tended c where
  connecting other := by cases here.symm.trans other
  authenticating _ := ⟨timeout, timer, resolve, isOpen, receive⟩
  connected other := by cases here.symm.trans other
  disconnected other := by cases here.symm.trans other
  whole _ operation member aborted := by cases (whole operation member).symm.trans aborted

theorem Tended.of_connected (here : c.state = .connected)
    (timer : held .keepAlive c.operations = 1) (resolve : held .resolve c.operations = 0)
    (isOpen : c.socketOpen = true) (receive : held .receive c.operations = 1)
    (whole : ∀ operation ∈ c.operations, operation.isAborted = true →
      operation.kind = .connectTimeout) : Tended c where
  connecting other := by cases here.symm.trans other
  authenticating other := by cases here.symm.trans other
  connected _ := ⟨timer, resolve, isOpen, receive⟩
  disconnected other := by cases here.symm.trans other
  whole _ operation member aborted := ⟨whole operation member aborted, here⟩

/-- Before a session is connected nothing in it was cancelled. -/
theorem Tended.intact (tended : Tended c) (handshakes : c.handshakes) :
    ∀ operation ∈ c.operations, operation.isAborted = false := by
  intro operation member
  apply eq_false_of_ne_true
  intro aborted
  have up : c.state ≠ .disconnected := by
    rcases handshakes with here | here <;> simp [here]
  have connected := (tended.whole up operation member aborted).2
  rcases handshakes with here | here <;> cases here.symm.trans connected

end

/-- The operations, the socket and `state_` are as they were. -/
structure Untouched (c after : Client) : Prop where
  state : after.state = c.state
  socketOpen : after.socketOpen = c.socketOpen
  operations : after.operations = c.operations
  session : after.session = c.session

namespace Untouched

theorem refl (c : Client) : Untouched c c := ⟨rfl, rfl, rfl, rfl⟩

theorem trans {first second third : Client} (early : Untouched first second)
    (late : Untouched second third) : Untouched first third :=
  ⟨late.state.trans early.state, late.socketOpen.trans early.socketOpen,
    late.operations.trans early.operations, late.session.trans early.session⟩

end Untouched

theorem Down.untouched {c after : Client} (down : Down c) (same : Untouched c after) : Down after :=
  ⟨same.state.trans down.state, same.socketOpen.trans down.socketOpen, by
    rw [same.operations]
    exact down.completed⟩

theorem Tended.untouched {c after : Client} (tended : Tended c) (same : Untouched c after) :
    Tended after where
  connecting here := by
    rw [same.operations, same.socketOpen]
    exact tended.connecting (same.state.symm.trans here)
  authenticating here := by
    rw [same.operations, same.socketOpen]
    exact tended.authenticating (same.state.symm.trans here)
  connected here := by
    rw [same.operations, same.socketOpen]
    exact tended.connected (same.state.symm.trans here)
  disconnected here := (tended.disconnected (same.state.symm.trans here)).untouched same
  whole up := by
    rw [same.operations, same.state]
    exact tended.whole (fun down => up (same.state.trans down))

/-! ### Callbacks that call `Disconnect` -/

/-- The callbacks for inbound datagrams. -/
def Callback.isInbound (callback : Callback) : Bool :=
  callback.hook ≠ .onError && callback.hook ≠ .onDisconnected

/-- The session is as it was, or it was ended. -/
def Hung (c after : Client) : Prop :=
  Untouched c after ∨ c.state ≠ .disconnected ∧ Down after ∧ after.session = c.session

theorem Hung.trans {first second third : Client} (early : Hung first second)
    (late : Hung second third) : Hung first third := by
  rcases early with before | ⟨up, down, session⟩
  · rcases late with same | ⟨up, down, session⟩
    · exact .inl (before.trans same)
    · exact .inr ⟨by rw [← before.state]; exact up, down, session.trans before.session⟩
  · rcases late with same | ⟨_, down, last⟩
    · exact .inr ⟨up, down.untouched same, same.session.trans session⟩
    · exact .inr ⟨up, down, last.trans session⟩

def hanging : Meanwhile := fun callback before after =>
  if callback.isInbound then Hung before after else after = before

theorem hanging_settled : hanging.Settled where
  onError := Iff.rfl
  onDisconnected := Iff.rfl

/-- Callbacks for inbound datagrams do not throw and may call `Disconnect`; the others make no
calls. No step of the startup throws. -/
structure Rules.HangsUp (rules : Rules) : Prop where
  nests : ∀ callback call, rules.nests callback call → callback.isInbound = true ∧ call = .disconnect
  throws : ∀ hook, hook ≠ .onError → hook ≠ .onDisconnected → rules.policy.throws hook = false
  starts : rules.policy.startupThrows = false

/-- A handler is through with its work: it has ended the session, or it is the resolver handler and
has come to the KEEP_ALIVE at its end. -/
def Event.closesOff (kind : Kind) : Event → Bool
  | .invoked (.onDisconnected _) => true
  | .passed type _ _ => kind = .resolve && type = .keepAlive
  | _ => false

/-- No exception leaves a handler before it is through with its work. -/
def Finishes (transition : Transition Client Label) : Prop :=
  ∀ operation, transition.label = .handles operation → transition.after.ioThread = .exited →
    ∃ event ∈ added transition, event.closesOff operation.kind = true

def Through (kind : Kind) (c : Client) (outcome : Outcome Unit) (after : Client) : Prop :=
  ∀ what, outcome = .error what → ∀ events, after.log = c.log ++ events →
    ∃ event ∈ events, event.closesOff kind = true

namespace Through

variable {kind : Kind} {c middle after : Client} {outcome : Outcome Unit}

theorem behind (through : Through kind c outcome after) (events : List Event)
    (extended : middle.log = c.log ++ events)
    (none : ∀ event ∈ events, event.closesOff kind = false) : Through kind middle outcome after := by
  intro what thrown others extendedMore
  obtain ⟨event, member, closes⟩ := through what thrown (events ++ others) (by
    rw [extendedMore, extended, List.append_assoc])
  rcases List.mem_append.mp member with early | late
  · rw [none event early] at closes
    cases closes
  · exact ⟨event, late, closes⟩

theorem unbroken {what : String} {events : List Event} (through : Through kind c (.error what) after)
    (extended : after.log = c.log ++ events)
    (none : ∀ event ∈ events, event.closesOff kind = false) : False := by
  obtain ⟨event, member, closes⟩ := through what rfl events extended
  rw [none event member] at closes
  cases closes

end Through

theorem complaint_unclosed (kind : Kind) (error : ClientError) (message : String) (c : Client) :
    ∀ event ∈ announcement (.onError error message) c, event.closesOff kind = false := by
  unfold announcement
  split <;> simp [Event.closesOff]

theorem passed_unclosed (native : Endian) {kind : Kind} (other : kind ≠ .resolve)
    (type : MessageType) (flag : UInt16) (payload : Bytes) (ec : ErrorCode) (c : Client) :
    ∃ events, (transmitted native type flag payload ec c).log = c.log ++ events ∧
      ∀ event ∈ events, event.closesOff kind = false := by
  refine ⟨_, rfl, fun event member => ?_⟩
  rcases List.mem_cons.mp member with rfl | behind
  · simp [Event.closesOff, other]
  · split at behind
    · rcases List.mem_cons.mp behind with rfl | behind
      · rfl
      · split at behind
        · cases behind
        · exact complaint_unclosed _ _ _ _ event behind
    · cases behind

section

variable {rules : Rules} {native : Endian} {policy : Policy} {c after : Client}

theorem tornDown_down (ec : ErrorCode) (c : Client) : Down (tornDown native ec c) := by
  refine ⟨rfl, rfl, fun operation member => ?_⟩
  obtain ⟨old, _, rfl⟩ := List.mem_map.mp member
  exact abort_completed old

theorem Ended.down {outcome : Outcome Unit} (ended : Ended native policy c outcome after) :
    Down after ∧ after.session = c.session := by
  cases ended <;> exact ⟨tornDown_down _ c, rfl⟩

theorem Joins.untouched {thread : Thread} (joins : Joins thread c after) : Untouched c after := by
  cases joins <;> exact ⟨rfl, rfl, rfl, rfl⟩

theorem Disconnects.hung {thread : Thread} {outcome : Outcome Unit}
    (disconnects : Disconnects native policy thread c outcome after) : Hung c after := by
  cases disconnects with
  | idle _ joins => exact .inl joins.untouched
  | ended up ended joins =>
    exact .inr ⟨up, ended.down.1.untouched joins.untouched,
      joins.untouched.session.trans ended.down.2⟩
  | threw _ up ended => exact .inr ⟨up, ended.down⟩

theorem Performs.hung {thread : Thread} {outcome : Outcome (Option ClientError)}
    (performs : Performs native policy thread c .disconnect outcome after) : Hung c after := by
  have called : Hung c { c with log := c.log ++ [.called .disconnect] } := .inl ⟨rfl, rfl, rfl, rfl⟩
  have ran {result : Outcome (Option ClientError)} {middle : Client}
      (calls : Calls native policy thread { c with log := c.log ++ [.called .disconnect] }
        .disconnect result middle) : Hung c middle := by
    cases calls with
    | disconnect disconnects => exact called.trans disconnects.hung
    | sends _ other => exact absurd rfl other
  cases performs with
  | @returned result middle calls =>
    have noted : Hung middle { middle with log := middle.log ++ [.returned .disconnect result] } :=
      .inl ⟨rfl, rfl, rfl, rfl⟩
    exact (ran calls).trans noted
  | threw calls => exact ran calls

theorem Rules.HangsUp.allows (hangs : rules.HangsUp) : rules.Allows hanging where
  settled := hanging_settled
  covers := fun thread =>
    { refl := fun operation state => by
        cases operation
        case endCallback callback =>
          change hanging callback state state
          unfold hanging
          split
          · exact .inl (.refl state)
          · rfl
        all_goals rfl
      trans := fun operation first second third one two => by
        cases operation
        case endCallback callback =>
          change hanging callback first third
          change hanging callback first second at one
          change hanging callback second third at two
          unfold hanging at one two ⊢
          split at one
          · next inbound =>
            rw [if_pos inbound] at two ⊢
            exact one.trans two
          · next other =>
            rw [if_neg other] at two ⊢
            exact two.trans one
        all_goals exact Eq.trans two one
      nested := fun operation state inner nested => by
        cases operation
        case endCallback callback =>
          obtain ⟨call, makes, rfl⟩ := nested
          obtain ⟨inbound, rfl⟩ := hangs.nests callback call makes
          rw [wp_map]
          apply (publicCall_within hanging_settled .disconnect state).wp (effect_monotone _ _ _)
          intro outcome after performs
          have hung : hanging callback state after := by
            unfold hanging
            rw [if_pos inbound]
            exact performs.hung
          cases outcome <;> exact hung
        all_goals exact nested.elim }

/-! ### Handlers -/

theorem Transmits.untouched {type : MessageType} {flag : UInt16} {payload : Bytes}
    {outcome : Outcome Unit} (transmits : Transmits native policy type flag payload c outcome after) :
    Untouched c after := by
  cases transmits <;> exact ⟨rfl, rfl, rfl, rfl⟩

/-- A failing handler that is not interrupted ends the session. -/
theorem Fails.down {error : ClientError} {message : String} {kind : Kind} {outcome : Outcome Unit}
    (through : Through kind c outcome after)
    (fails : Fails native policy error message c outcome after) : Down after := by
  cases fails with
  | threw what => exact (through.unbroken rfl (complaint_unclosed _ _ _ _)).elim
  | ended ec =>
    have down : Down (tornDown native ec (complained error message c)) := tornDown_down ec _
    exact down.untouched ⟨rfl, rfl, rfl, rfl⟩
  | leftEarly ec => exact tornDown_down ec _

section

variable {before rest : List Outstanding} {operation : Outstanding} {completion : Completion}
  {outcome : Outcome Unit}

/-- Taking an operation out leaves a session that is over as it is. -/
theorem Down.dequeued (down : Down c) (found : c.operations = before ++ operation :: rest) :
    Down (dequeued before rest c) := by
  refine ⟨down.state, down.socketOpen, fun other member => down.completed other ?_⟩
  rw [found]
  rcases List.mem_append.mp member with early | late
  · exact List.mem_append_left _ early
  · exact List.mem_append_right _ (List.mem_cons_of_mem _ late)

theorem held_found {kind : Kind} (found : c.operations = before ++ operation :: rest)
    (same : operation.kind = kind) :
    held kind c.operations = held kind (Client.dequeued before rest c).operations + 1 := by
  rw [found, held_split, if_pos same]
  rfl

theorem held_other {kind : Kind} (found : c.operations = before ++ operation :: rest)
    (other : operation.kind ≠ kind) :
    held kind c.operations = held kind (Client.dequeued before rest c).operations := by
  rw [found, held_split, if_neg other]
  rfl

theorem mem_found (found : c.operations = before ++ operation :: rest) :
    operation ∈ c.operations := by
  rw [found]
  simp

theorem mem_dequeued (found : c.operations = before ++ operation :: rest) {other : Outstanding}
    (member : other ∈ (Client.dequeued before rest c).operations) : other ∈ c.operations := by
  rw [found]
  rcases List.mem_append.mp member with early | late
  · exact List.mem_append_left _ early
  · exact List.mem_append_right _ (List.mem_cons_of_mem _ late)

theorem aborted_of_completion (queued : operation.completion = some completion)
    (aborted : completion.ec = .operationAborted) : operation.isAborted = true := by
  simp [Outstanding.isAborted, queued, aborted]

/-- The connect timeout ends a handshake; a session without one does not need it. -/
theorem TimesOut.tended {kind : Kind} (through : Through kind (dequeued before rest c) outcome after)
    (tended : Tended c)
    (found : c.operations = before ++ operation :: rest) (isTimeout : operation.kind = .connectTimeout)
    (queued : operation.completion = some completion)
    (ran : TimesOut native policy completion.ec (dequeued before rest c) outcome after) :
    Tended after := by
  have others (kind : Kind) (other : kind ≠ .connectTimeout) :
      held kind (dequeued before rest c).operations = held kind c.operations :=
    (held_other found (by rw [isTimeout]; exact other.symm)).symm
  cases ran with
  | inert idle =>
    have unshaken : ¬ c.handshakes := by
      rcases idle with aborted | settled
      · intro handshakes
        have intact := tended.intact handshakes operation (mem_found found)
        cases intact.symm.trans (aborted_of_completion queued aborted)
      · exact settled
    cases state : c.state with
    | disconnected => exact ((tended.disconnected state).dequeued found).tended
    | connecting => exact absurd (.inl state) unshaken
    | authenticating => exact absurd (.inr state) unshaken
    | connected =>
      obtain ⟨timer, resolve, isOpen, receive⟩ := tended.connected state
      refine .of_connected state ?_ ?_ isOpen ?_ ?_
      · rw [others _ (by decide), timer]
      · rw [others _ (by decide), resolve]
      · rw [others _ (by decide), receive]
      · intro other member aborted
        exact (tended.whole (by simp [state]) other (mem_dequeued found member) aborted).1
  | failed _ _ fails => exact (fails.down through).tended

/-- The resolver handler passes the handshake on to the receive that it starts. -/
theorem Resolves.tended {kind : Kind} (through : Through kind (dequeued before rest c) outcome after)
    (tended : Tended c)
    (found : c.operations = before ++ operation :: rest) (isResolve : operation.kind = .resolve)
    (ran : Resolves native policy completion.ec completion.endpoints (dequeued before rest c)
      outcome after) : Tended after := by
  have present := held_found found isResolve
  have others (kind : Kind) (other : kind ≠ .resolve) :
      held kind (dequeued before rest c).operations = held kind c.operations :=
    (held_other found (by rw [isResolve]; exact other.symm)).symm
  cases ran with
  | inert idle =>
    cases state : c.state with
    | disconnected => exact ((tended.disconnected state).dequeued found).tended
    | connecting => exact absurd state idle
    | authenticating =>
      have none := (tended.authenticating state).2.2.1
      omega
    | connected =>
      have none := (tended.connected state).2.1
      omega
  | unresolved _ _ _ fails => exact (fails.down through).tended
  | unopened endpoint openEc _ _ _ _ fails =>
    have targets : Through kind (targeted endpoint openEc (dequeued before rest c)) outcome after :=
      through.behind [.opened openEc] rfl (by simp [Event.closesOff])
    exact (fails.down targets).tended
  | unbound endpoint bindEc _ _ _ _ _ fails =>
    have opens : Through kind (opened endpoint bindEc (dequeued before rest c)) outcome after :=
      through.behind [.opened .success, .bound bindEc] (List.append_assoc _ _ _)
        (by simp [Event.closesOff])
    exact (fails.down opens).tended
  | started endpoint connecting _ _ shut transmits =>
    have connecting : c.state = .connecting := connecting
    obtain ⟨timeout, timer, stage⟩ := tended.connecting connecting
    have receive : held .receive c.operations = 0 := by omega
    have intact := tended.intact (.inl connecting)
    have begun : Tended (receiving (opened endpoint .success (dequeued before rest c))) := by
      refine .of_connecting connecting ?_ ?_ (.inr ⟨?_, rfl, ?_⟩) ?_
      · change held .connectTimeout ((dequeued before rest c).operations ++ [_]) = 1
        rw [held_append, held_single, others _ (by decide), timeout]
        rfl
      · change held .keepAlive ((dequeued before rest c).operations ++ [_]) = 0
        rw [held_append, held_single, others _ (by decide), timer]
        rfl
      · change held .resolve ((dequeued before rest c).operations ++ [_]) = 0
        rw [held_append, held_single, if_neg (by decide)]
        omega
      · change held .receive ((dequeued before rest c).operations ++ [_]) = 1
        rw [held_append, held_single, others _ (by decide), receive]
        rfl
      · intro other member
        rcases List.mem_append.mp member with old | new
        · exact intact other (mem_dequeued found old)
        · rw [List.mem_singleton.mp new]
          rfl
    exact begun.untouched transmits.untouched

/-- What a handler other than the resolver's sends does not throw out of it. -/
theorem Transmits.unbroken {type : MessageType} {flag : UInt16} {payload : Bytes} {what : String}
    {kind : Kind} (other : kind ≠ .resolve) (through : Through kind c (.error what) after) :
    ¬ Transmits native policy type flag payload c (.error what) after := by
  intro transmits
  cases transmits with
  | threw ec =>
    obtain ⟨events, extended, none⟩ := passed_unclosed native other type flag payload ec c
    exact through.unbroken extended none

/-- The keep-alive handler replaces the wait it was called for. -/
theorem KeepsAlive.tended (through : Through .keepAlive (dequeued before rest c) outcome after)
    (tended : Tended c)
    (found : c.operations = before ++ operation :: rest) (isKeepAlive : operation.kind = .keepAlive)
    (queued : operation.completion = some completion)
    (ran : KeepsAlive native policy completion.ec (dequeued before rest c) outcome after) :
    Tended after := by
  have present := held_found found isKeepAlive
  have others (kind : Kind) (other : kind ≠ .keepAlive) :
      held kind (dequeued before rest c).operations = held kind c.operations :=
    (held_other found (by rw [isKeepAlive]; exact other.symm)).symm
  cases ran with
  | inert idle =>
    cases state : c.state with
    | disconnected => exact ((tended.disconnected state).dequeued found).tended
    | connecting =>
      have none := (tended.connecting state).2.1
      omega
    | authenticating =>
      have none := (tended.authenticating state).2.1
      omega
    | connected =>
      rcases idle with aborted | other
      · have timeout := (tended.whole (by simp [state]) operation (mem_found found)
          (aborted_of_completion queued aborted)).1
        cases isKeepAlive.symm.trans timeout
      · exact absurd state other
  | threw _ transmits => exact absurd transmits (Transmits.unbroken (by decide) through)
  | @beat middle connected transmits =>
    have connected : c.state = .connected := connected
    have same := transmits.untouched
    obtain ⟨timer, resolve, isOpen, receive⟩ := tended.connected connected
    refine .of_connected (same.state.trans connected) ?_ ?_ (same.socketOpen.trans isOpen) ?_ ?_
    · change held .keepAlive (middle.operations.map (·.cancel .keepAlive) ++ [_]) = 1
      rw [held_append, held_cancel, held_single, same.operations, if_pos rfl]
      omega
    · change held .resolve (middle.operations.map (·.cancel .keepAlive) ++ [_]) = 0
      rw [held_append, held_cancel, held_single, same.operations, others _ (by decide), resolve]
      rfl
    · change held .receive (middle.operations.map (·.cancel .keepAlive) ++ [_]) = 1
      rw [held_append, held_cancel, held_single, same.operations, others _ (by decide), receive]
      rfl
    · intro other member aborted
      rcases List.mem_append.mp member with cancelled | new
      · obtain ⟨old, earlier, rfl⟩ := List.mem_map.mp cancelled
        rw [same.operations] at earlier
        rw [cancel_kind]
        rcases cancel_aborted aborted with already | isTimer
        · exact (tended.whole (by simp [connected]) old (mem_dequeued found earlier) already).1
        · have other := held_pos earlier isTimer
          omega
      · rw [List.mem_singleton.mp new] at aborted
        cases aborted

/-! The receive handler runs without its operation, and starts the next one at its end. -/

/-- The session is complete but for the receive that is being handled, or it is over. -/
def Lacking (c : Client) : Prop :=
  Tended (receiving c) ∧ c.state ≠ .disconnected ∨ Down c

theorem Tended.lacking (tended : Tended c) (found : c.operations = before ++ operation :: rest)
    (isReceive : operation.kind = .receive) : Lacking (dequeued before rest c) := by
  have present := held_found found isReceive
  have all (kind : Kind) :
      held kind (receiving (dequeued before rest c)).operations = held kind c.operations := by
    change held kind ((dequeued before rest c).operations ++ [_]) = _
    rw [held_append, held_single]
    by_cases same : Kind.receive = kind
    · subst same
      rw [if_pos rfl, present]
    · rw [if_neg same, held_other found (by rw [isReceive]; exact same)]
      rfl
  have sound (other : Outstanding)
      (member : other ∈ (receiving (dequeued before rest c)).operations)
      (aborted : other.isAborted = true) : other ∈ c.operations := by
    rcases List.mem_append.mp member with old | new
    · exact mem_dequeued found old
    · rw [List.mem_singleton.mp new] at aborted
      cases aborted
  by_cases down : c.state = .disconnected
  · exact .inr ((tended.disconnected down).dequeued found)
  · left
    refine ⟨⟨fun here => ?_, fun here => ?_, fun here => ?_, fun here => absurd here down, ?_⟩, down⟩
    · simp only [all]
      exact tended.connecting here
    · simp only [all]
      exact tended.authenticating here
    · simp only [all]
      exact tended.connected here
    · exact fun _ other member aborted => tended.whole down other (sound other member aborted) aborted

theorem Lacking.untouched (lacking : Lacking c) (same : Untouched c after) : Lacking after := by
  rcases lacking with ⟨tended, up⟩ | down
  · refine .inl ⟨tended.untouched ⟨same.state, same.socketOpen, ?_, same.session⟩, ?_⟩
    · rw [receiving, receiving, same.operations, same.session]
    · rw [same.state]
      exact up
  · exact .inr (down.untouched same)

theorem Lacking.hung (lacking : Lacking c) (hung : Hung c after) : Lacking after := by
  rcases hung with same | ⟨_, down, _⟩
  · exact lacking.untouched same
  · exact .inr down

/-- A receive is only ever handled while the socket is open. -/
theorem Lacking.isOpen (tended : Tended (receiving c)) (up : c.state ≠ .disconnected) :
    c.socketOpen = true := by
  have present : 0 < held .receive (receiving c).operations :=
    held_pos (List.mem_append_right _ (List.mem_singleton.mpr rfl)) rfl
  cases state : c.state with
  | disconnected => exact absurd state up
  | connecting =>
    rcases (tended.connecting state).2.2 with ⟨_, _, none⟩ | ⟨_, isOpen, _⟩
    · omega
    · exact isOpen
  | authenticating => exact (tended.authenticating state).2.2.2.1
  | connected => exact (tended.connected state).2.2.1

theorem Lacking.resumed (lacking : Lacking c) : Tended (resumed c) := by
  rcases lacking with ⟨tended, up⟩ | down
  · have isOpen := Lacking.isOpen tended up
    unfold Client.resumed
    rw [if_neg (by simp [up, isOpen])]
    exact tended
  · unfold Client.resumed
    rw [if_pos (.inl down.state)]
    exact down.tended

theorem Reports.hung {callback : Callback} (inbound : callback.isInbound = true)
    (reports : Reports policy hanging callback c outcome after) : Hung c after := by
  have told : Hung c { c with log := c.log ++ [.invoked callback] } := .inl ⟨rfl, rfl, rfl, rfl⟩
  have ran {between : Client}
      (ran : hanging callback { c with log := c.log ++ [.invoked callback] } between) :
      Hung c between := by
    unfold hanging at ran
    rw [if_pos inbound] at ran
    exact told.trans ran
  cases reports with
  | unset => exact .inl (.refl c)
  | done _ nested => exact ran nested
  | threw _ _ nested => exact ran nested

/-- A challenge moves a complete handshake on. -/
theorem challenged_lacking (lacking : Lacking c) (connecting : c.state = .connecting) :
    Lacking (challenged c) := by
  rcases lacking with ⟨tended, up⟩ | down
  · have isOpen := Lacking.isOpen tended up
    obtain ⟨timeout, timer, stage⟩ := tended.connecting connecting
    have intact := tended.intact (.inl connecting)
    left
    refine ⟨.of_authenticating rfl timeout timer ?_ isOpen ?_ intact, by simp [challenged]⟩
    · rcases stage with ⟨_, shut, _⟩ | ⟨resolve, _⟩
      · cases isOpen.symm.trans shut
      · exact resolve
    · rcases stage with ⟨_, shut, _⟩ | ⟨_, _, receive⟩
      · cases isOpen.symm.trans shut
      · exact receive
  · cases down.state.symm.trans connecting

/-- The acknowledgement ends a complete handshake: its timeout is cancelled, the timer is armed. -/
theorem welcomed_lacking (lacking : Lacking c) (authenticating : c.state = .authenticating) :
    Lacking (welcomed c) := by
  rcases lacking with ⟨tended, up⟩ | down
  · obtain ⟨_, timer, resolve, isOpen, receive⟩ := tended.authenticating authenticating
    have intact := tended.intact (.inr authenticating)
    have split (kind : Kind) : held kind (receiving c).operations =
        held kind c.operations + if Kind.receive = kind then 1 else 0 := by
      change held kind (c.operations ++ [_]) = _
      rw [held_append, held_single]
    have all (kind : Kind) : held kind (receiving (welcomed c)).operations =
        held kind (receiving c).operations + if Kind.keepAlive = kind then 1 else 0 := by
      change held kind (((c.operations.map _).map _ ++ [_]) ++ [_]) = _
      rw [held_append, held_append, held_cancel, held_cancel, held_single, held_single, split]
      omega
    left
    refine ⟨.of_connected rfl ?_ ?_ isOpen ?_ ?_, by simp [welcomed]⟩
    · rw [all, timer]
      rfl
    · rw [all, resolve]
      rfl
    · rw [all, receive]
      rfl
    · intro operation member aborted
      rcases List.mem_append.mp member with member | new
      · rcases List.mem_append.mp member with cancelled | new
        · obtain ⟨middle, earlier, rfl⟩ := List.mem_map.mp cancelled
          obtain ⟨old, first, rfl⟩ := List.mem_map.mp earlier
          have whole := intact old (List.mem_append_left _ first)
          rw [cancel_kind, cancel_kind]
          rcases cancel_aborted aborted with already | isTimer
          · rcases cancel_aborted already with before | isTimeout
            · cases whole.symm.trans before
            · exact isTimeout
          · rw [cancel_kind] at isTimer
            have present : 0 < held .keepAlive (receiving c).operations :=
              held_pos (List.mem_append_left _ first) isTimer
            omega
        · rw [List.mem_singleton.mp new] at aborted
          cases aborted
      · rw [List.mem_singleton.mp new] at aborted
        cases aborted
  · cases down.state.symm.trans authenticating

theorem deliver_inbound {type : MessageType} {number : UInt32} {payload : Bytes}
    {callback : Callback} (decoded : deliver native type number payload = some callback) :
    callback.isInbound = true := by
  obtain ⟨notDisconnected, notError⟩ := deliver_other decoded
  simp [Callback.isInbound, notDisconnected, notError]

theorem Processes.lacking {packet : Bytes} (lacking : Lacking c)
    (processes : Processes native policy hanging packet c outcome after) : Lacking after := by
  cases processes with
  | ignored => exact lacking
  | answered _ _ connecting transmits =>
    exact (challenged_lacking lacking connecting).untouched transmits.untouched
  | admitted _ _ _ authenticating reports =>
    exact (welcomed_lacking lacking authenticating).hung (reports.hung rfl)
  | delivered _ decoded _ reports => exact lacking.hung (reports.hung (deliver_inbound decoded))

/-- The callbacks for inbound datagrams do not throw. -/
def Policy.Tame (policy : Policy) : Prop :=
  ∀ hook, hook ≠ .onError → hook ≠ .onDisconnected → policy.throws hook = false

theorem Processes.unbroken {packet : Bytes} {what : String} (tame : policy.Tame)
    (through : Through .receive c (.error what) after) :
    ¬ Processes native policy hanging packet c (.error what) after := by
  intro processes
  cases processes with
  | answered _ _ _ transmits =>
    have behind : Through .receive (challenged c) (.error what) after :=
      through.behind [.stored .authenticating] rfl (by simp [Event.closesOff])
    exact Transmits.unbroken (by decide) behind transmits
  | admitted _ _ _ _ reports =>
    cases reports with
    | threw _ throws => cases (tame .onConnected (by decide) (by decide)).symm.trans throws.2
  | delivered _ decoded _ reports =>
    obtain ⟨notDisconnected, notError⟩ := deliver_other decoded
    cases reports with
    | threw _ throws => cases (tame _ notError notDisconnected).symm.trans throws.2

theorem Receives.tended (tame : policy.Tame)
    (through : Through .receive (dequeued before rest c) outcome after) (tended : Tended c)
    (found : c.operations = before ++ operation :: rest) (isReceive : operation.kind = .receive)
    (queued : operation.completion = some completion)
    (ran : Receives native policy hanging completion.ec completion.bytesTransferred
      (dequeued before rest c) outcome after) : Tended after := by
  have lacking := tended.lacking found isReceive
  have looked (packet : Bytes) : Lacking (inspected packet (dequeued before rest c)) :=
    lacking.untouched ⟨rfl, rfl, rfl, rfl⟩
  cases ran with
  | inert idle =>
    by_cases down : c.state = .disconnected
    · exact ((tended.disconnected down).dequeued found).tended
    · rcases idle with here | aborted
      · exact absurd here down
      · have timeout := (tended.whole down operation (mem_found found)
          (aborted_of_completion queued aborted)).1
        cases isReceive.symm.trans timeout
  | complaintThrew => exact (through.unbroken rfl (complaint_unclosed _ _ _ _)).elim
  | broke _ _ _ _ ended => exact ended.down.1.tended
  | empty => exact lacking.resumed
  | foreign => exact (looked _).resumed
  | processed _ _ _ _ processes =>
    exact (processes.lacking (looked _)).resumed
  | threw _ _ _ _ processes =>
    exact absurd processes (Processes.unbroken tame (through.behind _ rfl (by simp [Event.closesOff])))

end

/-! Handlers belong to the session in which they run. -/

theorem Hung.session {c after : Client} (hung : Hung c after) : after.session = c.session := by
  rcases hung with same | ⟨_, _, session⟩
  · exact same.session
  · exact session

theorem Fails.session {error : ClientError} {message : String} {outcome : Outcome Unit}
    (fails : Fails native policy error message c outcome after) : after.session = c.session := by
  cases fails <;> rfl

theorem Resolves.session {ec : ErrorCode} {endpoints : List Endpoint} {outcome : Outcome Unit}
    (ran : Resolves native policy ec endpoints c outcome after) : after.session = c.session := by
  cases ran with
  | inert => rfl
  | unresolved _ _ _ fails => exact fails.session
  | unopened _ _ _ _ _ _ fails => exact fails.session
  | unbound _ _ _ _ _ _ _ fails => exact fails.session
  | started _ _ _ _ _ transmits => exact transmits.untouched.session

theorem KeepsAlive.session {ec : ErrorCode} {outcome : Outcome Unit}
    (ran : KeepsAlive native policy ec c outcome after) : after.session = c.session := by
  cases ran with
  | inert => rfl
  | threw _ transmits => exact transmits.untouched.session
  | beat _ transmits => exact transmits.untouched.session

theorem Processes.session {packet : Bytes} {outcome : Outcome Unit}
    (processes : Processes native policy hanging packet c outcome after) :
    after.session = c.session := by
  cases processes with
  | ignored => rfl
  | answered _ _ _ transmits => exact transmits.untouched.session
  | admitted _ _ _ _ reports => exact (reports.hung rfl).session
  | delivered _ decoded _ reports => exact (reports.hung (deliver_inbound decoded)).session

theorem resumed_session (c : Client) : (resumed c).session = c.session := by
  unfold resumed
  split <;> rfl

theorem Receives.session {ec : ErrorCode} {bytesTransferred : Nat} {outcome : Outcome Unit}
    (ran : Receives native policy hanging ec bytesTransferred c outcome after) :
    after.session = c.session := by
  cases ran with
  | inert => rfl
  | complaintThrew => rfl
  | broke _ _ _ _ ended => exact ended.down.2
  | empty => exact resumed_session _
  | foreign => exact resumed_session _
  | processed _ _ _ _ processes => exact (resumed_session _).trans processes.session
  | threw _ _ _ _ processes => exact processes.session

theorem Handles.session {kind : Kind} {completion : Completion} {outcome : Outcome Unit}
    (ran : Handles native policy hanging completion c kind outcome after) :
    after.session = c.session := by
  cases ran with
  | connectTimeout ran =>
    cases ran with
    | inert => rfl
    | failed _ _ fails => exact fails.session
  | resolve ran => exact ran.session
  | receive ran => exact ran.session
  | keepAlive ran => exact ran.session

/-- A handler of a session that is as it should be leaves it so. -/
theorem Handles.tended {before rest : List Outstanding} {operation : Outstanding}
    {completion : Completion} {outcome : Outcome Unit} (tame : policy.Tame) (tended : Tended c)
    (through : Through operation.kind (dequeued before rest c) outcome after)
    (found : c.operations = before ++ operation :: rest)
    (queued : operation.completion = some completion)
    (ran : Handles native policy hanging completion (dequeued before rest c) operation.kind outcome
      after) : Tended after := by
  generalize isKind : operation.kind = kind at ran through
  cases ran with
  | connectTimeout ran => exact ran.tended through tended found isKind queued
  | resolve ran => exact ran.tended through tended found isKind
  | receive ran => exact ran.tended tame through tended found isKind queued
  | keepAlive ran => exact ran.tended through tended found isKind queued

/-! ### The first session -/

/-- Until the second session begins the operations are tended, and before the first there are none. -/
structure Managed (c : Client) : Prop where
  tended : c.session ≤ 1 → Tended c
  untried : c.session = 0 → c.state = .disconnected ∧ c.operations = []

theorem Managed.hung (managed : Managed c) (hung : Hung c after) : Managed after := by
  rcases hung with same | ⟨up, down, session⟩
  · refine ⟨fun early => ?_, fun none => ?_⟩
    · rw [same.session] at early
      exact (managed.tended early).untouched same
    · rw [same.session] at none
      rw [same.state, same.operations]
      exact managed.untried none
  · refine ⟨fun _ => down.tended, fun none => ?_⟩
    rw [session] at none
    exact absurd (managed.untried none).1 up

theorem Sends.untouched {outcome : Outcome Unit} (sends : Sends native policy c outcome after) :
    Untouched c after := by
  induction sends with
  | done c => exact .refl c
  | inCall _ _ ih => exact ⟨ih.state, ih.socketOpen, ih.operations, ih.session⟩
  | recount _ ih => exact ⟨ih.state, ih.socketOpen, ih.operations, ih.session⟩
  | passed _ _ transmits _ ih => exact transmits.untouched.trans ih
  | threw _ _ transmits => exact transmits.untouched

/-- The first session starts from a client that was never used. -/
theorem Connects.managed {password : Bytes} {outcome : Outcome ClientError} (managed : Managed c)
    (starts : policy.startupThrows = false) (connects : Connects policy password c outcome after) :
    Managed after := by
  cases connects with
  | rejected => exact managed
  | begun down idle =>
    refine ⟨fun early => ?_, fun none => by cases none⟩
    have first : c.session = 0 := by
      have next : c.session + 1 ≤ 1 := early
      omega
    have shut := ((managed.tended (by omega)).disconnected down).socketOpen
    have none := (managed.untried first).2
    refine .of_connecting rfl ?_ ?_ (.inl ⟨?_, shut, ?_⟩) ?_
    all_goals
      simp [launched, timed, started, accepted, none, held, Outstanding.isAborted]
  | failed _ _ throws => cases throws.symm.trans starts
  | threw _ _ _ throws => cases throws.symm.trans starts

theorem Performs.managed {thread : Thread} {call : PublicCall}
    {outcome : Outcome (Option ClientError)} (managed : Managed c)
    (starts : policy.startupThrows = false)
    (performs : Performs native policy thread c call outcome after) : Managed after := by
  have called : Managed { c with log := c.log ++ [.called call] } :=
    managed.hung (.inl ⟨rfl, rfl, rfl, rfl⟩)
  have ran {result : Outcome (Option ClientError)} {middle : Client}
      (calls : Calls native policy thread { c with log := c.log ++ [.called call] } call result
        middle) : Managed middle := by
    cases calls with
    | connect connects => exact connects.managed called starts
    | disconnect disconnects => exact called.hung disconnects.hung
    | sends _ _ sends => exact called.hung (.inl sends.untouched)
  cases performs with
  | returned calls => exact (ran calls).hung (.inl ⟨rfl, rfl, rfl, rfl⟩)
  | threw calls => exact ran calls

/-- A completion or a datagram decides how an operation ends, not what is outstanding. -/
theorem completed_tended {before rest : List Outstanding} {operation : Outstanding}
    {completion : Completion} (tended : Tended c)
    (found : c.operations = before ++ operation :: rest)
    (real : completion.ec ≠ .operationAborted) :
    Tended (completed before operation rest completion c) := by
  have all (kind : Kind) :
      held kind (completed before operation rest completion c).operations =
        held kind c.operations := by
    change held kind (before ++ _ :: rest) = _
    rw [found, held_split, held_split]
  have intact (other : Outstanding)
      (member : other ∈ (completed before operation rest completion c).operations)
      (aborted : other.isAborted = true) : other ∈ c.operations := by
    rw [found]
    rcases List.mem_append.mp member with early | late
    · exact List.mem_append_left _ early
    · rcases List.mem_cons.mp late with rfl | late
      · simp [Outstanding.isAborted, real] at aborted
      · exact List.mem_append_right _ (List.mem_cons_of_mem _ late)
  refine ⟨fun here => ?_, fun here => ?_, fun here => ?_, fun here => ?_, ?_⟩
  · simp only [all]
    exact tended.connecting here
  · simp only [all]
    exact tended.authenticating here
  · simp only [all]
    exact tended.connected here
  · have down := tended.disconnected here
    refine ⟨here, down.socketOpen, fun other member => ?_⟩
    rcases List.mem_append.mp member with early | late
    · exact down.completed other (by rw [found]; exact List.mem_append_left _ early)
    · rcases List.mem_cons.mp late with rfl | late
      · simp
      · apply down.completed other
        rw [found]
        exact List.mem_append_right _ (List.mem_cons_of_mem _ late)
  · exact fun up other member aborted => tended.whole up other (intact other member aborted) aborted

theorem Moves.managed {label : Label} (hangs : rules.HangsUp) (managed : Managed c)
    (finishes : Finishes ⟨c, label, after⟩) (moves : Moves rules hanging c label after) :
    Managed after := by
  -- Outside the calls an operation is outstanding, so a session has begun.
  have begun {before rest : List Outstanding} {operation : Outstanding}
      (found : c.operations = before ++ operation :: rest) : c.session ≠ 0 := by
    intro none
    have empty := (managed.untried none).2
    rw [found] at empty
    cases (List.append_eq_nil_iff.mp empty).2
  cases moves with
  | call _ performs => exact performs.managed managed hangs.starts
  | connectSync _ performs =>
    have held := performs.managed managed hangs.starts
    unfold entering
    split
    · exact held.hung (.inl ⟨rfl, rfl, rfl, rfl⟩)
    · exact held
  | awaits => exact managed.hung (.inl ⟨rfl, rfl, rfl, rfl⟩)
  | @handles after before rest operation completion outcome found queued idle going ran =>
    have session : after.session = c.session := ran.session
    refine ⟨fun early => ?_, fun none => absurd (session.symm.trans none) (begun found)⟩
    have tended := managed.tended (session.symm.trans_le early)
    have through : Through operation.kind (dequeued before rest c) outcome after := by
      rintro what rfl events extended
      have closes := finishes operation rfl rfl
      rwa [@added_eq ⟨c, .handles operation, resting (.error what) after⟩ events extended] at closes
    exact (ran.tended hangs.throws tended through found queued).untouched ⟨rfl, rfl, rfl, rfl⟩
  | completes found _ real =>
    refine ⟨fun early => completed_tended (managed.tended early) found real, fun none => ?_⟩
    exact absurd none (begun found)
  | @arrives before rest operation sender data found =>
    refine ⟨fun early => ?_, fun none => absurd none (begun found)⟩
    have whole : Tended (completed before operation rest { bytesTransferred := data.length } c) :=
      completed_tended (managed.tended early) found (by simp)
    exact whole.untouched ⟨rfl, rfl, rfl, rfl⟩
  | leaves => exact managed.hung (.inl ⟨rfl, rfl, rfl, rfl⟩)

end

/-- In the first session, as long as no exception leaves a handler before it is through, the operations
and the socket are as the state demands after every step. -/
theorem operations_tended {rules : Rules} (hangs : rules.HangsUp) {dmrId : UInt32}
    {description : Bytes} {hooks : Hook → Bool} {transitions : List (Transition Client Label)}
    {last : Client} (run : rules.Run dmrId description hooks transitions last)
    (every : ∀ transition ∈ transitions, Finishes transition) (first : last.session = 1) :
    Tended last := by
  have managed : Managed last := by
    apply run.invariant Managed Finishes _ _ every
    · have down : Down (fresh dmrId description hooks) :=
        ⟨rfl, rfl, fun operation member => by cases member⟩
      exact ⟨fun _ => down.tended, fun _ => ⟨rfl, rfl⟩⟩
    · exact fun before label after managed finishes step =>
        (step.moves hangs.allows).managed hangs managed finishes
  exact managed.tended (by omega)

/-- Callbacks for inbound datagrams call `Disconnect`, and those that report errors throw. -/
def hangingRules : Rules where
  native := .little
  policy := { startupThrows := false, throws := fun hook => hook = .onError }
  nests := fun callback call => callback.isInbound = true ∧ call = .disconnect

theorem hangingRules_hangsUp : hangingRules.HangsUp where
  nests _ _ nested := nested
  throws hook notError _ := by simp [hangingRules, notError]
  starts := rfl

/-- No datagram can be sent, and every callback throws. -/
def unreachable : Weather := fun _ operation =>
  match operation with
  | .sendTo _ _ => { ec := .failure "Network is unreachable" }
  | .endCallback _ => { failure := some "callback" }
  | _ => {}

/-- A handshake, and a keep-alive that cannot be sent. -/
def unsentScript : List (Weather × Label) :=
  handshakeScript ++ [(fair, .completes ⟨.keepAlive, 1, none⟩ {}),
    (unreachable, .handles ⟨.keepAlive, 1, some {}⟩)]

def finishing (transition : Transition Client Label) : Bool :=
  match transition.label with
  | .handles operation =>
    transition.after.ioThread ≠ .exited || (added transition).any (Event.closesOff operation.kind)
  | _ => true

theorem finishes_of_finishing {transition : Transition Client Label}
    (finishing : finishing transition = true) : Finishes transition := by
  intro operation handles gone
  simp only [Client.finishing, handles, gone, ne_eq, not_true_eq_false, decide_false,
    Bool.false_or, List.any_eq_true] at finishing
  exact finishing

/-- `onError` throws out of a call of the application. -/
theorem operations_tended_connected :
    ∃ transitions c, Effects.Run (Step hangingRules) (fresh 1234567 [] (· = .onError))
        transitions c ∧ c.state = .connected ∧ c.operations.length = 3 ∧ Tended c := by
  obtain ⟨transitions, last, run, checked⟩ := replay_checked hangingRules
    (fresh 1234567 [] (· = .onError)) (handshakeScript ++ [(unreachable, .call 0 (.subscribe 91))])
    (fun transitions last => transitions.all finishing && (last.session = 1 &&
      (last.state = .connected && last.operations.length = 3)))
    (by decide +kernel)
  simp only [Bool.and_eq_true, decide_eq_true_eq, List.all_eq_true] at checked
  obtain ⟨every, session, connected, three⟩ := checked
  exact ⟨transitions, last, run, connected, three,
    operations_tended hangingRules_hangsUp run
      (fun transition member => finishes_of_finishing (every transition member)) session⟩

/-- An `onError` that throws out of the keep-alive handler leaves a connected client without its
timer. -/
theorem timer_lost_after_onError :
    ¬ ∀ (rules : Rules), rules.HangsUp → ∀ c, rules.Reachable c → c.session = 1 → Tended c := by
  intro claim
  obtain ⟨transitions, last, run, checked⟩ := replay_checked hangingRules
    (fresh 1234567 [] (fun hook => hook = .onError)) unsentScript
    (fun _ last => last.state = .connected && held .keepAlive last.operations = 0 &&
      last.session = 1)
    (by decide +kernel)
  simp only [Bool.and_eq_true, decide_eq_true_eq] at checked
  have tended := claim hangingRules hangingRules_hangsUp last
    ⟨_, _, _, transitions, run⟩ checked.2
  have timer := (tended.connected checked.1.1).1
  rw [checked.1.2] at timer
  cases timer

end OpenDTP.Client
