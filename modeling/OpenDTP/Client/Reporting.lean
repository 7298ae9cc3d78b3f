import OpenDTP.Client.Frames
import OpenDTP.Client.Replay

/-! Which steps report the end of a session. Every way to end one goes through `Disconnect`, which
invokes `onDisconnected` once; a CLOSE datagram is not among those ways, and a failed resolution is
one only while the session is still CONNECTING. -/

namespace OpenDTP.Client
open Common Protocol Effects

/-! ### The events that end a session -/

/-- The transition runs the handler of an operation of this kind with this result. -/
def RunsHandler (kind : Kind) (completion : Completion) (transition : Transition Client Label) :
    Prop :=
  ∃ operation, transition.label = .handles operation ∧ operation.kind = kind ∧
    operation.completion = some completion

def CallsDisconnect (transition : Transition Client Label) : Prop :=
  ∃ id, transition.label = .call id .disconnect

def TimesOutHandshake (transition : Transition Client Label) : Prop :=
  ∃ completion, RunsHandler .connectTimeout completion transition ∧
    completion.ec ≠ .operationAborted ∧ transition.before.handshakes

def FailsResolution (transition : Transition Client Label) : Prop :=
  ∃ completion, RunsHandler .resolve completion transition ∧
    (completion.ec ≠ .success ∨ completion.endpoints = [])

def FailsSocket (transition : Transition Client Label) : Prop :=
  ∃ completion, RunsHandler .resolve completion transition ∧
    ∃ ec, ec ≠ .success ∧ (.opened ec ∈ added transition ∨ .bound ec ∈ added transition)

def BreaksReceive (transition : Transition Client Label) : Prop :=
  ∃ completion, RunsHandler .receive completion transition ∧
    completion.ec ≠ .success ∧ completion.ec ≠ .operationAborted

/-- The transition processes a well-formed CLOSE datagram from the server. -/
def DeliversClose (native : Endian) (transition : Transition Client Label) : Prop :=
  ∃ completion, RunsHandler .receive completion transition ∧ completion.ec = .success ∧
    0 < completion.bytesTransferred ∧
    transition.before.senderEndpoint = transition.before.serverEndpoint ∧
    ∃ header payload, wellFormed native
      (transition.before.receiveBuffer.take completion.bytesTransferred) = some (header, payload) ∧
      header.type = .close

def EndsSession (native : Endian) (transition : Transition Client Label) : Prop :=
  CallsDisconnect transition ∨ TimesOutHandshake transition ∨ FailsResolution transition ∨
    FailsSocket transition ∨ BreaksReceive transition ∨ DeliversClose native transition

/-- The session is over and `onDisconnected`, if it is assigned, was invoked once. -/
def Reported (transition : Transition Client Label) : Prop :=
  transition.after.state = .disconnected ∧
    farewells (added transition) = farewell transition.before

/-- The client reacts to the event: it is not a CLOSE datagram, and a resolution that fails is
waited for. -/
def Heeded (native : Endian) (transition : Transition Client Label) : Prop :=
  ¬ DeliversClose native transition ∧
    (FailsResolution transition → transition.before.state = .connecting)

/-! ### What each step adds -/

/-- What happened to the log between two clients, as far as `onDisconnected` is concerned. -/
def Gains (count : Nat) (c after : Client) : Prop :=
  ∃ events, after.log = c.log ++ events ∧ farewells events = count

theorem Kept.gains {count : Nat} {c after : Client} (kept : Kept count c after) :
    Gains count c after := by
  obtain ⟨events, extended, _, counted⟩ := kept.log
  exact ⟨events, extended, counted⟩

theorem Gains.trans {one two : Nat} {first second third : Client} (early : Gains one first second)
    (late : Gains two second third) : Gains (one + two) first third := by
  obtain ⟨events, extended, counted⟩ := early
  obtain ⟨others, extendedMore, countedMore⟩ := late
  refine ⟨events ++ others, ?_, ?_⟩
  · rw [extendedMore, extended, List.append_assoc]
  · rw [farewells_append, counted, countedMore]

theorem Gains.recorded (c : Client) (event : Event) (other : event.isFarewell = false) :
    Gains 0 c { c with log := c.log ++ [event] } :=
  ⟨[event], rfl, by simp [farewells, other]⟩

theorem Gains.added {count : Nat} {transition : Transition Client Label}
    (gains : Gains count transition.before transition.after) :
    farewells (added transition) = count := by
  obtain ⟨events, extended, counted⟩ := gains
  rw [added_eq extended, counted]

section

variable {rules : Rules} {native : Endian} {policy : Policy} {c after : Client}

/-- The end of a session, whoever asked for it. -/
theorem Ended.finished {outcome : Outcome Unit} (ended : Ended native policy c outcome after) :
    after.state = .disconnected ∧ Gains (farewell c) c after :=
  ⟨by cases ended <;> rfl, ended.kept.gains⟩

theorem Joins.same {thread : Thread} (joins : Joins thread c after) :
    after.state = c.state ∧ Gains 0 c after := by
  cases joins <;> exact ⟨rfl, [], by simp, rfl⟩

theorem Disconnects.finished {thread : Thread} {outcome : Outcome Unit} (up : c.state ≠ .disconnected)
    (disconnects : Disconnects native policy thread c outcome after) :
    after.state = .disconnected ∧ Gains (farewell c) c after := by
  cases disconnects with
  | idle down => exact absurd down up
  | ended _ ended joins => exact ⟨joins.same.1.trans ended.finished.1, ended.finished.2.trans joins.same.2⟩
  | threw _ _ ended => exact ended.finished

theorem Disconnects.idle_same {thread : Thread} {outcome : Outcome Unit}
    (down : c.state = .disconnected)
    (disconnects : Disconnects native policy thread c outcome after) : Gains 0 c after := by
  cases disconnects with
  | idle _ joins => exact joins.same.2
  | ended up => exact absurd down up
  | threw _ up => exact absurd down up

/-- A handler that fails its session reports the end, unless its own complaint throws. -/
theorem Fails.finished {error : ClientError} {message : String} {outcome : Outcome Unit}
    (calm : policy.throws .onError = false)
    (fails : Fails native policy error message c outcome after) :
    after.state = .disconnected ∧ Gains (farewell c) c after := by
  have complaint := complained_kept error message c
  cases fails with
  | threw what throws =>
    have throws := throws.2
    rw [calm] at throws
    cases throws
  | ended ec =>
    have torn : Kept (farewell c) c (tornDown native ec (complained error message c)) :=
      complaint.before (tornDown_kept ec (complained error message c))
    exact ⟨rfl, (torn.trans (notified_kept _)).gains⟩
  | leftEarly ec => exact ⟨rfl, (complaint.before (tornDown_kept ec _)).gains⟩

theorem Connects.gains {password : Bytes} {outcome : Outcome ClientError}
    (connects : Connects policy password c outcome after) : Gains 0 c after := by
  have begun (c : Client) : Gains 0 c (accepted password c) := Gains.recorded c _ rfl
  have running (c : Client) : Gains 0 c (started c) :=
    (Gains.recorded c .started rfl).trans
      (Gains.recorded _ (.stored .connecting) rfl)
  have stalled {middle : Client} (stalls : Stalls (accepted password c) middle) :
      Gains 0 c middle := by
    cases stalls with
    | noThread => exact begun c
    | noTimer => exact (begun c).trans (running _)
    | noResolve => exact (begun c).trans (running _)
  have leaving (what : String) (middle : Client) : Gains 0 middle (abandoned what middle) :=
    (Gains.recorded middle (.stored .disconnected) rfl).trans
      (announced_kept (by simp [Callback.hook]) _).gains
  cases connects with
  | rejected => exact ⟨[], by simp, rfl⟩
  | begun => exact (begun c).trans (running _)
  | failed what _ _ stalls => exact (stalled stalls).trans (leaving what _)
  | threw what _ _ _ stalls => exact (stalled stalls).trans (leaving what _)

theorem Performs.gains_calls {thread : Thread} {call : PublicCall}
    {outcome : Outcome (Option ClientError)}
    (performs : Performs native policy thread c call outcome after) :
    ∃ result middle, Calls native policy thread { c with log := c.log ++ [.called call] } call
      result middle ∧ after.state = middle.state ∧
      ∀ count, Gains count { c with log := c.log ++ [.called call] } middle → Gains count c after := by
  have begun := Gains.recorded c (.called call) rfl
  cases performs with
  | @returned result middle calls =>
    refine ⟨_, middle, calls, rfl, fun count gains => ?_⟩
    have all := (begun.trans gains).trans
      (Gains.recorded middle (.returned call result) rfl)
    simpa using all
  | threw calls =>
    refine ⟨_, _, calls, rfl, fun count gains => ?_⟩
    simpa using begun.trans gains

theorem Performs.connect_gains {thread : Thread} {host : String} {port : UInt16} {password : Bytes}
    {timeoutMs : UInt32} {outcome : Outcome (Option ClientError)}
    (performs : Performs native policy thread c (.connect host port password timeoutMs) outcome after) :
    Gains 0 c after := by
  obtain ⟨_, _, calls, _, gains⟩ := performs.gains_calls
  cases calls with
  | connect connects => exact gains 0 connects.gains
  | sends notConnect => exact absurd rfl (notConnect _ _ _ _)

/-- A step that ends the session it finds, and reports it. -/
def Concludes (native : Endian) (transition : Transition Client Label) : Prop :=
  transition.before.state ≠ .disconnected ∧ Reported transition ∧
    EndsSession native transition ∧ Heeded native transition

/-- A step that reports nothing, since nothing happened that ends a session or nothing came of it. -/
def Passes (native : Endian) (transition : Transition Client Label) : Prop :=
  farewells (added transition) = 0 ∧
    (transition.before.state ≠ .disconnected → EndsSession native transition →
      ¬ Heeded native transition ∧ transition.after.state ≠ .disconnected)

theorem runsHandler_iff {operation : Outstanding} {completion other : Completion} {kind : Kind}
    (queued : operation.completion = some completion) :
    RunsHandler kind other ⟨c, .handles operation, after⟩ ↔
      operation.kind = kind ∧ other = completion := by
  simp only [RunsHandler, Label.handles.injEq]
  constructor
  · rintro ⟨same, rfl, isKind, found⟩
    rw [queued] at found
    exact ⟨isKind, (Option.some.inj found).symm⟩
  · rintro ⟨isKind, rfl⟩
    exact ⟨operation, rfl, isKind, queued⟩

/-- Only `Disconnect` among the public calls ends a session. -/
theorem ends_call {id : Nat} {call : PublicCall}
    (ends : EndsSession native ⟨c, .call id call, after⟩) : call = .disconnect := by
  rcases ends with ⟨other, same⟩ | ⟨_, ⟨_, same, _⟩, _⟩ | ⟨_, ⟨_, same, _⟩, _⟩ | ⟨_, ⟨_, same, _⟩, _⟩ |
    ⟨_, ⟨_, same, _⟩, _⟩ | ⟨_, ⟨_, same, _⟩, _⟩
  · cases same
    rfl
  all_goals cases same

theorem ends_handles {label : Label} (ends : EndsSession native ⟨c, label, after⟩) :
    (∃ id, label = .call id .disconnect) ∨ ∃ operation, label = .handles operation := by
  rcases ends with called | ⟨_, ⟨operation, same, _⟩, _⟩ | ⟨_, ⟨operation, same, _⟩, _⟩ |
    ⟨_, ⟨operation, same, _⟩, _⟩ | ⟨_, ⟨operation, same, _⟩, _⟩ | ⟨_, ⟨operation, same, _⟩, _⟩
  · exact .inl called
  all_goals exact .inr ⟨operation, same⟩

theorem passes_of_no_event {label : Label} (gains : Gains 0 c after)
    (none : ¬ EndsSession native ⟨c, label, after⟩) : Passes native ⟨c, label, after⟩ :=
  ⟨gains.added, fun _ ends => absurd ends none⟩

theorem Performs.reported {id : Nat} {call : PublicCall} {outcome : Outcome (Option ClientError)}
    (performs : Performs native policy (.app id) c call outcome after) :
    Concludes native ⟨c, .call id call, after⟩ ∨ Passes native ⟨c, .call id call, after⟩ := by
  obtain ⟨result, middle, calls, same, gains⟩ := performs.gains_calls
  cases calls with
  | connect connects =>
    right
    apply passes_of_no_event (gains 0 connects.gains)
    intro ends
    cases ends_call ends
  | disconnect disconnects =>
    by_cases down : c.state = .disconnected
    · exact .inr ⟨(gains 0 (disconnects.idle_same down)).added, fun up => absurd down up⟩
    · left
      obtain ⟨finished, counted⟩ := Disconnects.finished
        (c := { c with log := c.log ++ [.called .disconnect] }) down disconnects
      refine ⟨down, ⟨same.trans finished, (gains _ counted).added⟩, .inl ⟨id, rfl⟩, ?_, ?_⟩
      · rintro ⟨_, ⟨_, other, _⟩, _⟩
        cases other
      · rintro ⟨_, ⟨_, other, _⟩, _⟩
        cases other
  | sends _ notDisconnect sends =>
    right
    apply passes_of_no_event (gains 0 sends.kept.gains)
    exact fun ends => notDisconnect (ends_call ends)

/-- The background thread's state does not show in what a handler's transition reports. -/
theorem gains_handler {before rest : List Outstanding} {outcome : Outcome Unit} {count : Nat}
    (gains : Gains count (dequeued before rest c) after) : Gains count c (resting outcome after) :=
  gains

section

variable {before rest : List Outstanding} {operation : Outstanding} {completion : Completion}
  {outcome : Outcome Unit}

theorem TimesOut.reported (calm : policy.throws .onError = false)
    (queued : operation.completion = some completion) (isTimeout : operation.kind = .connectTimeout)
    (ran : TimesOut native policy completion.ec (dequeued before rest c) outcome after) :
    Concludes native ⟨c, .handles operation, resting outcome after⟩ ∨
      Passes native ⟨c, .handles operation, resting outcome after⟩ := by
  cases ran with
  | inert idle =>
    right
    apply passes_of_no_event ⟨[], by simp [resting, dequeued], rfl⟩
    simp only [EndsSession, CallsDisconnect, TimesOutHandshake, FailsResolution, FailsSocket,
      BreaksReceive, DeliversClose, runsHandler_iff queued, isTimeout]
    rintro (⟨_, other⟩ | ⟨_, ⟨_, rfl⟩, fired, handshakes⟩ | ⟨_, ⟨other, _⟩, _⟩ | ⟨_, ⟨other, _⟩, _⟩ |
      ⟨_, ⟨other, _⟩, _⟩ | ⟨_, ⟨other, _⟩, _⟩)
    · cases other
    · rcases idle with aborted | settled
      · exact fired aborted
      · exact settled handshakes
    all_goals cases other
  | failed fired handshakes fails =>
    left
    obtain ⟨finished, counted⟩ := fails.finished calm
    have up : c.state ≠ .disconnected := by
      rcases handshakes with here | here <;> (intro down; cases here.symm.trans down)
    refine ⟨up, ⟨finished, (gains_handler counted).added⟩, .inr (.inl ⟨completion, ?_, fired, handshakes⟩),
      ?_, ?_⟩
    · exact (runsHandler_iff queued).mpr ⟨isTimeout, rfl⟩
    · rintro ⟨_, other, _⟩
      cases isTimeout.symm.trans ((runsHandler_iff queued).mp other).1
    · rintro ⟨_, other, _⟩
      cases isTimeout.symm.trans ((runsHandler_iff queued).mp other).1

theorem KeepsAlive.reported (queued : operation.completion = some completion)
    (isKeepAlive : operation.kind = .keepAlive)
    (ran : KeepsAlive native policy completion.ec (dequeued before rest c) outcome after) :
    Passes native ⟨c, .handles operation, resting outcome after⟩ := by
  apply passes_of_no_event (gains_handler ran.kept.gains)
  simp only [EndsSession, CallsDisconnect, TimesOutHandshake, FailsResolution, FailsSocket,
    BreaksReceive, DeliversClose, runsHandler_iff queued, isKeepAlive]
  rintro (⟨_, other⟩ | ⟨_, ⟨other, _⟩, _⟩ | ⟨_, ⟨other, _⟩, _⟩ | ⟨_, ⟨other, _⟩, _⟩ |
    ⟨_, ⟨other, _⟩, _⟩ | ⟨_, ⟨other, _⟩, _⟩) <;> cases other

/-- The events of a resolver handler: one that fails has a failed resolution or a failed socket. -/
theorem ends_resolve (queued : operation.completion = some completion)
    (isResolve : operation.kind = .resolve)
    (ends : EndsSession native ⟨c, .handles operation, after⟩) :
    (completion.ec ≠ .success ∨ completion.endpoints = []) ∨
      ∃ ec, ec ≠ .success ∧ (.opened ec ∈ added ⟨c, .handles operation, after⟩ ∨
        .bound ec ∈ added ⟨c, .handles operation, after⟩) := by
  simp only [EndsSession, CallsDisconnect, TimesOutHandshake, FailsResolution, FailsSocket,
    BreaksReceive, DeliversClose, runsHandler_iff queued, isResolve] at ends
  rcases ends with ⟨_, other⟩ | ⟨_, ⟨other, _⟩, _⟩ | ⟨_, ⟨_, rfl⟩, failed⟩ | ⟨_, ⟨_, rfl⟩, failed⟩ |
    ⟨_, ⟨other, _⟩, _⟩ | ⟨_, ⟨other, _⟩, _⟩
  · cases other
  · cases other
  · exact .inl failed
  · exact .inr failed
  · cases other
  · cases other

theorem heeded_resolve (queued : operation.completion = some completion)
    (isResolve : operation.kind = .resolve) (connecting : c.state = .connecting) :
    Heeded native ⟨c, .handles operation, after⟩ := by
  refine ⟨?_, fun _ => connecting⟩
  rintro ⟨_, other, _⟩
  cases isResolve.symm.trans ((runsHandler_iff queued).mp other).1

/-- Sending the first keep-alive opens and binds nothing more. -/
theorem transmitted_sockets {type : MessageType} {flag : UInt16} {payload : Bytes}
    (transmits : Transmits native policy type flag payload c outcome after) :
    ∃ events, after.log = c.log ++ events ∧ ∀ ec, .opened ec ∉ events ∧ .bound ec ∉ events := by
  have apart (ec : ErrorCode) : ∃ events, (transmitted native type flag payload ec c).log =
      c.log ++ events ∧ ∀ ec, .opened ec ∉ events ∧ .bound ec ∉ events := by
    refine ⟨_, rfl, fun other => ?_⟩
    by_cases isOpen : c.socketOpen = true <;> by_cases good : ec = .success <;>
      by_cases assigned : c.hooks .onError = true <;>
        simp [sending, announcement, Callback.hook, isOpen, good, assigned]
  cases transmits with
  | done ec => exact apart ec
  | threw ec => exact apart ec

theorem Resolves.reported (calm : policy.throws .onError = false)
    (queued : operation.completion = some completion) (isResolve : operation.kind = .resolve)
    (ran : Resolves native policy completion.ec completion.endpoints (dequeued before rest c)
      outcome after) :
    Concludes native ⟨c, .handles operation, resting outcome after⟩ ∨
      Passes native ⟨c, .handles operation, resting outcome after⟩ := by
  have runs (after : Client) :
      RunsHandler .resolve completion ⟨c, .handles operation, after⟩ :=
    (runsHandler_iff queued).mpr ⟨isResolve, rfl⟩
  have up (connecting : c.state = .connecting) : c.state ≠ .disconnected := by simp [connecting]
  cases ran with
  | inert other =>
    right
    have still : added ⟨c, .handles operation, resting (.ok ()) (dequeued before rest c)⟩ = [] :=
      added_eq (by simp [resting, dequeued])
    refine ⟨by rw [still]; rfl, fun up ends => ⟨?_, up⟩⟩
    intro heeded
    rcases ends_resolve queued isResolve ends with failed | ⟨ec, _, called⟩
    · exact other (heeded.2 ⟨completion, runs _, failed⟩)
    · rw [still] at called
      simp at called
  | unresolved _ connecting failed fails =>
    left
    obtain ⟨finished, counted⟩ := fails.finished calm
    exact ⟨up connecting, ⟨finished, (gains_handler counted).added⟩,
      .inr (.inr (.inl ⟨completion, runs _, failed⟩)), heeded_resolve queued isResolve connecting⟩
  | unopened endpoint openEc _ connecting _ failed fails =>
    left
    obtain ⟨finished, counted⟩ := fails.finished calm
    obtain ⟨events, extended, _⟩ := counted
    have all : added ⟨c, .handles operation, resting outcome after⟩ = .opened openEc :: events :=
      added_eq (by simpa [targeted, dequeued, resting] using extended)
    refine ⟨up connecting, ⟨finished, ?_⟩, .inr (.inr (.inr (.inl ⟨completion, runs _, openEc, failed,
      .inl (by rw [all]; simp)⟩))), heeded_resolve queued isResolve connecting⟩
    have gains := (targeted_kept endpoint openEc (dequeued before rest c)).gains.trans
      (fails.finished calm).2
    rw [Nat.zero_add] at gains
    exact (gains_handler gains).added
  | unbound endpoint bindEc _ connecting _ _ failed fails =>
    left
    obtain ⟨finished, counted⟩ := fails.finished calm
    obtain ⟨events, extended, _⟩ := counted
    have all : added ⟨c, .handles operation, resting outcome after⟩ =
        .opened .success :: .bound bindEc :: events :=
      added_eq (by simpa [opened, dequeued, resting] using extended)
    refine ⟨up connecting, ⟨finished, ?_⟩, .inr (.inr (.inr (.inl ⟨completion, runs _, bindEc, failed,
      .inr (by rw [all]; simp)⟩))), heeded_resolve queued isResolve connecting⟩
    have gains := (opened_kept endpoint bindEc (dequeued before rest c)).gains.trans
      (fails.finished calm).2
    rw [Nat.zero_add] at gains
    exact (gains_handler gains).added
  | started endpoint connecting resolved found _ transmits =>
    right
    have gains := ((opened_kept endpoint .success (dequeued before rest c)).gains.trans
      (receiving_kept _).gains).trans transmits.kept.gains
    apply passes_of_no_event (gains_handler gains)
    intro ends
    obtain ⟨events, extended, apart⟩ := transmitted_sockets transmits
    have all : added ⟨c, .handles operation, resting outcome after⟩ =
        .opened .success :: .bound .success :: events :=
      added_eq (by simpa [opened, receiving, dequeued, resting] using extended)
    rcases ends_resolve queued isResolve ends with failed | ⟨ec, bad, called⟩
    · rcases failed with failed | none
      · exact failed resolved
      · exact found none
    · rw [all] at called
      simp [bad, (apart ec).1, (apart ec).2] at called

theorem ends_receive (queued : operation.completion = some completion)
    (isReceive : operation.kind = .receive)
    (ends : EndsSession native ⟨c, .handles operation, after⟩) :
    (completion.ec ≠ .success ∧ completion.ec ≠ .operationAborted) ∨
      DeliversClose native ⟨c, .handles operation, after⟩ := by
  rcases ends with ⟨_, other⟩ | ⟨_, other, _⟩ | ⟨_, other, _⟩ | ⟨_, other, _⟩ | ⟨_, other, failed⟩ |
    close
  · cases other
  · cases isReceive.symm.trans ((runsHandler_iff queued).mp other).1
  · cases isReceive.symm.trans ((runsHandler_iff queued).mp other).1
  · cases isReceive.symm.trans ((runsHandler_iff queued).mp other).1
  · obtain ⟨_, rfl⟩ := (runsHandler_iff queued).mp other
    exact .inl failed
  · exact .inr close

/-- Processing a datagram never leads to DISCONNECTED. -/
theorem Processes.up {packet : Bytes} (up : c.state ≠ .disconnected)
    (processes : Processes native policy quiet packet c outcome after) :
    after.state ≠ .disconnected := by
  have told {callback : Callback} {middle : Client} (there : middle.state ≠ .disconnected)
      (reports : Reports policy quiet callback middle outcome after) :
      after.state ≠ .disconnected := by
    cases reports with
    | unset => exact there
    | done _ ran =>
      cases ran
      exact there
    | threw _ _ ran =>
      cases ran
      exact there
  cases processes with
  | ignored => exact up
  | answered _ _ _ transmits =>
    cases transmits <;> simp [transmitted, challenged]
  | admitted _ _ _ _ reports => exact told (by simp [welcomed]) reports
  | delivered _ _ _ reports => exact told up reports

theorem resumed_state (c : Client) : (resumed c).state = c.state := by
  unfold resumed
  split <;> rfl

theorem Receives.reported (calm : policy.throws .onError = false)
    (queued : operation.completion = some completion) (isReceive : operation.kind = .receive)
    (ran : Receives native policy quiet completion.ec completion.bytesTransferred
      (dequeued before rest c) outcome after) :
    Concludes native ⟨c, .handles operation, resting outcome after⟩ ∨
      Passes native ⟨c, .handles operation, resting outcome after⟩ := by
  have runs : RunsHandler .receive completion ⟨c, .handles operation, resting outcome after⟩ :=
    (runsHandler_iff queued).mpr ⟨isReceive, rfl⟩
  -- Every outcome but a broken socket leaves the session up; then only CLOSE was an event.
  have passing (gains : Gains 0 (dequeued before rest c) after)
      (fine : completion.ec = .success ∨ completion.ec = .operationAborted)
      (still : c.state ≠ .disconnected → after.state ≠ .disconnected) :
      Passes native ⟨c, .handles operation, resting outcome after⟩ := by
    refine ⟨(gains_handler gains).added, fun up ends => ⟨fun heeded => ?_, still up⟩⟩
    rcases ends_receive queued isReceive ends with ⟨failed, real⟩ | close
    · rcases fine with good | aborted
      · exact failed good
      · exact real aborted
    · exact heeded.1 close
  cases ran with
  | inert idle =>
    right
    rcases idle with down | aborted
    · have gains : Gains 0 (dequeued before rest c) (dequeued before rest c) := ⟨[], by simp, rfl⟩
      exact ⟨(gains_handler gains).added, fun up => absurd down up⟩
    · exact passing ⟨[], by simp, rfl⟩ (.inr aborted) (fun up => up)
  | complaintThrew _ _ _ _ _ throws =>
    have throws := throws.2
    rw [calm] at throws
    cases throws
  | broke message up failed real ended =>
    left
    have gains := (complained_kept .socketIo message (dequeued before rest c)).gains.trans ended.finished.2
    rw [Nat.zero_add] at gains
    refine ⟨up, ⟨ended.finished.1, (gains_handler gains).added⟩,
      .inr (.inr (.inr (.inr (.inl ⟨completion, runs, failed, real⟩)))), ?_, ?_⟩
    · rintro ⟨_, other, good, _⟩
      obtain ⟨_, rfl⟩ := (runsHandler_iff queued).mp other
      exact failed good
    · rintro ⟨_, other, _⟩
      cases isReceive.symm.trans ((runsHandler_iff queued).mp other).1
  | empty up arrived =>
    right
    exact passing (resumed_kept _).gains (.inl arrived) (fun up => by rwa [resumed_state])
  | foreign up arrived =>
    right
    exact passing ((inspected_kept _ _).trans (resumed_kept _)).gains (.inl arrived)
      (fun up => by rwa [resumed_state])
  | processed up arrived _ _ processes =>
    right
    exact passing (((inspected_kept _ _).trans processes.kept).trans (resumed_kept _)).gains
      (.inl arrived) (fun up => by
        rw [resumed_state]
        exact Processes.up (c := inspected _ (dequeued before rest c)) up processes)
  | threw up arrived _ _ processes =>
    right
    exact passing ((inspected_kept _ _).trans processes.kept).gains (.inl arrived)
      (fun up => Processes.up (c := inspected _ (dequeued before rest c)) up processes)

end

theorem Moves.reported {label : Label} (calm : rules.policy.throws .onError = false)
    (moves : Moves rules quiet c label after) :
    Concludes rules.native ⟨c, label, after⟩ ∨ Passes rules.native ⟨c, label, after⟩ := by
  have silent (gains : Gains 0 c after) (noCall : ∀ id, label ≠ .call id .disconnect)
      (noHandler : ∀ operation, label ≠ .handles operation) :
      Passes rules.native ⟨c, label, after⟩ := by
    apply passes_of_no_event gains
    intro ends
    rcases ends_handles ends with ⟨id, same⟩ | ⟨operation, same⟩
    · exact noCall id same
    · exact noHandler operation same
  cases moves with
  | call _ performs => exact performs.reported
  | connectSync _ performs =>
    right
    refine silent ?_ (by simp) (by simp)
    have held := performs.connect_gains
    unfold entering
    split <;> exact held
  | awaits => exact .inr (silent ⟨[], by simp [awaited], rfl⟩ (by simp) (by simp))
  | handles found queued idle going ran =>
    generalize isKind : Outstanding.kind _ = kind at ran
    cases ran with
    | connectTimeout ran => exact ran.reported calm queued isKind
    | resolve ran => exact ran.reported calm queued isKind
    | receive ran => exact ran.reported calm queued isKind
    | keepAlive ran => exact .inr (ran.reported queued isKind)
  | completes => exact .inr (silent ⟨[], by simp [completed], rfl⟩ (by simp) (by simp))
  | arrives => exact .inr (silent ⟨[], by simp [completed, filled], rfl⟩ (by simp) (by simp))
  | leaves => exact .inr (silent ⟨[], by simp, rfl⟩ (by simp) (by simp))

end

/-- In every run without calls from callbacks and without a throwing `onError`, a session-ending
event is reported exactly if it is heeded, and `onDisconnected` is invoked at no other time. -/
theorem session_end_reported_iff_heeded {rules : Rules} (plain : rules.Plain)
    (calm : rules.policy.throws .onError = false) {dmrId : UInt32} {description : Bytes}
    {hooks : Hook → Bool} {transitions : List (Transition Client Label)} {last : Client}
    (run : rules.Run dmrId description hooks transitions last) :
    ∀ transition ∈ transitions,
      (transition.before.state ≠ .disconnected → EndsSession rules.native transition →
        (Reported transition ↔ Heeded rules.native transition)) ∧
      (farewells (added transition) ≠ 0 →
        transition.before.state ≠ .disconnected ∧ EndsSession rules.native transition) := by
  intro transition member
  have moves := (run.taken transition member).plain plain
  rcases moves.reported calm with ⟨up, reported, ends, heeded⟩ | ⟨silent, ignored⟩
  · exact ⟨fun _ _ => ⟨fun _ => heeded, fun _ => reported⟩, fun _ => ⟨up, ends⟩⟩
  · refine ⟨fun up ends => ?_, fun invoked => absurd silent invoked⟩
    obtain ⟨unheeded, still⟩ := ignored up ends
    exact ⟨fun reported => absurd reported.1 still, fun heeded => absurd heeded unheeded⟩

theorem session_end_reported_at_timeout :
    ∃ transitions last, Effects.Run (Step sampleRules) sampleClient transitions last ∧
      transitions.length = 3 ∧ last.state = .disconnected ∧
      ∀ transition ∈ transitions,
        (transition.before.state ≠ .disconnected → EndsSession .little transition →
          (Reported transition ↔ Heeded .little transition)) ∧
        (farewells (added transition) ≠ 0 →
          transition.before.state ≠ .disconnected ∧ EndsSession .little transition) := by
  obtain ⟨transitions, last, run, ended⟩ := replay_checked sampleRules sampleClient timeoutScript
    (fun transitions last => transitions.length = 3 && last.state = .disconnected) (by decide)
  simp only [Bool.and_eq_true, decide_eq_true_eq] at ended
  exact ⟨transitions, last, run, ended.1, ended.2,
    session_end_reported_iff_heeded sampleRules_plain rfl run⟩

def closePacket : Bytes := packetOf .little .close MessageFlag.none 0 []

/-- The server closes the session while the client is connecting. -/
def closeScript : List (Weather × Label) :=
  [(fair, .call 0 (.connect "master" 54006 [] 1000)),
    (fair, .completes ⟨.resolve, 1, none⟩ { endpoints := [sampleServer] }),
    (fair, .handles ⟨.resolve, 1, some { endpoints := [sampleServer] }⟩),
    (fair, .arrives ⟨.receive, 1, none⟩ sampleServer closePacket),
    (fair, .handles ⟨.receive, 1, some { bytesTransferred := 18 }⟩)]

/-- A CLOSE datagram from the server neither ends the session nor is it reported. -/
theorem close_not_reported :
    ¬ ∀ (rules : Rules), rules.Plain → rules.policy.throws .onError = false →
      ∀ (dmrId : UInt32) (description : Bytes) (hooks : Hook → Bool)
        (transitions : List (Transition Client Label)) (last : Client),
        rules.Run dmrId description hooks transitions last → ∀ transition ∈ transitions,
          transition.before.state ≠ .disconnected → EndsSession rules.native transition →
            Reported transition := by
  intro claim
  obtain ⟨transitions, last, run, checked⟩ := replay_checked sampleRules sampleClient closeScript
    (fun transitions _ => transitions.any fun transition =>
      transition.label = .handles ⟨.receive, 1, some { bytesTransferred := 18 }⟩ &&
        (transition.before.senderEndpoint = transition.before.serverEndpoint &&
          ((wellFormed .little (transition.before.receiveBuffer.take 18)).any
              (fun parsed => parsed.1.type = .close) &&
            (transition.before.state ≠ .disconnected && transition.after.state ≠ .disconnected))))
    (by decide)
  obtain ⟨transition, member, checked⟩ := List.any_eq_true.mp checked
  simp only [Bool.and_eq_true, decide_eq_true_eq, Option.any_eq_true] at checked
  obtain ⟨isHandler, own, ⟨⟨header, payload⟩, parsed, isClose⟩, up, still⟩ := checked
  have ends : EndsSession sampleRules.native transition :=
    .inr (.inr (.inr (.inr (.inr ⟨{ bytesTransferred := 18 }, ⟨_, isHandler, rfl, rfl⟩, rfl, by simp,
      own, header, payload, parsed, isClose⟩))))
  exact still (claim sampleRules sampleRules_plain rfl _ _ _ transitions last run transition member
    up ends).1

end OpenDTP.Client
