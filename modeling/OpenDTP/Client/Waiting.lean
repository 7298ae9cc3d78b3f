import OpenDTP.Client.Reporting

/-! When a `ConnectSync` that is blocked gets its signal. The handshake, the timeout handler and the
resolver handler notify after they move `state_`; an application's `Disconnect` and the handler of
a receive error do not. -/

namespace OpenDTP.Client
open Common Protocol Effects

/-- Follows whether `state_` was moved to CONNECTED or DISCONNECTED with no `notify_all` since. -/
def unsignalledStep (unsignalled : Bool) : Event → Bool
  | .stored .connected | .stored .disconnected => true
  | .notified => false
  | _ => unsignalled

def unsignalled (events : List Event) : Bool := events.foldl unsignalledStep false

/-- Events that neither end the wait nor notify. -/
def Event.isSteady : Event → Bool
  | .stored .connected | .stored .disconnected | .notified => false
  | _ => true

theorem unsignalled_steady {events : List Event} (steady : ∀ event ∈ events, event.isSteady = true)
    (flag : Bool) : events.foldl unsignalledStep flag = flag := by
  induction events with
  | nil => rfl
  | cons event events ih =>
    have first := steady event (by simp)
    have same : unsignalledStep flag event = flag := by
      cases event with
      | stored state => cases state <;> first | rfl | cases first
      | notified => cases first
      | _ => rfl
    rw [List.foldl_cons, same]
    exact ih (fun other member => steady other (List.mem_cons_of_mem _ member))

/-! ### Steps that leave the waiters as they are -/

structure Steady (c after : Client) : Prop where
  state : after.state = c.state
  waits : after.waits = c.waits
  log : ∃ events, after.log = c.log ++ events ∧ ∀ event ∈ events, event.isSteady = true

namespace Steady

theorem refl (c : Client) : Steady c c := ⟨rfl, rfl, [], by simp, by simp⟩

theorem trans {first second third : Client} (early : Steady first second)
    (late : Steady second third) : Steady first third := by
  obtain ⟨events, extended, steady⟩ := early.log
  obtain ⟨others, extendedMore, steadyMore⟩ := late.log
  refine ⟨late.state.trans early.state, late.waits.trans early.waits, events ++ others, ?_, ?_⟩
  · rw [extendedMore, extended, List.append_assoc]
  · intro event member
    rcases List.mem_append.mp member with here | there
    · exact steady event here
    · exact steadyMore event there

theorem recorded {c : Client} (event : Event) (steady : event.isSteady = true) :
    Steady c { c with log := c.log ++ [event] } := by
  refine ⟨rfl, rfl, [event], rfl, fun other member => ?_⟩
  rw [List.mem_singleton.mp member]
  exact steady

end Steady

/-- After a step that starts in a handshake the waiters that are still blocked are right to be,
and every move of `state_` that ends their wait was followed by a notification. -/
structure Heard (c after : Client) : Prop where
  waits : after.handshakes ∨ ∀ id, after.waits id ≠ .blocked
  log : ∃ events, after.log = c.log ++ events ∧ unsignalled events = false

namespace Heard

theorem of_steady {c after : Client} (handshakes : c.handshakes) (steady : Steady c after) :
    Heard c after := by
  obtain ⟨events, extended, steadily⟩ := steady.log
  refine ⟨.inl ?_, events, extended, unsignalled_steady steadily false⟩
  unfold Client.handshakes
  rw [steady.state]
  exact handshakes

theorem after {first second third : Client} (early : Steady first second)
    (late : Heard second third) : Heard first third := by
  obtain ⟨events, extended, steady⟩ := early.log
  obtain ⟨others, extendedMore, heard⟩ := late.log
  refine ⟨late.waits, events ++ others, ?_, ?_⟩
  · rw [extendedMore, extended, List.append_assoc]
  · rw [unsignalled, List.foldl_append, unsignalled_steady steady]
    exact heard

theorem before {first second third : Client} (early : Heard first second)
    (late : Steady second third) : Heard first third := by
  obtain ⟨events, extended, heard⟩ := early.log
  obtain ⟨others, extendedMore, steady⟩ := late.log
  refine ⟨?_, events ++ others, ?_, ?_⟩
  · unfold Client.handshakes
    rw [late.state, late.waits]
    exact early.waits
  · rw [extendedMore, extended, List.append_assoc]
  · rw [unsignalled, List.foldl_append, unsignalled_steady steady]
    exact heard

end Heard

theorem notify_unblocks (wait : Wait) : wait.notify ≠ .blocked := by
  cases wait <;> simp [Wait.notify]

theorem notified_heard {c middle : Client} {count : Nat} (kept : Kept count c middle) :
    Heard c (notified middle) := by
  obtain ⟨events, extended, _⟩ := kept.log
  refine ⟨.inr fun id => notify_unblocks _, events ++ [.notified], ?_, ?_⟩
  · rw [← List.append_assoc, ← extended]
    rfl
  · rw [unsignalled, List.foldl_append]
    rfl

section

variable {native : Endian} {policy : Policy} {c after : Client} {outcome : Outcome Unit}

theorem announcement_steady (callback : Callback) (c : Client) :
    ∀ event ∈ announcement callback c, event.isSteady = true := by
  unfold announcement
  split <;> simp [Event.isSteady]

theorem transmitted_steady (type : MessageType) (flag : UInt16) (payload : Bytes) (ec : ErrorCode)
    (c : Client) : Steady c (transmitted native type flag payload ec c) := by
  have complaint := announcement_steady (.onError .socketIo ("Socket write error: " ++ ec.message)) c
  refine ⟨rfl, rfl, _, rfl, ?_⟩
  intro event member
  rcases List.mem_cons.mp member with rfl | member
  · rfl
  · split at member
    · rcases List.mem_cons.mp member with rfl | member
      · rfl
      · split at member
        · cases member
        · exact complaint event member
    · cases member

theorem Transmits.steady {type : MessageType} {flag : UInt16} {payload : Bytes}
    (transmits : Transmits native policy type flag payload c outcome after) : Steady c after := by
  cases transmits <;> exact transmitted_steady _ _ _ _ _

theorem complained_steady (error : ClientError) (message : String) (c : Client) :
    Steady c (complained error message c) :=
  ⟨rfl, rfl, _, rfl, announcement_steady _ _⟩

/-- What ends with an exception has not invoked `onDisconnected`. -/
def Courteous (c : Client) (outcome : Outcome Unit) (after : Client) : Prop :=
  ∀ what, outcome = .error what → ∀ events, after.log = c.log ++ events → farewells events = 0

theorem Courteous.behind {middle : Client} {events : List Event}
    (courteous : Courteous c outcome after) (extended : middle.log = c.log ++ events) :
    Courteous middle outcome after := by
  intro what thrown others extendedMore
  have whole := courteous what thrown (events ++ others) (by
    rw [extendedMore, extended, List.append_assoc])
  rw [farewells_append] at whole
  omega

/-- A handler that fails its session notifies, unless a callback throws first. -/
theorem Fails.heard {error : ClientError} {message : String}
    (courteous : Courteous c outcome after) (handshakes : c.handshakes)
    (fails : Fails native policy error message c outcome after) : Heard c after := by
  have complaint := complained_kept error message c
  cases fails with
  | threw => exact .of_steady handshakes (complained_steady _ _ c)
  | ended ec => exact notified_heard (complaint.trans (tornDown_kept ec _))
  | leftEarly ec what throws =>
    obtain ⟨events, extended, _, counted⟩ := (complaint.trans (tornDown_kept ec _)).log
    have none := courteous what rfl events extended
    have one : farewell (complained error message c) = 1 := if_pos throws.1
    omega

theorem TimesOut.heard {ec : ErrorCode} (courteous : Courteous c outcome after)
    (handshakes : c.handshakes) (ran : TimesOut native policy ec c outcome after) :
    Heard c after := by
  cases ran with
  | inert => exact .of_steady handshakes (.refl c)
  | failed _ _ fails => exact fails.heard courteous handshakes

theorem targeted_steady (endpoint : Endpoint) (openEc : ErrorCode) (c : Client) :
    Steady c (targeted endpoint openEc c) :=
  ⟨rfl, rfl, [.opened openEc], rfl, by simp [Event.isSteady]⟩

theorem opened_steady (endpoint : Endpoint) (bindEc : ErrorCode) (c : Client) :
    Steady c (opened endpoint bindEc c) :=
  ⟨rfl, rfl, [.opened .success, .bound bindEc], by simp [opened], by simp [Event.isSteady]⟩

theorem receiving_steady (c : Client) : Steady c (receiving c) :=
  ⟨rfl, rfl, [], by simp [receiving], by simp⟩

theorem Resolves.heard {ec : ErrorCode} {endpoints : List Endpoint}
    (courteous : Courteous c outcome after) (handshakes : c.handshakes)
    (ran : Resolves native policy ec endpoints c outcome after) : Heard c after := by
  cases ran with
  | inert => exact .of_steady handshakes (.refl c)
  | unresolved _ _ _ fails => exact fails.heard courteous handshakes
  | unopened endpoint openEc _ _ _ _ fails =>
    have targets := targeted_steady endpoint openEc c
    obtain ⟨_, extended, _⟩ := targets.log
    exact .after targets (fails.heard (courteous.behind extended) handshakes)
  | unbound endpoint bindEc _ _ _ _ _ fails =>
    have opens := opened_steady endpoint bindEc c
    obtain ⟨_, extended, _⟩ := opens.log
    exact .after opens (fails.heard (courteous.behind extended) handshakes)
  | started endpoint _ _ _ _ transmits =>
    have steady := (opened_steady endpoint .success c).trans (receiving_steady _)
    exact .of_steady handshakes (steady.trans transmits.steady)

theorem armed_steady (c : Client) : Steady c (armed c) :=
  ⟨rfl, rfl, [], by simp [armed], by simp⟩

theorem KeepsAlive.steady {ec : ErrorCode} (ran : KeepsAlive native policy ec c outcome after) :
    Steady c after := by
  cases ran with
  | inert => exact .refl c
  | threw _ transmits => exact transmits.steady
  | beat _ transmits => exact transmits.steady.trans (armed_steady _)

theorem Reports.steady {callback : Callback}
    (reports : Reports policy quiet callback c outcome after) : Steady c after := by
  cases reports with
  | unset => exact .refl c
  | done _ ran =>
    cases ran
    exact .recorded _ rfl
  | threw _ _ ran =>
    cases ran
    exact .recorded _ rfl

theorem Processes.heard {packet : Bytes} (handshakes : c.handshakes)
    (processes : Processes native policy quiet packet c outcome after) : Heard c after := by
  cases processes with
  | ignored => exact .of_steady handshakes (.refl c)
  | answered _ _ _ transmits =>
    have begun : Heard c (challenged c) :=
      ⟨.inl (.inr rfl), [.stored .authenticating], rfl, rfl⟩
    exact begun.before transmits.steady
  | admitted _ _ _ _ reports =>
    have signalled : Heard c (welcomed c) :=
      ⟨.inr fun id => notify_unblocks _, [.stored .connected, .notified], rfl, rfl⟩
    exact signalled.before reports.steady
  | delivered _ _ _ reports => exact .of_steady handshakes reports.steady

theorem resumed_steady (c : Client) : Steady c (resumed c) := by
  unfold resumed
  split
  · exact .refl c
  · exact receiving_steady c

theorem inspected_steady (packet : Bytes) (c : Client) : Steady c (inspected packet c) :=
  Steady.recorded _ rfl

theorem Receives.heard {ec : ErrorCode} {bytesTransferred : Nat} (handshakes : c.handshakes)
    (whole : ec = .success ∨ ec = .operationAborted)
    (ran : Receives native policy quiet ec bytesTransferred c outcome after) : Heard c after := by
  cases ran with
  | inert => exact .of_steady handshakes (.refl c)
  | complaintThrew message _ _ failed real =>
    rcases whole with good | aborted
    · exact absurd good failed
    · exact absurd aborted real
  | broke _ _ failed real =>
    rcases whole with good | aborted
    · exact absurd good failed
    · exact absurd aborted real
  | empty => exact .of_steady handshakes (resumed_steady c)
  | foreign => exact .of_steady handshakes ((inspected_steady _ c).trans (resumed_steady _))
  | processed _ _ _ _ processes =>
    have heard := Processes.heard (c := inspected _ c) handshakes processes
    exact (Heard.after (inspected_steady _ c) heard).before (resumed_steady _)
  | threw _ _ _ _ processes =>
    exact .after (inspected_steady _ c) (Processes.heard (c := inspected _ c) handshakes processes)

theorem Sends.steady (sends : Sends native policy c outcome after) : Steady c after := by
  induction sends with
  | done c => exact .refl c
  | inCall value _ ih => exact ⟨ih.state, ih.waits, ih.log⟩
  | recount _ ih => exact ⟨ih.state, ih.waits, ih.log⟩
  | passed _ _ transmits _ ih => exact transmits.steady.trans ih
  | threw _ _ transmits => exact transmits.steady

end

/-! ### Blocked waiters -/

/-- Some `ConnectSync` is blocked. -/
def Waited (c : Client) : Prop := ∃ id, c.waits id = .blocked

/-- Who is blocked now was blocked before. -/
def Unblocks (c after : Client) : Prop := ∀ id, after.waits id = .blocked → c.waits id = .blocked

theorem Unblocks.of_same {c after : Client} (same : after.waits = c.waits) : Unblocks c after := by
  intro id blocked
  rw [← same]
  exact blocked

theorem setOwner_waits (c : Client) (owner : Option Thread) (mutex : Mutex) :
    (c.setOwner owner mutex).waits = c.waits := by
  cases mutex <;> rfl

theorem step_unblocks {policy : Policy} {thread : Thread} {β : Type} (operation : Op β)
    (answer : Answer) (c : Client) (value : β) (after : Client)
    (stepped : step policy thread operation answer c = some (value, after)) : Unblocks c after := by
  cases operation <;> simp only [step] at stepped <;> (repeat' split at stepped) <;>
    cases stepped
  case notifyAll => exact fun id blocked => absurd blocked (notify_unblocks _)
  all_goals first
    | exact Unblocks.of_same rfl
    | exact Unblocks.of_same (setOwner_waits _ _ _)

theorem program_unblocks {policy : Policy} {thread : Thread} {α : Type} (program : Method α)
    (c : Client) :
    program.Within (effect policy thread quiet) (fun before _ after => Unblocks before after) c := by
  apply demonic_within
  · exact fun _ _ blocked => blocked
  · exact fun _ _ _ early late id blocked => early id (late id blocked)
  · exact fun operation answer state value after =>
      step_unblocks operation answer state value after
  · intro β operation state between reached
    cases operation <;> exact Unblocks.of_same (congrArg Client.waits reached)

section

variable {rules : Rules} {c after : Client} {label : Label}

theorem Rules.Plain.unblocks (plain : rules.Plain) {thread : Thread} {α : Type}
    {program : Method α} {outcome : Outcome α} (ran : rules.Runs thread program c outcome after) :
    Unblocks c after :=
  (plain.allows.covers thread).sound ran _ (program_unblocks program c)

theorem entering_unblocks (id : Nat) (outcome : Outcome (Option ClientError)) (c : Client) :
    Unblocks c (entering id outcome c) := by
  intro other blocked
  unfold entering at blocked
  split at blocked
  · change Function.update c.waits id _ other = _ at blocked
    rw [Function.update_apply] at blocked
    split at blocked
    · cases blocked
    · exact blocked
  · exact blocked

/-- Nobody starts to wait but a `ConnectSync` that evaluates its predicate. -/
theorem Step.unblocks (plain : rules.Plain) (step : Step rules c label after)
    (other : ∀ id, label ≠ .awaits id) : Unblocks c after := by
  cases step with
  | call _ ran => exact plain.unblocks ran
  | connectSync _ ran =>
    exact fun id blocked => plain.unblocks ran id (entering_unblocks _ _ _ id blocked)
  | awaits => exact absurd rfl (other _)
  | handles _ _ _ _ ran => exact fun id blocked => plain.unblocks ran id blocked
  | completes => exact Unblocks.of_same rfl
  | arrives => exact Unblocks.of_same rfl
  | leaves => exact Unblocks.of_same rfl

/-- The waiters that are blocked wait for a handshake that is under way. -/
def Patient (c : Client) : Prop := Waited c → c.handshakes

/-- The step is none of the three that end a handshake and notify nobody: a `Disconnect`, the error of a
receive, and a handler that `onDisconnected` throws out of. -/
structure Spares (transition : Transition Client Label) : Prop where
  stays : ¬ CallsDisconnect transition
  receives : ¬ BreaksReceive transition
  returns : HandlerThrows transition → farewells (added transition) = 0

theorem Steady.recordedTwice (c : Client) (call : PublicCall) (result : Option ClientError) :
    Steady c { c with log := c.log ++ [.called call] ++ [.returned call result] } :=
  (Steady.recorded (.called call) rfl).trans
    (Steady.recorded (.returned call result) rfl)

/-- While a handshake is under way a call other than `Disconnect` moves nothing. -/
theorem Performs.steady {thread : Thread} {call : PublicCall}
    {outcome : Outcome (Option ClientError)} {native : Endian} {policy : Policy}
    (handshakes : c.handshakes) (other : call ≠ .disconnect)
    (performs : Performs native policy thread c call outcome after) :
    Steady c after ∧ outcome ≠ .ok (some .success) := by
  have up : c.state ≠ .disconnected := by
    rcases handshakes with here | here <;> (intro down; cases here.symm.trans down)
  have called : Steady c { c with log := c.log ++ [.called call] } := Steady.recorded _ rfl
  cases performs with
  | returned calls =>
    generalize same : Except.ok _ = result at calls
    cases calls with
    | connect connects =>
      cases connects with
      | rejected =>
        cases same
        exact ⟨Steady.recordedTwice c _ _, by simp⟩
      | begun down => exact absurd down up
      | failed _ down => exact absurd down up
      | threw _ _ down => exact absurd down up
    | disconnect => exact absurd rfl other
    | @sends _ outcome _ _ _ sends =>
      cases outcome with
      | error what => cases same
      | ok value =>
        cases same
        exact ⟨(called.trans sends.steady).trans (Steady.recorded _ rfl), by simp⟩
  | threw calls =>
    generalize same : Except.error _ = result at calls
    cases calls with
    | connect connects =>
      cases connects with
      | rejected => cases same
      | begun down => exact absurd down up
      | failed _ down => exact absurd down up
      | threw _ _ down => exact absurd down up
    | disconnect => exact absurd rfl other
    | sends _ _ sends =>
      refine ⟨called.trans sends.steady, ?_⟩
      rw [← same]
      simp

/-- The steps other than an evaluation of the predicate, while somebody is blocked. -/
theorem Moves.heard (moves : Moves rules quiet c label after) (handshakes : c.handshakes)
    (other : ∀ id, label ≠ .awaits id) (spares : Spares ⟨c, label, after⟩) : Heard c after := by
  have still {after : Client} (same : Steady c after) : Heard c after :=
    .of_steady handshakes same
  cases moves with
  | @call _ id call _ _ performs =>
    have notDisconnect : call ≠ .disconnect := by
      rintro rfl
      exact spares.stays ⟨id, rfl⟩
    exact still (performs.steady handshakes notDisconnect).1
  | connectSync _ performs =>
    obtain ⟨steady, refused⟩ := performs.steady handshakes (by simp)
    rw [entering, if_neg refused]
    exact still steady
  | awaits => exact absurd rfl (other _)
  | @handles after before rest operation completion outcome found queued idle going ran =>
    have running : (dequeued before rest c).handshakes := handshakes
    suffices heard : Heard (dequeued before rest c) after from ⟨heard.waits, heard.log⟩
    have courteous : Courteous (dequeued before rest c) outcome after := by
      rintro what rfl events extended
      have none := spares.returns ⟨⟨operation, rfl⟩, rfl⟩
      rwa [@added_eq ⟨c, .handles operation, resting (.error what) after⟩ events extended] at none
    generalize isKind : operation.kind = kind at ran
    cases ran with
    | connectTimeout ran => exact ran.heard courteous running
    | resolve ran => exact ran.heard courteous running
    | keepAlive ran => exact .of_steady running ran.steady
    | receive ran =>
      refine ran.heard running ?_
      by_contra broken
      rw [not_or] at broken
      exact spares.receives ⟨completion, (runsHandler_iff queued).mpr ⟨isKind, rfl⟩, broken⟩
  | completes => exact still ⟨rfl, rfl, [], by simp [completed], by simp⟩
  | arrives => exact still ⟨rfl, rfl, [], by simp [filled, completed], by simp⟩
  | leaves => exact still ⟨rfl, rfl, [], by simp, by simp⟩

theorem verdict_none {c : Client} : verdict c = none ↔ c.handshakes := by
  unfold verdict Client.handshakes
  cases c.state <;> simp

theorem awaited_patient {id : Nat} (patient : Patient c) :
    Patient (awaited id (verdict c) c) := by
  rintro ⟨other, blocked⟩
  change (Function.update c.waits id _) other = _ at blocked
  rw [Function.update_apply] at blocked
  by_cases undecided : verdict c = none
  · exact verdict_none.mp undecided
  · rw [if_neg undecided] at blocked
    split at blocked
    · cases blocked
    · exact patient ⟨other, blocked⟩

theorem Step.patient (plain : rules.Plain) (patient : Patient c) (step : Step rules c label after)
    (spares : Waited c → Spares ⟨c, label, after⟩) :
    Patient after ∧ (Waited c → unsignalled (added ⟨c, label, after⟩) = false) := by
  by_cases evaluates : ∃ id, label = .awaits id
  · obtain ⟨id, rfl⟩ := evaluates
    have moves := step.plain plain
    cases moves with
    | awaits checking =>
      refine ⟨awaited_patient patient, fun _ => ?_⟩
      have none : added ⟨c, .awaits id, awaited id (verdict c) c⟩ = [] :=
        added_eq (by simp [awaited])
      rw [none]
      rfl
  · have other : ∀ id, label ≠ .awaits id := fun id same => evaluates ⟨id, same⟩
    by_cases waited : Waited c
    · have heard := (step.plain plain).heard (patient waited) other (spares waited)
      obtain ⟨events, extended, signalled⟩ := heard.log
      constructor
      · rintro ⟨id, blocked⟩
        rcases heard.waits with handshakes | free
        · exact handshakes
        · exact absurd blocked (free id)
      · intro _
        rw [added_eq extended]
        exact signalled
    · constructor
      · rintro ⟨id, blocked⟩
        exact absurd ⟨id, step.unblocks plain other id blocked⟩ waited
      · exact fun here => absurd here waited

end

theorem run_patient {rules : Rules} (plain : rules.Plain) {dmrId : UInt32}
    {description : Bytes} {hooks : Hook → Bool} {transitions : List (Transition Client Label)}
    {last : Client} (run : rules.Run dmrId description hooks transitions last)
    (spared : ∀ transition ∈ transitions, Waited transition.before → Spares transition) :
    Patient last := by
  refine run.invariant Patient (fun transition => Waited transition.before → Spares transition)
    ?_ ?_ spared
  · rintro ⟨id, blocked⟩
    cases blocked
  · exact fun before label after patient spares step =>
      (step.patient plain patient spares).1

/-- While a `ConnectSync` is blocked, nobody calls `Disconnect`, no receive fails and `onDisconnected`
throws out of no handler, every step that moves `state_` to CONNECTED or DISCONNECTED notifies
afterwards, so no state is reached in which the predicate holds and a waiter is still blocked. -/
theorem waiters_signalled_if_spared {rules : Rules} (plain : rules.Plain) {dmrId : UInt32}
    {description : Bytes} {hooks : Hook → Bool} {transitions : List (Transition Client Label)}
    {last : Client} (run : rules.Run dmrId description hooks transitions last)
    (spared : ∀ transition ∈ transitions, Waited transition.before → Spares transition) :
    (∀ transition ∈ transitions, Waited transition.before →
      unsignalled (added transition) = false) ∧
    (Waited last → verdict last = none) := by
  constructor
  · intro transition member
    obtain ⟨earlier, isPrefix, reached⟩ := run.reaches_before transition member
    have patient := run_patient plain reached
      (fun other early => spared other (isPrefix.subset early))
    exact ((run.taken transition member).patient plain patient
      (spared transition member)).2
  · exact fun waited => verdict_none.mpr (run_patient plain run spared waited)

/-- A `ConnectSync` that waits, and what happens then. -/
def waitingScript (ending : List (Weather × Label)) : List (Weather × Label) :=
  [(fair, .connectSync 0 "master" 54006 [] 1000), (fair, .awaits 0)] ++ ending

def blockedAt (transition : Transition Client Label) : Bool :=
  transition.before.waits 0 = .blocked && transition.after.state = .disconnected

theorem waiters_signalled_at_timeout :
    ∃ transitions last, Effects.Run (Step sampleRules) sampleClient transitions last ∧
      transitions.any blockedAt = true ∧
      (∀ transition ∈ transitions, Waited transition.before →
        unsignalled (added transition) = false) ∧
      (Waited last → verdict last = none) := by
  obtain ⟨transitions, last, run, checked⟩ := replay_checked sampleRules sampleClient
    (waitingScript [(fair, .completes ⟨.connectTimeout, 1, none⟩ {}),
      (fair, .handles ⟨.connectTimeout, 1, some {}⟩)])
    (fun transitions _ => transitions.any blockedAt &&
      transitions.all fun transition => transition.after.ioThread ≠ .exited && transition.label ∈
        [.connectSync 0 "master" 54006 [] 1000, .awaits 0,
          .completes ⟨.connectTimeout, 1, none⟩ {}, .handles ⟨.connectTimeout, 1, some {}⟩])
    (by decide)
  simp only [Bool.and_eq_true, List.all_eq_true, decide_eq_true_eq] at checked
  refine ⟨transitions, last, run, checked.1,
    waiters_signalled_if_spared sampleRules_plain run fun transition member _ => ?_⟩
  obtain ⟨returned, taken⟩ := checked.2 transition member
  refine ⟨?_, ?_, fun throws => absurd throws.2 returned⟩
  · rintro ⟨id, called⟩
    simp [called] at taken
  · rintro ⟨completion, ⟨operation, handles, isReceive, _⟩, _⟩
    rw [handles] at taken
    simp only [List.mem_cons, Label.handles.injEq, reduceCtorEq, List.not_mem_nil, false_or,
      or_false] at taken
    subst taken
    cases isReceive

/-- An application's `Disconnect` leaves a blocked `ConnectSync` without a signal. -/
theorem waiter_unsignalled_after_disconnect :
    ¬ ∀ (rules : Rules), rules.Plain → rules.policy.throws .onDisconnected = false →
      ∀ (dmrId : UInt32) (description : Bytes) (hooks : Hook → Bool)
        (transitions : List (Transition Client Label)) (last : Client),
        rules.Run dmrId description hooks transitions last → ∀ transition ∈ transitions,
          Waited transition.before → unsignalled (added transition) = false := by
  intro claim
  obtain ⟨transitions, last, run, checked⟩ := replay_checked sampleRules sampleClient
    (waitingScript [(fair, .call 1 .disconnect)])
    (fun transitions _ => transitions.any fun transition =>
      transition.before.waits 0 = .blocked && unsignalled (added transition)) (by decide)
  obtain ⟨transition, member, checked⟩ := List.any_eq_true.mp checked
  simp only [Bool.and_eq_true, decide_eq_true_eq] at checked
  have signalled := claim sampleRules sampleRules_plain rfl _ _ _ transitions last run transition
    member ⟨0, checked.1⟩
  rw [checked.2] at signalled
  cases signalled

end OpenDTP.Client
