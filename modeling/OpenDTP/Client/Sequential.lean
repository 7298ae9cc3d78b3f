import OpenDTP.Client.Soundness
import OpenDTP.Effects.Runs
import Mathlib.Logic.Function.Basic

/-! The client as a system in which public calls and completion handlers execute one at a time. A
step is one whole call, one evaluation of the predicate a `ConnectSync` waits for, one whole
handler, the completion of an operation, or the return of `run()`. Calls made from inside a
callback belong to the step that the callback belongs to. -/

namespace OpenDTP.Client
open Common Protocol Effects Effects.Program

/-- The host, what may throw, and which calls each callback may make. -/
structure Rules where
  native : Endian
  policy : Policy
  nests : Callback → PublicCall → Prop

def Rules.nesting (rules : Rules) : Nesting Op Client := fun _ operation _ inner =>
  match operation with
  | .endCallback callback =>
      ∃ call, rules.nests callback call ∧ inner = (fun _ => ()) <$> publicCall rules.native call
  | _ => False

abbrev Rules.Runs (rules : Rules) {α : Type} (thread : Thread) (program : Method α) (c : Client)
    (outcome : Outcome α) (after : Client) : Prop :=
  Exec (semantics rules.policy thread) rules.nesting program c outcome after

inductive Label where
  | call (id : Nat) (call : PublicCall)
  | connectSync (id : Nat) (host : String) (port : UInt16) (password : Bytes) (timeoutMs : UInt32)
  | awaits (id : Nat)
  | handles (operation : Outstanding)
  | completes (operation : Outstanding) (completion : Completion)
  | arrives (operation : Outstanding) (sender : Endpoint) (data : Bytes)
  | leaves
  deriving DecidableEq, Repr

/-- A `ConnectSync` whose `Connect` succeeded goes on to wait. -/
def entering (id : Nat) (outcome : Outcome (Option ClientError)) (c : Client) : Client :=
  if outcome = .ok (some .success) then
    { c with waits := Function.update c.waits id .checking }
  else c

/-- After an evaluation of its predicate a `ConnectSync` has returned or is blocked. -/
def awaited (id : Nat) (result : Option ClientError) (c : Client) : Client :=
  { c with waits := Function.update c.waits id (if result = none then .blocked else .outside) }

/-- The client in which the background thread has taken one operation to run its handler. -/
def dequeued (before rest : List Outstanding) (c : Client) : Client :=
  { c with operations := before ++ rest, ioThread := .handling }

/-- A handler that throws ends the thread function. -/
def resting (outcome : Outcome Unit) (c : Client) : Client :=
  { c with ioThread := match outcome with | .ok _ => .running | .error _ => .exited }

def completed (before : List Outstanding) (operation : Outstanding) (rest : List Outstanding)
    (completion : Completion) (c : Client) : Client :=
  { c with
    operations := before ++ { operation with completion := some completion } :: rest }

/-- A datagram is written over the start of the receive buffer. -/
def filled (sender : Endpoint) (data : Bytes) (c : Client) : Client :=
  { c with
    receiveBuffer := data ++ c.receiveBuffer.drop data.length
    senderEndpoint := sender }

inductive Step (rules : Rules) : Client → Label → Client → Prop where
  | call {c after : Client} {id : Nat} {call : PublicCall} {outcome : Outcome (Option ClientError)}
      (free : c.waits id = .outside)
      (ran : rules.Runs (.app id) (publicCall rules.native call) c outcome after) :
      Step rules c (.call id call) after
  | connectSync {c after : Client} {id : Nat} {host : String} {port : UInt16} {password : Bytes}
      {timeoutMs : UInt32} {outcome : Outcome (Option ClientError)} (free : c.waits id = .outside)
      (ran : rules.Runs (.app id)
        (publicCall rules.native (.connect host port password timeoutMs)) c outcome after) :
      Step rules c (.connectSync id host port password timeoutMs) (entering id outcome after)
  | awaits {c after : Client} {id : Nat} {result : Option ClientError}
      (checking : c.waits id = .checking)
      (ran : rules.Runs (.app id) awaitConnection c (.ok result) after) :
      Step rules c (.awaits id) (awaited id result after)
  | handles {c after : Client} {before rest : List Outstanding} {operation : Outstanding}
      {completion : Completion} {outcome : Outcome Unit}
      (found : c.operations = before ++ operation :: rest)
      (queued : operation.completion = some completion) (idle : c.ioThread = .running)
      (going : c.stopped = false)
      (ran : rules.Runs .io (handler rules.native operation.kind completion)
        (dequeued before rest c) outcome after) :
      Step rules c (.handles operation) (resting outcome after)
  | completes {c : Client} {before rest : List Outstanding} {operation : Outstanding}
      {completion : Completion} (found : c.operations = before ++ operation :: rest)
      (pending : operation.completion = none) (real : completion.ec ≠ .operationAborted)
      (noData : operation.kind = .receive → completion.ec ≠ .success) :
      Step rules c (.completes operation completion) (completed before operation rest completion c)
  | arrives {c : Client} {before rest : List Outstanding} {operation : Outstanding}
      {sender : Endpoint} {data : Bytes} (found : c.operations = before ++ operation :: rest)
      (pending : operation.completion = none) (receives : operation.kind = .receive)
      (fits : data.length ≤ 1024) :
      Step rules c (.arrives operation sender data)
        (filled sender data
          (completed before operation rest { bytesTransferred := data.length } c))
  | leaves {c : Client} (idle : c.ioThread = .running) (returns : c.runReturns = true) :
      Step rules c .leaves { c with ioThread := .exited, stopped := true }

/-- The runs of a client from its construction. -/
abbrev Rules.Run (rules : Rules) (dmrId : UInt32) (description : Bytes) (hooks : Hook → Bool) :
    List (Transition Client Label) → Client → Prop :=
  Effects.Run (Step rules) (fresh dmrId description hooks)

abbrev Rules.Reachable (rules : Rules) (c : Client) : Prop :=
  ∃ dmrId description hooks, Effects.Reachable (Step rules) (fresh dmrId description hooks) c

/-- The events that a transition adds to the log. -/
def added (transition : Transition Client Label) : List Event :=
  transition.after.log.drop transition.before.log.length

theorem added_eq {transition : Transition Client Label} {events : List Event}
    (extended : transition.after.log = transition.before.log ++ events) :
    added transition = events := by
  rw [added, extended, List.drop_left]

/-- An exception leaves the handler that the transition runs. -/
def HandlerThrows (transition : Transition Client Label) : Prop :=
  (∃ operation, transition.label = .handles operation) ∧ transition.after.ioThread = .exited

/-- A `Connect` passed its state check: a session begins. -/
def Event.isAccepted : Event → Bool
  | .accepted _ => true
  | _ => false

/-! ### Steps by their summaries -/

/-- What `ConnectSync` returns once its predicate holds. -/
def verdict (c : Client) : Option ClientError :=
  if c.state = .connected then some .success
  else if c.state = .disconnected then
    some (if c.lastError ≠ .success then c.lastError else .responseTimeout)
  else none

theorem awaitConnection_within {policy : Policy} {thread : Thread} {meanwhile : Meanwhile}
    (c : Client) :
    awaitConnection.Within (effect policy thread meanwhile)
      (fun c outcome after => outcome = .ok (verdict c) ∧ after = c) c := by
  simp only [Within, awaitConnection, wp_locked, owner_connectionMutex, setOwner_connectionMutex,
    settled, wp_bind, wp_perform, effect_loadState, effect_readLastError, andThen_ok, wp_ite, wp_pure,
    verdict]
  intro free
  rw [unlocked free]
  cases c.state <;> simp

/-- A step with each program replaced by its summary. -/
inductive Moves (rules : Rules) (meanwhile : Meanwhile) : Client → Label → Client → Prop where
  | call {c after : Client} {id : Nat} {call : PublicCall} {outcome : Outcome (Option ClientError)}
      (free : c.waits id = .outside)
      (performs : Performs rules.native rules.policy (.app id) c call outcome after) :
      Moves rules meanwhile c (.call id call) after
  | connectSync {c after : Client} {id : Nat} {host : String} {port : UInt16} {password : Bytes}
      {timeoutMs : UInt32} {outcome : Outcome (Option ClientError)} (free : c.waits id = .outside)
      (performs : Performs rules.native rules.policy (.app id) c
        (.connect host port password timeoutMs) outcome after) :
      Moves rules meanwhile c (.connectSync id host port password timeoutMs)
        (entering id outcome after)
  | awaits {c : Client} {id : Nat} (checking : c.waits id = .checking) :
      Moves rules meanwhile c (.awaits id) (awaited id (verdict c) c)
  | handles {c after : Client} {before rest : List Outstanding} {operation : Outstanding}
      {completion : Completion} {outcome : Outcome Unit}
      (found : c.operations = before ++ operation :: rest)
      (queued : operation.completion = some completion) (idle : c.ioThread = .running)
      (going : c.stopped = false)
      (handles : Handles rules.native rules.policy meanwhile completion (dequeued before rest c)
        operation.kind outcome after) :
      Moves rules meanwhile c (.handles operation) (resting outcome after)
  | completes {c : Client} {before rest : List Outstanding} {operation : Outstanding}
      {completion : Completion} (found : c.operations = before ++ operation :: rest)
      (pending : operation.completion = none) (real : completion.ec ≠ .operationAborted)
      (noData : operation.kind = .receive → completion.ec ≠ .success) :
      Moves rules meanwhile c (.completes operation completion)
        (completed before operation rest completion c)
  | arrives {c : Client} {before rest : List Outstanding} {operation : Outstanding}
      {sender : Endpoint} {data : Bytes} (found : c.operations = before ++ operation :: rest)
      (pending : operation.completion = none) (receives : operation.kind = .receive)
      (fits : data.length ≤ 1024) :
      Moves rules meanwhile c (.arrives operation sender data)
        (filled sender data
          (completed before operation rest { bytesTransferred := data.length } c))
  | leaves {c : Client} (idle : c.ioThread = .running) (returns : c.runReturns = true) :
      Moves rules meanwhile c .leaves { c with ioThread := .exited, stopped := true }

section

variable {rules : Rules} {meanwhile : Meanwhile} {c after : Client} {label : Label}

/-- What a callback may do in the middle of a step, whichever thread runs it. -/
structure Rules.Allows (rules : Rules) (meanwhile : Meanwhile) : Prop where
  settled : meanwhile.Settled
  covers : ∀ thread, Covers (semantics rules.policy thread) rules.nesting (during meanwhile)

theorem Step.moves (allows : rules.Allows meanwhile) (step : Step rules c label after) :
    Moves rules meanwhile c label after := by
  cases step with
  | call free ran =>
    exact .call free ((allows.covers _).sound ran _ (publicCall_within allows.settled _ _))
  | connectSync free ran =>
    exact .connectSync free ((allows.covers _).sound ran _ (publicCall_within allows.settled _ _))
  | awaits checking ran =>
    have reading := (allows.covers _).sound ran _ (awaitConnection_within _)
    obtain ⟨result, same⟩ := reading
    cases result
    subst same
    exact .awaits checking
  | handles found queued idle going ran =>
    exact .handles found queued idle going
      ((allows.covers _).sound ran _ (handler_within allows.settled _ _ _))
  | completes found pending real noData => exact .completes found pending real noData
  | arrives found pending receives fits => exact .arrives found pending receives fits
  | leaves idle returns => exact .leaves idle returns

/-- Callbacks that make no call into the client. -/
def Rules.Plain (rules : Rules) : Prop := ∀ callback call, ¬ rules.nests callback call

theorem Rules.Plain.allows (plain : rules.Plain) : rules.Allows quiet where
  settled := quiet_settled
  covers := fun thread =>
    { refl := fun operation state => by cases operation <;> rfl
      trans := fun operation first second third one two => by
        cases operation <;> exact Eq.trans two one
      nested := fun operation state inner nested => by
        cases operation <;> try exact nested.elim
        obtain ⟨call, makes, _⟩ := nested
        exact absurd makes (plain _ call) }

theorem Step.plain (plain : rules.Plain) (step : Step rules c label after) :
    Moves rules quiet c label after := step.moves plain.allows

end

end OpenDTP.Client
