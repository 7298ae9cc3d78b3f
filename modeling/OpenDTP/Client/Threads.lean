import OpenDTP.Client.Sequential
import OpenDTP.Effects.Interleaving

/-! The client as a system of threads that interleave at its atomic operations: the background
thread, which runs handlers, and the threads of the application, which make calls. The runs in which
everything executes one at a time are among its runs. -/

namespace OpenDTP.Client
open Common Protocol Effects Effects.Program

/-- What a thread can begin: a call of the application, one evaluation of the predicate of its
`ConnectSync`, or the handler of an operation in the queue. -/
inductive Job where
  | call (made : PublicCall)
  | connectSync (host : String) (port : UInt16) (password : Bytes) (timeoutMs : UInt32)
  | awaits
  | handles (index : Nat)
  deriving DecidableEq

/-- What happens outside the threads: an operation completes, a datagram arrives, or `run()`
returns. -/
inductive Happening where
  | completes (index : Nat) (completion : Completion)
  | arrives (index : Nat) (sender : Endpoint) (data : Bytes)
  | leaves
  deriving DecidableEq

section

variable (rules : Rules)

/-- A call, and what its outcome does to the waits of the thread. -/
def calling (made : PublicCall) (rest : Outcome (Option ClientError) → Client → Client) :
    Task Op Client :=
  (publicCall rules.native made).settle fun outcome => .ret (rest outcome)

/-- A `ConnectSync` that evaluated its predicate returns or blocks. -/
def reawaited (id : Nat) (outcome : Outcome (Option ClientError)) (c : Client) : Client :=
  match outcome with
  | .ok result => awaited id result c
  | .error _ => c

def begins : Thread → Job → Client → Option (Client × Task Op Client)
  | .app id, .call made, c =>
    if c.waits id = .outside then some (c, calling rules made fun _ c => c) else none
  | .app id, .connectSync host port password timeoutMs, c =>
    if c.waits id = .outside then
      some (c, calling rules (.connect host port password timeoutMs) (entering id))
    else none
  | .app id, .awaits, c =>
    if c.waits id = .checking then
      some (c, awaitConnection.settle fun outcome => .ret (reawaited id outcome))
    else none
  | .io, .handles index, c =>
    match c.operations[index]? with
    | none => none
    | some operation =>
      match operation.completion with
      | none => none
      | some completion =>
        if c.ioThread = .running ∧ c.stopped = false then
          some (dequeued (c.operations.take index) (c.operations.drop (index + 1)) c,
            (handler rules.native operation.kind completion).settle fun outcome =>
              .ret (resting outcome))
        else none
  | _, _, _ => none

def happens : Happening → Client → Option Client
  | .completes index completion, c =>
    match c.operations[index]? with
    | none => none
    | some operation =>
      if operation.completion = none ∧ completion.ec ≠ .operationAborted ∧
          (operation.kind = .receive → completion.ec ≠ .success) then
        some (completed (c.operations.take index) operation (c.operations.drop (index + 1)) completion
          c)
      else none
  | .arrives index sender data, c =>
    match c.operations[index]? with
    | none => none
    | some operation =>
      if operation.completion = none ∧ operation.kind = .receive ∧ data.length ≤ 1024 then
        some (filled sender data
          (completed (c.operations.take index) operation (c.operations.drop (index + 1))
            { bytesTransferred := data.length } c))
      else none
  | .leaves, c =>
    if c.ioThread = .running ∧ c.runReturns = true then
      some { c with ioThread := .exited, stopped := true }
    else none

def threads : Machine Op Answer Client Thread Job PublicCall Happening where
  semantics := semantics rules.policy
  begins := begins rules
  nests := fun operation call =>
    match operation with
    | .endCallback callback => rules.nests callback call
    | _ => False
  body := fun call => (fun _ => ()) <$> publicCall rules.native call
  happens := happens

end

/-! ### What begins and happens -/

inductive Begins (rules : Rules) (c : Client) : Thread → Job → Client → Task Op Client → Prop where
  | call {id : Nat} {made : PublicCall} (free : c.waits id = .outside) :
      Begins rules c (.app id) (.call made) c (calling rules made fun _ c => c)
  | connectSync {id : Nat} {host : String} {port : UInt16} {password : Bytes} {timeoutMs : UInt32}
      (free : c.waits id = .outside) :
      Begins rules c (.app id) (.connectSync host port password timeoutMs) c
        (calling rules (.connect host port password timeoutMs) (entering id))
  | awaits {id : Nat} (checking : c.waits id = .checking) :
      Begins rules c (.app id) .awaits c
        (awaitConnection.settle fun outcome => .ret (reawaited id outcome))
  | handles {index : Nat} {operation : Outstanding} {completion : Completion}
      (found : c.operations[index]? = some operation)
      (queued : operation.completion = some completion) (idle : c.ioThread = .running)
      (going : c.stopped = false) :
      Begins rules c .io (.handles index)
        (dequeued (c.operations.take index) (c.operations.drop (index + 1)) c)
        ((handler rules.native operation.kind completion).settle fun outcome =>
          .ret (resting outcome))

theorem begins_cases {rules : Rules} {thread : Thread} {job : Job} {c after : Client}
    {task : Task Op Client} (begun : begins rules thread job c = some (after, task)) :
    Begins rules c thread job after task := by
  unfold begins at begun
  split at begun
  · split at begun
    · next free =>
      cases begun
      exact .call free
    · cases begun
  · split at begun
    · next free =>
      cases begun
      exact .connectSync free
    · cases begun
  · split at begun
    · next checking =>
      cases begun
      exact .awaits checking
    · cases begun
  · split at begun
    · cases begun
    · next found =>
      split at begun
      · cases begun
      · next queued =>
        split at begun
        · next ready =>
          cases begun
          exact .handles found queued ready.1 ready.2
        · cases begun
  · cases begun

/-- What happens outside the threads changes only the operations, the receive buffer and the state
of the background thread. -/
theorem happens_cases {happening : Happening} {c after : Client}
    (happened : happens happening c = some after) :
    (∃ operations, after = { c with operations := operations }) ∨
      (∃ operations buffer sender, after =
        { c with operations := operations
                 receiveBuffer := buffer
                 senderEndpoint := sender }) ∨
      (c.ioThread = .running ∧ c.runReturns = true ∧
        after = { c with ioThread := .exited, stopped := true }) := by
  unfold happens at happened
  split at happened
  · split at happened
    · cases happened
    · split at happened
      · cases happened
        exact .inl ⟨_, rfl⟩
      · cases happened
  · split at happened
    · cases happened
    · split at happened
      · cases happened
        exact .inr (.inl ⟨_, _, _, rfl⟩)
      · cases happened
  · split at happened
    · next ready =>
      cases happened
      exact .inr (.inr ⟨ready.1, ready.2, rfl⟩)
    · cases happened

theorem parted {operations : List Outstanding} {index : Nat} {operation : Outstanding}
    (found : operations[index]? = some operation) :
    operations = operations.take index ++ operation :: operations.drop (index + 1) := by
  obtain ⟨bound, rfl⟩ := List.getElem?_eq_some_iff.mp found
  rw [List.getElem_cons_drop, List.take_append_drop]

/-! ### One step at a time -/

section

variable {rules : Rules} {c after : Client}

/-- A client none of whose threads is working. -/
def unworked (c : Client) : Config Op Client Thread Job := ⟨c, fun _ => none⟩

theorem Rules.nesting_threads {β : Type} (operation : Op β) (state : Client) (inner : Method Unit)
    (allowed : rules.nesting β operation state inner) :
    ∃ call, (threads rules).nests operation call ∧ inner = (threads rules).body call := by
  cases operation <;> try exact allowed.elim
  obtain ⟨call, makes, same⟩ := allowed
  exact ⟨call, makes, same⟩

/-- A whole job can be done while the other threads wait. -/
theorem job_reachable {thread : Thread} {job : Job} {start final : Client} {α : Type}
    {program : Method α} {rest : Outcome α → Client → Client} {outcome : Outcome α}
    (begun : begins rules thread job c =
      some (start, program.settle fun outcome => .ret (rest outcome)))
    (ran : rules.Runs thread program start outcome final) :
    Reachable (threads rules).Step (unworked c) (unworked (rest outcome final)) := by
  have entered : (threads rules).Step (unworked c) (.begins thread job)
      ((unworked c).moved thread
        (some (job, program.settle fun outcome => .ret (rest outcome))) start) :=
    .begins rfl begun
  have executed := Exec.reachable Rules.nesting_threads ran (unworked c) job
    fun outcome => .ret (rest outcome)
  have left : (threads rules).Step
      ((unworked c).moved thread (some (job, .ret (rest outcome))) final) (.ends thread)
      (((unworked c).moved thread (some (job, .ret (rest outcome))) final).moved thread none
        (rest outcome final)) :=
    .ends (Function.update_self _ _ _)
  rw [Config.moved_moved] at left
  have idle : (unworked c).moved thread none (rest outcome final) =
      unworked (rest outcome final) := by
    unfold Config.moved unworked
    rw [Function.update_eq_self_iff.mpr rfl]
  rw [idle] at left
  exact (Reachable.refl.snoc entered).trans (executed.snoc left)

/-- One step: a whole job of some thread, or something that happens. -/
inductive Does (rules : Rules) (c : Client) : Client → Prop where
  | job {thread : Thread} {job : Job} {start final : Client} {α : Type} {program : Method α}
      {rest : Outcome α → Client → Client} {outcome : Outcome α}
      (begun : begins rules thread job c =
        some (start, program.settle fun outcome => .ret (rest outcome)))
      (ran : rules.Runs thread program start outcome final) : Does rules c (rest outcome final)
  | happens {after : Client} {happening : Happening} (happened : happens happening c = some after) :
      Does rules c after

theorem Step.does {label : Label} (step : Step rules c label after) : Does rules c after := by
  cases step with
  | @call after id made outcome free ran =>
    have begun : begins rules (.app id) (.call made) c =
        some (c, calling rules made fun _ c => c) := if_pos free
    exact .job begun ran
  | @connectSync after id host port password timeoutMs outcome free ran =>
    have begun : begins rules (.app id) (.connectSync host port password timeoutMs) c =
        some (c, calling rules (.connect host port password timeoutMs) (entering id)) := if_pos free
    exact .job begun ran
  | @awaits after id result checking ran =>
    have begun : begins rules (.app id) .awaits c =
        some (c, awaitConnection.settle fun outcome => .ret (reawaited id outcome)) :=
      if_pos checking
    exact .job begun ran
  | @handles after before rest operation completion outcome found queued idle going ran =>
    have begun : begins rules .io (.handles before.length) c =
        some (dequeued before rest c,
          (handler rules.native operation.kind completion).settle fun outcome =>
            .ret (resting outcome)) := by
      simp [begins, queued, idle, going, found]
    exact .job begun ran
  | @completes before rest operation completion found pending real noData =>
    have here : c.operations[before.length]? = some operation := by simp [found]
    apply @Does.happens _ _ _ (.completes before.length completion)
    simp only [happens, here]
    rw [if_pos ⟨pending, real, noData⟩]
    simp [found]
  | @arrives before rest operation sender data found pending receives fits =>
    have here : c.operations[before.length]? = some operation := by simp [found]
    apply @Does.happens _ _ _ (.arrives before.length sender data)
    simp only [happens, here]
    rw [if_pos ⟨pending, receives, fits⟩]
    simp [found]
  | leaves idle returns =>
    apply @Does.happens _ _ _ .leaves
    simp only [happens]
    rw [if_pos ⟨idle, returns⟩]

/-- The runs in which calls and handlers execute one at a time are among those of the threads. -/
theorem Step.interleaved {label : Label} (step : Step rules c label after) :
    Reachable (threads rules).Step (unworked c) (unworked after) := by
  cases step.does with
  | job begun ran => exact job_reachable begun ran
  | happens happened => exact Reachable.refl.snoc (.happens happened)

theorem Reachable.interleaved (reached : Effects.Reachable (Step rules) c after) :
    Effects.Reachable (threads rules).Step (unworked c) (unworked after) :=
  reached.invariant (fun after => Effects.Reachable (threads rules).Step (unworked c) (unworked after))
    .refl fun _ _ _ sofar step => sofar.trans step.interleaved

/-- A script of actions that can be played to its end gives a run with what is checked of it. -/
theorem threads_checked (rules : Rules)
    [∀ (β : Type) (operation : Op β) (made : PublicCall),
      Decidable ((threads rules).nests operation made)]
    (first : Config Op Client Thread Job)
    (script : List (Action Answer Thread Job PublicCall Happening))
    (check : List (Transition (Config Op Client Thread Job)
      (Action Answer Thread Job PublicCall Happening)) → Config Op Client Thread Job → Bool)
    (passes : (play (threads rules).advance id [] first script).any
      (fun result => check result.1 result.2) = true) :
    ∃ transitions last, Effects.Run (threads rules).Step first transitions last ∧
      check transitions last = true :=
  play_checked (fun _ _ _ advanced => (threads rules).advance_step advanced) script check passes

end

end OpenDTP.Client
