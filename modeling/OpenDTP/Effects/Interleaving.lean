import OpenDTP.Effects.Execution
import OpenDTP.Effects.Runs
import Mathlib.Logic.Function.Basic

/-! Threads that take turns. A thread is idle or works on a job, and an action is one instruction of
one thread. A thread that stands before an instruction at which calls may be nested can put the body
of a call in front of it, to any depth. Reasoning is thread by thread: each thread has a place that
its own instructions move, and what the places say about the shared state is an invariant. -/

namespace OpenDTP.Effects

/-- A program whose value says what happens to the shared state when it has ended. -/
abbrev Task (Op : Type → Type) (σ : Type) := Program Op (σ → σ)

structure Machine (Op : Type → Type) (Answer σ Thread Job Call Event : Type) where
  semantics : Thread → Semantics Op Answer σ
  begins : Thread → Job → σ → Option (σ × Task Op σ)
  nests : {β : Type} → Op β → Call → Prop
  body : Call → Program Op Unit
  happens : Event → σ → Option σ

structure Config (Op : Type → Type) (σ Thread Job : Type) where
  shared : σ
  working : Thread → Option (Job × Task Op σ)

/-- What comes next: a thread begins or ends a job, executes an instruction or enters a nested call,
or something happens outside the threads. -/
inductive Action (Answer Thread Job Call Event : Type) where
  | begins (thread : Thread) (job : Job)
  | acts (thread : Thread) (answer : Answer)
  | nests (thread : Thread) (call : Call)
  | ends (thread : Thread)
  | happens (event : Event)

variable {Op : Type → Type} {Answer σ Thread Job Call Event : Type} [DecidableEq Thread]

/-- The configuration after a thread has changed the shared state and gone on to `work`. -/
def Config.moved (config : Config Op σ Thread Job) (thread : Thread)
    (work : Option (Job × Task Op σ)) (shared : σ) : Config Op σ Thread Job :=
  ⟨shared, Function.update config.working thread work⟩

@[simp] theorem Config.moved_working (config : Config Op σ Thread Job) (thread : Thread)
    (work : Option (Job × Task Op σ)) (shared : σ) :
    (config.moved thread work shared).working = Function.update config.working thread work := rfl

/-- Runs a program and goes on with its outcome, whatever that is. -/
def Program.settle {α β : Type} (program : Program Op α) (rest : Outcome α → Program Op β) :
    Program Op β := program.attempt >>= rest

@[simp] theorem Program.wp_settle {α β π : Type} {transformer : Transformer Op π}
    (program : Program Op α) (rest : Outcome α → Program Op β) (post : Outcome β → π → Prop)
    (place : π) :
    (program.settle rest).wp transformer post place =
      program.wp transformer (fun outcome after => (rest outcome).wp transformer post after)
        place := by
  rw [settle, wp_bind, wp_attempt]
  rfl

/-- The body of a nested call in front of the rest; an exception of the call stays in it. -/
def nestedIn {β α : Type} (inner : Program Op Unit) (operation : Op β)
    (next : β → Program Op α) : Program Op α := inner.settle fun _ => .call operation next

inductive Machine.Step (machine : Machine Op Answer σ Thread Job Call Event) :
    Config Op σ Thread Job → Action Answer Thread Job Call Event → Config Op σ Thread Job → Prop where
  | begins {config : Config Op σ Thread Job} {thread : Thread} {job : Job} {after : σ}
      {task : Task Op σ} (idle : config.working thread = none)
      (begun : machine.begins thread job config.shared = some (after, task)) :
      Step machine config (.begins thread job) (config.moved thread (some (job, task)) after)
  | acts {config : Config Op σ Thread Job} {thread : Thread} {job : Job} {β : Type}
      {operation : Op β} {next : β → Task Op σ} {answer : Answer} {value : β} {after : σ}
      (works : config.working thread = some (job, .call operation next))
      (stepped : (machine.semantics thread).step operation answer config.shared =
        some (value, after)) :
      Step machine config (.acts thread answer)
        (config.moved thread (some (job, next value)) after)
  | nests {config : Config Op σ Thread Job} {thread : Thread} {job : Job} {β : Type}
      {operation : Op β} {next : β → Task Op σ} {call : Call}
      (works : config.working thread = some (job, .call operation next))
      (allowed : machine.nests operation call) :
      Step machine config (.nests thread call)
        (config.moved thread (some (job, nestedIn (machine.body call) operation next))
          config.shared)
  | ends {config : Config Op σ Thread Job} {thread : Thread} {job : Job} {finish : σ → σ}
      (works : config.working thread = some (job, .ret finish)) :
      Step machine config (.ends thread) (config.moved thread none (finish config.shared))
  | happens {config : Config Op σ Thread Job} {event : Event} {after : σ}
      (happened : machine.happens event config.shared = some after) :
      Step machine config (.happens event) ⟨after, config.working⟩

/-! ### Reasoning thread by thread -/

/-- How a ghost moves with an instruction that a thread executes in a state. -/
abbrev Scribe (Op : Type → Type) (σ Thread ω : Type) := Thread → (β : Type) → Op β → σ → ω → ω

def observed {ω : Type} (scribe : Scribe Op σ Thread ω)
    (transition : Transition (Config Op σ Thread Job) (Action Answer Thread Job Call Event))
    (seen : ω) : ω :=
  match transition.label with
  | .acts thread _ =>
    match transition.before.working thread with
    | some (_, .call operation _) => scribe thread _ operation transition.before.shared seen
    | _ => seen
  | _ => seen

/-- The ghost after a run. -/
def history {ω : Type} (scribe : Scribe Op σ Thread ω) (seen : ω)
    (transitions : List (Transition (Config Op σ Thread Job)
      (Action Answer Thread Job Call Event))) : ω :=
  transitions.foldl (fun seen transition => observed scribe transition seen) seen

omit [DecidableEq Thread] in
theorem history_append {ω : Type} (scribe : Scribe Op σ Thread ω) (seen : ω)
    (early late : List (Transition (Config Op σ Thread Job)
      (Action Answer Thread Job Call Event))) :
    history scribe seen (early ++ late) = history scribe (history scribe seen early) late :=
  List.foldl_append

/-- Two ghosts side by side. -/
def beside {ω ψ : Type} (first : Scribe Op σ Thread ω) (second : Scribe Op σ Thread ψ) :
    Scribe Op σ Thread (ω × ψ) :=
  fun thread β operation state seen =>
    (first thread β operation state seen.1, second thread β operation state seen.2)

omit [DecidableEq Thread] in
theorem history_beside {ω ψ : Type} (first : Scribe Op σ Thread ω) (second : Scribe Op σ Thread ψ)
    (seen : ω × ψ) (transitions : List (Transition (Config Op σ Thread Job)
      (Action Answer Thread Job Call Event))) :
    history (beside first second) seen transitions =
      (history first seen.1 transitions, history second seen.2 transitions) := by
  induction transitions generalizing seen with
  | nil => rfl
  | cons transition transitions ih =>
    have moved : observed (beside first second) transition seen =
        (observed first transition seen.1, observed second transition seen.2) := by
      unfold observed
      split
      · split <;> rfl
      · rfl
    simp only [history, List.foldl_cons] at ih ⊢
    rw [moved, ih]

/-- A claim about the instruction that a transition executes and the state it finds. -/
def executing (claim : Thread → (β : Type) → Op β → σ → Bool)
    (transition : Transition (Config Op σ Thread Job) (Action Answer Thread Job Call Event)) : Bool :=
  match transition.label with
  | .acts thread _ =>
    match transition.before.working thread with
    | some (_, .call operation _) => claim thread _ operation transition.before.shared
    | _ => true
  | _ => true

omit [DecidableEq Thread] in
theorem executing_acts {claim : Thread → (β : Type) → Op β → σ → Bool} {thread : Thread} {job : Job}
    {β : Type} {operation : Op β} {next : β → Task Op σ} {answer : Answer}
    {config after : Config Op σ Thread Job}
    (works : config.working thread = some (job, .call operation next)) :
    executing claim (⟨config, .acts thread answer, after⟩ :
      Transition (Config Op σ Thread Job) (Action Answer Thread Job Call Event)) =
        claim thread β operation config.shared := by
  simp only [executing, works]

/-- Each transition of a run meets a claim about it and the ghost before it. -/
def Along {ω : Type} (scribe : Scribe Op σ Thread ω)
    (claim : ω → Transition (Config Op σ Thread Job) (Action Answer Thread Job Call Event) → Prop) :
    ω → List (Transition (Config Op σ Thread Job) (Action Answer Thread Job Call Event)) → Prop
  | _, [] => True
  | seen, transition :: transitions =>
    claim seen transition ∧ Along scribe claim (observed scribe transition seen) transitions

instance Along.decidable {ω : Type} (scribe : Scribe Op σ Thread ω)
    (claim : ω → Transition (Config Op σ Thread Job) (Action Answer Thread Job Call Event) → Prop)
    [decides : ∀ seen transition, Decidable (claim seen transition)] (seen : ω) :
    (transitions : List (Transition (Config Op σ Thread Job)
      (Action Answer Thread Job Call Event))) → Decidable (Along scribe claim seen transitions)
  | [] => isTrue trivial
  | transition :: transitions =>
    have := Along.decidable scribe claim (observed scribe transition seen) transitions
    inferInstanceAs (Decidable (claim seen transition ∧ _))

omit [DecidableEq Thread] in
theorem Along.always {ω : Type} {scribe : Scribe Op σ Thread ω}
    {claim : ω → Transition (Config Op σ Thread Job) (Action Answer Thread Job Call Event) → Prop}
    {seen : ω} {transitions : List (Transition (Config Op σ Thread Job)
      (Action Answer Thread Job Call Event))} (along : Along scribe claim seen transitions) :
    Always (fun earlier => claim (history scribe seen earlier)) transitions := by
  induction transitions generalizing seen with
  | nil => exact .nil
  | cons transition transitions ih =>
    intro earlier entry later parts
    cases earlier with
    | nil =>
      cases parts
      exact along.1
    | cons first earlier =>
      cases parts
      exact ih along.2 earlier entry later rfl

/-- How threads move through their places, how they may end, and what the places promise of the
shared state and the ghost. -/
structure Discipline (Op : Type → Type) (σ ω Thread π : Type) where
  idle : π
  protocol : Thread → Transformer Op π
  ended : Thread → (σ → σ) → π → Prop
  scribe : Scribe Op σ Thread ω
  joint : σ → ω → (Thread → π) → Prop

/-- The rest of a task keeps to the protocol from a place on. -/
def Discipline.Keeps {ω π : Type} (discipline : Discipline Op σ ω Thread π) (thread : Thread)
    (task : Task Op σ) (place : π) : Prop :=
  task.wp (discipline.protocol thread)
    (Program.andThen (discipline.ended thread) (fun _ _ => False)) place

structure Guided {ω π : Type} (discipline : Discipline Op σ ω Thread π)
    (config : Config Op σ Thread Job) (seen : ω) (places : Thread → π) : Prop where
  joint : discipline.joint config.shared seen places
  resting : ∀ thread, config.working thread = none → places thread = discipline.idle
  working : ∀ thread job task, config.working thread = some (job, task) →
    discipline.Keeps thread task (places thread)

section

variable {ω π : Type} {discipline : Discipline Op σ ω Thread π}
  {machine : Machine Op Answer σ Thread Job Call Event}
  {config : Config Op σ Thread Job} {seen : ω} {places : Thread → π}

theorem Guided.moved (guided : Guided discipline config seen places) {thread : Thread}
    {work : Option (Job × Task Op σ)} {shared : σ} {seenAfter : ω} {place : π}
    (joint : discipline.joint shared seenAfter (Function.update places thread place))
    (resting : work = none → place = discipline.idle)
    (working : ∀ job task, work = some (job, task) → discipline.Keeps thread task place) :
    Guided discipline (config.moved thread work shared) seenAfter
      (Function.update places thread place) := by
  refine ⟨joint, fun other idle => ?_, fun other job task works => ?_⟩
  · by_cases same : other = thread
    · subst same
      rw [Config.moved_working, Function.update_self] at idle
      rw [Function.update_self]
      exact resting idle
    · rw [Config.moved_working, Function.update_of_ne same] at idle
      rw [Function.update_of_ne same]
      exact guided.resting other idle
  · by_cases same : other = thread
    · subst same
      rw [Config.moved_working, Function.update_self] at works
      rw [Function.update_self]
      exact working job task works
    · rw [Config.moved_working, Function.update_of_ne same] at works
      rw [Function.update_of_ne same]
      exact guided.working other job task works

/-- What one instruction, job, call or event must preserve, if the transition is allowed where the
ghost is. -/
structure Respects (machine : Machine Op Answer σ Thread Job Call Event)
    (discipline : Discipline Op σ ω Thread π)
    (allowed : ω → Transition (Config Op σ Thread Job) (Action Answer Thread Job Call Event) → Prop) :
    Prop where
  monotone : ∀ thread, (discipline.protocol thread).Monotone
  begins : ∀ {config : Config Op σ Thread Job} {seen : ω} {places : Thread → π} {thread : Thread}
    {job : Job} {after : σ} {task : Task Op σ}, Guided discipline config seen places →
    config.working thread = none → machine.begins thread job config.shared = some (after, task) →
    allowed seen ⟨config, .begins thread job, config.moved thread (some (job, task)) after⟩ →
    ∃ place, discipline.Keeps thread task place ∧
      discipline.joint after seen (Function.update places thread place)
  acts : ∀ {config : Config Op σ Thread Job} {seen : ω} {places : Thread → π} {thread : Thread}
    {job : Job} {β : Type} {operation : Op β} {next : β → Task Op σ} {answer : Answer} {value : β}
    {after : σ}, Guided discipline config seen places →
    config.working thread = some (job, .call operation next) →
    (machine.semantics thread).step operation answer config.shared = some (value, after) →
    allowed seen ⟨config, .acts thread answer, config.moved thread (some (job, next value)) after⟩ →
    ∀ post : β → π → Prop, discipline.protocol thread β operation post (places thread) →
      ∃ place, post value place ∧
        discipline.joint after (discipline.scribe thread β operation config.shared seen)
          (Function.update places thread place)
  nests : ∀ {config : Config Op σ Thread Job} {seen : ω} {places : Thread → π} {thread : Thread}
    {job : Job} {β : Type} {operation : Op β} {next : β → Task Op σ} {call : Call},
    Guided discipline config seen places →
    config.working thread = some (job, .call operation next) → machine.nests operation call →
    allowed seen ⟨config, .nests thread call,
      config.moved thread (some (job, nestedIn (machine.body call) operation next))
        config.shared⟩ →
    ∀ post : β → π → Prop, discipline.protocol thread β operation post (places thread) →
      (machine.body call).wp (discipline.protocol thread)
        (fun _ place => discipline.protocol thread β operation post place) (places thread)
  ends : ∀ {config : Config Op σ Thread Job} {seen : ω} {places : Thread → π} {thread : Thread}
    {job : Job} {finish : σ → σ}, Guided discipline config seen places →
    config.working thread = some (job, .ret finish) →
    allowed seen ⟨config, .ends thread, config.moved thread none (finish config.shared)⟩ →
    discipline.ended thread finish (places thread) →
    discipline.joint (finish config.shared) seen (Function.update places thread discipline.idle)
  happens : ∀ {config : Config Op σ Thread Job} {seen : ω} {places : Thread → π} {event : Event}
    {after : σ}, Guided discipline config seen places →
    machine.happens event config.shared = some after →
    allowed seen ⟨config, .happens event, ⟨after, config.working⟩⟩ → discipline.joint after seen places

variable
  {allowed : ω → Transition (Config Op σ Thread Job) (Action Answer Thread Job Call Event) → Prop}

theorem Respects.step (respects : Respects machine discipline allowed)
    (guided : Guided discipline config seen places) {action : Action Answer Thread Job Call Event}
    {after : Config Op σ Thread Job} (stepped : machine.Step config action after)
    (may : allowed seen ⟨config, action, after⟩) :
    ∃ moved, Guided discipline after (observed discipline.scribe ⟨config, action, after⟩ seen)
      moved := by
  cases stepped with
  | begins idle begun =>
    obtain ⟨place, keeps, joint⟩ := respects.begins guided idle begun may
    refine ⟨_, guided.moved joint (fun none => by cases none) fun job task works => ?_⟩
    cases works
    exact keeps
  | acts works stepped =>
    have kept := guided.working _ _ _ works
    obtain ⟨place, keeps, joint⟩ := respects.acts guided works stepped may _ kept
    simp only [observed, works]
    refine ⟨_, guided.moved joint (fun none => by cases none) fun job task works => ?_⟩
    cases works
    exact keeps
  | @nests thread job β operation next call works allowed =>
    have kept := guided.working _ _ _ works
    have inner := respects.nests guided works allowed may _ kept
    have joint : discipline.joint config.shared seen
        (Function.update places thread (places thread)) := by
      rw [Function.update_eq_self]
      exact guided.joint
    refine ⟨_, guided.moved joint (fun none => by cases none) fun job task works => ?_⟩
    cases works
    unfold Discipline.Keeps nestedIn
    rw [Program.wp_settle]
    exact inner
  | ends works =>
    have ended := guided.working _ _ _ works
    have joint := respects.ends guided works may ended
    exact ⟨_, guided.moved joint (fun _ => rfl) fun job task works => by cases works⟩
  | happens happened =>
    exact ⟨places, respects.happens guided happened may, guided.resting, guided.working⟩

/-- Along a run of allowed transitions the threads are always at places that fit together. -/
theorem Respects.run (respects : Respects machine discipline allowed)
    (guided : Guided discipline config seen places)
    {transitions : List (Transition (Config Op σ Thread Job)
      (Action Answer Thread Job Call Event))}
    {last : Config Op σ Thread Job} (run : Run machine.Step config transitions last)
    (every : Always (fun earlier => allowed (history discipline.scribe seen earlier)) transitions) :
    ∃ moved, Guided discipline last (history discipline.scribe seen transitions) moved := by
  induction run with
  | nil => exact ⟨places, guided⟩
  | @snoc transitions middle last label before taken ih =>
    obtain ⟨moved, sofar⟩ := ih every.front
    rw [history_append]
    exact respects.step sofar taken every.last

/-- Every transition of such a run starts where the places fit together. -/
theorem Respects.always (respects : Respects machine discipline allowed)
    (guided : Guided discipline config seen places)
    {transitions : List (Transition (Config Op σ Thread Job)
      (Action Answer Thread Job Call Event))}
    {last : Config Op σ Thread Job} (run : Run machine.Step config transitions last)
    (every : Always (fun earlier => allowed (history discipline.scribe seen earlier)) transitions) :
    Always (fun earlier transition => ∃ moved,
      Guided discipline transition.before (history discipline.scribe seen earlier) moved)
      transitions := by
  rintro earlier transition later rfl
  exact respects.run guided run.split.1 every.front

omit [DecidableEq Thread] in
/-- Before anything has begun every thread is at the idle place. -/
theorem Guided.start {shared : σ}
    (joint : discipline.joint shared seen (fun _ => discipline.idle)) :
    Guided discipline (⟨shared, fun _ => none⟩ : Config Op σ Thread Job) seen
      (fun _ => discipline.idle) :=
  ⟨joint, fun _ _ => rfl, fun _ _ _ works => by cases works⟩

end

/-! ### One thread at a time -/

theorem Config.moved_moved (config : Config Op σ Thread Job) (thread : Thread)
    (first second : Option (Job × Task Op σ)) (early late : σ) :
    (config.moved thread first early).moved thread second late =
      config.moved thread second late := by
  unfold moved
  rw [Function.update_idem]

/-- What a thread can execute alone it can execute while the other threads wait. -/
theorem Exec.reachable {machine : Machine Op Answer σ Thread Job Call Event} {thread : Thread}
    {nesting : Nesting Op σ}
    (nests : ∀ {β : Type} (operation : Op β) (state : σ) (inner : Program Op Unit),
      nesting β operation state inner → ∃ call, machine.nests operation call ∧
        inner = machine.body call)
    {α : Type} {program : Program Op α} {state final : σ} {outcome : Outcome α}
    (exec : Exec (machine.semantics thread) nesting program state outcome final)
    (config : Config Op σ Thread Job) (job : Job) (rest : Outcome α → Task Op σ) :
    Reachable machine.Step (config.moved thread (some (job, program.settle rest)) state)
      (config.moved thread (some (job, rest outcome)) final) := by
  -- The induction is on the execution; a nested call becomes a part of the task around it.
  induction exec with
  | ret value state => exact .refl
  | throw what state => exact .refl
  | @call α β operation next answer state after final value outcome stepped _ ih =>
    let here := config.moved thread (some (job, (Program.call operation next).settle rest)) state
    have works : here.working thread =
        some (job, .call operation fun answer => (next answer).settle rest) :=
      Function.update_self _ _ _
    have acted : machine.Step here (.acts thread answer)
        (here.moved thread (some (job, (next value).settle rest)) after) := .acts works stepped
    rw [Config.moved_moved] at acted
    exact (Reachable.refl.snoc acted).trans (ih rest)
  | @nested α β operation next inner state after final ended outcome allowed _ _ innerIh restIh =>
    obtain ⟨call, may, rfl⟩ := nests operation state inner allowed
    let here := config.moved thread (some (job, (Program.call operation next).settle rest)) state
    have entered : machine.Step here (.nests thread call)
        (here.moved thread (some (job, (machine.body call).settle
          fun _ => (Program.call operation next).settle rest)) state) :=
      .nests (Function.update_self _ _ _) may
    rw [Config.moved_moved] at entered
    exact ((Reachable.refl.snoc entered).trans (innerIh _)).trans (restIh rest)

/-! ### Computing steps -/

section

variable (machine : Machine Op Answer σ Thread Job Call Event)
  [nestable : ∀ (β : Type) (operation : Op β) (call : Call), Decidable (machine.nests operation call)]

def Machine.advance (config : Config Op σ Thread Job) :
    Action Answer Thread Job Call Event → Option (Config Op σ Thread Job)
  | .begins thread job =>
    match config.working thread, machine.begins thread job config.shared with
    | none, some (after, task) => some (config.moved thread (some (job, task)) after)
    | _, _ => none
  | .acts thread answer =>
    match config.working thread with
    | some (job, .call operation next) =>
      match (machine.semantics thread).step operation answer config.shared with
      | some (value, after) => some (config.moved thread (some (job, next value)) after)
      | none => none
    | _ => none
  | .nests thread call =>
    match config.working thread with
    | some (job, .call operation next) =>
      if machine.nests operation call then
        some (config.moved thread (some (job, nestedIn (machine.body call) operation next))
          config.shared)
      else none
    | _ => none
  | .ends thread =>
    match config.working thread with
    | some (_, .ret finish) => some (config.moved thread none (finish config.shared))
    | _ => none
  | .happens event =>
    match machine.happens event config.shared with
    | some after => some ⟨after, config.working⟩
    | none => none

theorem Machine.advance_step {config after : Config Op σ Thread Job}
    {action : Action Answer Thread Job Call Event}
    (advanced : machine.advance config action = some after) : machine.Step config action after := by
  cases action with
  | begins thread job =>
    simp only [advance] at advanced
    split at advanced
    · next idle begun =>
      cases advanced
      exact .begins idle begun
    · cases advanced
  | acts thread answer =>
    simp only [advance] at advanced
    split at advanced
    · next works =>
      split at advanced
      · next stepped =>
        cases advanced
        exact .acts works stepped
      · cases advanced
    · cases advanced
  | nests thread call =>
    simp only [advance] at advanced
    split at advanced
    · next works =>
      split at advanced
      · next allowed =>
        cases advanced
        exact .nests works allowed
      · cases advanced
    · cases advanced
  | ends thread =>
    simp only [advance] at advanced
    split at advanced
    · next works =>
      cases advanced
      exact .ends works
    · cases advanced
  | happens event =>
    simp only [advance] at advanced
    split at advanced
    · next happened =>
      cases advanced
      exact .happens happened
    · cases advanced

end

end OpenDTP.Effects
