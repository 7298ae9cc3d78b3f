import Mathlib.Logic.Basic

/-! Programs over an instruction set, as trees: a program returns, throws, or issues one
instruction and continues with the answer. Exceptions carry their message. A predicate
transformer for single instructions extends to programs, so one rule set serves every
reading of the instructions. -/

namespace OpenDTP.Effects

inductive Program (Op : Type → Type) (α : Type) : Type 1 where
  | ret (value : α) : Program Op α
  | throw (what : String) : Program Op α
  | call {β : Type} (operation : Op β) (next : β → Program Op α) : Program Op α

/-- How a program ends: with a value, or by an exception that leaves it. -/
abbrev Outcome (α : Type) := Except String α

namespace Program

variable {Op : Type → Type} {α β σ : Type}

def bind (program : Program Op α) (rest : α → Program Op β) : Program Op β :=
  match program with
  | .ret value => rest value
  | .throw what => .throw what
  | .call operation next => .call operation (fun answer => (next answer).bind rest)

instance : Monad (Program Op) where
  pure := .ret
  bind := bind

/-- A single instruction as a program. -/
def perform (operation : Op α) : Program Op α := .call operation .ret

/-- Runs a program and hands its outcome on as a value; no exception leaves it. -/
def attempt : Program Op α → Program Op (Outcome α)
  | .ret value => .ret (.ok value)
  | .throw what => .ret (.error what)
  | .call operation next => .call operation (fun answer => (next answer).attempt)

def ofOutcome : Outcome α → Program Op α
  | .ok value => .ret value
  | .error what => .throw what

def tryCatch (program : Program Op α) (handler : String → Program Op α) : Program Op α := do
  match ← program.attempt with
  | .ok value => .ret value
  | .error what => handler what

end Program

/-- What must hold before one instruction for `post` to hold of its answer and the state after. -/
abbrev Transformer (Op : Type → Type) (σ : Type) :=
  (β : Type) → Op β → (β → σ → Prop) → σ → Prop

def Transformer.Monotone {Op : Type → Type} {σ : Type} (transformer : Transformer Op σ) : Prop :=
  ∀ {β : Type} (operation : Op β) {first second : β → σ → Prop},
    (∀ answer state, first answer state → second answer state) →
      ∀ state, transformer β operation first state → transformer β operation second state

namespace Program

variable {Op : Type → Type} {α β σ : Type} {transformer : Transformer Op σ}

def wp (transformer : Transformer Op σ) :
    Program Op α → (Outcome α → σ → Prop) → σ → Prop
  | .ret value, post, state => post (.ok value) state
  | .throw what, post, state => post (.error what) state
  | .call operation next, post, state =>
      transformer _ operation (fun answer after => (next answer).wp transformer post after) state

/-- The condition on a first part when `rest` continues after a value and `post` after an exception. -/
def andThen (rest : α → σ → Prop) (failed : String → σ → Prop) : Outcome α → σ → Prop
  | .ok value, state => rest value state
  | .error what, state => failed what state

@[simp] theorem andThen_ok (rest : α → σ → Prop) (failed : String → σ → Prop) (value : α)
    (state : σ) : andThen rest failed (.ok value) state = rest value state := rfl

@[simp] theorem andThen_error (rest : α → σ → Prop) (failed : String → σ → Prop) (what : String)
    (state : σ) : andThen rest failed (.error what) state = failed what state := rfl

theorem andThen_trivial (outcome : Outcome α) (state : σ) :
    andThen (fun _ _ => True) (fun _ _ => True) outcome state := by
  cases outcome <;> trivial

@[simp] theorem wp_ret (value : α) (post : Outcome α → σ → Prop) (state : σ) :
    (Program.ret value : Program Op α).wp transformer post state = post (.ok value) state := rfl

@[simp] theorem wp_pure (value : α) (post : Outcome α → σ → Prop) (state : σ) :
    (pure value : Program Op α).wp transformer post state = post (.ok value) state := rfl

@[simp] theorem wp_throw (what : String) (post : Outcome α → σ → Prop) (state : σ) :
    (Program.throw what : Program Op α).wp transformer post state = post (.error what) state := rfl

@[simp] theorem wp_perform (operation : Op α) (post : Outcome α → σ → Prop) (state : σ) :
    (perform operation).wp transformer post state =
      transformer _ operation (fun answer after => post (.ok answer) after) state := rfl

@[simp] theorem wp_bind (program : Program Op α) (rest : α → Program Op β)
    (post : Outcome β → σ → Prop) (state : σ) :
    (program >>= rest).wp transformer post state =
      program.wp transformer
        (andThen (fun value after => (rest value).wp transformer post after)
          (fun what after => post (.error what) after)) state := by
  induction program generalizing state with
  | ret value => rfl
  | throw what => rfl
  | call operation next ih =>
    change transformer _ operation
      (fun answer after => ((next answer) >>= rest).wp transformer post after) state = _
    have same := funext (fun answer => funext (fun after => ih answer after))
    rw [same]
    rfl

@[simp] theorem wp_map (program : Program Op α) (change : α → β)
    (post : Outcome β → σ → Prop) (state : σ) :
    (change <$> program).wp transformer post state =
      program.wp transformer
        (andThen (fun value after => post (.ok (change value)) after)
          (fun what after => post (.error what) after)) state :=
  wp_bind program (fun value => .ret (change value)) post state

@[simp] theorem wp_attempt (program : Program Op α) (post : Outcome (Outcome α) → σ → Prop)
    (state : σ) :
    program.attempt.wp transformer post state =
      program.wp transformer (fun outcome after => post (.ok outcome) after) state := by
  induction program generalizing state with
  | ret value => rfl
  | throw what => rfl
  | call operation next ih =>
    change transformer _ operation
      (fun answer after => (next answer).attempt.wp transformer post after) state = _
    have same := funext (fun answer => funext (fun after => ih answer after))
    rw [same]
    rfl

@[simp] theorem wp_ofOutcome (outcome : Outcome α) (post : Outcome α → σ → Prop) (state : σ) :
    (ofOutcome outcome : Program Op α).wp transformer post state = post outcome state := by
  cases outcome <;> rfl

@[simp] theorem wp_tryCatch (program : Program Op α) (handler : String → Program Op α)
    (post : Outcome α → σ → Prop) (state : σ) :
    (program.tryCatch handler).wp transformer post state =
      program.wp transformer
        (andThen (fun value after => post (.ok value) after)
          (fun what after => (handler what).wp transformer post after)) state := by
  unfold tryCatch
  rw [wp_bind, wp_attempt]
  congr 1
  funext outcome after
  cases outcome <;> rfl

theorem wp_ite (condition : Prop) [Decidable condition] (yes no : Program Op α)
    (post : Outcome α → σ → Prop) (state : σ) :
    (if condition then yes else no).wp transformer post state =
      if condition then yes.wp transformer post state else no.wp transformer post state := by
  split <;> rfl

theorem wp_mono (monotone : transformer.Monotone) (program : Program Op α)
    {first second : Outcome α → σ → Prop}
    (weaker : ∀ outcome state, first outcome state → second outcome state) (state : σ)
    (holds : program.wp transformer first state) : program.wp transformer second state := by
  induction program generalizing state with
  | ret value => exact weaker _ _ holds
  | throw what => exact weaker _ _ holds
  | call operation next ih =>
    exact monotone operation (fun answer after => ih answer after) state holds

/-- From any state of one class the program ends in another, however it ends. -/
def Leads (transformer : Transformer Op σ) (before after : σ → Prop) (program : Program Op α) : Prop :=
  ∀ (post : Outcome α → σ → Prop) (state : σ), before state →
    (∀ outcome final, after final → post outcome final) → program.wp transformer post state

/-- From any state of a class the program ends in the class. -/
abbrev Stays (transformer : Transformer Op σ) (within : σ → Prop) (program : Program Op α) : Prop :=
  program.Leads transformer within within

/-- One instruction leads from a class back into the class. -/
def Steady (transformer : Transformer Op σ) (within : σ → Prop) (operation : Op β) : Prop :=
  ∀ (post : β → σ → Prop) (state : σ), within state →
    (∀ answer after, within after → post answer after) → transformer β operation post state

theorem Leads.bind {before middle after : σ → Prop} {program : Program Op α}
    {rest : α → Program Op β} (first : program.Leads transformer before middle)
    (next : ∀ value, (rest value).Leads transformer middle after)
    (failed : ∀ state, middle state → after state) :
    (program >>= rest).Leads transformer before after := by
  intro post state here holds
  rw [wp_bind]
  refine first _ state here fun outcome there within => ?_
  cases outcome with
  | ok value => exact next value post there within holds
  | error what => exact holds (.error what) there (failed there within)

theorem Leads.attempt {before after : σ → Prop} {program : Program Op α}
    (leads : program.Leads transformer before after) :
    program.attempt.Leads transformer before after := by
  intro post state here holds
  rw [wp_attempt]
  exact leads _ state here fun outcome => holds (.ok outcome)

namespace Stays

variable {within : σ → Prop}

theorem ret (value : α) : (Program.ret value : Program Op α).Stays transformer within :=
  fun _ state here holds => holds _ state here

theorem throw (what : String) : (Program.throw what : Program Op α).Stays transformer within :=
  fun _ state here holds => holds _ state here

theorem perform {operation : Op β} (steady : Steady transformer within operation) :
    (Program.perform operation).Stays transformer within :=
  fun _ state here holds => steady _ state here fun answer => holds (.ok answer)

theorem bind {program : Program Op α} {rest : α → Program Op β}
    (first : program.Stays transformer within)
    (next : ∀ value, (rest value).Stays transformer within) :
    (program >>= rest).Stays transformer within := Leads.bind first next fun _ => id

theorem attempt {program : Program Op α} (stays : program.Stays transformer within) :
    program.attempt.Stays transformer within := Leads.attempt stays

theorem ofOutcome (outcome : Outcome α) :
    (Program.ofOutcome outcome : Program Op α).Stays transformer within := by
  cases outcome with
  | ok value => exact .ret value
  | error what => exact .throw what

theorem tryCatch {program : Program Op α} {handler : String → Program Op α}
    (first : program.Stays transformer within)
    (caught : ∀ what, (handler what).Stays transformer within) :
    (program.tryCatch handler).Stays transformer within := by
  refine .bind first.attempt fun outcome => ?_
  cases outcome with
  | ok value => exact .ret value
  | error what => exact caught what

end Stays

/-- From any state of one class the program returns in another, or an exception leaves it in a
third. -/
def Ends (transformer : Transformer Op σ) (before after failed : σ → Prop) (program : Program Op α) :
    Prop :=
  ∀ (post : Outcome α → σ → Prop) (state : σ), before state →
    (∀ value final, after final → post (.ok value) final) →
    (∀ what final, failed final → post (.error what) final) → program.wp transformer post state

namespace Ends

variable {before middle after failed : σ → Prop}

theorem ret (value : α) (there : ∀ state, before state → after state) :
    (Program.ret value : Program Op α).Ends transformer before after failed :=
  fun _ state here holds _ => holds value state (there state here)

theorem perform {operation : Op β}
    (steps : ∀ (post : β → σ → Prop) (state : σ), before state →
      (∀ answer final, after final → post answer final) → transformer β operation post state) :
    (Program.perform operation).Ends transformer before after failed :=
  fun _ state here holds _ => steps _ state here holds

theorem bind {program : Program Op α} {rest : α → Program Op β}
    (first : program.Ends transformer before middle failed)
    (next : ∀ value, (rest value).Ends transformer middle after failed) :
    (program >>= rest).Ends transformer before after failed := by
  intro post state here holds fails
  rw [wp_bind]
  exact first _ state here (fun value there within => next value post there within holds fails) fails

theorem weaken {earlier later broken : σ → Prop} {program : Program Op α}
    (ends : program.Ends transformer before after failed)
    (start : ∀ state, earlier state → before state) (finish : ∀ state, after state → later state)
    (fall : ∀ state, failed state → broken state) :
    program.Ends transformer earlier later broken :=
  fun post state here holds fails => ends post state (start state here)
    (fun value final within => holds value final (finish final within))
    fun what final within => fails what final (fall final within)

theorem tryCatch {program : Program Op α} {handler : String → Program Op α}
    (first : program.Ends transformer before after middle)
    (caught : ∀ what, (handler what).Ends transformer middle after failed) :
    (program.tryCatch handler).Ends transformer before after failed := by
  intro post state here holds fails
  rw [wp_tryCatch]
  exact first _ state here holds fun what there within => caught what post there within holds fails

end Ends

/-- Every instruction that the program can come to issue is allowed, whatever was answered. -/
def issuing (allowed : (β : Type) → Op β → Prop) : Transformer Op Unit :=
  fun β operation post state => allowed β operation ∧ ∀ answer, post answer state

def Issues (allowed : (β : Type) → Op β → Prop) (program : Program Op α) : Prop :=
  program.wp (issuing allowed) (fun _ _ => True) ()

theorem issuing_monotone (allowed : (β : Type) → Op β → Prop) :
    Transformer.Monotone (issuing allowed) := by
  intro β operation first second weaker state holds
  exact ⟨holds.1, fun answer => weaker _ _ (holds.2 answer)⟩

namespace Issues

variable {allowed : (β : Type) → Op β → Prop}

theorem mono {wider : (β : Type) → Op β → Prop}
    (weaker : ∀ {β : Type} (operation : Op β), allowed β operation → wider β operation)
    {program : Program Op α} (issues : program.Issues allowed) : program.Issues wider := by
  induction program with
  | ret value => trivial
  | throw what => trivial
  | call operation next ih => exact ⟨weaker operation issues.1, fun answer => ih answer (issues.2 answer)⟩

theorem bind {program : Program Op α} {rest : α → Program Op β} (first : program.Issues allowed)
    (next : ∀ value, (rest value).Issues allowed) : (program >>= rest).Issues allowed := by
  unfold Issues
  rw [wp_bind]
  apply wp_mono (issuing_monotone allowed) program _ _ first
  intro outcome _ _
  cases outcome with
  | ok value => exact next value
  | error what => trivial

theorem tryCatch {program : Program Op α} {handler : String → Program Op α}
    (first : program.Issues allowed) (caught : ∀ what, (handler what).Issues allowed) :
    (program.tryCatch handler).Issues allowed := by
  unfold Issues
  rw [wp_tryCatch]
  apply wp_mono (issuing_monotone allowed) program _ _ first
  intro outcome _ _
  cases outcome with
  | ok value => trivial
  | error what => exact caught what

theorem attempt {program : Program Op α} (first : program.Issues allowed) :
    program.attempt.Issues allowed := by
  unfold Issues
  rw [wp_attempt]
  exact wp_mono (issuing_monotone allowed) program (fun _ _ _ => trivial) _ first

theorem perform {operation : Op α} (holds : allowed α operation) :
    (Program.perform operation).Issues allowed := ⟨holds, fun _ => trivial⟩

theorem pure (value : α) : (Pure.pure value : Program Op α).Issues allowed := trivial

theorem ofOutcome (outcome : Outcome α) :
    (Program.ofOutcome outcome : Program Op α).Issues allowed := by
  cases outcome <;> trivial

/-- What issues only steady instructions stays. -/
theorem stays {within : σ → Prop}
    (steady : ∀ {β : Type} (operation : Op β), allowed β operation → Steady transformer within operation)
    {program : Program Op α} (issues : program.Issues allowed) :
    program.Stays transformer within := by
  induction program with
  | ret value => exact .ret value
  | throw what => exact .throw what
  | call operation next ih =>
    exact fun post state here holds => steady operation issues.1 _ state here fun answer after there =>
      ih answer (issues.2 answer) post after there holds

end Issues

/-- Whatever the program does from a state is among what `summary` allows there. -/
def Within (transformer : Transformer Op σ) (program : Program Op α)
    (summary : σ → Outcome α → σ → Prop) (state : σ) : Prop :=
  program.wp transformer (summary state) state

/-- A caller uses a summary in place of the program it summarizes. -/
theorem Within.wp (monotone : transformer.Monotone) {program : Program Op α}
    {summary : σ → Outcome α → σ → Prop} {state : σ}
    (within : program.Within transformer summary state) {post : Outcome α → σ → Prop}
    (covered : ∀ outcome after, summary state outcome after → post outcome after) :
    program.wp transformer post state :=
  wp_mono monotone program covered state within

end Program

end OpenDTP.Effects
