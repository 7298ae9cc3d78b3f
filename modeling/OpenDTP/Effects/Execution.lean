import OpenDTP.Effects.Program

/-! Running one program alone. Every instruction is a partial function of an environment
answer and the state, so a fixed list of answers makes a run computable. At some instructions
whole programs may run before the instruction itself completes, which models calls made from
inside a callback. -/

namespace OpenDTP.Effects

/-- The meaning of single instructions; `none` means the instruction cannot complete here. -/
structure Semantics (Op : Type → Type) (Answer σ : Type) where
  step : {β : Type} → Op β → Answer → σ → Option (β × σ)

/-- The programs that may run inside an instruction that is in progress. -/
abbrev Nesting (Op : Type → Type) (σ : Type) :=
  (β : Type) → Op β → σ → Program Op Unit → Prop

variable {Op : Type → Type} {Answer σ α : Type}

inductive Exec (semantics : Semantics Op Answer σ) (nesting : Nesting Op σ) :
    {α : Type} → Program Op α → σ → Outcome α → σ → Prop where
  | ret {α : Type} (value : α) (state : σ) :
      Exec semantics nesting (.ret value) state (.ok value) state
  | throw {α : Type} (what : String) (state : σ) :
      Exec semantics nesting (.throw what : Program Op α) state (.error what) state
  | call {α β : Type} {operation : Op β} {next : β → Program Op α} {answer : Answer}
      {state after final : σ} {value : β} {outcome : Outcome α}
      (stepped : semantics.step operation answer state = some (value, after))
      (rest : Exec semantics nesting (next value) after outcome final) :
      Exec semantics nesting (.call operation next) state outcome final
  | nested {α β : Type} {operation : Op β} {next : β → Program Op α}
      {inner : Program Op Unit} {state after final : σ} {ended : Outcome Unit}
      {outcome : Outcome α} (allowed : nesting β operation state inner)
      (first : Exec semantics nesting inner state ended after)
      (rest : Exec semantics nesting (.call operation next) after outcome final) :
      Exec semantics nesting (.call operation next) state outcome final

/-- What the programs nested inside an instruction may do to the state, taken together. -/
abbrev Interference (Op : Type → Type) (σ : Type) := (β : Type) → Op β → σ → σ → Prop

def demonic (semantics : Semantics Op Answer σ) (interference : Interference Op σ) :
    Transformer Op σ := fun β operation post state =>
  ∀ between, interference β operation state between → ∀ answer value after,
    semantics.step operation answer between = some (value, after) → post value after

theorem demonic_monotone (semantics : Semantics Op Answer σ) (interference : Interference Op σ) :
    Transformer.Monotone (demonic semantics interference) := by
  intro β operation first second weaker state holds between reached answer value after stepped
  exact weaker _ _ (holds between reached answer value after stepped)

/-- An interference covers a nesting when every nested program, run anywhere, stays inside it. -/
structure Covers (semantics : Semantics Op Answer σ) (nesting : Nesting Op σ)
    (interference : Interference Op σ) : Prop where
  refl : ∀ {β : Type} (operation : Op β) (state : σ), interference β operation state state
  trans : ∀ {β : Type} (operation : Op β) (first second third : σ),
    interference β operation first second → interference β operation second third →
      interference β operation first third
  nested : ∀ {β : Type} (operation : Op β) (state : σ) (inner : Program Op Unit),
    nesting β operation state inner →
      inner.wp (demonic semantics interference)
        (fun _ after => interference β operation state after) state

/-- Soundness: the induction is on the execution, so nested programs are handled to any depth. -/
theorem Covers.sound {semantics : Semantics Op Answer σ} {nesting : Nesting Op σ}
    {interference : Interference Op σ} (covers : Covers semantics nesting interference)
    {program : Program Op α} {state final : σ} {outcome : Outcome α}
    (exec : Exec semantics nesting program state outcome final)
    (post : Outcome α → σ → Prop)
    (holds : program.wp (demonic semantics interference) post state) : post outcome final := by
  induction exec with
  | ret value state => exact holds
  | throw what state => exact holds
  | call stepped rest ih =>
    exact ih post (holds _ (covers.refl _ _) _ _ _ stepped)
  | nested allowed first rest innerIh restIh =>
    have moved := innerIh _ (covers.nested _ _ _ allowed)
    apply restIh post
    intro between reached
    exact holds between (covers.trans _ _ _ _ moved reached)

/-- A preorder that every instruction and all interference stay inside, every program stays inside. -/
theorem demonic_within {semantics : Semantics Op Answer σ} {interference : Interference Op σ}
    {related : σ → σ → Prop} (refl : ∀ state, related state state)
    (trans : ∀ first second third, related first second → related second third →
      related first third)
    (steps : ∀ {β : Type} (operation : Op β) answer state value after,
      semantics.step operation answer state = some (value, after) → related state after)
    (interferes : ∀ {β : Type} (operation : Op β) state between,
      interference β operation state between → related state between)
    (program : Program Op α) (state : σ) :
    program.Within (demonic semantics interference) (fun before _ after => related before after)
      state := by
  induction program generalizing state with
  | ret value => exact refl state
  | throw what => exact refl state
  | call operation next ih =>
    intro between reached answer value after stepped
    have sofar := trans _ _ _ (interferes operation state between reached)
      (steps operation answer between value after stepped)
    apply (ih value after).wp (demonic_monotone semantics interference)
    exact fun outcome final rest => trans _ _ _ sofar rest

theorem demonic_trivial {semantics : Semantics Op Answer σ} {interference : Interference Op σ}
    (program : Program Op α) (state : σ) :
    program.wp (demonic semantics interference) (fun _ _ => True) state :=
  demonic_within (fun _ => trivial) (fun _ _ _ _ _ => trivial) (fun _ _ _ _ _ _ => trivial)
    (fun _ _ _ _ => trivial) program state

/-- An invariant that all interference and the instructions a program issues keep, it keeps. -/
theorem demonic_keeps {semantics : Semantics Op Answer σ} {interference : Interference Op σ}
    {allowed : (β : Type) → Op β → Prop} {holds : σ → Prop}
    (steps : ∀ {β : Type} (operation : Op β) answer state value after, allowed β operation →
      holds state → semantics.step operation answer state = some (value, after) → holds after)
    (interferes : ∀ {β : Type} (operation : Op β) state between, holds state →
      interference β operation state between → holds between)
    (program : Program Op α) (issues : program.Issues allowed) {state : σ} (start : holds state) :
    program.wp (demonic semantics interference) (fun _ after => holds after) state := by
  induction program generalizing state with
  | ret value => exact start
  | throw what => exact start
  | call operation next ih =>
    intro between reached answer value after stepped
    have disturbed := interferes operation state between start reached
    exact ih value (issues.2 value) (steps operation answer between value after issues.1 disturbed
      stepped)

/-- No program runs inside an instruction. -/
def noNesting : Nesting Op σ := fun _ _ _ _ => False

def noInterference : Interference Op σ := fun _ _ before after => after = before

theorem noInterference_covers (semantics : Semantics Op Answer σ) :
    Covers semantics noNesting noInterference where
  refl := fun _ _ => rfl
  trans := fun _ _ _ _ first second => Eq.trans second first
  nested := fun _ _ _ allowed => False.elim allowed

/-- The transformer of programs that run undisturbed. -/
abbrev alone (semantics : Semantics Op Answer σ) : Transformer Op σ :=
  demonic semantics noInterference

@[simp] theorem alone_apply (semantics : Semantics Op Answer σ) {β : Type} (operation : Op β)
    (post : β → σ → Prop) (state : σ) :
    alone semantics β operation post state =
      ∀ answer value after, semantics.step operation answer state = some (value, after) →
        post value after := by
  simp only [demonic, noInterference, forall_eq]

theorem Exec.wp {semantics : Semantics Op Answer σ} {program : Program Op α} {state final : σ}
    {outcome : Outcome α} (exec : Exec semantics noNesting program state outcome final)
    {post : Outcome α → σ → Prop} (holds : program.wp (alone semantics) post state) :
    post outcome final :=
  (noInterference_covers semantics).sound exec post holds

/-- What goes on with the outcome of a program is executed behind it. -/
theorem Exec.join {semantics : Semantics Op Answer σ} {nesting : Nesting Op σ} {α β : Type}
    {program : Program Op α} {rest : Outcome α → Program Op β} {state middle final : σ}
    {ended : Outcome α} {outcome : Outcome β}
    (early : Exec semantics nesting program state ended middle)
    (late : Exec semantics nesting (rest ended) middle outcome final) :
    Exec semantics nesting (program.attempt >>= rest) state outcome final := by
  induction early with
  | ret value state => exact late
  | throw what state => exact late
  | call stepped _ ih => exact .call stepped (ih late)
  | nested allowed first _ _ ih => exact .nested allowed first (ih late)

/-- And the other way round. -/
theorem Exec.parts {semantics : Semantics Op Answer σ} {nesting : Nesting Op σ} {α β : Type}
    {program : Program Op α} {rest : Outcome α → Program Op β} {state final : σ}
    {outcome : Outcome β}
    (exec : Exec semantics nesting (program.attempt >>= rest) state outcome final) :
    ∃ ended middle, Exec semantics nesting program state ended middle ∧
      Exec semantics nesting (rest ended) middle outcome final := by
  have late {both : Program Op β} {ended : Outcome α} {state : σ} {outcome : Outcome β}
      (exec : Exec semantics nesting both state outcome final) (same : rest ended = both) :
      Exec semantics nesting (rest ended) state outcome final := by
    rw [same]
    exact exec
  generalize whole : program.attempt >>= rest = both at exec
  induction exec generalizing program with
  | ret value state =>
    cases program with
    | ret first => exact ⟨_, _, .ret first state, late (.ret value state) whole⟩
    | throw what => exact ⟨_, _, .throw what state, late (.ret value state) whole⟩
    | call operation next => cases whole
  | throw what state =>
    cases program with
    | ret first => exact ⟨_, _, .ret first state, late (.throw what state) whole⟩
    | throw other => exact ⟨_, _, .throw other state, late (.throw what state) whole⟩
    | call operation next => cases whole
  | call stepped after ih =>
    cases program with
    | ret first => exact ⟨_, _, .ret first _, late (.call stepped after) whole⟩
    | throw what => exact ⟨_, _, .throw what _, late (.call stepped after) whole⟩
    | call operation next =>
      cases whole
      obtain ⟨ended, middle, early, rest⟩ := ih late rfl
      exact ⟨ended, middle, .call stepped early, rest⟩
  | @nested _ _ operation _ _ _ _ _ _ _ allowed inner after _ ih =>
    cases program with
    | ret first => exact ⟨_, _, .ret first _, late (.nested allowed inner after) whole⟩
    | throw what => exact ⟨_, _, .throw what _, late (.nested allowed inner after) whole⟩
    | call _ next =>
      cases whole
      obtain ⟨ended, middle, early, rest⟩ :=
        ih late (rfl : (Program.call operation next).attempt >>= rest = _)
      exact ⟨ended, middle, .nested allowed inner early, rest⟩

namespace Program

/-- Runs a program under a fixed choice of environment answers, one for each instruction. -/
def run (semantics : Semantics Op Answer σ) (answers : {β : Type} → Op β → Answer) :
    Program Op α → σ → Option (Outcome α × σ)
  | .ret value, state => some (.ok value, state)
  | .throw what, state => some (.error what, state)
  | .call operation next, state =>
      match semantics.step operation (answers operation) state with
      | none => none
      | some (value, after) => (next value).run semantics answers after

theorem run_exec {semantics : Semantics Op Answer σ} {answers : {β : Type} → Op β → Answer}
    (nesting : Nesting Op σ) (program : Program Op α) {state final : σ} {outcome : Outcome α}
    (ran : program.run semantics answers state = some (outcome, final)) :
    Exec semantics nesting program state outcome final := by
  induction program generalizing state with
  | ret value =>
    cases ran
    exact .ret value _
  | throw what =>
    cases ran
    exact .throw what _
  | call operation next ih =>
    simp only [run] at ran
    split at ran
    · cases ran
    · next value after stepped => exact .call stepped (ih value ran)

/-- What must hold for a program to reach `post` if the environment answers so. -/
def chosen (semantics : Semantics Op Answer σ) (answers : {β : Type} → Op β → Answer) :
    Transformer Op σ := fun _ operation post state =>
  match semantics.step operation (answers operation) state with
  | none => False
  | some (value, after) => post value after

theorem chosen_exec {semantics : Semantics Op Answer σ} {answers : {β : Type} → Op β → Answer}
    (nesting : Nesting Op σ) (program : Program Op α) {post : Outcome α → σ → Prop} {state : σ}
    (reaches : program.wp (chosen semantics answers) post state) :
    ∃ outcome final, Exec semantics nesting program state outcome final ∧ post outcome final := by
  induction program generalizing state with
  | ret value => exact ⟨_, _, .ret value state, reaches⟩
  | throw what => exact ⟨_, _, .throw what state, reaches⟩
  | call operation next ih =>
    simp only [wp, chosen] at reaches
    split at reaches
    · exact reaches.elim
    · next stepped =>
      obtain ⟨outcome, final, rest, holds⟩ := ih _ reaches
      exact ⟨outcome, final, .call stepped rest, holds⟩

end Program

end OpenDTP.Effects
