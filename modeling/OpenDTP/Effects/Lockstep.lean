import OpenDTP.Effects.Execution

/-! Two executions side by side. Programs are paired when their instructions match one by one for
all answers that may be given to them. Paired programs that start in related states do the same
things and end in related states, provided that every pair of instructions keeps the relation. -/

namespace OpenDTP.Effects
open Program

/-- Which instructions match, and which pairs of answers they may get. -/
structure Pairing (Op : Type → Type) where
  operations : {β : Type} → Op β → Op β → Prop
  answers : {β : Type} → Op β → β → β → Prop

variable {Op : Type → Type} {Answer Call σ τ α β : Type}

inductive Paired (pairing : Pairing Op) : {α : Type} → Program Op α → Program Op α → Prop where
  | ret {α : Type} (value : α) : Paired pairing (.ret value) (.ret value)
  | throw {α : Type} (what : String) : Paired pairing (.throw what : Program Op α) (.throw what)
  | call {α β : Type} {one two : Op β} {next other : β → Program Op α}
      (matching : pairing.operations one two)
      (rest : ∀ answer reply, pairing.answers one answer reply →
        Paired pairing (next answer) (other reply)) :
      Paired pairing (.call one next) (.call two other)

namespace Paired

variable {pairing : Pairing Op}

theorem bind {one two : Program Op α} {next other : α → Program Op β}
    (first : Paired pairing one two) (rest : ∀ value, Paired pairing (next value) (other value)) :
    Paired pairing (one >>= next) (two >>= other) := by
  induction first with
  | ret value => exact rest value
  | throw what => exact .throw what
  | call matching _ ih => exact .call matching fun answer reply may => ih answer reply may

theorem attempt {one two : Program Op α} (paired : Paired pairing one two) :
    Paired pairing one.attempt two.attempt := by
  induction paired with
  | ret value => exact .ret _
  | throw what => exact .ret _
  | call matching _ ih => exact .call matching ih

theorem ofOutcome (outcome : Outcome α) :
    Paired pairing (Program.ofOutcome outcome) (Program.ofOutcome outcome) := by
  cases outcome with
  | ok value => exact .ret value
  | error what => exact .throw what

theorem perform {one two : Op α} (matching : pairing.operations one two)
    (same : ∀ answer reply, pairing.answers one answer reply → answer = reply) :
    Paired pairing (Program.perform one) (Program.perform two) := by
  refine .call matching fun answer reply may => ?_
  rw [same answer reply may]
  exact .ret reply

theorem settle {one two : Program Op α} {next other : Outcome α → Program Op β}
    (first : Paired pairing one two) (rest : ∀ outcome, Paired pairing (next outcome) (other outcome)) :
    Paired pairing (one.attempt >>= next) (two.attempt >>= other) :=
  bind first.attempt rest

/-- A program whose instructions match themselves is paired with itself. -/
theorem itself {allowed : (β : Type) → Op β → Prop}
    (matching : ∀ {β : Type} (operation : Op β), allowed β operation →
      pairing.operations operation operation ∧
        ∀ answer reply, pairing.answers operation answer reply → answer = reply)
    {program : Program Op α} (issues : program.Issues allowed) :
    Paired pairing program program := by
  induction program with
  | ret value => exact .ret value
  | throw what => exact .throw what
  | call operation next ih =>
    obtain ⟨own, same⟩ := matching operation issues.1
    refine .call own fun answer reply may => ?_
    rw [same answer reply may]
    exact ih reply (issues.2 reply)

end Paired

/-- Instructions that match keep the relation when the environment answers both alike. -/
def Lockstep (first : Semantics Op Answer σ) (second : Semantics Op Answer τ)
    (pairing : Pairing Op) (related : σ → τ → Prop) : Prop :=
  ∀ {β : Type} {one two : Op β} {answer : Answer} {state after : σ} {other : τ} {value : β},
    pairing.operations one two → related state other →
    first.step one answer state = some (value, after) →
    ∃ reply otherAfter, second.step two answer other = some (reply, otherAfter) ∧
      pairing.answers one value reply ∧ related after otherAfter

section

variable {first : Semantics Op Answer σ} {second : Semantics Op Answer τ} {pairing : Pairing Op}
  {related : σ → τ → Prop}

/-- What one of two paired programs can do the other can do too. -/
theorem Exec.lockstep {nesting : Nesting Op σ} {otherNesting : Nesting Op τ}
    (steps : Lockstep first second pairing related)
    (nests : ∀ {β : Type} {one two : Op β} {state : σ} {other : τ} {inner : Program Op Unit},
      pairing.operations one two → nesting β one state inner → ∃ otherInner,
        otherNesting β two other otherInner ∧ Paired pairing inner otherInner)
    {one two : Program Op α} {state final : σ} {outcome : Outcome α}
    (exec : Exec first nesting one state outcome final) (paired : Paired pairing one two)
    {other : τ} (start : related state other) :
    ∃ otherFinal, Exec second otherNesting two other outcome otherFinal ∧
      related final otherFinal := by
  induction exec generalizing other with
  | ret value state =>
    cases paired
    exact ⟨other, .ret value other, start⟩
  | throw what state =>
    cases paired
    exact ⟨other, .throw what other, start⟩
  | call stepped _ ih =>
    cases paired with
    | call matching rest =>
      obtain ⟨reply, otherAfter, otherStepped, answers, kept⟩ := steps matching start stepped
      obtain ⟨otherFinal, otherRest, ended⟩ := ih (rest _ _ answers) kept
      exact ⟨otherFinal, .call otherStepped otherRest, ended⟩
  | nested allowed _ _ innerIh restIh =>
    cases paired with
    | call matching rest =>
      obtain ⟨otherInner, otherAllowed, innerPaired⟩ := nests matching allowed
      obtain ⟨between, otherFirst, kept⟩ := innerIh innerPaired start
      obtain ⟨otherFinal, otherRest, ended⟩ := restIh (.call matching rest) kept
      exact ⟨otherFinal, .nested otherAllowed otherFirst otherRest, ended⟩

end

/-! ### Executions with all decisions of the environment -/

/-- What the environment decides along an execution: each answer, and each call that is nested, with
what it decides during that call. -/
inductive Script (Answer Call : Type) where
  | done
  | answers (answer : Answer) (rest : Script Answer Call)
  | calls (made : Call) (inner rest : Script Answer Call)
  deriving DecidableEq

/-- Scripts that differ at most in the calls, as `calls` allows. -/
inductive Script.Alike (calls : Call → Call → Prop) :
    Script Answer Call → Script Answer Call → Prop where
  | done : Alike calls .done .done
  | answers {answer : Answer} {rest other : Script Answer Call} (alike : Alike calls rest other) :
      Alike calls (.answers answer rest) (.answers answer other)
  | calls {made instead : Call} {inner rest otherInner other : Script Answer Call}
      (like : calls made instead) (within : Alike calls inner otherInner)
      (alike : Alike calls rest other) :
      Alike calls (.calls made inner rest) (.calls instead otherInner other)

inductive Scripted (semantics : Semantics Op Answer σ) (nests : (β : Type) → Op β → Call → Prop)
    (body : Call → Program Op Unit) :
    {α : Type} → Program Op α → Script Answer Call → σ → Outcome α → σ → Prop where
  | ret {α : Type} (value : α) (state : σ) :
      Scripted semantics nests body (.ret value) .done state (.ok value) state
  | throw {α : Type} (what : String) (state : σ) :
      Scripted semantics nests body (.throw what : Program Op α) .done state (.error what) state
  | call {α β : Type} {operation : Op β} {next : β → Program Op α} {answer : Answer}
      {script : Script Answer Call} {state after final : σ} {value : β} {outcome : Outcome α}
      (stepped : semantics.step operation answer state = some (value, after))
      (rest : Scripted semantics nests body (next value) script after outcome final) :
      Scripted semantics nests body (.call operation next) (.answers answer script) state outcome
        final
  | nested {α β : Type} {operation : Op β} {next : β → Program Op α} {made : Call}
      {inner script : Script Answer Call} {state after final : σ} {ended : Outcome Unit}
      {outcome : Outcome α} (allowed : nests β operation made)
      (first : Scripted semantics nests body (body made) inner state ended after)
      (rest : Scripted semantics nests body (.call operation next) script after outcome final) :
      Scripted semantics nests body (.call operation next) (.calls made inner script) state outcome
        final

section

variable {semantics : Semantics Op Answer σ} {nests : (β : Type) → Op β → Call → Prop}
  {body : Call → Program Op Unit} {nesting : Nesting Op σ}

/-- Every execution follows a script. -/
theorem Exec.scripted
    (calls : ∀ {β : Type} (operation : Op β) (state : σ) (inner : Program Op Unit),
      nesting β operation state inner → ∃ made, nests β operation made ∧ inner = body made)
    {program : Program Op α} {state final : σ} {outcome : Outcome α}
    (exec : Exec semantics nesting program state outcome final) :
    ∃ script, Scripted semantics nests body program script state outcome final := by
  induction exec with
  | ret value state => exact ⟨_, .ret value state⟩
  | throw what state => exact ⟨_, .throw what state⟩
  | call stepped _ ih =>
    obtain ⟨script, rest⟩ := ih
    exact ⟨_, .call stepped rest⟩
  | nested allowed _ _ innerIh restIh =>
    obtain ⟨made, may, rfl⟩ := calls _ _ _ allowed
    obtain ⟨inner, first⟩ := innerIh
    obtain ⟨script, rest⟩ := restIh
    exact ⟨_, .nested may first rest⟩

/-- What follows a script is an execution. -/
theorem Scripted.exec
    (calls : ∀ {β : Type} (operation : Op β) (state : σ) (made : Call),
      nests β operation made → nesting β operation state (body made))
    {program : Program Op α} {script : Script Answer Call} {state final : σ} {outcome : Outcome α}
    (scripted : Scripted semantics nests body program script state outcome final) :
    Exec semantics nesting program state outcome final := by
  induction scripted with
  | ret value state => exact .ret value state
  | throw what state => exact .throw what state
  | call stepped _ ih => exact .call stepped ih
  | nested allowed _ _ innerIh restIh => exact .nested (calls _ _ _ allowed) innerIh restIh

end

/-- Follows a script as far as it goes. -/
def Script.follow (semantics : Semantics Op Answer σ) (nests : (β : Type) → Op β → Call → Prop)
    [∀ (β : Type) (operation : Op β) (made : Call), Decidable (nests β operation made)]
    (body : Call → Program Op Unit) :
    Script Answer Call → {α : Type} → Program Op α → σ → Option (Outcome α × σ)
  | .done, _, .ret value, state => some (.ok value, state)
  | .done, _, .throw what, state => some (.error what, state)
  | .answers answer rest, _, .call operation next, state =>
    match semantics.step operation answer state with
    | some (value, after) => rest.follow semantics nests body (next value) after
    | none => none
  | .calls made inner rest, _, .call operation next, state =>
    if nests _ operation made then
      match inner.follow semantics nests body (body made) state with
      | some (_, after) => rest.follow semantics nests body (.call operation next) after
      | none => none
    else none
  | _, _, _, _ => none

theorem Script.follow_scripted {semantics : Semantics Op Answer σ}
    {nests : (β : Type) → Op β → Call → Prop}
    [∀ (β : Type) (operation : Op β) (made : Call), Decidable (nests β operation made)]
    {body : Call → Program Op Unit} (script : Script Answer Call) {α : Type} {program : Program Op α}
    {state final : σ} {outcome : Outcome α}
    (followed : script.follow semantics nests body program state = some (outcome, final)) :
    Scripted semantics nests body program script state outcome final := by
  induction script generalizing α state final with
  | done =>
    cases program <;> cases followed
    · exact .ret _ _
    · exact .throw _ _
  | answers answer rest ih =>
    cases program <;> try cases followed
    simp only [follow] at followed
    split at followed
    · next stepped => exact .call stepped (ih followed)
    · cases followed
  | calls made inner rest innerIh restIh =>
    cases program <;> try cases followed
    simp only [follow] at followed
    split at followed
    · next allowed =>
      split at followed
      · next first => exact .nested allowed (innerIh first) (restIh followed)
      · cases followed
    · cases followed

/-- Paired programs that follow scripts alike from related states end alike. -/
theorem Scripted.lockstep {first : Semantics Op Answer σ} {second : Semantics Op Answer τ}
    {pairing : Pairing Op} {related : σ → τ → Prop} {calls : Call → Call → Prop}
    {nests otherNests : (β : Type) → Op β → Call → Prop} {body otherBody : Call → Program Op Unit}
    (steps : Lockstep first second pairing related)
    (bodies : ∀ {made instead : Call}, calls made instead →
      Paired pairing (body made) (otherBody instead))
    {one two : Program Op α} {script other : Script Answer Call} {state final : σ}
    {start otherFinal : τ} {outcome otherOutcome : Outcome α}
    (scripted : Scripted first nests body one script state outcome final)
    (paired : Paired pairing one two) (alike : script.Alike calls other)
    (beside : Scripted second otherNests otherBody two other start otherOutcome otherFinal)
    (begun : related state start) : outcome = otherOutcome ∧ related final otherFinal := by
  induction scripted generalizing other start otherFinal with
  | ret value state =>
    cases paired
    cases beside
    exact ⟨rfl, begun⟩
  | throw what state =>
    cases paired
    cases beside
    exact ⟨rfl, begun⟩
  | call stepped _ ih =>
    cases paired with
    | call matching rest =>
      cases alike with
      | answers alike =>
        cases beside with
        | call otherStepped otherRest =>
          obtain ⟨reply, after, same, answers, kept⟩ := steps matching begun stepped
          rw [otherStepped] at same
          cases same
          exact ih (rest _ _ answers) alike otherRest kept
  | nested _ _ _ innerIh restIh =>
    cases paired with
    | call matching rest =>
      cases alike with
      | calls like within alike =>
        cases beside with
        | nested _ otherFirst otherRest =>
          obtain ⟨_, kept⟩ := innerIh (bodies like) within otherFirst begun
          exact restIh (.call matching rest) alike otherRest kept

end OpenDTP.Effects
