import OpenDTP.Effects.Execution

/-! Executions that are watched. A monitor sees every instruction with the answer it gets and
changes nothing, so every execution can be watched, and instructions that the monitor does not care
about keep the rules they have alone. -/

namespace OpenDTP.Effects
open Program

variable {Op : Type → Type} {Answer σ ω α : Type}

/-- How a monitor moves at an instruction with its answer. -/
abbrev Watch (Op : Type → Type) (Answer ω : Type) := (β : Type) → Op β → Answer → ω → ω

def Semantics.watched (semantics : Semantics Op Answer σ) (watch : Watch Op Answer ω) :
    Semantics Op Answer (σ × ω) where
  step operation answer state :=
    match semantics.step operation answer state.1 with
    | none => none
    | some (value, after) => some (value, after, watch _ operation answer state.2)

def Nesting.watched (nesting : Nesting Op σ) : Nesting Op (σ × ω) :=
  fun β operation state inner => nesting β operation state.1 inner

variable {semantics : Semantics Op Answer σ} {nesting : Nesting Op σ} {watch : Watch Op Answer ω}

theorem watched_step {β : Type} {operation : Op β} {answer : Answer} {state after : σ} {value : β}
    (stepped : semantics.step operation answer state = some (value, after)) (seen : ω) :
    (semantics.watched watch).step operation answer (state, seen) =
      some (value, after, watch _ operation answer seen) := by
  simp only [Semantics.watched, stepped]

theorem Exec.watched {program : Program Op α} {state final : σ} {outcome : Outcome α}
    (exec : Exec semantics nesting program state outcome final) (seen : ω) :
    ∃ seenAfter, Exec (semantics.watched watch) nesting.watched program (state, seen) outcome
      (final, seenAfter) := by
  induction exec generalizing seen with
  | ret value state => exact ⟨seen, .ret value _⟩
  | throw what state => exact ⟨seen, .throw what _⟩
  | call stepped rest ih =>
    obtain ⟨seenAfter, watched⟩ := ih (watch _ _ _ seen)
    exact ⟨seenAfter, .call (watched_step stepped seen) watched⟩
  | nested allowed first rest innerIh restIh =>
    obtain ⟨between, inner⟩ := innerIh seen
    obtain ⟨seenAfter, watched⟩ := restIh between
    exact ⟨seenAfter, .nested allowed inner watched⟩

/-- What is watched also happens unwatched. -/
theorem Exec.unwatched {program : Program Op α} {state final : σ × ω} {outcome : Outcome α}
    (exec : Exec (semantics.watched watch) nesting.watched program state outcome final) :
    Exec semantics nesting program state.1 outcome final.1 := by
  induction exec with
  | ret value state => exact .ret value _
  | throw what state => exact .throw what _
  | call stepped rest ih =>
    simp only [Semantics.watched] at stepped
    split at stepped
    · cases stepped
    · next value after taken =>
      cases stepped
      exact .call taken ih
  | nested allowed first rest innerIh restIh => exact .nested allowed innerIh restIh

/-- Where nothing is nested the rules of undisturbed programs apply. -/
theorem Exec.wp_alone (empty : ∀ {β : Type} (operation : Op β) state inner,
      ¬ nesting β operation state inner) {program : Program Op α} {state final : σ}
    {outcome : Outcome α} (exec : Exec semantics nesting program state outcome final)
    {post : Outcome α → σ → Prop} (holds : program.wp (alone semantics) post state) :
    post outcome final := by
  have covers : Covers semantics nesting noInterference :=
    { refl := fun _ _ => rfl
      trans := fun _ _ _ _ first second => Eq.trans second first
      nested := fun operation state inner allowed => absurd allowed (empty operation state inner) }
  exact covers.sound exec post holds

/-- An instruction at which the monitor stays where it is. -/
def Blind (watch : Watch Op Answer ω) (β : Type) (operation : Op β) : Prop :=
  ∀ answer seen, watch β operation answer seen = seen

theorem alone_watched {β : Type} (operation : Op β) (post : β → σ × ω → Prop) (state : σ)
    (seen : ω) :
    alone (semantics.watched watch) β operation post (state, seen) =
      ∀ answer value after, semantics.step operation answer state = some (value, after) →
        post value (after, watch β operation answer seen) := by
  rw [alone_apply]
  apply propext
  constructor
  · intro holds answer value after stepped
    exact holds answer value _ (watched_step stepped seen)
  · intro holds answer value after stepped
    simp only [Semantics.watched] at stepped
    split at stepped
    · cases stepped
    · next taken =>
      cases stepped
      exact holds _ _ _ taken

theorem alone_blind {β : Type} {operation : Op β} (blind : Blind watch β operation)
    (post : β → σ × ω → Prop) (state : σ) (seen : ω) :
    alone (semantics.watched watch) β operation post (state, seen) =
      alone semantics β operation (fun value after => post value (after, seen)) state := by
  rw [alone_watched, alone_apply]
  simp only [blind _ seen]

end OpenDTP.Effects
