import Mathlib.Data.List.Forall2
import Mathlib.Data.List.Induction
import Mathlib.Logic.Relation

/-! Runs of a labelled transition system, kept as the list of transitions taken, and the
induction that carries an invariant along them. -/

namespace OpenDTP.Effects

variable {σ Label : Type*}

structure Transition (σ Label : Type*) where
  before : σ
  label : Label
  after : σ

/-- `Run step first transitions last`: the transitions lead from `first` to `last`, in order. -/
inductive Run (step : σ → Label → σ → Prop) (first : σ) : List (Transition σ Label) → σ → Prop where
  | nil : Run step first [] first
  | snoc {transitions : List (Transition σ Label)} {middle last : σ} {label : Label}
      (before : Run step first transitions middle) (taken : step middle label last) :
      Run step first (transitions ++ [⟨middle, label, last⟩]) last

def Reachable (step : σ → Label → σ → Prop) (first last : σ) : Prop :=
  ∃ transitions, Run step first transitions last

namespace Run

variable {step : σ → Label → σ → Prop} {first last : σ} {transitions : List (Transition σ Label)}

/-- An invariant needs to be kept only by the steps that meet `allowed`, if the run takes no other. -/
theorem invariant (holds : σ → Prop) (allowed : Transition σ Label → Prop)
    (start : holds first)
    (keeps : ∀ before label after, holds before → allowed ⟨before, label, after⟩ →
      step before label after → holds after)
    (run : Run step first transitions last)
    (every : ∀ transition ∈ transitions, allowed transition) : holds last := by
  induction run with
  | nil => exact start
  | snoc before taken ih =>
    have earlier := ih (fun transition member => every transition (List.mem_append_left _ member))
    exact keeps _ _ _ earlier (every _ (by simp)) taken

theorem append {middle : σ} {more : List (Transition σ Label)}
    (early : Run step first transitions middle) (late : Run step middle more last) :
    Run step first (transitions ++ more) last := by
  induction late with
  | nil =>
    rw [List.append_nil]
    exact early
  | snoc before taken ih =>
    rw [← List.append_assoc]
    exact ih.snoc taken

/-- A run can be taken apart in front of any of its transitions. -/
theorem split {early late : List (Transition σ Label)} {transition : Transition σ Label}
    (run : Run step first (early ++ transition :: late) last) :
    Run step first early transition.before ∧
      step transition.before transition.label transition.after ∧
      Run step transition.after late last := by
  generalize parts : early ++ transition :: late = whole at run
  induction run generalizing late with
  | nil => cases (List.append_eq_nil_iff.mp parts).2
  | @snoc earlier middle last label before taken ih =>
    cases late using List.reverseRecOn with
    | nil =>
      obtain ⟨rfl, same⟩ := List.append_inj' parts rfl
      cases same
      exact ⟨before, taken, .nil⟩
    | append_singleton late final =>
      rw [← List.cons_append, ← List.append_assoc] at parts
      obtain ⟨same, ends⟩ := List.append_inj' parts rfl
      cases ends
      obtain ⟨front, here, back⟩ := ih same
      exact ⟨front, here, back.snoc taken⟩

theorem taken (run : Run step first transitions last) :
    ∀ transition ∈ transitions, step transition.before transition.label transition.after := by
  induction run with
  | nil => simp
  | snoc before taken ih =>
    intro transition member
    rcases List.mem_append.mp member with early | late
    · exact ih transition early
    · obtain rfl := List.mem_singleton.mp late
      exact taken

/-- Every transition of a run starts in a state that the same run reaches by an initial part. -/
theorem reaches_before (run : Run step first transitions last) :
    ∀ transition ∈ transitions, ∃ earlier, earlier <+: transitions ∧
      Run step first earlier transition.before := by
  induction run with
  | nil => simp
  | @snoc earlier middle last label before taken ih =>
    intro transition member
    rcases List.mem_append.mp member with early | late
    · obtain ⟨initial, isPrefix, reached⟩ := ih transition early
      exact ⟨initial, isPrefix.trans (List.prefix_append _ _), reached⟩
    · obtain rfl := List.mem_singleton.mp late
      exact ⟨earlier, List.prefix_append _ _, before⟩

theorem nil_eq (run : Run step first [] last) : last = first := by
  generalize none : ([] : List (Transition σ Label)) = transitions at run
  cases run with
  | nil => rfl
  | snoc => simp at none

/-- Two runs side by side, if like steps lead from related states to related states. -/
theorem lockstep {τ Other : Type*} {next : τ → Other → τ → Prop} {related : σ → τ → Prop}
    {like : Label → Other → Prop}
    (steps : ∀ {before label after start other final}, related before start → like label other →
      step before label after → next start other final → related after final)
    {begun ended : τ} {others : List (Transition τ Other)} (run : Run step first transitions last)
    (beside : Run next begun others ended)
    (alike : List.Forall₂ (fun one two => like one.label two.label) transitions others)
    (start : related first begun) :
    List.Forall₂ (fun one two => related one.after two.after) transitions others ∧
      related last ended := by
  induction run generalizing others ended with
  | nil =>
    cases alike
    rw [beside.nil_eq]
    exact ⟨.nil, start⟩
  | @snoc transitions middle last label before taken ih =>
    have front := List.forall₂_take_append others transitions _ alike.flip
    have back := List.forall₂_drop_append others transitions _ alike.flip
    have whole := List.take_append_drop transitions.length others
    cases split : others.drop transitions.length with
    | nil =>
      rw [split] at back
      cases back
    | cons two rest =>
      rw [split] at back whole
      cases back with
      | cons likely none =>
        cases none
        rw [← whole] at beside ⊢
        obtain ⟨sofar, moved, done⟩ := beside.split
        rw [done.nil_eq]
        obtain ⟨kept, here⟩ := ih sofar front.flip
        have after := steps here likely taken moved
        exact ⟨List.rel_append kept (.cons after .nil), after⟩
end Run

namespace Reachable

variable {step : σ → Label → σ → Prop} {first middle last : σ}

theorem refl : Reachable step first first := ⟨[], .nil⟩

theorem snoc {label : Label} (reached : Reachable step first middle)
    (taken : step middle label last) : Reachable step first last := by
  obtain ⟨transitions, run⟩ := reached
  exact ⟨_, run.snoc taken⟩

theorem trans (early : Reachable step first middle) (late : Reachable step middle last) :
    Reachable step first last := by
  obtain ⟨transitions, run⟩ := early
  obtain ⟨more, rest⟩ := late
  exact ⟨transitions ++ more, run.append rest⟩

theorem invariant (holds : σ → Prop) (start : holds first)
    (keeps : ∀ before label after, holds before → step before label after → holds after)
    (reached : Reachable step first last) : holds last := by
  obtain ⟨transitions, run⟩ := reached
  exact run.invariant holds (fun _ => True) start
    (fun before label after held _ => keeps before label after held) (fun _ _ => trivial)

end Reachable

/-! ### Histories -/

/-- Each entry of a history meets a claim about it and what came before it. -/
def Always {α : Type*} (claim : List α → α → Prop) (history : List α) : Prop :=
  ∀ earlier entry later, history = earlier ++ entry :: later → claim earlier entry

namespace Always

variable {α : Type*} {claim : List α → α → Prop} {history : List α}

theorem nil : Always claim [] := by
  intro earlier entry later parts
  cases (List.append_eq_nil_iff.mp parts.symm).2

theorem snoc (always : Always claim history) (entry : α) (last : claim history entry) :
    Always claim (history ++ [entry]) := by
  intro earlier other later parts
  cases later using List.reverseRecOn with
  | nil =>
    obtain ⟨rfl, same⟩ := List.append_inj' parts rfl
    cases same
    exact last
  | append_singleton later final =>
    rw [← List.cons_append, ← List.append_assoc] at parts
    exact always earlier other later (List.append_inj' parts rfl).1

theorem front {more : List α} (always : Always claim (history ++ more)) : Always claim history := by
  intro earlier entry later parts
  exact always earlier entry (later ++ more) (by rw [parts]; simp)

theorem last {entry : α} (always : Always claim (history ++ [entry])) : claim history entry :=
  always history entry [] rfl

theorem of_forall (each : ∀ entry ∈ history, ∀ earlier, claim earlier entry) :
    Always claim history := by
  rintro earlier entry later rfl
  exact each entry (by simp) earlier

/-- Entries that meet the claim wherever they stand. -/
theorem append (always : Always claim history) {entries : List α}
    (each : ∀ entry ∈ entries, ∀ earlier, claim earlier entry) :
    Always claim (history ++ entries) := by
  induction entries using List.reverseRecOn with
  | nil =>
    rw [List.append_nil]
    exact always
  | append_singleton entries entry ih =>
    rw [← List.append_assoc]
    refine snoc (ih fun other member => each other (List.mem_append_left _ member)) entry ?_
    exact each entry (by simp) _

end Always

/-! Where the steps can be computed a script of them is a run. -/

section

variable {Entry : Type*} (advance : σ → Entry → Option σ) (label : Entry → Label)

/-- Plays a script, collecting the transitions behind the ones already taken. -/
def play (taken : List (Transition σ Label)) (state : σ) :
    List Entry → Option (List (Transition σ Label) × σ)
  | [] => some (taken, state)
  | entry :: script =>
    match advance state entry with
    | none => none
    | some after => play (taken ++ [⟨state, label entry, after⟩]) after script

variable {advance} {label} {step : σ → Label → σ → Prop} {first : σ}

theorem play_run
    (sound : ∀ state entry after, advance state entry = some after → step state (label entry) after)
    {taken transitions : List (Transition σ Label)} {state last : σ} {script : List Entry}
    (sofar : Run step first taken state)
    (played : play advance label taken state script = some (transitions, last)) :
    Run step first transitions last := by
  induction script generalizing taken state with
  | nil =>
    cases played
    exact sofar
  | cons entry script ih =>
    simp only [play] at played
    split at played
    · cases played
    · next after advanced => exact ih (sofar.snoc (sound _ _ _ advanced)) played

/-- A script that can be played to its end gives a run with what is checked of it. -/
theorem play_checked
    (sound : ∀ state entry after, advance state entry = some after → step state (label entry) after)
    (script : List Entry) (check : List (Transition σ Label) → σ → Bool)
    (passes : (play advance label [] first script).any
      (fun result => check result.1 result.2) = true) :
    ∃ transitions last, Run step first transitions last ∧ check transitions last = true := by
  cases played : play advance label [] first script with
  | none =>
    rw [played] at passes
    cases passes
  | some result =>
    rw [played] at passes
    exact ⟨result.1, result.2, play_run sound .nil played, passes⟩

end

/-- Where each wait is for something of less rank or for something that waits for itself at most,
every chain of waits comes to an end. -/
theorem chain_ends {α : Type*} {awaits : α → α → Prop} (rank : α → Nat)
    (descends : ∀ waiting other, awaits waiting other →
      rank other < rank waiting ∨ ∀ next, awaits other next → next = other)
    {waiting other : α} (waits : awaits waiting other) :
    ∃ last, Relation.TransGen awaits waiting last ∧ ∀ next, awaits last next → next = last := by
  induction bound : rank waiting using Nat.strongRecOn generalizing waiting other with
  | _ bound ih =>
    subst bound
    rcases descends waiting other waits with less | ends
    · by_cases further : ∃ next, awaits other next
      · obtain ⟨next, goes⟩ := further
        obtain ⟨last, chain, ends⟩ := ih (rank other) less goes rfl
        exact ⟨last, chain.head waits, ends⟩
      · exact ⟨other, .single waits, fun next goes => absurd ⟨next, goes⟩ further⟩
    · exact ⟨other, .single waits, ends⟩

end OpenDTP.Effects
