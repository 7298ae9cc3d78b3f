import OpenDTP.Client.Frames
import OpenDTP.Client.Replay

/-! When the member `ioThread_` is joinable. Only an application thread's `Disconnect` joins the
background thread, so a session that ends in any other way leaves it joinable. -/

namespace OpenDTP.Client
open Common Protocol Effects

/-- Reads off the log whether a thread was started that no later `Disconnect` waited for. -/
def unjoinedStep (unjoined : Bool) : Event → Bool
  | .started => true
  | .returned .disconnect _ => false
  | _ => unjoined

def unjoined (log : List Event) : Bool := log.foldl unjoinedStep false

theorem unjoined_append (log events : List Event) :
    unjoined (log ++ events) = events.foldl unjoinedStep (unjoined log) := List.foldl_append

theorem unjoined_inner (log : List Event) {events : List Event}
    (inner : ∀ event ∈ events, event.isInner = true) : unjoined (log ++ events) = unjoined log := by
  rw [unjoined_append]
  generalize unjoined log = left
  induction events with
  | nil => rfl
  | cons event events ih =>
    have first := inner event (by simp)
    have rest := ih (fun other member => inner other (List.mem_cons_of_mem _ member))
    have same : unjoinedStep left event = left := by
      cases event <;> first | rfl | cases first
    rw [List.foldl_cons, same, rest]

theorem unjoined_called (log : List Event) (call : PublicCall) :
    unjoined (log ++ [.called call]) = unjoined log := by
  rw [unjoined_append]
  rfl

theorem unjoined_returned (log : List Event) {call : PublicCall} (other : call ≠ .disconnect)
    (result : Option ClientError) : unjoined (log ++ [.returned call result]) = unjoined log := by
  rw [unjoined_append]
  cases call <;> first | rfl | exact absurd rfl other

/-- `joinable()` tells exactly whether a started thread was not waited for. -/
def Tallies (c : Client) : Prop := c.ioThread ≠ .none ↔ unjoined c.log = true

theorem Tallies.kept {count : Nat} {c after : Client} (tallies : Tallies c)
    (kept : Kept count c after) :
    Tallies after := by
  obtain ⟨events, extended, inner, _⟩ := kept.log
  unfold Tallies
  rw [kept.ioThread, extended, unjoined_inner _ inner]
  exact tallies

theorem Tallies.called {c : Client} (tallies : Tallies c) (call : PublicCall) :
    Tallies { c with log := c.log ++ [.called call] } := by
  unfold Tallies
  rw [unjoined_called]
  exact tallies

theorem Tallies.returned {c : Client} (tallies : Tallies c) {call : PublicCall}
    (other : call ≠ .disconnect) (result : Option ClientError) :
    Tallies { c with log := c.log ++ [.returned call result] } := by
  unfold Tallies
  rw [unjoined_returned _ other]
  exact tallies

section

variable {rules : Rules} {native : Endian} {policy : Policy} {c after : Client}

/-- A startup that fails has started the thread before or after it threw. -/
theorem Stalls.tallies {password : Bytes} (stalls : Stalls (accepted password c) after)
    (tallies : Tallies c) : Tallies after := by
  have begun : Tallies (accepted password c) := by
    unfold Tallies
    rw [accepted, unjoined_append]
    exact tallies
  have running (middle : Client) : Tallies (started middle) := by
    unfold Tallies
    rw [started, unjoined_append, unjoined_append]
    simp [unjoinedStep]
  cases stalls with
  | noThread => exact begun
  | noTimer => exact running _
  | noResolve => exact running _

theorem Connects.tallies {password : Bytes} {outcome : Outcome ClientError}
    (connects : Connects policy password c outcome after) (tallies : Tallies c) :
    Tallies after := by
  have leaving {what : String} {middle : Client} (held : Tallies middle) :
      Tallies (abandoned what middle) := by
    have stored : Kept 0 middle
        { middle with state := .disconnected, log := middle.log ++ [.stored .disconnected] } :=
      ⟨rfl, rfl, rfl, rfl, [.stored .disconnected], rfl, by simp [Event.isInner], rfl⟩
    exact (held.kept stored).kept (announced_kept (by simp [Callback.hook]) _)
  cases connects with
  | rejected => exact tallies
  | begun =>
    unfold Tallies
    rw [launched, timed, started, unjoined_append, unjoined_append]
    simp [unjoinedStep]
  | failed what _ _ stalls => exact leaving (stalls.tallies tallies)
  | threw what _ _ _ stalls => exact leaving (stalls.tallies tallies)

/-- After its `Disconnect` an application thread has joined the background thread. -/
theorem Disconnects.joined {id : Nat}
    (disconnects : Disconnects native policy (.app id) c (.ok ()) after) :
    after.ioThread = .none := by
  have joined {middle : Client} (joins : Joins (.app id) middle after) : after.ioThread = .none := by
    cases joins with
    | skipped own =>
      rcases own with own | idle
      · cases own
      · exact idle
    | exited => rfl
    | returned => rfl
  cases disconnects with
  | idle _ joins => exact joined joins
  | ended _ _ joins => exact joined joins

theorem Performs.tallies {id : Nat} {call : PublicCall} {outcome : Outcome (Option ClientError)}
    (performs : Performs native policy (.app id) c call outcome after) (tallies : Tallies c) :
    Tallies after := by
  have begun := tallies.called call
  cases performs with
  | returned calls =>
    generalize result : Except.ok _ = outcome at calls
    cases calls with
    | connect connects => exact (connects.tallies begun).returned (by simp) _
    | disconnect disconnects =>
      rename_i ended
      cases ended with
      | error what => cases result
      | ok value =>
        unfold Tallies
        rw [unjoined_append]
        simp [unjoinedStep, disconnects.joined]
    | sends _ notDisconnect sends => exact (begun.kept sends.kept).returned notDisconnect _
  | threw calls =>
    generalize result : Except.error _ = outcome at calls
    cases calls with
    | connect connects => exact connects.tallies begun
    | disconnect disconnects =>
      cases disconnects with
      | idle => cases result
      | ended => cases result
      | threw _ _ ended => exact begun.kept ended.kept
    | sends _ _ sends => exact begun.kept sends.kept

theorem Moves.tallies {label : Label} (moves : Moves rules quiet c label after)
    (tallies : Tallies c) : Tallies after := by
  cases moves with
  | call _ performs => exact performs.tallies tallies
  | connectSync _ performs =>
    have held := performs.tallies tallies
    unfold entering
    split <;> exact held
  | awaits => exact tallies
  | handles found queued idle going ran =>
    rename_i outcome
    have busy : c.ioThread ≠ .none := by simp [idle]
    have taken (before rest : List Outstanding) : Tallies (dequeued before rest c) :=
      ⟨fun _ => tallies.mp busy, fun _ => by simp [dequeued]⟩
    obtain ⟨count, kept⟩ := ran.kept
    have held := (taken _ _).kept kept
    have live : unjoined _ = true := held.mp (by rw [kept.ioThread]; simp [dequeued])
    refine ⟨fun _ => live, fun _ => ?_⟩
    cases outcome <;> simp [resting]
  | completes => exact tallies
  | arrives => exact tallies
  | leaves idle => exact ⟨fun _ => tallies.mp (by simp [idle]), fun _ => by simp⟩

end

theorem reachable_tallies {rules : Rules} (plain : rules.Plain) {c : Client}
    (reached : rules.Reachable c) : Tallies c := by
  obtain ⟨dmrId, description, hooks, reached⟩ := reached
  apply reached.invariant Tallies
  · exact ⟨fun live => absurd rfl live, fun left => by cases left⟩
  · intro before label after tallies step
    exact (step.plain plain).tallies tallies

/-- Where `Connect` finds no session the member is free to be assigned exactly if an application
thread's `Disconnect` has returned since the last thread was started. -/
theorem reconnect_safe_iff {rules : Rules} (plain : rules.Plain) {c : Client}
    (reached : rules.Reachable c) :
    (c.state = .disconnected → c.ioThread = .none) ↔
      (c.state = .disconnected → unjoined c.log = false) := by
  have tallies := reachable_tallies plain reached
  constructor
  · intro safe down
    apply eq_false_of_ne_true
    intro left
    exact tallies.mpr left (safe down)
  · intro joined down
    by_contra live
    have left := tallies.mp live
    rw [joined down] at left
    cases left

theorem reconnect_safe_iff_at_timeout :
    ∃ c, sampleRules.Reachable c ∧ c.state = .disconnected ∧
      ((c.state = .disconnected → c.ioThread = .none) ↔
        (c.state = .disconnected → unjoined c.log = false)) := by
  obtain ⟨transitions, last, run, ended⟩ := replay_checked sampleRules sampleClient timeoutScript
    (fun _ last => last.state = .disconnected) (by decide)
  have reached : sampleRules.Reachable last := ⟨_, _, _, transitions, run⟩
  exact ⟨last, reached, of_decide_eq_true ended, reconnect_safe_iff sampleRules_plain reached⟩

/-- After a handshake timeout `Connect` would assign over a joinable thread. -/
theorem reconnect_unsafe_after_timeout :
    ¬ ∀ (rules : Rules), rules.Plain → ∀ c, rules.Reachable c →
      c.state = .disconnected → c.ioThread = .none := by
  intro safe
  obtain ⟨transitions, last, run, ended⟩ := replay_checked sampleRules sampleClient timeoutScript
    (fun _ last => last.state = .disconnected && last.ioThread = .running) (by decide)
  simp only [Bool.and_eq_true, decide_eq_true_eq] at ended
  have idle := safe sampleRules sampleRules_plain last ⟨_, _, _, transitions, run⟩ ended.1
  rw [ended.2] at idle
  cases idle

end OpenDTP.Client
