import OpenDTP.Client.Deadlock
import OpenDTP.Client.Finality
import OpenDTP.Client.Joining

/-! The destructor. It disconnects and swallows what `Disconnect` throws, and then the members are
destroyed, among them `ioThread_`: a thread that was not joined terminates the program. -/

namespace OpenDTP.Client
open Common Protocol Effects Effects.Program

/-- `~Client`, up to the destruction of the members. -/
def destroy (native : Endian) : Method Unit := (disconnect native).tryCatch fun _ => pure ()

section

variable {rules : Rules} {native : Endian} {policy : Policy} {meanwhile : Meanwhile} {c : Client}

/-- Without nested calls nothing is out of order. -/
theorem Rules.Plain.inOrder (plain : rules.Plain) {first last : Config Op Client Thread Job}
    {turns : List Turn} (run : Effects.Run (threads rules).Step first turns last) :
    ∀ turn ∈ turns, Client.inOrder turn = true := by
  induction run with
  | nil => simp
  | snoc before taken ih =>
    intro turn member
    rcases List.mem_append.mp member with early | late
    · exact ih turn early
    · cases List.mem_singleton.mp late
      cases taken with
      | @nests thread job β operation next call works allowed =>
        cases operation <;> try exact allowed.elim
        exact absurd allowed (plain _ _)
      | _ => rfl

/-- Between calls and handlers that run one at a time both mutexes are free. -/
theorem mutexes_free (plain : rules.Plain) (reached : rules.Reachable c) (mutex : Mutex) :
    c.owner mutex = none := by
  obtain ⟨dmrId, description, hooks, reached⟩ := reached
  obtain ⟨turns, run⟩ := Client.Reachable.interleaved reached
  obtain ⟨depths, guided, _⟩ := guided_attended run (plain.inOrder run)
  cases owned : c.owner mutex with
  | none => rfl
  | some thread =>
    have held : (depths thread).held mutex = if c.owner mutex = some thread then 1 else 0 :=
      guided.joint thread mutex
    rw [guided.resting thread rfl, if_pos owned] at held
    cases mutex <;> cases held

/-- The thread is joined unless `onDisconnected` throws. -/
theorem destroy_wp (settled : meanwhile.Settled) (id : Nat) (c : Client) :
    (destroy native).wp (effect policy (.app id) meanwhile)
      (fun outcome after => outcome = .ok () ∧ after.state = .disconnected ∧
        (after.ioThread ≠ .none → c.state ≠ .disconnected ∧ policy.mayThrow c .onDisconnected ∧
          c.ioThread ≠ .none)) c := by
  rw [destroy, wp_tryCatch]
  apply (disconnect_within settled c).wp (effect_monotone _ _ _)
  intro outcome after disconnects
  cases disconnects with
  | idle down joins =>
    obtain ⟨state, _, ioThread⟩ := joins.joined
    exact ⟨rfl, state.trans down, fun live => absurd ioThread live⟩
  | ended up ended joins =>
    cases ended with | done ec =>
    obtain ⟨state, _, ioThread⟩ := joins.joined
    exact ⟨rfl, state, fun live => absurd ioThread live⟩
  | threw what up ended =>
    cases ended with | threw ec _ throws =>
    exact ⟨rfl, rfl, fun live => ⟨up, throws, live⟩⟩

/-- The hook `onDisconnected` throws, and nothing else goes wrong. -/
def spoiling : {β : Type} → Op β → Answer
  | _, .endCallback callback =>
    if callback.hook = .onDisconnected then { failure := some "" } else {}
  | _, _ => {}

theorem destroy_can (id : Nat) (unlocked : c.writeMutex = none) (up : c.state ≠ .disconnected)
    (throws : policy.mayThrow c .onDisconnected) :
    (destroy native).wp (chosen (semantics policy (.app id)) spoiling)
      (fun _ after => after.ioThread = c.ioThread) c := by
  obtain ⟨assigned, throws⟩ := throws
  have routine : MessageFlag.none &&& MessageFlag.realTime1 = 0 := by decide
  cases isOpen : c.socketOpen <;>
    simp [destroy, disconnect, endSession, sendClose, transmitRaw, stopKeepAliveTimer, invoke,
      locked, chosen, semantics, Client.step, spoiling, Callback.hook, record, cancel, wp_ite, up,
      unlocked, assigned, throws, isOpen, routine]

end

/-- Where callbacks make no calls into the client, it is DISCONNECTED when the destructor is done, and
the destructor never throws. It leaves a thread that was not joined, which terminates the program,
exactly if it finds a session, a thread and a hook `onDisconnected` that throws. -/
theorem destruction_terminates_iff {rules : Rules} (plain : rules.Plain) {c : Client}
    (reached : rules.Reachable c) (id : Nat) :
    (∀ outcome after, rules.Runs (.app id) (destroy rules.native) c outcome after →
      outcome = .ok () ∧ after.state = .disconnected) ∧
    ((∃ outcome after, rules.Runs (.app id) (destroy rules.native) c outcome after ∧
      after.ioThread ≠ .none) ↔
      c.state ≠ .disconnected ∧ rules.policy.mayThrow c .onDisconnected ∧ c.ioThread ≠ .none) := by
  have covers := plain.allows.covers (.app id)
  have does := @destroy_wp rules.native rules.policy quiet quiet_settled id c
  refine ⟨fun outcome after ran => ?_, fun ⟨outcome, after, ran, live⟩ => ?_,
    fun ⟨up, throws, live⟩ => ?_⟩
  · have done := covers.sound ran _ does
    exact ⟨done.1, done.2.1⟩
  · exact (covers.sound ran _ does).2.2 live
  · obtain ⟨outcome, after, ran, same⟩ := chosen_exec rules.nesting _
      (@destroy_can rules.native rules.policy c id (mutexes_free plain reached .writeMutex) up throws)
    exact ⟨outcome, after, ran, same ▸ live⟩

/-- The hook `onDisconnected` may throw. -/
def explosiveRules : Rules :=
  { sampleRules with
    policy := { startupThrows := false, throws := fun hook => hook == .onDisconnected } }

theorem destruction_terminates_iff_connected : ∃ c : Client, explosiveRules.Reachable c ∧
    c.state = .connected ∧
    ∃ outcome after, explosiveRules.Runs (.app 0) (destroy explosiveRules.native) c outcome after ∧
      after.ioThread ≠ .none := by
  obtain ⟨transitions, last, run, ended⟩ := replay_checked explosiveRules attentive handshakeScript
    (fun _ last => last.state = .connected ∧ last.hooks .onDisconnected = true ∧
      last.ioThread ≠ .none) (by decide +kernel)
  obtain ⟨connected, assigned, live⟩ := of_decide_eq_true ended
  have reached : explosiveRules.Reachable last := ⟨_, _, _, transitions, run⟩
  have plain : explosiveRules.Plain := fun _ _ nested => nested
  exact ⟨last, reached, connected, (destruction_terminates_iff plain reached 0).2.mpr
    ⟨by simp [connected], ⟨assigned, rfl⟩, live⟩⟩

end OpenDTP.Client
