import OpenDTP.Client.Locking
import OpenDTP.Client.Sockets

/-! What is left after a `Disconnect` that returned: a client that is DISCONNECTED and has no thread.
Whatever the threads of the application call then, in whatever interleaving, and whatever completes
or arrives, it stays that way until one of them connects again. -/

namespace OpenDTP.Client
open Common Protocol Effects Effects.Program

/-- No session, no socket and no thread. -/
structure Resting (c : Client) : Prop where
  state : c.state = .disconnected
  socketOpen : c.socketOpen = false
  ioThread : c.ioThread = .none

/-- The beginning and the return of a call, which nobody outside sees. -/
def Event.isBracket : Event → Bool
  | .called _ | .returned _ _ => true
  | _ => false

def Job.connects : Job → Bool
  | .call made => made.connects
  | .connectSync _ _ _ _ => true
  | _ => false

/-- No thread begins to connect. -/
def keepsOff (turn : Turn) : Bool :=
  match turn.label with
  | .begins _ job => !job.connects
  | _ => true

/-- What a call finds and does at a client that rests. -/
@[simp] def idling : Transformer Op Unit
  | _, .loadState, post, place => post .disconnected place
  | _, .joinable, post, place => post false place
  | _, .readLastError, post, place => ∀ lastError, post lastError place
  | _, .lock _, post, place => post () place
  | _, .unlock _, post, place => post () place
  | _, .note event, post, place => event.isBracket = true ∧ post () place
  | _, _, _, _ => False

section

variable {native : Endian} {policy : Policy} {thread : Thread} {c after start : Client}

theorem idling_monotone : Transformer.Monotone idling := by
  intro β operation first second weaker place holds
  cases operation <;> first | exact holds.elim | exact weaker _ _ holds | skip
  case readLastError => exact fun lastError => weaker _ _ (holds lastError)
  case note event => exact ⟨holds.1, weaker _ _ holds.2⟩

/-- Every call but `Connect` finds that there is nothing to do. -/
theorem publicCall_idle (made : PublicCall) (other : made.connects = false) :
    (publicCall native made).wp idling (fun _ _ => True) () := by
  cases made <;> try cases other
  all_goals simp [publicCall, method, disconnect, joinThread, subscribe, unsubscribe, startVoiceCall,
    sendAudioFrame, endVoiceCall, sendTextMessage, sendLocationReport, whenConnected, whenInCall,
    Event.isBracket, wp_ite]

theorem awaitConnection_idle : awaitConnection.wp idling (fun _ _ => True) () := by
  simp [awaitConnection, locked, settled, wp_ite]

/-- The client still rests, and calls have begun and returned. -/
structure Undisturbed (start c : Client) : Prop where
  resting : Resting c
  log : ∃ events, c.log = start.log ++ events ∧ ∀ event ∈ events, event.isBracket = true

namespace Undisturbed

theorem same (undisturbed : Undisturbed start c) (state : after.state = c.state)
    (socketOpen : after.socketOpen = c.socketOpen) (ioThread : after.ioThread = c.ioThread)
    (log : after.log = c.log) : Undisturbed start after := by
  refine ⟨⟨?_, ?_, ?_⟩, ?_⟩
  · rw [state]
    exact undisturbed.resting.state
  · rw [socketOpen]
    exact undisturbed.resting.socketOpen
  · rw [ioThread]
    exact undisturbed.resting.ioThread
  · rw [log]
    exact undisturbed.log

theorem acts (undisturbed : Undisturbed start c) {β : Type} {operation : Op β} {answer : Answer}
    {value : β} (stepped : step policy thread operation answer c = some (value, after))
    {post : β → Unit → Prop} (holds : idling β operation post ()) :
    post value () ∧ Undisturbed start after := by
  cases operation <;> try exact holds.elim
  case loadState =>
    cases stepped
    rw [undisturbed.resting.state]
    exact ⟨holds, undisturbed⟩
  case joinable =>
    cases stepped
    simp only [undisturbed.resting.ioThread, ne_eq, not_true_eq_false, decide_false]
    exact ⟨holds, undisturbed⟩
  case readLastError =>
    cases stepped
    exact ⟨holds _, undisturbed⟩
  case lock mutex =>
    obtain ⟨_, rfl⟩ := step_lock stepped
    cases mutex <;> exact ⟨holds, undisturbed.same rfl rfl rfl rfl⟩
  case unlock mutex =>
    cases stepped
    cases mutex <;> exact ⟨holds, undisturbed.same rfl rfl rfl rfl⟩
  case note event =>
    cases stepped
    obtain ⟨events, log, brackets⟩ := undisturbed.log
    refine ⟨holds.2, ⟨undisturbed.resting.state, undisturbed.resting.socketOpen,
      undisturbed.resting.ioThread⟩, events ++ [event], ?_, ?_⟩
    · rw [← List.append_assoc, ← log]
      rfl
    · intro other member
      rcases List.mem_append.mp member with early | late
      · exact brackets other early
      · cases List.mem_singleton.mp late
        exact holds.1

end Undisturbed

end

def undisturbed (start : Client) : Discipline Op Client Unit Thread Unit where
  idle := ()
  protocol := fun _ => idling
  ended := fun _ finish _ => ∀ c, ∃ waits, finish c = { c with waits := waits }
  scribe := fun _ _ _ _ seen => seen
  joint := fun c _ _ => Undisturbed start c

/-- A job whose program finds nothing to do. -/
theorem idle_keeps {start : Client} {thread : Thread} {α : Type} {program : Method α}
    (idle : program.wp idling (fun _ _ => True) ()) {rest : Outcome α → Client → Client}
    (waits : ∀ outcome c, ∃ waits, rest outcome c = { c with waits := waits }) :
    (undisturbed start).Keeps thread (program.settle fun outcome => .ret (rest outcome)) () := by
  unfold Discipline.Keeps
  rw [wp_settle]
  exact wp_mono idling_monotone program (fun outcome _ _ => waits outcome) () idle

theorem threads_undisturbed (rules : Rules) (start : Client) :
    Respects (threads rules) (undisturbed start) fun _ turn => keepsOff turn = true where
  monotone _ := idling_monotone
  begins {config seen places thread job after task} guided idle begun may := by
    have other : job.connects = false := by simpa [keepsOff] using may
    refine ⟨(), ?_⟩
    cases begins_cases begun with
    | call => exact ⟨idle_keeps (publicCall_idle _ other) fun _ c => ⟨c.waits, rfl⟩, guided.joint⟩
    | connectSync => cases other
    | awaits =>
      refine ⟨idle_keeps awaitConnection_idle fun outcome c => ?_, guided.joint⟩
      cases outcome with
      | ok result => exact ⟨_, rfl⟩
      | error what => exact ⟨c.waits, rfl⟩
    | handles found queued live going =>
      rw [guided.joint.resting.ioThread] at live
      cases live
  acts guided works stepped _ post holds :=
    have moved := guided.joint.acts stepped holds
    ⟨(), moved⟩
  nests {config seen places thread job β operation next made} guided works allowed _ post holds := by
    cases operation <;> first | exact allowed.elim | exact holds.elim
  ends guided works _ ended := by
    obtain ⟨waits, same⟩ := ended _
    rw [same]
    exact guided.joint.same rfl rfl rfl rfl
  happens guided happened _ := by
    rcases happens_cases happened with ⟨_, rfl⟩ | ⟨_, _, _, rfl⟩ | ⟨live, _, rfl⟩
    · exact guided.joint.same rfl rfl rfl rfl
    · exact guided.joint.same rfl rfl rfl rfl
    · rw [guided.joint.resting.ioThread] at live
      cases live

/-- A thread of the application leaves no thread to be joined. -/
theorem Joins.joined {id : Nat} {before after : Client} (joins : Joins (.app id) before after) :
    after.state = before.state ∧ after.socketOpen = before.socketOpen ∧ after.ioThread = .none := by
  cases joins with
  | skipped own =>
    refine ⟨rfl, rfl, own.resolve_left ?_⟩
    intro same
    cases same
  | exited => exact ⟨rfl, rfl, rfl⟩
  | returned => exact ⟨rfl, rfl, rfl⟩

/-- What a `Disconnect` leaves that a thread of the application made and that returned. -/
theorem disconnect_rests {native : Endian} {policy : Policy} {meanwhile : Meanwhile}
    (settled : meanwhile.Settled) (id : Nat) {c : Client}
    (down : c.state = .disconnected → c.socketOpen = false) :
    (publicCall native .disconnect).wp (effect policy (.app id) meanwhile)
      (fun outcome after => outcome = .ok none → Resting after) c := by
  simp only [publicCall, method, wp_bind, wp_perform, effect_note, andThen_ok]
  apply (disconnect_within settled _).wp (effect_monotone _ _ _)
  intro outcome after disconnects
  cases disconnects with
  | idle disconnected joins =>
    obtain ⟨state, socketOpen, ioThread⟩ := joins.joined
    exact fun _ => ⟨state.trans disconnected, socketOpen.trans (down disconnected), ioThread⟩
  | ended up ended joins =>
    cases ended with | done ec =>
    obtain ⟨state, socketOpen, ioThread⟩ := joins.joined
    exact fun _ => ⟨state, socketOpen, ioThread⟩
  | threw what up ended =>
    intro same
    cases same

/-- Where callbacks make no calls into the client, there is no session, no socket and no thread after a
`Disconnect` has returned, and until a thread begins to connect nothing is sent, reported or stored,
however the threads interleave. -/
theorem disconnect_is_final {rules : Rules} (plain : rules.Plain) {c after : Client}
    (reached : rules.Reachable c) {id : Nat}
    (ran : rules.Runs (.app id) (publicCall rules.native .disconnect) c (.ok none) after)
    {last : Config Op Client Thread Job} {turns : List Turn}
    (run : Effects.Run (threads rules).Step (unworked after) turns last)
    (away : ∀ turn ∈ turns, keepsOff turn = true) :
    Resting last.shared ∧
      ∃ events, last.shared.log = after.log ++ events ∧
        ∀ event ∈ events, event.isBracket = true := by
  have rests : Resting after := (plain.allows.covers (.app id)).sound ran _
    (disconnect_rests quiet_settled id (reached.plumbed plain).down) rfl
  have begun := @Guided.start Op Client Thread Job _ _ (undisturbed after) () _
    (⟨rests, [], (List.append_nil _).symm, nofun⟩ : Undisturbed after after)
  obtain ⟨places, guided⟩ := (threads_undisturbed rules after).run begun run
    (.of_forall fun turn member _ => away turn member)
  exact ⟨guided.joint.resting, guided.joint.log⟩

/-- Two threads call at once after the first has disconnected. -/
def quietTurns : List (Action Answer Thread Job PublicCall Happening) :=
  .begins (.app 0) (.call (.subscribe 91)) :: .begins (.app 1) (.call .disconnect) ::
    List.replicate 2 (.acts (.app 1) {}) ++ List.replicate 3 (.acts (.app 0) {}) ++
    List.replicate 2 (.acts (.app 1) {})

def disconnected (c : Client) : Option Client :=
  match (publicCall sampleRules.native .disconnect).run (semantics sampleRules.policy (.app 0))
    (fair _) c with
  | some (.ok none, after) => some after
  | _ => none

theorem disconnected_runs {c after : Client} (made : disconnected c = some after) :
    sampleRules.Runs (.app 0) (publicCall sampleRules.native .disconnect) c (.ok none) after := by
  unfold disconnected at made
  split at made
  · next ran =>
    cases made
    exact Program.run_exec _ _ ran
  · cases made

theorem disconnect_is_final_handshake : ∃ (c after : Client) (last : Config Op Client Thread Job)
    (turns : List Turn),
    sampleRules.Runs (.app 0) (publicCall sampleRules.native .disconnect) c (.ok none) after ∧
      Effects.Run (threads sampleRules).Step (unworked after) turns last ∧ turns.length = 9 ∧
      Resting last.shared ∧
      ∃ events, last.shared.log = after.log ++ events ∧
        ∀ event ∈ events, event.isBracket = true := by
  obtain ⟨transitions, c, before, passes⟩ := replay_checked sampleRules sampleClient handshakeScript
    (fun _ c => (disconnected c).any fun after =>
      (play (threads sampleRules).advance id [] (unworked after) quietTurns).any fun result =>
        result.1.all keepsOff && result.1.length == 9) (by decide +kernel)
  obtain ⟨after, made, passes⟩ := (Option.any_eq_true _ _).mp passes
  obtain ⟨turns, last, run, checked⟩ := threads_checked sampleRules (unworked after) quietTurns
    (fun turns _ => turns.all keepsOff && turns.length == 9) passes
  obtain ⟨away, nine⟩ := Bool.and_eq_true_iff.mp checked
  have reached : sampleRules.Reachable c := ⟨_, _, _, transitions, before⟩
  have ran := disconnected_runs made
  exact ⟨c, after, last, turns, ran, run, by simpa using nine,
    disconnect_is_final sampleRules_plain reached ran run (by simpa using away)⟩

end OpenDTP.Client
