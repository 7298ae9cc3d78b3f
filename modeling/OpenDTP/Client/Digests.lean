import OpenDTP.Client.Authentication
import OpenDTP.Client.Composition
import OpenDTP.Protocol.Wire

/-! What an AUTHENTICATION datagram carries: the digest of the payload of the challenge that the
client looked at last, followed by the password of the session. Callbacks may make any calls and may
throw. -/

namespace OpenDTP.Client
open Common Protocol Effects Effects.Program

/-! ### Messages and the digest that is due -/

def Event.isInspected : Event → Bool
  | .inspected _ _ _ => true
  | _ => false

/-- The digest of the payload of the challenge looked at last and the password of the session. -/
def Due (native : Endian) (earlier : List Event) (digest : Bytes) : Prop :=
  ∃ before password since challenge behind salt,
    earlier = before ++ .accepted password :: since ++ challenge :: behind ∧
      (∀ event ∈ since ++ behind, event.isAccepted = false) ∧
      (∀ event ∈ behind, event.isInspected = false) ∧ Asks native salt challenge ∧
      digest = Sha256.sha256 (salt ++ password)

theorem Due.snoc {native : Endian} {earlier : List Event} {digest : Bytes}
    (due : Due native earlier digest) {event : Event} (current : event.isAccepted = false)
    (other : event.isInspected = false) : Due native (earlier ++ [event]) digest := by
  obtain ⟨before, password, since, challenge, behind, salt, rfl, here, last, asks, same⟩ := due
  refine ⟨before, password, since, challenge, behind ++ [event], salt, by simp, ?_, ?_, asks, same⟩
  · intro one member
    rw [← List.append_assoc] at member
    rcases List.mem_append.mp member with old | new
    · exact here one old
    · rw [List.mem_singleton.mp new]
      exact current
  · intro one member
    rcases List.mem_append.mp member with old | new
    · exact last one old
    · rw [List.mem_singleton.mp new]
      exact other

/-- An AUTHENTICATION message is passed to `TransmitRaw` with the digest that is due. -/
def Owed (native : Endian) (earlier : List Event) : Event → Prop
  | .passed type _ payload => type = .authentication → Due native earlier payload
  | _ => True

theorem owed_routine {native : Endian} {earlier : List Event} {event : Event}
    (routine : event.isRoutine = true) : Owed native earlier event := by
  cases event <;> try trivial
  case passed type flag payload =>
    intro same
    subst same
    cases routine

/-- The session has come as far as its state says, and what it answered was due. -/
structure Honest (native : Endian) (c : Client) : Prop where
  faithful : Faithful native c
  owed : Always (Owed native) c.log

section

variable {native : Endian} {c : Client}

/-- A challenge that is answered at once is answered with the password of the session. -/
theorem answered_owed (honest : Honest native c) (connecting : c.state = .connecting) {salt : Bytes}
    {challenge : Event} (asks : Asks native salt challenge) :
    Always (Owed native) (answered salt challenge c).log := by
  obtain ⟨since, hence, _⟩ := honest.faithful (by simp [connecting])
  obtain ⟨before, split⟩ := hence.log
  have routine : challenge.isRoutine = true := by
    cases challenge <;> first | rfl | exact asks.elim
  have asked := honest.owed.snoc challenge (owed_routine routine)
  have stored := asked.snoc (.stored .authenticating) trivial
  refine stored.snoc (answer salt c.password) fun _ => ?_
  refine ⟨before, c.password, since, challenge, [.stored .authenticating], salt, ?_, ?_, ?_, asks, rfl⟩
  · rw [split]
    simp
  · intro event member
    rcases List.mem_append.mp member with old | new
    · exact hence.current event old
    · rw [List.mem_singleton.mp new]
      rfl
  · intro event member
    rw [List.mem_singleton.mp member]
    rfl

theorem honest_chronicled (native : Endian) : Chronicled native (Honest native) where
  routine := by
    intro c after honest routine
    obtain ⟨events, extended, plain⟩ := routine.log
    refine ⟨honest.faithful.routine routine, ?_⟩
    rw [extended]
    exact honest.owed.append fun event member _ => owed_routine (plain event member)
  answered := fun honest connecting asks =>
    ⟨answered_faithful honest.faithful connecting asks, answered_owed honest connecting asks⟩
  admitted := by
    intro c acknowledgement honest authenticating acknowledges
    refine ⟨admitted_faithful honest.faithful authenticating acknowledges, ?_⟩
    refine (honest.owed.snoc acknowledgement ?_).snoc (.stored .connected) trivial
    cases acknowledgement <;> trivial
  begun := by
    intro c after events honest log routine state
    refine ⟨(faithful_chronicled native).begun events honest.faithful log routine state, ?_⟩
    rw [log, List.append_cons]
    exact (honest.owed.snoc (.accepted after.password) trivial).append fun event member _ =>
      owed_routine (routine event member)

end

/-! ### Datagrams and the messages they carry -/

/-- A datagram is sent right after its message was passed to `TransmitRaw`. -/
def Carries (native : Endian) (earlier : List Event) : Event → Prop
  | .sent packet _ => ∃ before type flag payload seqNum,
      earlier = before ++ [.passed type flag payload] ∧
        packet = packetOf native type flag seqNum payload
  | _ => True

abbrev Stamped (native : Endian) (c : Client) : Prop := Always (Carries native) c.log

section

variable {native : Endian} {policy : Policy} {thread : Thread} {c : Client}

/-- The operations that send no datagram. -/
def Wordless : (β : Type) → Op β → Prop
  | _, .sendTo _ _ | _, .note (.sent _ _) => False
  | _, _ => True

theorem step_stamped {β : Type} {operation : Op β} {answer : Answer} {value : β} {after : Client}
    (wordless : Wordless β operation) (stamped : Stamped native c)
    (stepped : step policy thread operation answer c = some (value, after)) :
    Stamped native after := by
  cases operation <;> simp only [step] at stepped <;> (repeat' split at stepped) <;>
    cases stepped
  case note event =>
    refine stamped.snoc event ?_
    cases event <;> trivial
  case sendTo => exact wordless.elim
  all_goals first
    | exact stamped
    | exact stamped.snoc _ trivial
    | (cases ‹Mutex› <;> exact stamped)

theorem wordless_stamped {α : Type} {program : Method α} (issues : program.Issues Wordless)
    (stamped : Stamped native c) :
    program.wp (effect policy thread (keeping (Stamped native))) (fun _ after => Stamped native after)
      c :=
  keeps_of_issues (fun wordless stamped stepped => step_stamped wordless stamped stepped) issues stamped

theorem transmitRaw_stamped (stamped : Stamped native c) (type : MessageType) (flag : UInt16)
    (payload : Bytes) :
    (transmitRaw native type flag payload).wp (effect policy thread (keeping (Stamped native)))
      (fun _ after => Stamped native after) c := by
  have passed : Stamped native { c with log := c.log ++ [.passed type flag payload] } :=
    stamped.snoc _ trivial
  rw [transmitRaw, wp_bind, wp_perform, effect_note, andThen_ok, wp_locked]
  intro _
  rw [wp_bind, wp_perform, effect_isOpen, andThen_ok, wp_ite]
  split
  · exact passed
  · rw [wp_bind, wp_perform, effect_takeSeq, andThen_ok, wp_bind, wp_perform,
      effect_readServerEndpoint, andThen_ok, wp_bind, wp_perform, effect_sendTo]
    intro ec _
    have sent (packet : Bytes) (seqNum : UInt32) (server : Endpoint)
        (same : packet = packetOf native type flag seqNum payload) :
        Always (Carries native) (c.log ++ [.passed type flag payload] ++ [.sent packet server]) :=
      passed.snoc _ ⟨c.log, type, flag, payload, seqNum, rfl, same⟩
    rw [andThen_ok, wp_ite]
    split
    · apply wp_mono (effect_monotone _ _ _) _ _ _ (wordless_stamped ?_ (sent _ _ _ rfl))
      · exact fun _ _ kept => kept
      · exact .bind (.perform trivial) fun _ => by
          simp [Issues, report, invoke, wp_ite, issuing, Wordless]
    · exact sent _ _ _ rfl

theorem Composed.stamped {α : Type} {program : Method α} (composed : Composed native program) :
    ∀ {c : Client}, Stamped native c →
      program.wp (effect policy thread (keeping (Stamped native)))
        (fun _ after => Stamped native after) c := by
  induction composed with
  | ret value => exact fun stamped => stamped
  | throw what => exact fun stamped => stamped
  | perform operation apart =>
    refine wordless_stamped (.perform ?_)
    cases operation <;> first | trivial | cases apart | skip
    case note event => cases event <;> trivial
  | transmitRaw type flag payload => exact fun stamped => transmitRaw_stamped stamped type flag payload
  | bind _ _ ih next =>
    intro c stamped
    rw [wp_bind]
    apply wp_mono (effect_monotone _ _ _) _ _ _ (ih stamped)
    intro outcome middle kept
    cases outcome with
    | ok value => exact next value kept
    | error what => exact kept
  | attempt _ ih =>
    intro c stamped
    rw [wp_attempt]
    exact ih stamped

end

theorem stamped_preserved (rules : Rules) : Preserved rules (Stamped rules.native) where
  silent := by
    intro c after stamped _ _ log
    unfold Stamped
    rw [log]
    exact stamped
  calls _ _ stamped made := (Composed.publicCall made).stamped stamped
  handlers _ stamped kind completion := (Composed.handler kind completion).stamped stamped
  awaits _ _ stamped := (Composed.awaitConnection : Composed rules.native _).stamped stamped

/-! ### Every AUTHENTICATION datagram -/

/-- A datagram of type AUTHENTICATION. -/
def isAnswer (native : Endian) (packet : Bytes) : Bool :=
  match deserializeHeader native packet with
  | some header => header.type = .authentication
  | none => false

/-- Whenever an AUTHENTICATION datagram was sent, its payload was the digest of the challenge looked
at last and the password of the session. -/
theorem sent_answer_due (rules : Rules) {c : Client} (reached : rules.Reachable c) :
    Always (fun earlier event => ∀ packet destination, event = .sent packet destination →
      isAnswer rules.native packet = true → Due rules.native earlier (packet.drop 18)) c.log := by
  have honest : Honest rules.native c := (honest_chronicled rules.native).preserved.reachable
    (fun _ _ _ => ⟨.of_disconnected rfl, .nil⟩) reached
  have stamped := (stamped_preserved rules).reachable (fun _ _ _ => .nil) reached
  rintro earlier event later split packet destination rfl answers
  obtain ⟨before, type, flag, payload, seqNum, rfl, rfl⟩ := stamped _ _ _ split
  have authenticates : type = .authentication := by
    unfold isAnswer packetOf at answers
    rw [Protocol.deserializeHeader_serializeHeader] at answers
    exact of_decide_eq_true answers
  rw [List.append_assoc] at split
  have due : Due rules.native before payload := honest.owed before _ _ split authenticates
  have digest : (packetOf rules.native type flag seqNum payload).drop 18 = payload :=
    List.drop_left' (Protocol.length_serializeHeader _ _)
  rw [digest]
  exact due.snoc rfl rfl

end OpenDTP.Client
