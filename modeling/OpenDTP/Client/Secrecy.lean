import OpenDTP.Client.Digests
import OpenDTP.Client.Junk
import OpenDTP.Client.Threads

/-! Two runs that differ in the passwords. With the same calls, completions and datagrams, and the
same decisions of the environment, they go side by side: the clients differ in the password, and what
they show to the outside differs in the digests of AUTHENTICATION datagrams. -/

namespace OpenDTP.Client
open Common Protocol Effects Effects.Program

/-! ### Steps with the decisions of the environment -/

/-- A job with all that the environment decides while it runs, or something that happens. -/
inductive Episode where
  | works (thread : Thread) (job : Job) (script : Script Answer PublicCall)
  | happens (happening : Happening)
  deriving DecidableEq

/-- The calls that may be nested at an operation. -/
def Rules.makes (rules : Rules) (β : Type) (operation : Op β) (made : PublicCall) : Prop :=
  (threads rules).nests operation made

inductive Plays (rules : Rules) : Client → Episode → Client → Prop where
  | works {c start after : Client} {thread : Thread} {job : Job} {script : Script Answer PublicCall}
      {task : Task Op Client} {finish : Client → Client}
      (begun : begins rules thread job c = some (start, task))
      (ran : Scripted (semantics rules.policy thread) rules.makes (threads rules).body task script
        start (.ok finish) after) :
      Plays rules c (.works thread job script) (finish after)
  | happens {c after : Client} {happening : Happening} (happened : happens happening c = some after) :
      Plays rules c (.happens happening) after

section

variable {rules : Rules} {c after : Client}

/-- Every step is an episode. -/
theorem Step.plays {label : Label} (step : Step rules c label after) :
    ∃ episode, Plays rules c episode after := by
  cases step.does with
  | @job thread job start final α program rest outcome begun ran =>
    have ended : rules.Runs thread (program.settle fun outcome => .ret (rest outcome)) start
        (.ok (rest outcome)) final := ran.join (.ret _ _)
    obtain ⟨script, scripted⟩ := ended.scripted Rules.nesting_threads
    exact ⟨_, .works begun scripted⟩
  | happens happened => exact ⟨_, .happens happened⟩

theorem awaitConnection_returns {thread : Thread} {outcome : Outcome (Option ClientError)}
    (ran : rules.Runs thread awaitConnection c outcome after) : ∃ result, outcome = .ok result := by
  have covers : Covers (semantics rules.policy thread) rules.nesting
      (during fun _ _ _ => True) :=
    { refl := fun operation state => by cases operation <;> trivial
      trans := fun operation first second third one two => by
        cases operation
        case endCallback => trivial
        all_goals exact Eq.trans two one
      nested := fun operation state inner allowed => by
        cases operation
        case endCallback => exact demonic_trivial inner state
        all_goals exact allowed.elim }
  obtain ⟨same, _⟩ := covers.sound ran _ (awaitConnection_within c)
  exact ⟨_, same⟩

theorem scripted_runs {thread : Thread} {α : Type} {program : Method α}
    {script : Script Answer PublicCall} {outcome : Outcome α}
    (ran : Scripted (semantics rules.policy thread) rules.makes (threads rules).body program script c
      outcome after) : rules.Runs thread program c outcome after := by
  apply ran.exec
  intro β operation state made may
  cases operation <;> first | exact ⟨made, may, rfl⟩ | exact may.elim

/-- Every episode is a step. -/
theorem Plays.step {episode : Episode} (plays : Plays rules c episode after) :
    ∃ label, Step rules c label after := by
  cases plays with
  | @works start final thread job script task finish begun ran =>
    have executed := scripted_runs ran
    cases begins_cases begun with
    | call free =>
      obtain ⟨ended, middle, early, late⟩ := executed.parts
      cases late
      exact ⟨_, .call free early⟩
    | connectSync free =>
      obtain ⟨ended, middle, early, late⟩ := executed.parts
      cases late
      exact ⟨_, .connectSync free early⟩
    | awaits checking =>
      obtain ⟨ended, middle, early, late⟩ := executed.parts
      cases late
      obtain ⟨result, rfl⟩ := awaitConnection_returns early
      exact ⟨_, .awaits checking early⟩
    | handles found queued idle going =>
      obtain ⟨ended, middle, early, late⟩ := executed.parts
      cases late
      exact ⟨_, .handles (parted found) queued idle going early⟩
  | happens happened =>
    unfold Client.happens at happened
    split at happened
    · split at happened
      · cases happened
      · next found =>
        split at happened
        · next may =>
          cases happened
          exact ⟨_, .completes (parted found) may.1 may.2.1 may.2.2⟩
        · cases happened
    · split at happened
      · cases happened
      · next found =>
        split at happened
        · next may =>
          cases happened
          exact ⟨_, .arrives (parted found) may.1 may.2.1 may.2.2⟩
        · cases happened
    · split at happened
      · next ready =>
        cases happened
        exact ⟨_, .leaves ready.1 ready.2⟩
      · cases happened

theorem plays_reachable {dmrId : UInt32} {description : Bytes} {hooks : Hook → Bool}
    (reached : Effects.Reachable (Plays rules) (fresh dmrId description hooks) c) :
    rules.Reachable c := by
  refine ⟨dmrId, description, hooks, reached.invariant _ .refl ?_⟩
  intro before episode after sofar plays
  obtain ⟨label, step⟩ := plays.step
  exact sofar.snoc step

end

/-! ### What is seen from outside -/

/-- The same call without its password. -/
def PublicCall.bare : PublicCall → PublicCall
  | .connect host port _ timeoutMs => .connect host port [] timeoutMs
  | made => made

def Event.bare : Event → Event
  | .called made => .called made.bare
  | .returned made result => .returned made.bare result
  | .accepted _ => .accepted []
  | event => event

def Event.isPassed : Event → Bool
  | .passed _ _ _ => true
  | _ => false

/-- The states, callbacks, datagrams and all else that a run shows, in order. The passwords that the
application hands over and the messages that have not left the client are no part of it. -/
def outward (log : List Event) : List Event := (log.filter fun event => !event.isPassed).map Event.bare

/-- An AUTHENTICATION datagram without its payload. -/
def Event.blurred (native : Endian) : Event → Event
  | .sent packet destination =>
    .sent (if isAnswer native packet then packet.take 18 else packet) destination
  | event => event

/-- What is seen from outside, the payloads of AUTHENTICATION datagrams apart. -/
def view (native : Endian) (log : List Event) : List Event :=
  (outward log).map (Event.blurred native)

/-- The payload of an AUTHENTICATION datagram. -/
def Event.digest (native : Endian) : Event → Option Bytes
  | .sent packet _ => if isAnswer native packet then some (packet.drop 18) else none
  | _ => none

/-- The payloads of the AUTHENTICATION datagrams, in order. -/
def digests (native : Endian) (log : List Event) : List Bytes := log.filterMap (Event.digest native)

/-- The same client except for the password, and the same view of what it has done. -/
def Veiled (native : Endian) (c other : Client) : Prop :=
  ∃ password log, other = { c with password := password, log := log } ∧
    view native log = view native c.log

theorem view_append (native : Endian) (first second : List Event) :
    view native (first ++ second) = view native first ++ view native second := by
  unfold view outward
  rw [List.filter_append, List.map_append, List.map_append]

theorem view_recorded {native : Endian} {first second : List Event}
    (same : view native first = view native second) {one two : Event}
    (like : view native [one] = view native [two]) :
    view native (first ++ [one]) = view native (second ++ [two]) := by
  rw [view_append, view_append, same, like]

theorem isAnswer_cut (native : Endian) (packet : Bytes) :
    isAnswer native (packet.take 18) = isAnswer native packet := by
  have same : deserializeHeader native (packet.take 18) = deserializeHeader native packet := by
    cases decoded : deserializeHeader native packet with
    | some header => exact deserializeHeader_cut decoded (Nat.le_refl 18)
    | none =>
      cases cut : deserializeHeader native (packet.take 18) with
      | none => rfl
      | some header =>
        have front := serializeHeader_deserializeHeader native cut
        rw [List.take_take, Nat.min_self] at front
        have whole := deserializeHeader_serializeHeader native header (packet.drop 18)
        rw [front, List.take_append_drop, decoded] at whole
        cases whole
  unfold isAnswer
  rw [same]

/-- Two entries with the same view are both of AUTHENTICATION datagrams or the same. -/
theorem digest_of_blurred {native : Endian} {one two : Event}
    (like : one.blurred native = two.blurred native) :
    (one.digest native).isSome = (two.digest native).isSome ∧
      (one.digest native = two.digest native → one = two) := by
  cases one <;> cases two <;> simp only [Event.blurred, reduceCtorEq] at like <;>
    try first | exact ⟨rfl, fun _ => like⟩ | exact ⟨rfl, fun _ => rfl⟩
  rename_i packet destination other target
  simp only [Event.sent.injEq] at like
  obtain ⟨like, rfl⟩ := like
  have kinds : isAnswer native packet = isAnswer native other := by
    have cut := congrArg (isAnswer native) like
    split at cut <;> split at cut <;> simpa only [isAnswer_cut] using cut
  simp only [Event.digest, kinds] at like ⊢
  split
  · next answers =>
    rw [if_pos answers, if_pos answers] at like
    refine ⟨rfl, fun same => ?_⟩
    have behind : packet.drop 18 = other.drop 18 := Option.some.inj same
    rw [← List.take_append_drop 18 packet, like, behind, List.take_append_drop]
  · next plain =>
    rw [if_neg plain, if_neg plain] at like
    exact ⟨rfl, fun _ => by rw [like]⟩

theorem digests_outward (native : Endian) (log : List Event) :
    digests native (outward log) = digests native log := by
  unfold digests outward
  rw [List.filterMap_map, List.filterMap_filter]
  congr 1
  funext event
  cases event <;> rfl

theorem eq_of_blurred {native : Endian} {first second : List Event}
    (like : first.map (Event.blurred native) = second.map (Event.blurred native))
    (same : digests native first = digests native second) : first = second := by
  induction first generalizing second with
  | nil => exact (List.map_eq_nil_iff.mp like.symm).symm
  | cons one first ih =>
    cases second with
    | nil => cases like
    | cons two second =>
      obtain ⟨head, tail⟩ := List.cons.inj like
      obtain ⟨kinds, equal⟩ := digest_of_blurred head
      simp only [digests, List.filterMap_cons] at same
      split at same
      · next none =>
        rw [none] at kinds equal
        split at same
        · next other => rw [equal other.symm, ih tail same]
        · next other =>
          rw [other] at kinds
          cases kinds
      · next digest some =>
        rw [some] at kinds equal
        split at same
        · next other =>
          rw [other] at kinds
          cases kinds
        · next other =>
          obtain ⟨here, rest⟩ := List.cons.inj same
          rw [equal (by rw [other, here]), ih tail rest]

/-- With the digests the view is complete. -/
theorem outward_of_view {native : Endian} {first second : List Event}
    (same : view native first = view native second)
    (alike : digests native first = digests native second) : outward first = outward second := by
  apply eq_of_blurred same
  rw [digests_outward, digests_outward, alike]

/-! ### Operations side by side -/

/-- The operations that match: their passwords and digests may differ. -/
inductive Matching (native : Endian) : {β : Type} → Op β → Op β → Prop where
  | same {β : Type} (operation : Op β) : Matching native operation operation
  | writePassword (one two : Bytes) : Matching native (.writePassword one) (.writePassword two)
  | accept (one two : Bytes) : Matching native (.accept one) (.accept two)
  | note {one two : Event} (like : view native [one] = view native [two]) :
      Matching native (.note one) (.note two)
  | sendTo {one two : Bytes} {destination : Endpoint}
      (like : view native [.sent one destination] = view native [.sent two destination]) :
      Matching native (.sendTo one destination) (.sendTo two destination)

/-- The passwords that are read may differ. -/
def Replies : {β : Type} → Op β → β → β → Prop
  | _, .readPassword, _, _ => True
  | _, _, answer, reply => answer = reply

def secret (native : Endian) : Pairing Op where
  operations := Matching native
  answers := Replies

section

variable {native : Endian} {policy : Policy} {thread : Thread} {c after other : Client}

/-- The same operation on both sides: the password is only copied. -/
theorem Veiled.step (veiled : Veiled native c other) {β : Type} {operation : Op β} {answer : Answer}
    {value : β} (stepped : step policy thread operation answer c = some (value, after)) :
    ∃ reply otherAfter, step policy thread operation answer other = some (reply, otherAfter) ∧
      Replies operation value reply ∧ Veiled native after otherAfter := by
  obtain ⟨password, log, rfl, seen⟩ := veiled
  cases operation <;> simp only [Client.step] at stepped ⊢ <;> (repeat' split at stepped) <;>
    cases stepped
  case lock mutex free =>
    cases mutex <;> exact ⟨_, _, if_pos free, rfl, _, _, rfl, seen⟩
  case unlock mutex => cases mutex <;> exact ⟨_, _, rfl, rfl, _, _, rfl, seen⟩
  case resetSeq.isTrue realTime yes =>
    subst yes
    exact ⟨_, _, rfl, rfl, _, _, rfl, seen⟩
  case resetSeq.isFalse realTime no =>
    cases realTime
    · exact ⟨_, _, rfl, rfl, _, _, rfl, seen⟩
    · exact absurd rfl no
  case join.isFalse.isTrue exited returns =>
    refine ⟨_, _, ?_, rfl, password, log, rfl, seen⟩
    rw [if_neg exited]
    exact if_pos returns
  case openSocket.isFalse.isFalse isV6 good shut =>
    refine ⟨_, _, ?_, rfl, password, log ++ [.opened .success], rfl, view_recorded seen rfl⟩
    rw [if_neg good]
    exact if_neg shut
  all_goals first
    | exact ⟨_, _, rfl, rfl, _, _, rfl, seen⟩
    | exact ⟨_, _, rfl, trivial, _, _, rfl, seen⟩
    | exact ⟨_, _, rfl, rfl, _, _, rfl, view_recorded seen rfl⟩
    | exact ⟨_, _, if_pos ‹_›, rfl, _, _, rfl, seen⟩
    | exact ⟨_, _, if_neg ‹_›, rfl, _, _, rfl, seen⟩
    | exact ⟨_, _, if_pos ‹_›, rfl, _, _, rfl, view_recorded seen rfl⟩
    | exact ⟨_, _, if_neg ‹_›, rfl, _, _, rfl, view_recorded seen rfl⟩

end

theorem secret_lockstep (native : Endian) (policy : Policy) (thread : Thread) :
    Lockstep (semantics policy thread) (semantics policy thread) (secret native) (Veiled native) := by
  intro β one two answer c after other value matching veiled stepped
  cases matching with
  | same => exact veiled.step stepped
  | writePassword one two =>
    obtain ⟨password, log, rfl, seen⟩ := veiled
    cases stepped
    exact ⟨_, _, rfl, rfl, _, _, rfl, seen⟩
  | accept one two =>
    obtain ⟨password, log, rfl, seen⟩ := veiled
    cases stepped
    exact ⟨_, _, rfl, rfl, _, _, rfl, view_recorded seen rfl⟩
  | note like =>
    obtain ⟨password, log, rfl, seen⟩ := veiled
    cases stepped
    exact ⟨_, _, rfl, rfl, _, _, rfl, view_recorded seen like.symm⟩
  | @sendTo one two destination like =>
    obtain ⟨password, log, rfl, seen⟩ := veiled
    simp only [semantics, step] at stepped ⊢
    split at stepped
    · cases stepped
    · next may =>
      cases stepped
      exact ⟨_, _, if_neg may, rfl, _, _, rfl, view_recorded seen like.symm⟩

/-! ### Methods side by side -/

/-- The operations that do not read the password. -/
def Unread : (β : Type) → Op β → Prop
  | _, .readPassword => False
  | _, _ => True

theorem Public.unread {β : Type} (operation : Op β) (isPublic : Public β operation) :
    Unread β operation := by
  cases operation <;> trivial

section

variable {native : Endian} {α : Type}

/-- Two programs that the passwords alone tell apart. -/
abbrev Twin (native : Endian) (one two : Method α) : Prop := Paired (secret native) one two

theorem twin_self {program : Method α} (issues : program.Issues Unread) :
    Twin native program program := by
  apply Paired.itself _ issues
  intro β operation unread
  refine ⟨.same operation, fun answer reply may => ?_⟩
  cases operation <;> first | exact may | exact unread.elim

theorem twin_perform {operation : Op α} (unread : Unread α operation) :
    Twin native (perform operation) (perform operation) := twin_self (.perform unread)

theorem twin_locked (mutex : Mutex) {one two : Method α} (twin : Twin native one two) :
    Twin native (locked mutex one) (locked mutex two) :=
  .bind (twin_perform trivial) fun _ => .bind twin.attempt fun outcome =>
    .bind (twin_perform trivial) fun _ => .ofOutcome outcome

theorem twin_report (callback : Callback) : Twin native (report callback) (report callback) := by
  apply twin_self
  simp [Issues, report, invoke, wp_ite, issuing, Unread]

theorem twin_disconnect : Twin native (disconnect native) (disconnect native) :=
  twin_self ((disconnect_public native).mono Public.unread)

theorem twin_sendKeepAlive : Twin native (sendKeepAlive native) (sendKeepAlive native) :=
  twin_self ((sendKeepAlive_sending native).mono fun operation sending =>
    Public.unread operation (Sending.toPublic operation sending))

theorem twin_startReceiveLoop : Twin native startReceiveLoop startReceiveLoop := by
  apply twin_self
  simp [Issues, startReceiveLoop, wp_ite, issuing, Unread]

theorem twin_startKeepAliveTimer : Twin native startKeepAliveTimer startKeepAliveTimer := by
  apply twin_self
  simp [Issues, startKeepAliveTimer, wp_ite, issuing, Unread]

theorem twin_failSession (error : ClientError) (message : String) :
    Twin native (failSession native error message) (failSession native error message) :=
  .bind (twin_perform trivial) fun _ => .bind (twin_report _) fun _ =>
    .bind twin_disconnect fun _ => twin_perform trivial

theorem isAnswer_authentication (flag : UInt16) (seqNum : UInt32) (payload : Bytes) :
    isAnswer native (packetOf native .authentication flag seqNum payload) = true := by
  unfold isAnswer packetOf
  rw [deserializeHeader_serializeHeader]
  rfl

/-- Two AUTHENTICATION datagrams with digests of the same length have the same view. -/
theorem view_authentication (flag : UInt16) (seqNum : UInt32) (destination : Endpoint)
    {one two : Bytes} (length : one.length = two.length) :
    view native [.sent (packetOf native .authentication flag seqNum one) destination] =
      view native [.sent (packetOf native .authentication flag seqNum two) destination] := by
  have front (payload : Bytes) : (packetOf native .authentication flag seqNum payload).take 18 =
      serializeHeader native ⟨.authentication, flag, seqNum, UInt16.ofNat payload.length⟩ :=
    List.take_left' (length_serializeHeader _ _)
  simp only [view, outward, Event.isPassed, List.filter_cons, Bool.not_false, if_true, List.filter_nil,
    List.map_cons, List.map_nil, Event.bare, Event.blurred, isAnswer_authentication, front, length]

/-- Two AUTHENTICATION messages with digests of the same length. -/
theorem twin_authentication (flag : UInt16) {one two : Bytes} (length : one.length = two.length) :
    Twin native (transmitRaw native .authentication flag one)
      (transmitRaw native .authentication flag two) := by
  refine .bind (.perform (.note rfl) fun _ _ may => may) fun _ => twin_locked _ ?_
  refine .bind (twin_perform trivial) fun isOpen => ?_
  split
  · exact .ret ()
  · refine .bind (twin_perform trivial) fun seqNum => .bind (twin_perform trivial) fun server => ?_
    refine .bind (.perform (.sendTo (view_authentication _ _ _ length)) fun _ _ may => may) fun ec => ?_
    split
    · exact .bind (twin_perform trivial) fun _ => twin_report _
    · exact .ret ()

theorem twin_processPacket (packet : Bytes) :
    Twin native (processPacket native packet) (processPacket native packet) := by
  unfold processPacket
  split
  · exact .ret ()
  · split
    · exact .ret ()
    · split
      · refine .bind (twin_perform trivial) fun state => ?_
        split
        · refine .bind (twin_perform trivial) fun _ => .call (.same _) fun one two _ => ?_
          exact twin_authentication _ (by rw [Sha256.length_sha256, Sha256.length_sha256])
        · exact .ret ()
      · split
        · split
          · refine .bind (twin_perform trivial) fun state => ?_
            split
            · exact .bind (twin_perform trivial) fun _ => .bind (twin_perform trivial) fun _ =>
                .bind twin_startKeepAliveTimer fun _ =>
                .bind (twin_locked _ (twin_perform trivial)) fun _ => twin_report _
            · exact .ret ()
          · exact .ret ()
        · dsimp only
          split
          · exact .ret ()
          · exact twin_report _

theorem twin_handleReceive (ec : ErrorCode) (size : Nat) :
    Twin native (handleReceive native ec size) (handleReceive native ec size) := by
  refine .bind (twin_perform trivial) fun state => ?_
  split
  · exact .ret ()
  · split
    · split
      · exact .bind (twin_perform trivial) fun _ => .bind (twin_report _) fun _ => twin_disconnect
      · exact .ret ()
    · split
      · refine .bind (twin_perform trivial) fun sender => .bind (twin_perform trivial) fun server =>
          .bind (twin_perform trivial) fun packet => .bind (twin_perform trivial) fun _ => ?_
        split
        · exact .bind (twin_processPacket packet) fun _ => twin_startReceiveLoop
        · exact twin_startReceiveLoop
      · exact twin_startReceiveLoop

theorem twin_handler (kind : Kind) (completion : Completion) :
    Twin native (handler native kind completion) (handler native kind completion) := by
  cases kind with
  | connectTimeout =>
    unfold handler connectTimeoutHandler
    dsimp only
    split
    · exact .ret ()
    · have waits : Twin native handshaking handshaking := by
        apply twin_self
        simp [Issues, handshaking, wp_ite, issuing, Unread]
      refine twin_locked _ (.bind waits fun waiting => ?_)
      split
      · exact twin_failSession _ _
      · exact .ret ()
  | resolve =>
    refine twin_locked _ (.bind (twin_perform trivial) fun state => ?_)
    split
    · exact .ret ()
    · split
      · exact twin_failSession _ _
      · refine .bind (twin_perform trivial) fun _ => .bind (twin_perform trivial) fun openEc => ?_
        split
        · exact twin_failSession _ _
        · refine .bind (twin_perform trivial) fun bindEc => ?_
          split
          · exact twin_failSession _ _
          · exact .bind twin_startReceiveLoop fun _ => twin_sendKeepAlive
  | receive => exact twin_handleReceive _ _
  | keepAlive =>
    unfold handler keepAliveHandler
    dsimp only
    split
    · exact .ret ()
    · refine .bind (twin_perform trivial) fun state => ?_
      split
      · exact .ret ()
      · exact .bind twin_sendKeepAlive fun _ => twin_startKeepAliveTimer

/-- The same call, with another password perhaps. -/
inductive Like : PublicCall → PublicCall → Prop where
  | connect (host : String) (port : UInt16) (one two : Bytes) (timeoutMs : UInt32) :
      Like (.connect host port one timeoutMs) (.connect host port two timeoutMs)
  | same (made : PublicCall) : Like made made

theorem twin_connect (host : String) (port : UInt16) (one two : Bytes) (timeoutMs : UInt32) :
    Twin native (connect host port one timeoutMs) (connect host port two timeoutMs) := by
  refine twin_locked _ (.bind (twin_perform trivial) fun state => ?_)
  split
  · exact .ret _
  · have starts : Twin native (startUp host port timeoutMs) (startUp host port timeoutMs) :=
      .bind (twin_perform trivial) fun _ => .bind (twin_perform trivial) fun _ =>
        .bind (.attempt (.bind (twin_perform trivial) fun thread => .bind (.ofOutcome thread) fun _ =>
          .bind (twin_perform trivial) fun _ => .bind (twin_perform trivial) fun _ =>
          .bind (twin_perform trivial) fun wait => .bind (.ofOutcome wait) fun _ =>
          .bind (twin_perform trivial) fun resolve => .ofOutcome resolve)) fun outcome =>
        .bind (twin_perform trivial) fun _ => .ofOutcome outcome
    refine .bind (.perform (.accept one two) fun _ _ may => may) fun _ =>
      .bind (.perform (.writePassword one two) fun _ _ may => may) fun _ =>
      .bind (twin_perform trivial) fun _ => .bind (twin_perform trivial) fun _ =>
      .bind (twin_perform trivial) fun _ => .bind (twin_perform trivial) fun _ =>
      .bind starts.attempt fun outcome => ?_
    split
    · exact .ret _
    · exact .bind (twin_perform trivial) fun _ => .bind (twin_report _) fun _ => .ret _

theorem twin_publicCall {made instead : PublicCall} (like : Like made instead) :
    Twin native (publicCall native made) (publicCall native instead) := by
  cases like with
  | same => exact twin_self ((publicCall_public native made).mono Public.unread)
  | connect host port one two timeoutMs =>
    exact .bind (.perform (.note rfl) fun _ _ may => may) fun _ =>
      .bind (.bind (twin_connect host port one two timeoutMs) fun _ => .ret _) fun result =>
      .bind (.perform (.note rfl) fun _ _ may => may) fun _ => .ret result

end

/-! ### Episodes side by side -/

/-- The same job, with another password perhaps. -/
inductive Job.Like : Job → Job → Prop where
  | call {made instead : PublicCall} (like : Client.Like made instead) :
      Job.Like (.call made) (.call instead)
  | connectSync (host : String) (port : UInt16) (one two : Bytes) (timeoutMs : UInt32) :
      Job.Like (.connectSync host port one timeoutMs) (.connectSync host port two timeoutMs)
  | same (job : Job) : Job.Like job job

/-- The same episode, with other passwords perhaps: those of the job and of the calls nested in it. -/
inductive Episode.Like : Episode → Episode → Prop where
  | works {thread : Thread} {job instead : Job} {script other : Script Answer PublicCall}
      (like : job.Like instead) (alike : script.Alike Client.Like other) :
      Episode.Like (.works thread job script) (.works thread instead other)
  | happens (happening : Happening) : Episode.Like (.happens happening) (.happens happening)

/-- What happens to the client when a job has ended does not look at the password or the log. -/
def Aloof (native : Endian) (finish : Client → Client) : Prop :=
  ∀ c other, Veiled native c other → Veiled native (finish c) (finish other)

section

variable {rules : Rules} {c other after : Client}

theorem entering_aloof (native : Endian) (id : Nat) (outcome : Outcome (Option ClientError)) :
    Aloof native (entering id outcome) := by
  rintro c other ⟨password, log, rfl, seen⟩
  unfold entering
  split <;> exact ⟨password, log, rfl, seen⟩

theorem reawaited_aloof (native : Endian) (id : Nat) (outcome : Outcome (Option ClientError)) :
    Aloof native (reawaited id outcome) := by
  rintro c other ⟨password, log, rfl, seen⟩
  cases outcome <;> exact ⟨password, log, rfl, seen⟩

theorem resting_aloof (native : Endian) (outcome : Outcome Unit) : Aloof native (resting outcome) := by
  rintro c other ⟨password, log, rfl, seen⟩
  exact ⟨password, log, rfl, seen⟩

/-- The task of a job ends with something that is aloof. -/
theorem begins_aloof {thread : Thread} {job : Job} {start final : Client} {task : Task Op Client}
    {finish : Client → Client} (begun : begins rules thread job c = some (start, task))
    (ran : rules.Runs thread task start (.ok finish) final) : Aloof rules.native finish := by
  cases begins_cases begun with
  | call free =>
    obtain ⟨ended, middle, _, late⟩ := ran.parts
    cases late
    exact fun _ _ veiled => veiled
  | connectSync free =>
    obtain ⟨ended, middle, _, late⟩ := ran.parts
    cases late
    exact entering_aloof _ _ _
  | awaits checking =>
    obtain ⟨ended, middle, _, late⟩ := ran.parts
    cases late
    exact reawaited_aloof _ _ _
  | handles found queued idle going =>
    obtain ⟨ended, middle, _, late⟩ := ran.parts
    cases late
    exact resting_aloof _ _

/-- The two clients can begin the same jobs, with tasks that the passwords alone tell apart. -/
theorem begins_veiled (veiled : Veiled rules.native c other) {thread : Thread} {job instead : Job}
    (like : job.Like instead) {start : Client} {task : Task Op Client}
    (begun : begins rules thread job c = some (start, task)) :
    ∃ otherStart twin, begins rules thread instead other = some (otherStart, twin) ∧
      Veiled rules.native start otherStart ∧ Twin rules.native task twin := by
  obtain ⟨password, log, rfl, seen⟩ := veiled
  cases begins_cases begun with
  | call free =>
    cases like with
    | call like =>
      exact ⟨_, _, if_pos free, ⟨_, _, rfl, seen⟩, .settle (twin_publicCall like) fun _ => .ret _⟩
    | same =>
      exact ⟨_, _, if_pos free, ⟨_, _, rfl, seen⟩,
        .settle (twin_publicCall (.same _)) fun _ => .ret _⟩
  | connectSync free =>
    cases like with
    | connectSync =>
      exact ⟨_, _, if_pos free, ⟨_, _, rfl, seen⟩,
        .settle (twin_publicCall (.connect _ _ _ _ _)) fun _ => .ret _⟩
    | same =>
      exact ⟨_, _, if_pos free, ⟨_, _, rfl, seen⟩,
        .settle (twin_publicCall (.same _)) fun _ => .ret _⟩
  | awaits checking =>
    cases like with
    | same =>
      have waits : Twin rules.native awaitConnection awaitConnection := by
        apply twin_self
        simp [Issues, awaitConnection, locked, settled, wp_ite, issuing, Unread]
      exact ⟨_, _, if_pos checking, ⟨_, _, rfl, seen⟩, .settle waits fun _ => .ret _⟩
  | handles found queued idle going =>
    cases like with
    | same =>
      refine ⟨_, _, ?_, ⟨password, log, rfl, seen⟩, .settle (twin_handler _ _) fun _ => .ret _⟩
      simp only [begins, found, queued]
      exact if_pos ⟨idle, going⟩

theorem happens_veiled {native : Endian} (veiled : Veiled native c other) {happening : Happening}
    (happened : happens happening c = some after) :
    ∃ otherAfter, happens happening other = some otherAfter ∧ Veiled native after otherAfter := by
  obtain ⟨password, log, rfl, seen⟩ := veiled
  unfold happens at happened
  split at happened
  · split at happened
    · cases happened
    · next found =>
      split at happened
      · next may =>
        cases happened
        refine ⟨_, ?_, password, log, rfl, seen⟩
        simp only [happens, found]
        exact if_pos may
      · cases happened
  · split at happened
    · cases happened
    · next found =>
      split at happened
      · next may =>
        cases happened
        refine ⟨_, ?_, password, log, rfl, seen⟩
        simp only [happens, found]
        exact if_pos may
      · cases happened
  · split at happened
    · next ready =>
      cases happened
      exact ⟨_, if_pos ready, password, log, rfl, seen⟩
    · cases happened

/-- Episodes that are alike keep the clients side by side. -/
theorem Plays.veiled {episode instead : Episode} {otherAfter : Client}
    (plays : Plays rules c episode after) (beside : Plays rules other instead otherAfter)
    (like : episode.Like instead) (veiled : Veiled rules.native c other) :
    Veiled rules.native after otherAfter := by
  cases like with
  | happens =>
    cases plays with
    | happens happened =>
      cases beside with
      | happens otherHappened =>
        obtain ⟨_, same, kept⟩ := happens_veiled veiled happened
        rw [otherHappened] at same
        cases same
        exact kept
  | works like alike =>
    cases plays with
    | works begun ran =>
      cases beside with
      | works otherBegun otherRan =>
        obtain ⟨_, _, same, started, twin⟩ := begins_veiled veiled like begun
        rw [otherBegun] at same
        cases same
        obtain ⟨equal, ended⟩ := ran.lockstep (secret_lockstep rules.native rules.policy _)
          (fun like => .bind (twin_publicCall like) fun _ => .ret ()) twin alike otherRan started
        cases equal
        exact begins_aloof begun (scripted_runs ran) _ _ ended

/-- Runs that are alike keep the clients side by side after every episode. -/
theorem run_veiled {last otherLast : Client} {transitions others : List (Transition Client Episode)}
    (run : Effects.Run (Plays rules) c transitions last)
    (beside : Effects.Run (Plays rules) other others otherLast)
    (alike : List.Forall₂ (fun one two => one.label.Like two.label) transitions others)
    (veiled : Veiled rules.native c other) :
    List.Forall₂ (fun one two => Veiled rules.native one.after two.after) transitions others ∧
      Veiled rules.native last otherLast :=
  run.lockstep (fun veiled like plays beside => plays.veiled beside like veiled) beside alike veiled

end

/-! ### The password -/

/-- Every AUTHENTICATION datagram carries 32 bytes: the digest of the challenge looked at last and the
password of the session. -/
def Digested (native : Endian) (log : List Event) : Prop :=
  Always (fun earlier event => ∀ packet destination, event = .sent packet destination →
    isAnswer native packet = true →
      (packet.drop 18).length = 32 ∧ Due native earlier (packet.drop 18)) log

theorem digested {rules : Rules} {c : Client} (reached : rules.Reachable c) :
    Digested rules.native c.log := by
  intro earlier event later split packet destination same answers
  have due := sent_answer_due rules reached earlier event later split packet destination same answers
  refine ⟨?_, due⟩
  obtain ⟨_, _, _, _, _, _, _, _, _, _, digest⟩ := due
  rw [digest, Sha256.length_sha256]

/-! ### Episodes by execution -/

section

variable (rules : Rules)
  [∀ (β : Type) (operation : Op β) (made : PublicCall), Decidable (rules.makes β operation made)]

def playOut (c : Client) : Episode → Option Client
  | .works thread job script =>
    match begins rules thread job c with
    | none => none
    | some (start, task) =>
      match script.follow (semantics rules.policy thread) rules.makes (threads rules).body task
        start with
      | some (.ok finish, after) => some (finish after)
      | _ => none
  | .happens happening => happens happening c

theorem playOut_plays {c after : Client} {episode : Episode}
    (played : playOut rules c episode = some after) : Plays rules c episode after := by
  cases episode with
  | works thread job script =>
    simp only [playOut] at played
    split at played
    · cases played
    · next begun =>
      split at played
      · next followed =>
        cases played
        exact .works begun (script.follow_scripted followed)
      · cases played
  | happens happening => exact .happens played

end

instance (β : Type) (operation : Op β) (made : PublicCall) :
    Decidable (sampleRules.makes β operation made) :=
  .isFalse (by cases operation <;> exact id)

/-- Everything succeeds, so many times. -/
def fairly : Nat → Script Answer PublicCall
  | 0 => .done
  | count + 1 => .answers {} (fairly count)

/-- The handshake with a password. -/
def handshakeWith (password : Bytes) : List Episode :=
  let challenge := packetOf .little .challenge MessageFlag.none 0 []
  let acknowledgement := packetOf .little .keepAlive MessageFlag.none 1 []
  [.works (.app 0) (.call (.connect "master" 54006 password 1000)) (fairly 19),
    .happens (.completes 1 { endpoints := [sampleServer] }),
    .works .io (.handles 1) (fairly 17),
    .happens (.arrives 1 sampleServer challenge),
    .works .io (.handles 1) (fairly 18),
    .happens (.arrives 1 sampleServer acknowledgement),
    .works .io (.handles 1) (fairly 18)]

/-- Scripts of fair answers are alike. -/
theorem fairly_alike (count : Nat) : (fairly count).Alike Like (fairly count) := by
  induction count with
  | zero => exact .done
  | succ count ih => exact .answers ih

theorem handshakeWith_like (one two : Bytes) :
    List.Forall₂ Episode.Like (handshakeWith one) (handshakeWith two) :=
  .cons (.works (.call (.connect _ _ _ _ _)) (fairly_alike _)) <| .cons (.happens _) <|
    .cons (.works (.same _) (fairly_alike _)) <| .cons (.happens _) <|
    .cons (.works (.same _) (fairly_alike _)) <| .cons (.happens _) <|
    .cons (.works (.same _) (fairly_alike _)) .nil

/-- The handshake can be played, and what is checked of its end holds. -/
theorem handshakeWith_plays (password : Bytes) (check : Client → Bool)
    (passes : (play (playOut sampleRules) id [] sampleClient (handshakeWith password)).any
      (fun result => result.1.map (·.label) = handshakeWith password ∧ check result.2) = true) :
    ∃ transitions c, Effects.Run (Plays sampleRules) sampleClient transitions c ∧
      transitions.map (·.label) = handshakeWith password ∧ check c = true := by
  obtain ⟨transitions, c, run, checked⟩ := play_checked
    (fun _ _ _ played => playOut_plays sampleRules played) (handshakeWith password)
    (fun transitions c => transitions.map (·.label) = handshakeWith password ∧ check c) passes
  exact ⟨transitions, c, run, of_decide_eq_true checked⟩

/-- The password leaves the client as a digest only. Two runs with the same calls, completions and
datagrams, the passwords apart, have the same states after every episode and the same view of what was
done; the payloads of AUTHENTICATION datagrams are the digests of the challenge and the password of the
session; and where these digests coincide, everything that is seen from outside does. -/
theorem password_leaves_as_digest (rules : Rules) (dmrId : UInt32) (description : Bytes)
    (hooks : Hook → Bool) {transitions others : List (Transition Client Episode)} {c other : Client}
    (run : Effects.Run (Plays rules) (fresh dmrId description hooks) transitions c)
    (beside : Effects.Run (Plays rules) (fresh dmrId description hooks) others other)
    (alike : List.Forall₂ (fun one two => one.label.Like two.label) transitions others) :
    List.Forall₂ (fun one two => Veiled rules.native one.after two.after) transitions others ∧
      Veiled rules.native c other ∧ Digested rules.native c.log ∧ Digested rules.native other.log ∧
      (digests rules.native c.log = digests rules.native other.log →
        outward c.log = outward other.log) := by
  obtain ⟨sofar, veiled⟩ := run_veiled run beside alike ⟨_, _, rfl, rfl⟩
  refine ⟨sofar, veiled, digested (plays_reachable ⟨_, run⟩), digested (plays_reachable ⟨_, beside⟩),
    fun same => ?_⟩
  obtain ⟨password, log, rfl, seen⟩ := veiled
  exact outward_of_view seen.symm same

/-- Two handshakes with different passwords: the digests differ. -/
theorem password_leaves_as_digest_handshake :
    ∃ transitions others c other,
      Effects.Run (Plays sampleRules) sampleClient transitions c ∧
      Effects.Run (Plays sampleRules) sampleClient others other ∧ c.state = .connected ∧
      digests .little c.log ≠ digests .little other.log ∧
      List.Forall₂ (fun one two => Veiled .little one.after two.after) transitions others ∧
      Veiled .little c other ∧ Digested .little c.log ∧ Digested .little other.log ∧
      (digests .little c.log = digests .little other.log → outward c.log = outward other.log) := by
  obtain ⟨transitions, c, run, first, checked⟩ := handshakeWith_plays [0x70]
    (fun c => c.state = .connected ∧
      digests .little c.log = [Sha256.sha256 [0x70]]) (by decide +kernel)
  obtain ⟨others, other, beside, second, otherChecked⟩ := handshakeWith_plays [0x71]
    (fun other => digests .little other.log = [Sha256.sha256 [0x71]]) (by decide +kernel)
  obtain ⟨connected, digest⟩ := of_decide_eq_true checked
  have otherDigest := of_decide_eq_true otherChecked
  have alike : List.Forall₂ (fun one two => one.label.Like two.label) transitions others := by
    have labels := handshakeWith_like [0x70] [0x71]
    rw [← first, ← second, List.forall₂_map_left_iff, List.forall₂_map_right_iff] at labels
    exact labels
  refine ⟨transitions, others, c, other, run, beside, connected, ?_,
    password_leaves_as_digest sampleRules _ _ _ run beside alike⟩
  rw [digest, otherDigest]
  decide +kernel

end OpenDTP.Client
