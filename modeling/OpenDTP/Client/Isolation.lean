import OpenDTP.Client.Replay

/-! Handlers left over from an earlier session. Nothing marks a handler with its session: what stops
a stale one is the value of `state_` it finds, its own error code, or the datagram it was handed.
Callbacks may make any calls and may throw. -/

namespace OpenDTP.Client
open Common Protocol Effects Effects.Program

/-! ### The log only grows -/

/-- Nothing is ever removed from the log. -/
def Grows (c after : Client) : Prop := c.log <+: after.log

theorem Grows.of_same {c after : Client} (same : after.log = c.log) : Grows c after := by
  simp only [Grows, same, List.prefix_rfl]

theorem setOwner_log (c : Client) (owner : Option Thread) (mutex : Mutex) :
    (c.setOwner owner mutex).log = c.log := by
  cases mutex <;> rfl

theorem step_grows {policy : Policy} {thread : Thread} {β : Type} (operation : Op β)
    (answer : Answer) (c : Client) (value : β) (after : Client)
    (stepped : step policy thread operation answer c = some (value, after)) : Grows c after := by
  cases operation <;> simp only [step] at stepped <;> (repeat' split at stepped) <;>
    cases stepped
  all_goals first
    | exact List.prefix_rfl
    | exact List.prefix_append _ _
    | exact Grows.of_same (setOwner_log _ _ _)

def growing : Meanwhile := fun _ => Grows

theorem program_grows {policy : Policy} {thread : Thread} {α : Type} (program : Method α)
    (c : Client) :
    program.Within (effect policy thread growing) (fun before _ after => Grows before after) c := by
  apply demonic_within
  · exact fun _ => List.prefix_rfl
  · exact fun _ _ _ => List.IsPrefix.trans
  · exact fun operation answer state value after => step_grows operation answer state value after
  · intro β operation state between reached
    cases operation
    case endCallback => exact reached
    all_goals exact Grows.of_same (congrArg Client.log reached)

theorem growing_covers (rules : Rules) (thread : Thread) :
    Covers (semantics rules.policy thread) rules.nesting (during growing) where
  refl operation state := by
    cases operation
    case endCallback => exact List.prefix_rfl
    all_goals rfl
  trans operation first second third one two := by
    cases operation
    case endCallback => exact List.IsPrefix.trans one two
    all_goals exact Eq.trans two one
  nested operation state inner nested := by
    cases operation
    case endCallback => exact program_grows inner state
    all_goals exact nested.elim

/-! ### What shows -/

/-- A store to `state_`, a datagram, or a callback. -/
def Event.isVisible : Event → Bool
  | .stored _ | .sent _ _ | .invoked _ => true
  | _ => false

/-- Something visible was added to the log `base`. -/
def Shows (base : List Event) (c : Client) : Prop :=
  ∃ events, c.log = base ++ events ∧ ∃ event ∈ events, event.isVisible = true

theorem Shows.recorded {base : List Event} {c : Client} (behind : base <+: c.log) {event : Event}
    (visible : event.isVisible = true) : Shows base { c with log := c.log ++ [event] } := by
  obtain ⟨events, extended⟩ := behind
  refine ⟨events ++ [event], ?_, event, by simp, visible⟩
  rw [← List.append_assoc, extended]

theorem Shows.grows {base : List Event} {c after : Client} (shows_ : Shows base c)
    (grows : Grows c after) : Shows base after := by
  obtain ⟨events, extended, event, member, visible⟩ := shows_
  obtain ⟨more, extendedMore⟩ := grows
  refine ⟨events ++ more, ?_, event, List.mem_append_left _ member, visible⟩
  rw [← extendedMore, extended, List.append_assoc]

section

variable {native : Endian} {policy : Policy} {thread : Thread} {base : List Event} {c : Client}

/-- What shows once cannot be undone by whatever runs next. -/
theorem shown_wp {α : Type} (program : Method α) {post : Outcome α → Client → Prop}
    (enough : ∀ outcome after, Shows base after → post outcome after) (shown : Shows base c) :
    program.wp (effect policy thread growing) post c := by
  apply (program_grows program c).wp (effect_monotone _ _ _)
  exact fun outcome after grows => enough outcome after (shown.grows grows)

theorem shown_andThen {α β : Type} (rest : α → Method β) {post : Outcome β → Client → Prop}
    (enough : ∀ outcome after, Shows base after → post outcome after) :
    ∀ outcome after, Shows base after →
      andThen (fun value after => (rest value).wp (effect policy thread growing) post after)
        (fun what after => post (.error what) after) outcome after := by
  intro outcome after shown
  cases outcome with
  | error what => exact enough _ _ shown
  | ok value => exact shown_wp (rest value) enough shown

/-- A session that is up ends by a store to `state_`. -/
theorem disconnect_shows (behind : base <+: c.log) (up : c.state ≠ .disconnected)
    {post : Outcome Unit → Client → Prop}
    (enough : ∀ outcome after, Shows base after → post outcome after) :
    (disconnect native).wp (effect policy thread growing) post c := by
  unfold disconnect endSession
  rw [wp_bind, wp_perform, effect_loadState, andThen_ok, wp_ite, if_pos up, wp_bind, wp_bind,
    wp_perform, effect_storeState, andThen_ok]
  apply shown_wp _ (shown_andThen _ enough)
  exact Shows.recorded (c := { c with state := .disconnected }) behind rfl

theorem failSession_shows (behind : base <+: c.log) (up : c.state ≠ .disconnected)
    (error : ClientError) (message : String) {post : Outcome Unit → Client → Prop}
    (enough : ∀ outcome after, Shows base after → post outcome after) :
    (failSession native error message).wp (effect policy thread growing) post c := by
  rw [failSession, wp_bind, wp_perform, effect_writeLastError, andThen_ok, wp_bind, wp_report]
  split
  · rw [wp_invoke]
    intro between grows
    have shown : Shows base between :=
      (Shows.recorded (c := { c with lastError := error }) behind rfl).grows grows
    exact ⟨fun _ what => enough _ _ shown, shown_wp _ enough shown⟩
  · rw [andThen_ok, wp_bind]
    exact disconnect_shows (c := { c with lastError := error }) behind up (shown_andThen _ enough)

theorem transmitRaw_shows (behind : base <+: c.log) (isOpen : c.socketOpen = true)
    (type : MessageType) (flag : UInt16) (payload : Bytes) {post : Outcome Unit → Client → Prop}
    (enough : ∀ outcome after, Shows base after → post outcome after) :
    (transmitRaw native type flag payload).wp (effect policy thread growing) post c := by
  rw [transmitRaw, wp_bind, wp_perform, effect_note, andThen_ok, wp_locked]
  intro free
  rw [wp_bind, wp_perform, effect_isOpen, andThen_ok, wp_ite, if_neg (by simp [isOpen]), wp_bind,
    wp_perform, effect_takeSeq, andThen_ok, wp_bind, wp_perform, effect_readServerEndpoint,
    andThen_ok, wp_bind, wp_perform, effect_sendTo]
  intro ec _
  rw [andThen_ok]
  refine shown_wp _ (?_ : ∀ outcome after, Shows base after → _) ?_
  · intro outcome after shown
    apply enough
    unfold Shows
    rw [setOwner_log]
    exact shown
  · refine Shows.recorded (c := _) ?_ rfl
    exact behind.trans (List.prefix_append _ _)

/-- Through a closed socket nothing is sent. -/
theorem transmitRaw_shut (shut : c.socketOpen = false) {type : MessageType} {flag : UInt16}
    {payload : Bytes} {post : Outcome Unit → Client → Prop}
    (done : post (.ok ()) { c with log := c.log ++ [.passed type flag payload] }) :
    (transmitRaw native type flag payload).wp (effect policy thread growing) post c := by
  rw [transmitRaw, wp_bind, wp_perform, effect_note, andThen_ok, wp_locked]
  intro free
  rw [wp_bind, wp_perform, effect_isOpen, andThen_ok, wp_ite, if_pos (by simp [shut]), wp_pure,
    setOwner_writeMutex, setOwner_writeMutex]
  have free : c.writeMutex = none := free
  rw [← free]
  exact done

/-! ### Guards -/

/-- What stops a handler before it does anything visible. -/
def Guarded (native : Endian) (kind : Kind) (completion : Completion) (c : Client) : Prop :=
  match kind with
  | .connectTimeout => completion.ec = .operationAborted ∨ ¬ c.handshakes
  | .resolve => c.state ≠ .connecting
  | .keepAlive =>
      completion.ec = .operationAborted ∨ c.state ≠ .connected ∨ c.socketOpen = false
  | .receive =>
      c.state = .disconnected ∨ completion.ec = .operationAborted ∨
        completion.ec = .success ∧ (completion.bytesTransferred = 0 ∨
          c.senderEndpoint ≠ c.serverEndpoint ∨
            Dull native (c.receiveBuffer.take completion.bytesTransferred) c)


/-- Nothing visible was added, and neither `state_` nor `lastError_` has changed. -/
structure Silent (c after : Client) : Prop where
  state : after.state = c.state
  lastError : after.lastError = c.lastError
  log : ∃ events, after.log = c.log ++ events ∧ ∀ event ∈ events, event.isVisible = false

theorem Silent.refl (c : Client) : Silent c c := ⟨rfl, rfl, [], by simp, by simp⟩

/-- A handler's effect is decided by its guard: stopped it stays silent, else something shows. -/
def Decided (guarded : Prop) (c : Client) : Outcome Unit → Client → Prop := fun _ after =>
  guarded ∧ Silent c after ∨ ¬ guarded ∧ Shows c.log after

theorem Decided.shown {guarded : Prop} (unguarded : ¬ guarded) :
    ∀ outcome after, Shows c.log after → Decided guarded c outcome after :=
  fun _ _ shown => .inr ⟨unguarded, shown⟩

theorem connectTimeoutHandler_decided (completion : Completion) (c : Client) :
    (connectTimeoutHandler native completion.ec).wp (effect policy thread growing)
      (Decided (Guarded native .connectTimeout completion c) c) c := by
  rw [connectTimeoutHandler, wp_ite]
  split
  · next aborted => exact .inl ⟨.inl aborted, .refl c⟩
  · next fired =>
    rw [wp_locked]
    intro free
    rw [wp_bind, setOwner_connectionMutex]
    apply (handshaking_within _).wp (effect_monotone _ _ _)
    rintro outcome after ⟨rfl, rfl⟩
    rw [andThen_ok, wp_ite]
    split
    · next handshakes =>
      have handshakes : c.handshakes := of_decide_eq_true handshakes
      have up : c.state ≠ .disconnected := by
        rcases handshakes with here | here <;> simp [here]
      have unguarded : ¬ Guarded native .connectTimeout completion c := by
        rintro (aborted | settled)
        · exact fired aborted
        · exact settled handshakes
      have enough : ∀ (outcome : Outcome Unit) after, Shows c.log after →
          Decided (Guarded native .connectTimeout completion c) c outcome
            (after.setOwner none .connectionMutex) :=
        fun outcome after shown => Decided.shown unguarded outcome _ shown
      exact failSession_shows (c := { c with connectionMutex := some thread }) List.prefix_rfl up
        _ _ enough
    · next settled =>
      exact .inl ⟨.inr (fun handshakes => settled (decide_eq_true handshakes)),
        rfl, rfl, [], by simp, by simp⟩

theorem resolveHandler_decided (completion : Completion) (c : Client) :
    (resolveHandler native completion.ec completion.endpoints).wp (effect policy thread growing)
      (Decided (Guarded native .resolve completion c) c) c := by
  rw [resolveHandler, wp_locked]
  intro free
  rw [setOwner_connectionMutex, wp_bind, wp_perform, effect_loadState, andThen_ok, wp_ite]
  split
  · next other => exact .inl ⟨other, rfl, rfl, [], by simp, by simp⟩
  · next same =>
    have connecting : c.state = .connecting := not_not.mp same
    have up : c.state ≠ .disconnected := by simp [connecting]
    have unguarded : ¬ Guarded native .resolve completion c := fun other => other connecting
    have enough (outcome : Outcome Unit) (after : Client) (shown : Shows c.log after) :
        Decided (Guarded native .resolve completion c) c outcome
          (after.setOwner none .connectionMutex) := Decided.shown unguarded outcome _ shown
    rw [wp_ite]
    split
    · exact failSession_shows (c := { c with connectionMutex := some thread }) List.prefix_rfl up
        _ _ enough
    · generalize completion.endpoints.headD ⟨[], 0⟩ = endpoint
      rw [wp_bind, wp_perform, effect_writeServerEndpoint, andThen_ok, wp_bind, wp_perform,
        effect_openSocket]
      refine ⟨fun openEc failed => ?_, fun shut => ?_⟩
      · rw [andThen_ok, wp_ite, if_pos failed]
        exact failSession_shows (c := { targeted endpoint openEc c with
          connectionMutex := some thread }) (List.prefix_append _ _) up _ _ enough
      · rw [andThen_ok, wp_ite, if_neg (by simp), wp_bind, wp_perform, effect_bindSocket]
        intro bindEc
        rw [andThen_ok, wp_ite]
        have behind : c.log <+: (opened endpoint bindEc c).log := by
          simp only [opened, List.append_assoc]
          exact List.prefix_append _ _
        split
        · exact failSession_shows (c := { opened endpoint bindEc c with
            connectionMutex := some thread }) behind up _ _ enough
        · rw [wp_bind]
          apply (startReceiveLoop_within _).wp (effect_monotone _ _ _)
          rintro outcome middle ⟨rfl, rfl⟩
          rw [andThen_ok]
          have begun : resumed { opened endpoint bindEc c with connectionMutex := some thread } =
              { receiving (opened endpoint bindEc c) with connectionMutex := some thread } := by
            simp [resumed, opened, receiving, connecting]
          change (sendKeepAlive native).wp _ _
            (resumed { opened endpoint bindEc c with connectionMutex := some thread })
          rw [begun, sendKeepAlive, wp_bind, wp_perform, effect_readIdentity, andThen_ok]
          exact transmitRaw_shows (c := { receiving (opened endpoint bindEc c) with
            connectionMutex := some thread }) behind rfl _ _ _ enough

theorem keepAliveHandler_decided (completion : Completion) (c : Client) :
    (keepAliveHandler native completion.ec).wp (effect policy thread growing)
      (Decided (Guarded native .keepAlive completion c) c) c := by
  rw [keepAliveHandler, wp_ite]
  split
  · next aborted => exact .inl ⟨.inl aborted, .refl c⟩
  · next fired =>
    rw [wp_bind, wp_perform, effect_loadState, andThen_ok, wp_ite]
    split
    · next other => exact .inl ⟨.inr (.inl other), .refl c⟩
    · next same =>
      have connected : c.state = .connected := not_not.mp same
      rw [wp_bind, sendKeepAlive, wp_bind, wp_perform, effect_readIdentity, andThen_ok]
      by_cases isOpen : c.socketOpen = true
      · have unguarded : ¬ Guarded native .keepAlive completion c := by
          rintro (aborted | other | shut)
          · exact fired aborted
          · exact other connected
          · exact absurd (isOpen.symm.trans shut) (by simp)
        exact transmitRaw_shows List.prefix_rfl isOpen _ _ _
          (shown_andThen (fun _ => startKeepAliveTimer) (Decided.shown unguarded))
      · have shut : c.socketOpen = false := by simpa using isOpen
        apply transmitRaw_shut shut
        rw [andThen_ok]
        refine (startKeepAliveTimer_within (c := { c with
          log := c.log ++ [.passed .keepAlive MessageFlag.none (identity native c)] }) connected).wp
          (effect_monotone _ _ _) ?_
        rintro outcome after ⟨rfl, rfl⟩
        exact .inl ⟨.inr (.inr shut), rfl, rfl, [.passed _ _ _], rfl, by simp [Event.isVisible]⟩

/-- A datagram is dispatched visibly exactly if it is not dull. -/
theorem processPacket_decided (packet : Bytes) (c : Client) {post : Outcome Unit → Client → Prop}
    (ignored : Dull native packet c → post (.ok ()) c)
    (enough : ¬ Dull native packet c → ∀ outcome after, Shows c.log after → post outcome after) :
    (processPacket native packet).wp (effect policy thread growing) post c := by
  unfold processPacket
  split
  · next bad => exact ignored (by simp [Dull, wellFormed, bad])
  · next header decoded =>
    rw [wp_ite]
    split
    · next short => exact ignored (by simp [Dull, wellFormed, decoded, short])
    · next long =>
      have parsed : wellFormed native packet =
          some (header, (packet.drop 18).take header.length.toNat) := by
        simp [wellFormed, decoded, long]
      rw [wp_ite]
      split
      · next isChallenge =>
        rw [wp_bind, wp_perform, effect_loadState, andThen_ok, wp_ite]
        split
        · next connecting =>
          have lively : ¬ Dull native packet c := by simp [Dull, parsed, isChallenge, connecting]
          rw [wp_bind, wp_perform, effect_storeState, andThen_ok]
          exact shown_wp _ (enough lively)
            (Shows.recorded (c := { c with state := .authenticating }) List.prefix_rfl rfl)
        · next other => exact ignored (by simp [Dull, parsed, isChallenge, other])
      · next notChallenge =>
        have unlike : MessageType.keepAlive ≠ .challenge := by decide
        rw [wp_ite]
        split
        · next isKeepAlive =>
          rw [wp_ite]
          split
          · next isEmpty =>
            rw [wp_bind, wp_perform, effect_loadState, andThen_ok, wp_ite]
            split
            · next authenticating =>
              have lively : ¬ Dull native packet c := by
                simp [Dull, parsed, isKeepAlive, isEmpty, authenticating, unlike]
              rw [wp_bind, wp_perform, effect_storeState, andThen_ok]
              exact shown_wp _ (enough lively)
                (Shows.recorded (c := { c with state := .connected }) List.prefix_rfl rfl)
            · next other => exact ignored (by simp [Dull, parsed, isKeepAlive, other, unlike])
          · next full => exact ignored (by simp [Dull, parsed, isKeepAlive, full, unlike])
        · next notKeepAlive =>
          split
          · next undecoded =>
            exact ignored (by simp [Dull, parsed, notChallenge, notKeepAlive, undecoded])
          · next callback delivers =>
            rw [wp_report]
            split
            · next assigned =>
              have lively : ¬ Dull native packet c := by
                simp [Dull, parsed, notChallenge, notKeepAlive, delivers, assigned]
              rw [wp_invoke]
              intro between grows
              have shown : Shows c.log between :=
                (Shows.recorded (c := c) List.prefix_rfl rfl).grows grows
              exact ⟨fun _ what => enough lively _ _ shown, enough lively _ _ shown⟩
            · next unset =>
              exact ignored (by simpa [Dull, parsed, notChallenge, notKeepAlive, delivers] using unset)

theorem resumed_silent (c : Client) : Silent c (resumed c) := by
  unfold resumed
  split
  · exact .refl c
  · exact ⟨rfl, rfl, [], by simp [receiving], by simp⟩

theorem inspected_silent (packet : Bytes) (c : Client) :
    Silent c (resumed (inspected packet c)) := by
  have silent := resumed_silent (inspected packet c)
  obtain ⟨events, extended, quietly⟩ := silent.log
  refine ⟨silent.state, silent.lastError,
    .inspected c.senderEndpoint c.serverEndpoint packet :: events, ?_, ?_⟩
  · rw [extended]
    simp [inspected]
  · intro event member
    rcases List.mem_cons.mp member with rfl | later
    · rfl
    · exact quietly event later

theorem handleReceive_decided (completion : Completion) (c : Client) :
    (handleReceive native completion.ec completion.bytesTransferred).wp
      (effect policy thread growing) (Decided (Guarded native .receive completion c) c) c := by
  rw [handleReceive, wp_bind, wp_perform, effect_loadState, andThen_ok, wp_ite]
  split
  · next down => exact .inl ⟨.inl down, .refl c⟩
  · next up =>
    rw [wp_ite]
    split
    · next failed =>
      rw [wp_ite]
      split
      · next real =>
        have unguarded : ¬ Guarded native .receive completion c := by
          rintro (down | aborted | ⟨good, _⟩)
          · exact up down
          · exact real aborted
          · exact failed good
        rw [wp_bind, wp_perform, effect_writeLastError, andThen_ok, wp_bind, wp_report]
        split
        · rw [wp_invoke]
          intro between grows
          have shown : Shows c.log between :=
            (Shows.recorded (c := { c with lastError := .socketIo }) List.prefix_rfl rfl).grows grows
          exact ⟨fun _ what => Decided.shown unguarded (.error what) _ shown,
            shown_wp _ (Decided.shown unguarded) shown⟩
        · exact disconnect_shows (c := { c with lastError := .socketIo }) (List.prefix_rfl : c.log <+: _)
            up (Decided.shown unguarded)
      · next aborted => exact .inl ⟨.inr (.inl (not_not.mp aborted)), .refl c⟩
    · next fine =>
      have arrived : completion.ec = .success := not_not.mp fine
      rw [wp_ite]
      split
      · next some =>
        rw [wp_bind, wp_perform, effect_readSenderEndpoint, andThen_ok, wp_bind, wp_perform,
          effect_readServerEndpoint, andThen_ok, wp_bind, wp_perform, effect_readBuffer, andThen_ok,
          wp_bind, wp_perform, effect_note, andThen_ok, wp_ite]
        split
        · next own =>
          rw [wp_bind]
          apply processPacket_decided
          · intro dull
            rw [andThen_ok]
            apply (startReceiveLoop_within _).wp (effect_monotone _ _ _)
            rintro outcome after ⟨rfl, rfl⟩
            exact .inl ⟨.inr (.inr ⟨arrived, .inr (.inr dull)⟩), inspected_silent _ c⟩
          · intro lively
            have unguarded : ¬ Guarded native .receive completion c := by
              rintro (down | aborted | ⟨_, none | other | dull⟩)
              · exact up down
              · cases arrived.symm.trans aborted
              · omega
              · exact other own
              · exact lively dull
            apply shown_andThen
            intro outcome after shown
            refine Decided.shown unguarded outcome after ?_
            obtain ⟨events, extended, event, member, visible⟩ := shown
            refine ⟨.inspected c.senderEndpoint c.serverEndpoint
              (c.receiveBuffer.take completion.bytesTransferred) :: events, ?_, event,
              List.mem_cons_of_mem _ member, visible⟩
            simpa using extended
        · next other =>
          apply (startReceiveLoop_within _).wp (effect_monotone _ _ _)
          rintro outcome after ⟨rfl, rfl⟩
          exact .inl ⟨.inr (.inr ⟨arrived, .inr (.inl other)⟩), inspected_silent _ c⟩
      · next none =>
        apply (startReceiveLoop_within c).wp (effect_monotone _ _ _)
        rintro outcome after ⟨rfl, rfl⟩
        exact .inl ⟨.inr (.inr ⟨arrived, .inl (by omega)⟩), resumed_silent c⟩

theorem handler_decided (kind : Kind) (completion : Completion) (c : Client) :
    (handler native kind completion).wp (effect policy thread growing)
      (Decided (Guarded native kind completion c) c) c := by
  cases kind with
  | connectTimeout => exact connectTimeoutHandler_decided completion c
  | resolve => exact resolveHandler_decided completion c
  | receive => exact handleReceive_decided completion c
  | keepAlive => exact keepAliveHandler_decided completion c

end

/-! ### Stale handlers -/

/-- The transition runs a handler registered in an earlier session than the current one. -/
def RunsStale (transition : Transition Client Label) : Prop :=
  ∃ operation, transition.label = .handles operation ∧
    operation.session < transition.before.session

/-- `state_` and `lastError_` are as before, nothing was stored or sent, and no callback invoked. -/
def Invisible (transition : Transition Client Label) : Prop :=
  transition.after.state = transition.before.state ∧
    transition.after.lastError = transition.before.lastError ∧
    ∀ event ∈ added transition, event.isVisible = false

/-- The handler is stopped by its guard in the state that it starts in. -/
def Stopped (native : Endian) (transition : Transition Client Label) : Prop :=
  ∀ operation completion, transition.label = .handles operation →
    operation.completion = some completion →
      Guarded native operation.kind completion transition.before

theorem stopped_iff {native : Endian} {c final : Client} {operation : Outstanding}
    {completion : Completion} (queued : operation.completion = some completion) :
    Stopped native ⟨c, .handles operation, final⟩ ↔ Guarded native operation.kind completion c := by
  constructor
  · exact fun stopped => stopped operation completion rfl queued
  · intro guarded other result same found
    cases same
    cases queued.symm.trans found
    exact guarded

/-- Any handler, of whatever session, is invisible exactly if its guard stops it. -/
theorem handled_invisible_iff {rules : Rules} {c after : Client} {operation : Outstanding}
    (step : Step rules c (.handles operation) after) :
    Invisible ⟨c, .handles operation, after⟩ ↔
      Stopped rules.native ⟨c, .handles operation, after⟩ := by
  cases step with
  | @handles after before rest _ completion outcome found queued idle going ran =>
    rw [stopped_iff queued]
    have decided := (growing_covers rules .io).sound ran _
      (handler_decided operation.kind completion (dequeued before rest c))
    rcases decided with ⟨guarded, silent⟩ | ⟨unguarded, events, extended, event, member, visible⟩
    · obtain ⟨events, extended, quietly⟩ := silent.log
      have all : added ⟨c, .handles operation, resting outcome after⟩ = events := added_eq extended
      refine ⟨fun _ => guarded, fun _ => ⟨silent.state, silent.lastError, ?_⟩⟩
      rw [all]
      exact quietly
    · have all : added ⟨c, .handles operation, resting outcome after⟩ = events := added_eq extended
      refine ⟨fun invisible => ?_, fun guarded => absurd guarded unguarded⟩
      have hidden := invisible.2.2 event (by rw [all]; exact member)
      rw [visible] at hidden
      cases hidden

/-- In every run a stale handler is invisible exactly if its guard stops it. -/
theorem stale_invisible_iff_stopped (rules : Rules) {dmrId : UInt32} {description : Bytes}
    {hooks : Hook → Bool} {transitions : List (Transition Client Label)} {last : Client}
    (run : rules.Run dmrId description hooks transitions last) :
    ∀ transition ∈ transitions, RunsStale transition →
      (Invisible transition ↔ Stopped rules.native transition) := by
  rintro ⟨c, label, final⟩ member ⟨operation, same, -⟩
  cases same
  exact handled_invisible_iff (run.taken _ member)

/-- A session that is given up before the name resolves, and a second one. -/
def reconnectScript : List (Weather × Label) :=
  [(fair, .call 0 (.connect "master" 54006 [] 1000)),
    (fair, .call 0 .disconnect),
    (fair, .call 0 (.connect "master" 54006 [] 1000)),
    (fair, .handles ⟨.connectTimeout, 1, some { ec := .operationAborted }⟩),
    (fair, .handles ⟨.resolve, 1, some { ec := .operationAborted }⟩)]

def staleResolve (transition : Transition Client Label) : Bool :=
  transition.label = .handles ⟨.resolve, 1, some { ec := .operationAborted }⟩ &&
    (transition.before.session = 2 &&
      (transition.before.state = .connecting && transition.after.state = .disconnected))

/-- The aborted resolver handler of the first session ends the second one. -/
theorem stale_resolver_ends_session :
    ¬ ∀ (rules : Rules) (dmrId : UInt32) (description : Bytes) (hooks : Hook → Bool)
      (transitions : List (Transition Client Label)) (last : Client),
      rules.Run dmrId description hooks transitions last → ∀ transition ∈ transitions,
        RunsStale transition → Invisible transition := by
  intro claim
  obtain ⟨transitions, last, run, checked⟩ := replay_checked sampleRules sampleClient reconnectScript
    (fun transitions _ => transitions.any staleResolve) (by decide)
  obtain ⟨transition, member, checked⟩ := List.any_eq_true.mp checked
  simp only [staleResolve, Bool.and_eq_true, decide_eq_true_eq] at checked
  obtain ⟨isHandler, second, connecting, ended⟩ := checked
  have stale : RunsStale transition := ⟨_, isHandler, by rw [second]; decide⟩
  have same := (claim sampleRules _ _ _ transitions last run transition member stale).1
  rw [ended, connecting] at same
  cases same

theorem stale_invisible_iff_stopped_reconnect :
    ∃ transitions last, Effects.Run (Step sampleRules) sampleClient transitions last ∧
      transitions.any staleResolve = true ∧
      ∀ transition ∈ transitions, RunsStale transition →
        (Invisible transition ↔ Stopped .little transition) := by
  obtain ⟨transitions, last, run, checked⟩ := replay_checked sampleRules sampleClient reconnectScript
    (fun transitions _ => transitions.any staleResolve) (by decide)
  exact ⟨transitions, last, run, checked, stale_invisible_iff_stopped sampleRules run⟩

end OpenDTP.Client
