import OpenDTP.Client.Summary

/-! Every method stays within its summary. The methods that take a mutex find it free and leave it
free, so their summaries do not mention it. -/

namespace OpenDTP.Client
open Common Protocol Effects Effects.Program

section

variable {native : Endian} {policy : Policy} {thread : Thread} {meanwhile : Meanwhile}

theorem transmitRaw_within (settled : meanwhile.Settled) (type : MessageType) (flag : UInt16)
    (payload : Bytes) (c : Client) :
    (transmitRaw native type flag payload).Within (effect policy thread meanwhile)
      (Transmits native policy type flag payload) c := by
  simp only [Within, transmitRaw, wp_bind, wp_perform, effect_note, wp_locked, andThen_ok, wp_ite,
    effect_isOpen, effect_takeSeq, effect_readServerEndpoint, effect_sendTo, wp_pure,
    effect_writeLastError, wp_report, wp_invoke, owner_writeMutex, setOwner_writeMutex,
    Callback.hook, settled.onError, forall_eq, Bool.not_eq_true']
  intro free
  by_cases isOpen : c.socketOpen = true
  · rw [if_neg (by simp [isOpen])]
    intro ec possible
    by_cases good : ec = .success
    · rw [if_neg (not_not.mpr good)]
      convert Transmits.done (c := c) ec using 1
      simp [transmitted, sending, packetOf, nextSeq, isRealTime, isOpen, good, free]
    · rw [if_pos good]
      by_cases assigned : c.hooks .onError = true
      · rw [if_pos assigned]
        constructor
        · intro throws what
          convert Transmits.threw (c := c) ec what isOpen good ⟨assigned, throws⟩ using 1
          simp [transmitted, sending, packetOf, nextSeq, isRealTime, isOpen, good, free, announcement,
            Callback.hook, assigned]
        · convert Transmits.done (c := c) ec using 1
          simp [transmitted, sending, packetOf, nextSeq, isRealTime, isOpen, good, free, announcement,
            Callback.hook, assigned]
      · rw [if_neg assigned]
        convert Transmits.done (c := c) ec using 1
        simp [transmitted, sending, packetOf, nextSeq, isRealTime, isOpen, good, free, announcement,
          Callback.hook, assigned]
  · rw [if_pos (by simpa using isOpen)]
    convert Transmits.done (c := c) .success using 1
    simp [transmitted, isOpen, free]

theorem cancel_all (operations : List Outstanding) :
    (((operations.map (·.cancel .keepAlive)).map (·.cancel .connectTimeout)).map
      (·.cancel .resolve)).map (·.cancel .receive) = operations.map Outstanding.abort := by
  simp only [List.map_map]
  apply List.map_congr_left
  intro operation _
  obtain ⟨kind, session, completion⟩ := operation
  cases completion <;> cases kind <;> rfl

theorem joinThread_within (c : Client) :
    joinThread.Within (effect policy thread meanwhile)
      (fun c outcome after => outcome = .ok () ∧ Joins thread c after) c := by
  simp only [Within, joinThread, wp_bind, wp_perform, effect_joinable, andThen_ok, wp_ite,
    effect_onIoThread, effect_join, wp_pure]
  split
  · split
    · next other =>
      have other : thread ≠ .io := by simpa using other
      exact ⟨fun gone => ⟨trivial, .exited other gone⟩,
        fun live returns => ⟨trivial, .returned other live returns⟩⟩
    · next own => exact ⟨trivial, .skipped (.inl (by simpa using own))⟩
  · next idle => exact ⟨trivial, .skipped (.inr (by simpa using idle))⟩

theorem saidClose_closed {c : Client} (shut : c.socketOpen = false) (ec : ErrorCode) :
    saidClose native ec c = c := by
  cases c
  cases shut
  simp [saidClose]

theorem sendClose_within (settled : meanwhile.Settled) (c : Client) :
    (sendClose native).Within (effect policy thread meanwhile)
      (fun c outcome after => outcome = .ok () ∧ ∃ ec, after = saidClose native ec c) c := by
  simp only [Within, sendClose, wp_bind, wp_perform, effect_isOpen, andThen_ok, wp_ite,
    wp_tryCatch, wp_pure]
  by_cases isOpen : c.socketOpen = true
  · rw [if_pos isOpen]
    apply (transmitRaw_within settled _ _ _ _).wp (effect_monotone _ _ _)
    have same (ec : ErrorCode) : transmitted native .close MessageFlag.none [] ec c =
        saidClose native ec c := by
      simp [transmitted, saidClose, isOpen, isRealTime, MessageFlag.none]
    intro outcome after done
    cases done with
    | done ec => exact ⟨trivial, ec, same ec⟩
    | threw ec what => exact ⟨trivial, ec, same ec⟩
  · rw [if_neg isOpen]
    exact ⟨trivial, .success, (saidClose_closed (by simpa using isOpen) _).symm⟩

theorem endSession_within (settled : meanwhile.Settled) (c : Client) :
    (endSession native).Within (effect policy thread meanwhile) (Ended native policy) c := by
  unfold Within endSession
  simp only [wp_bind, wp_perform, effect_storeState, andThen_ok]
  apply (sendClose_within settled _).wp (effect_monotone _ _ _)
  rintro outcome after ⟨rfl, ec, rfl⟩
  simp only [stopKeepAliveTimer, wp_bind, wp_perform, effect_cancelTimer, effect_cancelResolve,
    effect_closeSocket, effect_stop, effect_hasHook, effect_readLastError, wp_invoke, wp_pure,
    andThen_ok, wp_ite, settled.onDisconnected, forall_eq, Timer.kind, cancel_all]
  split
  · next assigned =>
    have assigned : c.hooks .onDisconnected = true := assigned
    constructor
    · intro throws what
      convert Ended.threw (c := c) ec what ⟨assigned, throws⟩ using 1
      simp only [tornDown, closing, saidClose, announcement, Callback.hook, assigned, if_true]
    · convert Ended.done (c := c) ec using 1
      simp only [tornDown, closing, saidClose, announcement, Callback.hook, assigned, if_true]
  · next unset =>
    have unset : c.hooks .onDisconnected = false := eq_false_of_ne_true unset
    convert Ended.done (c := c) ec using 1
    simp [tornDown, closing, saidClose, announcement, Callback.hook, unset]

theorem disconnect_within (settled : meanwhile.Settled) (c : Client) :
    (disconnect native).Within (effect policy thread meanwhile)
      (Disconnects native policy thread) c := by
  unfold Within disconnect
  simp only [wp_bind, wp_perform, effect_loadState, andThen_ok, wp_ite]
  by_cases down : c.state = .disconnected
  · rw [if_neg (not_not.mpr down)]
    apply (joinThread_within c).wp (effect_monotone _ _ _)
    rintro outcome after ⟨rfl, joins⟩
    exact .idle down joins
  · rw [if_pos down]
    apply (endSession_within settled c).wp (effect_monotone _ _ _)
    rintro (what | value) middle ended
    · exact .threw what down ended
    · apply (joinThread_within middle).wp (effect_monotone _ _ _)
      rintro outcome after ⟨rfl, joins⟩
      exact .ended down ended joins

/-- A report whose callback leaves the client alone. -/
theorem report_wp {callback : Callback}
    (still : ∀ before after, meanwhile callback before after ↔ after = before) {c : Client}
    {post : Outcome Unit → Client → Prop} (done : post (.ok ()) (announced callback c))
    (threw : policy.mayThrow c callback.hook →
      ∀ what, post (.error what) (announced callback c)) :
    (report callback).wp (effect policy thread meanwhile) post c := by
  simp only [wp_report, wp_invoke, still, forall_eq]
  by_cases assigned : c.hooks callback.hook = true
  · rw [if_pos assigned]
    simp only [announced, announcement, assigned, if_true] at done threw
    exact ⟨fun throws => threw ⟨assigned, throws⟩, done⟩
  · rw [if_neg assigned]
    simp only [announced, announcement, if_neg assigned, List.append_nil] at done
    exact done

theorem failSession_within (settled : meanwhile.Settled) (error : ClientError) (message : String)
    {c : Client} (up : c.state ≠ .disconnected) :
    (failSession native error message).Within (effect policy .io meanwhile)
      (Fails native policy error message) c := by
  simp only [Within, failSession, wp_bind, wp_perform, effect_writeLastError, andThen_ok]
  apply report_wp (fun _ _ => settled.onError)
  · rw [andThen_ok]
    apply (disconnect_within settled _).wp (effect_monotone _ _ _)
    intro outcome after disconnects
    cases disconnects with
    | idle down => exact absurd down up
    | ended _ ended joins =>
      cases ended with | done ec =>
      cases joins with
      | skipped =>
        simp only [andThen_ok, effect_notifyAll]
        exact Fails.ended ec
      | exited other => exact absurd rfl other
      | returned other => exact absurd rfl other
    | threw what _ ended =>
      cases ended with | threw ec _ throws =>
      exact Fails.leftEarly ec what throws
  · intro throws what
    exact Fails.threw what throws

theorem unlocked {c : Client} (free : c.connectionMutex = none) :
    { c with connectionMutex := none } = c := by
  cases c
  cases free
  rfl

theorem Fails.unlock {error : ClientError} {message : String} {c after : Client}
    {outcome : Outcome Unit} (free : c.connectionMutex = none) {owner : Option Thread}
    (fails : Fails native policy error message { c with connectionMutex := owner } outcome after) :
    Fails native policy error message c outcome { after with connectionMutex := none } := by
  have same := unlocked free
  cases fails with
  | threw what throws =>
    rw [← same]
    exact .threw what throws
  | ended ec =>
    rw [← same]
    exact .ended ec
  | leftEarly ec what throws =>
    rw [← same]
    exact .leftEarly ec what throws

theorem handshaking_within (c : Client) :
    handshaking.Within (effect policy thread meanwhile)
      (fun c outcome after => outcome = .ok (decide c.handshakes) ∧ after = c) c := by
  simp only [Within, handshaking, wp_bind, wp_perform, effect_loadState, andThen_ok, wp_ite, wp_pure]
  split <;> simp [handshakes, *]

theorem connectTimeoutHandler_within (settled : meanwhile.Settled) (ec : ErrorCode) (c : Client) :
    (connectTimeoutHandler native ec).Within (effect policy .io meanwhile)
      (TimesOut native policy ec) c := by
  unfold Within connectTimeoutHandler
  rw [wp_ite]
  split
  · next aborted => exact .inert (.inl aborted)
  · next fired =>
    simp only [wp_locked, owner_connectionMutex, setOwner_connectionMutex, wp_bind]
    intro free
    apply (handshaking_within _).wp (effect_monotone _ _ _)
    rintro outcome after ⟨rfl, rfl⟩
    rw [andThen_ok, wp_ite]
    split
    · next handshakes =>
      have handshakes : c.handshakes := of_decide_eq_true handshakes
      have up : c.state ≠ .disconnected := by
        rcases handshakes with at_ | at_ <;> simp [at_]
      apply (failSession_within settled _ _ (c := { c with connectionMutex := some .io }) up).wp
        (effect_monotone _ _ _)
      intro outcome after fails
      exact .failed fired handshakes (fails.unlock free)
    · next settledDown =>
      rw [wp_pure]
      change TimesOut native policy ec c (.ok ()) { c with connectionMutex := none }
      rw [unlocked free]
      exact .inert (.inr (fun handshakes => settledDown (decide_eq_true handshakes)))

theorem sendKeepAlive_within (settled : meanwhile.Settled) (c : Client) :
    (sendKeepAlive native).Within (effect policy thread meanwhile)
      (fun c => Transmits native policy .keepAlive MessageFlag.none (identity native c) c) c := by
  simp only [Within, sendKeepAlive, wp_bind, wp_perform, effect_readIdentity, andThen_ok]
  exact transmitRaw_within settled _ _ _ c

theorem startReceiveLoop_within (c : Client) :
    startReceiveLoop.Within (effect policy thread meanwhile)
      (fun c outcome after => outcome = .ok () ∧ after = resumed c) c := by
  simp only [Within, startReceiveLoop, wp_bind, wp_perform, effect_loadState, andThen_ok, wp_ite,
    effect_isOpen, effect_asyncReceiveFrom, wp_pure]
  by_cases down : c.state = .disconnected
  · simp only [down, if_true, resumed, true_or, and_self]
  · by_cases isOpen : c.socketOpen = true
    · simp [down, isOpen, resumed, receiving]
    · simp [down, isOpen, resumed]

theorem startKeepAliveTimer_within {c : Client} (connected : c.state = .connected) :
    startKeepAliveTimer.Within (effect policy thread meanwhile)
      (fun c outcome after => outcome = .ok () ∧ after = armed c) c := by
  simp only [Within, startKeepAliveTimer, wp_bind, wp_perform, effect_loadState, andThen_ok, wp_ite,
    effect_expiresAfter, effect_asyncWait, wp_ofOutcome, Timer.kind, connected]
  simp [armed, connected]

theorem Transmits.unlock {type : MessageType} {flag : UInt16} {payload : Bytes} {c after : Client}
    {outcome : Outcome Unit} (free : c.connectionMutex = none) {owner : Option Thread}
    (transmits : Transmits native policy type flag payload { c with connectionMutex := owner }
      outcome after) :
    Transmits native policy type flag payload c outcome { after with connectionMutex := none } := by
  have same := unlocked free
  cases transmits with
  | done ec =>
    rw [← same]
    exact .done ec
  | threw ec what isOpen failed throws =>
    rw [← same]
    exact .threw ec what isOpen failed throws

theorem keepAliveHandler_within (settled : meanwhile.Settled) (ec : ErrorCode) (c : Client) :
    (keepAliveHandler native ec).Within (effect policy thread meanwhile)
      (KeepsAlive native policy ec) c := by
  unfold Within keepAliveHandler
  rw [wp_ite]
  split
  · next aborted => exact .inert (.inl aborted)
  · simp only [wp_bind, wp_perform, effect_loadState, andThen_ok, wp_ite, wp_pure]
    split
    · next other => exact .inert (.inr other)
    · next same =>
      have connected : c.state = .connected := not_not.mp same
      apply (sendKeepAlive_within settled c).wp (effect_monotone _ _ _)
      intro outcome after transmits
      cases outcome with
      | error what => exact .threw connected transmits
      | ok value =>
        have still : after.state = .connected := by
          cases transmits
          exact connected
        apply (startKeepAliveTimer_within still).wp (effect_monotone _ _ _)
        rintro outcome final ⟨rfl, rfl⟩
        exact .beat connected transmits

theorem resolveHandler_within (settled : meanwhile.Settled) (ec : ErrorCode)
    (endpoints : List Endpoint) (c : Client) :
    (resolveHandler native ec endpoints).Within (effect policy .io meanwhile)
      (Resolves native policy ec endpoints) c := by
  simp only [Within, resolveHandler, wp_locked, owner_connectionMutex, setOwner_connectionMutex,
    wp_bind, wp_perform, effect_loadState, andThen_ok, wp_ite, effect_writeServerEndpoint,
    effect_openSocket, effect_bindSocket, wp_pure]
  intro free
  split
  · next other =>
    rw [unlocked free]
    exact .inert other
  · next same =>
    have connecting : c.state = .connecting := not_not.mp same
    have up : c.state ≠ .disconnected := by simp [connecting]
    split
    · next failed =>
      apply (failSession_within settled _ _
        (c := { c with connectionMutex := some .io }) up).wp (effect_monotone _ _ _)
      intro outcome after fails
      exact .unresolved _ connecting failed (fails.unlock free)
    · next fine =>
      have resolved : ec = .success := by
        by_contra failed
        exact fine (.inl failed)
      have found : endpoints ≠ [] := fun none => fine (.inr none)
      generalize endpoints.headD ⟨[], 0⟩ = endpoint
      constructor
      · intro openEc failed
        rw [if_pos failed]
        apply (failSession_within settled _ _
          (c := { targeted endpoint openEc c with connectionMutex := some .io }) up).wp
          (effect_monotone _ _ _)
        intro outcome after fails
        exact .unopened endpoint openEc _ connecting resolved failed
          (Fails.unlock (c := targeted endpoint openEc c) free fails)
      · intro shut
        rw [if_neg (by simp)]
        intro bindEc
        split
        · next failed =>
          apply (failSession_within settled _ _
            (c := { opened endpoint bindEc c with connectionMutex := some .io }) up).wp
            (effect_monotone _ _ _)
          intro outcome after fails
          exact .unbound endpoint bindEc _ connecting resolved shut failed
            (Fails.unlock (c := opened endpoint bindEc c) free fails)
        · next bound =>
          obtain rfl := not_not.mp bound
          apply (startReceiveLoop_within _).wp (effect_monotone _ _ _)
          rintro outcome middle ⟨rfl, rfl⟩
          rw [andThen_ok]
          have begun : resumed { opened endpoint .success c with connectionMutex := some .io } =
              { receiving (opened endpoint .success c) with connectionMutex := some .io } := by
            simp [resumed, opened, receiving, connecting]
          change (sendKeepAlive native).wp _ _
            (resumed { opened endpoint .success c with connectionMutex := some .io })
          rw [begun]
          apply (sendKeepAlive_within settled _).wp (effect_monotone _ _ _)
          intro outcome after transmits
          exact .started endpoint connecting resolved found shut
            (Transmits.unlock (c := receiving (opened endpoint .success c)) free transmits)

theorem report_within (callback : Callback) (c : Client) :
    (report callback).Within (effect policy thread meanwhile)
      (Reports policy meanwhile callback) c := by
  simp only [Within, wp_report, wp_invoke]
  by_cases assigned : c.hooks callback.hook = true
  · rw [if_pos assigned]
    intro between ran
    exact ⟨fun throws what => .threw what ⟨assigned, throws⟩ ran, .done assigned ran⟩
  · rw [if_neg assigned]
    exact .unset (by simpa using assigned)

/-- Becoming connected: the timeout is cancelled, the timer armed, the waiters notified. -/
theorem welcome_wp (c : Client) {post : Outcome Unit → Client → Prop}
    (reported : ∀ outcome after, Reports policy meanwhile .onConnected (welcomed c) outcome after →
      post outcome after) :
    Program.wp (effect policy .io meanwhile) (do
      perform (.storeState .connected)
      perform (.cancelTimer .connectTimeoutTimer)
      startKeepAliveTimer
      locked .connectionMutex (perform .notifyAll)
      report .onConnected) post c := by
  simp only [wp_bind, wp_perform, effect_storeState, effect_cancelTimer, andThen_ok, Timer.kind]
  apply (startKeepAliveTimer_within rfl).wp (effect_monotone _ _ _)
  rintro outcome middle ⟨rfl, rfl⟩
  rw [andThen_ok]
  simp only [wp_locked, owner_connectionMutex, setOwner_connectionMutex, wp_perform,
    effect_notifyAll, andThen_ok]
  intro free
  have welcome : { c with
      state := .connected
      connectionMutex := none
      operations := ((c.operations.map (·.cancel .connectTimeout)).map (·.cancel .keepAlive)) ++
        [⟨.keepAlive, c.session, none⟩]
      waits := fun id => (c.waits id).notify
      log := c.log ++ [.stored .connected] ++ [.notified] } = welcomed c := by
    rw [List.append_assoc, ← unlocked (c := c) free]
    rfl
  apply (report_within .onConnected _).wp (effect_monotone _ _ _)
  intro outcome after reports
  apply reported outcome after
  rw [← welcome]
  exact reports

theorem processPacket_within (settled : meanwhile.Settled) (packet : Bytes) (c : Client) :
    (processPacket native packet).Within (effect policy .io meanwhile)
      (Processes native policy meanwhile packet) c := by
  unfold Within processPacket
  split
  · next bad =>
    exact .ignored (by simp [Dull, wellFormed, bad])
  · next header decoded =>
    rw [wp_ite]
    split
    · next short => exact .ignored (by simp [Dull, wellFormed, decoded, short])
    · next long =>
      have parsed : wellFormed native packet =
          some (header, (packet.drop 18).take header.length.toNat) := by
        simp [wellFormed, decoded, long]
      rw [wp_ite]
      split
      · next isChallenge =>
        simp only [wp_bind, wp_perform, effect_loadState, andThen_ok, wp_ite, wp_pure,
          effect_storeState, effect_readPassword]
        split
        · next connecting =>
          apply (transmitRaw_within settled _ _ _ _).wp (effect_monotone _ _ _)
          intro outcome after transmits
          exact .answered parsed isChallenge connecting transmits
        · next other => exact .ignored (by simp [Dull, parsed, isChallenge, other])
      · next notChallenge =>
        rw [wp_ite]
        split
        · next isKeepAlive =>
          rw [wp_ite]
          split
          · next isEmpty =>
            simp only [wp_bind, wp_perform, effect_loadState, andThen_ok, wp_ite, wp_pure]
            split
            · next authenticating =>
              have admitted : ∀ outcome after,
                  Reports policy meanwhile .onConnected (welcomed c) outcome after →
                    Processes native policy meanwhile packet c outcome after :=
                fun outcome after => .admitted parsed isKeepAlive isEmpty authenticating
              have welcome := welcome_wp c admitted
              simpa only [wp_bind, wp_perform, andThen_ok] using welcome
            · next other =>
              have unlike : MessageType.keepAlive ≠ .challenge := by decide
              exact .ignored (by simp [Dull, parsed, isKeepAlive, other, unlike])
          · next full =>
            have unlike : MessageType.keepAlive ≠ .challenge := by decide
            exact .ignored (by simp [Dull, parsed, isKeepAlive, full, unlike])
        · next notKeepAlive =>
          split
          · next undecoded =>
            exact .ignored (by simp [Dull, parsed, notChallenge, notKeepAlive, undecoded])
          · next callback delivers =>
            apply (report_within callback c).wp (effect_monotone _ _ _)
            intro outcome after reports
            by_cases assigned : c.hooks callback.hook = true
            · exact .delivered parsed delivers assigned reports
            · cases reports with
              | unset none =>
                exact .ignored (by simp [Dull, parsed, notChallenge, notKeepAlive, delivers, none])
              | done set => exact absurd set assigned
              | threw what throws => exact absurd throws.1 assigned

theorem handleReceive_within (settled : meanwhile.Settled) (ec : ErrorCode)
    (bytesTransferred : Nat) (c : Client) :
    (handleReceive native ec bytesTransferred).Within (effect policy .io meanwhile)
      (Receives native policy meanwhile ec bytesTransferred) c := by
  unfold Within handleReceive
  simp only [wp_bind, wp_perform, effect_loadState, andThen_ok, wp_ite, wp_pure]
  split
  · next down => exact .inert (.inl down)
  · next up =>
    split
    · next failed =>
      split
      · next real =>
        rw [effect_writeLastError]
        apply report_wp (fun _ _ => settled.onError)
        · rw [andThen_ok]
          apply (disconnect_within settled _).wp (effect_monotone _ _ _)
          intro outcome after disconnects
          cases disconnects with
          | idle down => exact absurd down up
          | ended _ ended joins =>
            cases joins with
            | skipped => exact .broke _ up failed real ended
            | exited other => exact absurd rfl other
            | returned other => exact absurd rfl other
          | threw what _ ended => exact .broke _ up failed real ended
        · intro throws what
          exact .complaintThrew _ what up failed real throws
      · next aborted => exact .inert (.inr (not_not.mp aborted))
    · next fine =>
      have arrived : ec = .success := not_not.mp fine
      split
      · next some =>
        simp only [effect_readSenderEndpoint, effect_readServerEndpoint, effect_readBuffer,
          effect_note]
        split
        · next own =>
          apply (processPacket_within settled _ _).wp (effect_monotone _ _ _)
          intro outcome middle processes
          cases outcome with
          | error what => exact .threw up arrived some own processes
          | ok value =>
            rw [andThen_ok]
            apply (startReceiveLoop_within middle).wp (effect_monotone _ _ _)
            rintro outcome after ⟨rfl, rfl⟩
            exact .processed up arrived some own processes
        · next other =>
          apply (startReceiveLoop_within _).wp (effect_monotone _ _ _)
          rintro outcome after ⟨rfl, rfl⟩
          exact .foreign up arrived some other
      · next none =>
        apply (startReceiveLoop_within c).wp (effect_monotone _ _ _)
        rintro outcome after ⟨rfl, rfl⟩
        exact .empty up arrived (by omega)

theorem handler_within (settled : meanwhile.Settled) (kind : Kind) (completion : Completion)
    (c : Client) :
    (handler native kind completion).Within (effect policy .io meanwhile)
      (fun c => Handles native policy meanwhile completion c kind) c := by
  unfold Within
  cases kind with
  | connectTimeout =>
    apply (connectTimeoutHandler_within settled completion.ec c).wp (effect_monotone _ _ _)
    exact fun outcome after => .connectTimeout
  | resolve =>
    apply (resolveHandler_within settled completion.ec completion.endpoints c).wp
      (effect_monotone _ _ _)
    exact fun outcome after => .resolve
  | receive =>
    apply (handleReceive_within settled completion.ec completion.bytesTransferred c).wp
      (effect_monotone _ _ _)
    exact fun outcome after => .receive
  | keepAlive =>
    apply (keepAliveHandler_within settled completion.ec c).wp (effect_monotone _ _ _)
    exact fun outcome after => .keepAlive

/-- The catch clause, in a startup that came as far as `middle`. -/
theorem abandon_wp (settled : meanwhile.Settled) {password : Bytes} {c middle : Client}
    (free : c.connectionMutex = none) (down : c.state = .disconnected)
    (throws : policy.startupThrows = true) (stalls : Stalls (accepted password c) middle)
    (what : String) :
    (report (.onError .socketIo ("Socket error during connection startup: " ++ what))).wp
      (effect policy thread meanwhile)
      (andThen
        (fun _ after => Connects policy password c (.ok .socketIo)
          { after with connectionMutex := none })
        (fun other after => Connects policy password c (.error other)
          { after with connectionMutex := none }))
      { middle with
        state := .disconnected
        connectionMutex := some thread
        log := middle.log ++ [.stored .disconnected] } := by
  have left : { abandoned what middle with connectionMutex := none } = abandoned what middle := by
    apply unlocked
    cases stalls <;> exact free
  apply report_wp (fun _ _ => settled.onError)
  · rw [andThen_ok]
    have failed := Connects.failed what down throws stalls
    rw [← left] at failed
    exact failed
  · intro complaintThrows other
    rw [andThen_error]
    have assigned : policy.mayThrow c .onError := by
      cases stalls <;> exact complaintThrows
    have threw := Connects.threw what other down throws stalls assigned
    rw [← left] at threw
    exact threw

theorem connect_within (settled : meanwhile.Settled) (host : String) (port : UInt16)
    (password : Bytes) (timeoutMs : UInt32) (c : Client) :
    (connect host port password timeoutMs).Within (effect policy thread meanwhile)
      (Connects policy password) c := by
  simp only [Within, connect, startUp, wp_locked, owner_connectionMutex, setOwner_connectionMutex,
    wp_bind, wp_perform, effect_loadState, andThen_ok, wp_ite, wp_pure, effect_accept,
    effect_writePassword, effect_resetRoutineSeq, effect_resetRealTimeSeq, effect_storeInCall,
    effect_writeLastError, wp_attempt, effect_restart, effect_makeWorkGuard, effect_startThread,
    wp_ofOutcome, effect_dropWorkGuard, effect_storeState, effect_expiresAfter, effect_asyncWait,
    effect_asyncResolve, andThen_error, Timer.kind]
  intro free
  split
  · next up =>
    rw [unlocked free]
    exact .rejected up
  · next same =>
    have down : c.state = .disconnected := not_not.mp same
    refine ⟨fun throws what => abandon_wp settled free down throws .noThread what, fun idle =>
      ⟨fun throws _ what => abandon_wp settled free down throws (.noTimer idle) what,
        fun throws what => abandon_wp settled free down throws (.noResolve idle) what, ?_⟩⟩
    have success : Connects policy password c (.ok .success)
        (launched (timed (started (accepted password c)))) := .begun down idle
    rw [← unlocked (c := launched (timed (started (accepted password c)))) free] at success
    simpa only [launched, timed, started, accepted, List.append_assoc] using success

/-- A sending call that is refused sends nothing. -/
theorem whenConnected_wp {body : Method Unit} {c : Client}
    (sends : c.state = .connected → body.Within (effect policy thread meanwhile)
      (Sends native policy) c) :
    (whenConnected body).Within (effect policy thread meanwhile) (Sends native policy) c := by
  simp only [Within, whenConnected, wp_bind, wp_perform, effect_loadState, andThen_ok, wp_ite,
    wp_pure]
  split
  · exact .done c
  · next same => exact sends (not_not.mp same)

/-- One message of the application, and then the rest of the call. -/
theorem application_wp (settled : meanwhile.Settled) {type : MessageType} {flag : UInt16}
    {payload : Bytes} (application : Application type flag) {c : Client}
    (connected : c.state = .connected) {rest : Method Unit}
    (follows : ∀ middle, middle.state = .connected →
      rest.Within (effect policy thread meanwhile) (Sends native policy) middle) :
    (do transmitRaw native type flag payload; rest).Within (effect policy thread meanwhile)
      (Sends native policy) c := by
  rw [Within, wp_bind]
  apply (transmitRaw_within settled type flag payload c).wp (effect_monotone _ _ _)
  intro outcome middle transmits
  cases outcome with
  | error what => exact .threw application connected transmits
  | ok value =>
    have still : middle.state = .connected := by
      cases transmits
      exact connected
    apply (follows middle still).wp (effect_monotone _ _ _)
    exact fun outcome after rest => .passed application connected transmits rest

theorem application_within (settled : meanwhile.Settled) {type : MessageType} {flag : UInt16}
    {payload : Bytes} (application : Application type flag) {c : Client}
    (connected : c.state = .connected) :
    (transmitRaw native type flag payload).Within (effect policy thread meanwhile)
      (Sends native policy) c := by
  apply (transmitRaw_within settled type flag payload c).wp (effect_monotone _ _ _)
  intro outcome middle transmits
  cases outcome with
  | error what => exact .threw application connected transmits
  | ok value => exact .passed application connected transmits (.done middle)

theorem startVoiceCall_within (settled : meanwhile.Settled) (sourceId destinationId : UInt32)
    (isGroup : Bool) (c : Client) :
    (startVoiceCall native sourceId destinationId isGroup).Within (effect policy thread meanwhile)
      (Sends native policy) c := by
  apply whenConnected_wp
  intro connected
  rw [Within, wp_bind, wp_perform, effect_storeInCall, andThen_ok, wp_bind, wp_perform,
    effect_resetRealTimeSeq, andThen_ok]
  generalize linkControl sourceId destinationId isGroup = header
  have thrice : Within (effect policy thread meanwhile) (do
      transmitRaw native .voiceHeader MessageFlag.realTime1 header
      transmitRaw native .voiceHeader MessageFlag.realTime1 header
      transmitRaw native .voiceHeader MessageFlag.realTime1 header) (Sends native policy)
        { c with inCall := true, realTimeSeq := 0 } := by
    refine application_wp settled .voiceHeader (c := { c with inCall := true, realTimeSeq := 0 })
      connected fun first connected => ?_
    refine application_wp settled .voiceHeader connected fun second connected => ?_
    exact application_within settled .voiceHeader connected
  apply thrice.wp (effect_monotone _ _ _)
  exact fun outcome after rest => .inCall true (.recount rest)

theorem endVoiceCall_within (settled : meanwhile.Settled) (c : Client) :
    (endVoiceCall native).Within (effect policy thread meanwhile) (Sends native policy) c := by
  apply whenConnected_wp
  intro connected
  rw [Within, wp_bind, wp_perform, effect_loadInCall, andThen_ok, wp_ite]
  split
  · exact .done c
  · apply application_wp settled .voiceTerminator connected
    intro middle _
    simp only [Within, wp_perform, effect_storeInCall]
    exact .inCall false (.done _)

theorem sendTextMessage_within (settled : meanwhile.Settled) (destinationId : UInt32)
    (isGroup : Bool) (text : Bytes) (c : Client) :
    (sendTextMessage native destinationId isGroup text).Within (effect policy thread meanwhile)
      (Sends native policy) c := by
  apply whenConnected_wp
  intro connected
  simp only [Within, wp_bind, wp_perform, effect_readIdentity, andThen_ok]
  exact application_within settled .messageText connected

theorem sendAudioFrame_within (settled : meanwhile.Settled) (ambeData : Bytes) (c : Client) :
    (sendAudioFrame native ambeData).Within (effect policy thread meanwhile)
      (Sends native policy) c := by
  apply whenConnected_wp
  intro connected
  simp only [Within, wp_bind, wp_perform, effect_loadInCall, andThen_ok, wp_ite, wp_pure]
  split
  · exact .done c
  · exact application_within settled .dmrAudioFrame connected

theorem method_within (settled : meanwhile.Settled) (call : PublicCall) (c : Client) :
    (method native call).Within (effect policy thread meanwhile)
      (fun c => Calls native policy thread c call) c := by
  have sending {body : Method Unit}
      (notConnect : ∀ host port password timeoutMs, call ≠ .connect host port password timeoutMs)
      (notDisconnect : call ≠ .disconnect)
      (within : body.Within (effect policy thread meanwhile) (Sends native policy) c) :
      Within (effect policy thread meanwhile) (do body; pure none)
        (fun c => Calls native policy thread c call) c := by
    rw [Within, wp_bind]
    apply within.wp (effect_monotone _ _ _)
    intro outcome after sends
    have calls : Calls native policy thread c call ((fun _ => none) <$> outcome) after :=
      .sends notConnect notDisconnect sends
    cases outcome <;> exact calls
  unfold method
  cases call with
  | connect host port password timeoutMs =>
    rw [Within, wp_map]
    apply (connect_within settled host port password timeoutMs c).wp (effect_monotone _ _ _)
    intro outcome after connects
    have calls : Calls native policy thread c (.connect host port password timeoutMs)
        (some <$> outcome) after := .connect connects
    cases outcome <;> exact calls
  | disconnect =>
    rw [Within, wp_bind]
    apply (disconnect_within settled c).wp (effect_monotone _ _ _)
    intro outcome after disconnects
    have calls := Calls.disconnect disconnects
    cases outcome <;> exact calls
  | subscribe talkgroup =>
    exact sending (by simp) (by simp)
      (whenConnected_wp (application_within settled .subscription))
  | unsubscribe talkgroup =>
    exact sending (by simp) (by simp)
      (whenConnected_wp (application_within settled .cancelling))
  | startVoiceCall sourceId destinationId isGroup =>
    exact sending (by simp) (by simp) (startVoiceCall_within settled _ _ _ c)
  | sendAudioFrame ambeData =>
    exact sending (by simp) (by simp) (sendAudioFrame_within settled _ c)
  | endVoiceCall => exact sending (by simp) (by simp) (endVoiceCall_within settled c)
  | sendTextMessage destinationId isGroup text =>
    exact sending (by simp) (by simp) (sendTextMessage_within settled _ _ _ c)
  | sendLocationReport nmeaSentence =>
    exact sending (by simp) (by simp)
      (whenConnected_wp (application_within settled .locationReport))

theorem publicCall_within (settled : meanwhile.Settled) (call : PublicCall) (c : Client) :
    (publicCall native call).Within (effect policy thread meanwhile)
      (fun c => Performs native policy thread c call) c := by
  simp only [Within, publicCall, wp_bind, wp_perform, effect_note, andThen_ok]
  apply (method_within settled call _).wp (effect_monotone _ _ _)
  intro outcome after calls
  cases outcome with
  | error what => exact .threw calls
  | ok result => exact .returned calls

end

end OpenDTP.Client
