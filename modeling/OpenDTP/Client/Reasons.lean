import OpenDTP.Client.Footprint
import OpenDTP.Client.Reporting
import OpenDTP.Effects.Monitoring

/-! The reason that `onDisconnected` is given. It is read from `lastError_` after CLOSE was sent, and
a `send_to` that is refused writes that member too. The steps are watched for such a refusal. -/

namespace OpenDTP.Client
open Common Protocol Effects Effects.Program

/-! ### Watching for a refused send -/

/-- Whether some `send_to` was answered with an error. -/
def refusals : Watch Op Answer Bool := fun _ operation answer refused =>
  match operation with
  | .sendTo _ _ => refused || answer.ec ≠ .success
  | _ => refused

def Op.isSend {β : Type} : Op β → Bool
  | .sendTo _ _ => true
  | _ => false

theorem blind_of_not_send {β : Type} {operation : Op β} (other : operation.isSend = false) :
    Blind refusals β operation := by
  intro answer refused
  cases operation <;> first | rfl | cases other

theorem during_quiet : during quiet = noInterference := by
  funext β operation before after
  cases operation <;> rfl

abbrev watching (policy : Policy) (thread : Thread) : Transformer Op (Client × Bool) :=
  alone ((semantics policy thread).watched refusals)

section

variable {native : Endian} {policy : Policy} {thread : Thread} {c : Client} {refused : Bool}

theorem watching_blind {β : Type} {operation : Op β} (other : operation.isSend = false)
    (post : β → Client × Bool → Prop) :
    watching policy thread β operation post (c, refused) =
      effect policy thread quiet β operation (fun value after => post value (after, refused)) c := by
  rw [watching, alone_blind (blind_of_not_send other), effect, during_quiet]

/-! ### What the callback was told -/

/-- Between the two clients `onDisconnected` was told nothing but `reason`. -/
def Explains (reason : ClientError) (c after : Client) : Prop :=
  ∃ events, after.log = c.log ++ events ∧
    ∀ told, .invoked (.onDisconnected told) ∈ events → told = reason

/-- Between the two clients `onDisconnected` was not invoked. -/
def Hushed (c after : Client) : Prop :=
  ∃ events, after.log = c.log ++ events ∧ ∀ told, .invoked (.onDisconnected told) ∉ events

theorem Hushed.of_same {after : Client} (same : after.log = c.log) : Hushed c after :=
  ⟨[], by rw [same, List.append_nil], fun _ => List.not_mem_nil⟩

theorem Hushed.recorded {after : Client} {event : Event} (extended : after.log = c.log ++ [event])
    (other : event.isFarewell = false) : Hushed c after := by
  refine ⟨[event], extended, fun told member => ?_⟩
  obtain rfl := List.mem_singleton.mp member
  cases other

theorem Hushed.trans {middle after : Client} (early : Hushed c middle) (late : Hushed middle after) :
    Hushed c after := by
  obtain ⟨events, extended, hushed⟩ := early
  obtain ⟨others, extendedMore, hushedMore⟩ := late
  refine ⟨events ++ others, ?_, fun told member => ?_⟩
  · rw [extendedMore, extended, List.append_assoc]
  · rcases List.mem_append.mp member with before | behind
    · exact hushed told before
    · exact hushedMore told behind

theorem Hushed.explains {reason : ClientError} {after : Client} (hushed : Hushed c after) :
    Explains reason c after := by
  obtain ⟨events, extended, none⟩ := hushed
  exact ⟨events, extended, fun told member => absurd member (none told)⟩

theorem Explains.behind {reason : ClientError} {middle after : Client} (early : Hushed c middle)
    (late : Explains reason middle after) : Explains reason c after := by
  obtain ⟨events, extended, hushed⟩ := early
  obtain ⟨others, extendedMore, explains⟩ := late
  refine ⟨events ++ others, ?_, fun told member => ?_⟩
  · rw [extendedMore, extended, List.append_assoc]
  · rcases List.mem_append.mp member with before | behind
    · exact absurd before (hushed told)
    · exact explains told behind

theorem Explains.before {reason : ClientError} {middle after : Client}
    (early : Explains reason c middle) (late : Hushed middle after) : Explains reason c after := by
  obtain ⟨events, extended, explains⟩ := early
  obtain ⟨others, extendedMore, hushed⟩ := late
  refine ⟨events ++ others, ?_, fun told member => ?_⟩
  · rw [extendedMore, extended, List.append_assoc]
  · rcases List.mem_append.mp member with before | behind
    · exact explains told before
    · exact absurd behind (hushed told)

/-- Nothing happened that matters for the reason. -/
def Aside (c after : Client) : Prop := Hushed c after ∧ after.lastError = c.lastError

theorem Aside.refl (c : Client) : Aside c c := ⟨.of_same rfl, rfl⟩

/-- The operations that do not invoke `onDisconnected`. -/
def Discreet : (β : Type) → Op β → Prop
  | _, .beginCallback callback => callback.hook ≠ .onDisconnected
  | _, .note event => event.isFarewell = false
  | _, _ => True

/-- The discreet operations that neither send nor write `lastError_`. -/
def Neutral : (β : Type) → Op β → Prop
  | _, .sendTo _ _ => False
  | _, .writeLastError _ => False
  | β, operation => Discreet β operation

theorem Neutral.discreet {β : Type} {operation : Op β} (neutral : Neutral β operation) :
    Discreet β operation := by
  cases operation <;> first | exact neutral | exact neutral.elim

theorem Neutral.blind {β : Type} {operation : Op β} (neutral : Neutral β operation) :
    Blind refusals β operation := by
  intro answer refused
  cases operation <;> first | rfl | exact neutral.elim

theorem Discreet.step_hushed {β : Type} {operation : Op β} {answer : Answer} {value : β}
    {after : Client} (discreet : Discreet β operation)
    (stepped : step policy thread operation answer c = some (value, after)) : Hushed c after := by
  cases operation <;> simp only [step] at stepped <;> (repeat' split at stepped) <;>
    cases stepped
  case beginCallback callback =>
    refine Hushed.recorded rfl ?_
    cases callback <;> first | rfl | exact absurd rfl discreet
  case note event => exact Hushed.recorded rfl discreet
  case lock mutex _ => cases mutex <;> exact Hushed.of_same rfl
  case unlock mutex => cases mutex <;> exact Hushed.of_same rfl
  all_goals first
    | exact Hushed.of_same rfl
    | (refine Hushed.recorded rfl ?_; rfl)

theorem Neutral.step_aside {β : Type} {operation : Op β} {answer : Answer} {value : β}
    {after : Client} (neutral : Neutral β operation)
    (stepped : step policy thread operation answer c = some (value, after)) : Aside c after := by
  refine ⟨neutral.discreet.step_hushed stepped, ?_⟩
  cases operation <;> simp only [step] at stepped <;> (repeat' split at stepped) <;>
    cases stepped
  case lock mutex _ => cases mutex <;> rfl
  case unlock mutex => cases mutex <;> rfl
  all_goals first | rfl | exact neutral.elim

theorem Aside.trans {middle after : Client} (early : Aside c middle) (late : Aside middle after) :
    Aside c after := ⟨early.1.trans late.1, late.2.trans early.2⟩

variable {α : Type} {post : Outcome α → Client × Bool → Prop} {start : Client}

theorem discreet_wp {program : Method α} (issues : program.Issues Discreet) :
    program.wp (watching policy thread) (fun _ after => Hushed c after.1) (c, refused) := by
  apply demonic_keeps _ _ _ issues
  · exact Hushed.of_same rfl
  · intro β operation answer state value after discreet reached stepped
    simp only [Semantics.watched] at stepped
    split at stepped
    · cases stepped
    · next taken =>
      cases stepped
      exact Hushed.trans reached (discreet.step_hushed taken)
  · rintro β operation state between reached rfl
    exact reached

/-- A neutral instruction, wherever it leads. -/
theorem neutral_step {operation : Op α} (neutral : Neutral α operation) (sofar : Aside start c)
    (rest : ∀ value after, Aside start after → post (.ok value) (after, refused)) :
    (perform operation).wp (watching policy thread) post (c, refused) := by
  rw [wp_perform, watching, alone_watched]
  intro answer value after stepped
  rw [neutral.blind answer refused]
  exact rest value after (sofar.trans (neutral.step_aside stepped))

theorem neutral_wp {program : Method α} (issues : program.Issues Neutral) (sofar : Aside start c)
    (rest : ∀ outcome after, Aside start after → post outcome (after, refused)) :
    program.wp (watching policy thread) post (c, refused) := by
  induction program generalizing c with
  | ret value => exact rest _ _ sofar
  | throw what => exact rest _ _ sofar
  | call operation next ih =>
    have first : (perform operation).wp (watching policy thread)
        (andThen (fun value after => (next value).wp (watching policy thread) post after)
          fun _ _ => True) (c, refused) :=
      neutral_step issues.1 sofar fun value after reached =>
        ih value (issues.2 value) reached
    exact first

/-- A `send_to`: the monitor moves if it is refused. -/
theorem sendTo_wp {packet : Bytes} {destination : Endpoint}
    {post : Outcome ErrorCode → Client × Bool → Prop} (sofar : Aside start c)
    (rest : ∀ ec after, Aside start after → post (.ok ec) (after, refused || ec ≠ .success)) :
    (perform (.sendTo packet destination)).wp (watching policy thread) post (c, refused) := by
  rw [wp_perform, watching, alone_watched]
  intro answer value after stepped
  simp only [semantics, step] at stepped
  split at stepped
  · cases stepped
  · cases stepped
    exact rest _ _ (sofar.trans ⟨.recorded rfl rfl, rfl⟩)

theorem report_neutral {callback : Callback} (other : callback.hook ≠ .onDisconnected) :
    (report callback).Issues Neutral := by
  simp [Issues, report, invoke, wp_ite, issuing, Neutral, Discreet, other]

theorem joinThread_neutral : joinThread.Issues Neutral := by
  simp [Issues, joinThread, wp_ite, issuing, Neutral, Discreet]

theorem Processing.discreet {β : Type} (operation : Op β) (processing : Processing β operation) :
    Discreet β operation := by
  cases operation <;> first | trivial | skip
  case note event => cases event <;> first | rfl | exact processing.elim

theorem sendKeepAlive_discreet : (sendKeepAlive native).Issues Discreet :=
  (sendKeepAlive_sending native).mono fun operation sending =>
    Processing.discreet operation (sending.processing operation)

theorem startReceiveLoop_discreet : startReceiveLoop.Issues Discreet := by
  simp [Issues, startReceiveLoop, wp_ite, issuing, Discreet]

theorem startKeepAliveTimer_discreet : startKeepAliveTimer.Issues Discreet :=
  startKeepAliveTimer_processing.mono Processing.discreet

theorem processPacket_discreet (packet : Bytes) : (processPacket native packet).Issues Discreet :=
  (processPacket_processing native packet).mono Processing.discreet

/-! ### The handlers that end a session, watched -/

/-- What `lastError_` is once CLOSE was said. -/
def blamed (error : ClientError) (refused : Bool) : ClientError :=
  if refused then .socketIo else error

theorem transmitRaw_watched (type : MessageType) (flag : UInt16) (payload : Bytes) (c : Client) :
    (transmitRaw native type flag payload).wp (watching policy thread)
      (fun _ after => Hushed c after.1 ∧ after.1.lastError = blamed c.lastError after.2)
      (c, false) := by
  have unlocks (outcome : Outcome Unit) (refused : Bool) {d : Client} (hushed : Hushed c d)
      (blame : d.lastError = blamed c.lastError refused) :
      (perform (Op.unlock .writeMutex) >>= fun _ => ofOutcome outcome).wp (watching policy thread)
        (fun _ after => Hushed c after.1 ∧ after.1.lastError = blamed c.lastError after.2)
        (d, refused) := by
    rw [wp_bind]
    refine neutral_step trivial (.refl d) fun _ after aside => ?_
    rw [andThen_ok, wp_ofOutcome]
    exact ⟨hushed.trans aside.1, aside.2.trans blame⟩
  rw [transmitRaw, wp_bind]
  refine neutral_step rfl (.refl c) fun _ noted aside => ?_
  rw [andThen_ok, locked, wp_bind]
  refine neutral_step trivial aside fun _ d aside => ?_
  rw [andThen_ok, wp_bind, wp_attempt, wp_bind]
  refine neutral_step trivial aside fun isOpen d aside => ?_
  rw [andThen_ok, wp_ite]
  split
  · exact unlocks _ false aside.1 aside.2
  · rw [wp_bind]
    refine neutral_step trivial aside fun seqNum d aside => ?_
    rw [andThen_ok, wp_bind]
    refine neutral_step trivial aside fun server d aside => ?_
    rw [andThen_ok, wp_bind]
    refine sendTo_wp aside fun ec d aside => ?_
    rw [andThen_ok, wp_ite]
    split
    · next bad =>
      rw [wp_bind, wp_perform, watching_blind rfl, effect_writeLastError, andThen_ok]
      refine neutral_wp (report_neutral (by simp [Callback.hook])) (.refl _) fun outcome after told => ?_
      refine unlocks outcome _ (aside.1.trans told.1) (told.2.trans ?_)
      simp [blamed, bad]
    · next good =>
      refine unlocks _ _ aside.1 (aside.2.trans ?_)
      rw [not_not.mp good]
      rfl

/-- `onDisconnected` was told nothing but the given error, or SOCKET_IO if a send was refused. -/
def Blames (error : ClientError) (c : Client) (after : Client × Bool) : Prop :=
  Explains (blamed error after.2) c after.1

theorem sendClose_watched (c : Client) :
    (sendClose native).wp (watching policy thread)
      (fun _ after => Hushed c after.1 ∧ after.1.lastError = blamed c.lastError after.2)
      (c, false) := by
  rw [sendClose, wp_bind]
  refine neutral_step trivial (.refl c) fun isOpen d aside => ?_
  rw [andThen_ok, wp_ite]
  split
  · rw [wp_tryCatch]
    refine wp_mono (demonic_monotone _ _) _ ?_ _ (transmitRaw_watched _ _ _ d)
    rintro outcome ⟨after, refused⟩ ⟨hushed, blame⟩
    have same : after.lastError = blamed c.lastError refused := by rw [blame, aside.2]
    cases outcome <;> exact ⟨aside.1.trans hushed, same⟩
  · exact ⟨aside.1, aside.2⟩

theorem endSession_watched (c : Client) :
    (endSession native).wp (watching policy thread) (fun _ => Blames c.lastError c) (c, false) := by
  rw [endSession, wp_bind]
  refine neutral_step trivial (.refl c) fun _ stored aside => ?_
  rw [andThen_ok, wp_bind]
  refine wp_mono (demonic_monotone _ _) _ ?_ _ (sendClose_watched stored)
  rintro outcome ⟨d, refused⟩ ⟨hushed, blame⟩
  rw [aside.2] at blame
  have hushed := aside.1.trans hushed
  cases outcome with
  | error what => exact hushed.explains
  | ok value =>
    rw [andThen_ok, wp_bind]
    refine neutral_step trivial (.refl d) fun _ d aside => ?_
    rw [andThen_ok, wp_bind]
    refine neutral_step trivial aside fun _ d aside => ?_
    rw [andThen_ok, wp_bind]
    refine neutral_step trivial aside fun _ d aside => ?_
    rw [andThen_ok, wp_bind]
    refine neutral_step trivial aside fun _ d aside => ?_
    rw [andThen_ok, wp_bind]
    refine neutral_step trivial aside fun _ d aside => ?_
    rw [andThen_ok, wp_bind]
    refine neutral_step trivial aside fun assigned d aside => ?_
    rw [andThen_ok, wp_ite]
    have hushed := hushed.trans aside.1
    split
    · rw [wp_bind, wp_perform, watching_blind rfl, effect_readLastError, andThen_ok, invoke, wp_bind,
        wp_perform, watching_blind rfl, effect_beginCallback, andThen_ok, wp_bind]
      refine neutral_step trivial (.refl _) fun ended after quiet => ?_
      rw [andThen_ok, wp_ofOutcome]
      have told : Explains d.lastError d
          { d with log := d.log ++ [.invoked (.onDisconnected d.lastError)] } := by
        refine ⟨_, rfl, fun told member => ?_⟩
        cases List.mem_singleton.mp member
        rfl
      have same : d.lastError = blamed c.lastError refused := aside.2.trans blame
      have whole := (told.behind hushed).before quiet.1
      rw [same] at whole
      exact whole
    · exact hushed.explains

theorem Blames.behind {error : ClientError} {middle : Client} {after : Client × Bool}
    (early : Hushed c middle) (late : Blames error middle after) : Blames error c after :=
  Explains.behind early late

theorem Blames.before {error : ClientError} {middle : Client} (early : Blames error c (middle, refused))
    {after : Client} (late : Hushed middle after) : Blames error c (after, refused) :=
  Explains.before early late

theorem disconnect_watched (c : Client) :
    (disconnect native).wp (watching policy thread) (fun _ => Blames c.lastError c) (c, false) := by
  have joins {d : Client} {refused : Bool} (blames : Blames c.lastError c (d, refused)) :
      joinThread.wp (watching policy thread) (fun _ => Blames c.lastError c) (d, refused) :=
    neutral_wp joinThread_neutral (.refl d) fun _ _ aside => blames.before aside.1
  rw [disconnect, wp_bind]
  refine neutral_step trivial (.refl c) fun expected d aside => ?_
  rw [andThen_ok, wp_ite]
  split
  · rw [wp_bind]
    refine wp_mono (demonic_monotone _ _) _ ?_ _ (endSession_watched d)
    rintro outcome ⟨after, refused⟩ blames
    rw [aside.2] at blames
    have blames := blames.behind aside.1
    cases outcome with
    | error what => exact blames
    | ok value => exact joins blames
  · exact joins aside.1.explains

theorem failSession_watched (error : ClientError) (message : String) (c : Client) :
    (failSession native error message).wp (watching policy thread) (fun _ => Blames error c)
      (c, false) := by
  rw [failSession, wp_bind, wp_perform, watching_blind rfl, effect_writeLastError, andThen_ok, wp_bind]
  refine neutral_wp (report_neutral (by simp [Callback.hook])) (.refl _) fun outcome d aside => ?_
  cases outcome with
  | error what => exact aside.1.explains
  | ok value =>
    rw [andThen_ok, wp_bind]
    refine wp_mono (demonic_monotone _ _) _ ?_ _ (disconnect_watched d)
    rintro outcome ⟨after, refused⟩ blames
    rw [aside.2] at blames
    have blames : Blames error c (after, refused) := blames.behind aside.1
    cases outcome with
    | error what => exact blames
    | ok value =>
      refine neutral_step trivial (.refl after) fun _ last notified => ?_
      exact blames.before notified.1

/-- A mutex around a scope does not matter. -/
theorem locked_watched {α : Type} {mutex : Mutex} {scope : Method α} {error : ClientError}
    (holds : ∀ d, Aside c d → scope.wp (watching policy thread) (fun _ => Blames error d) (d, false)) :
    (locked mutex scope).wp (watching policy thread) (fun _ => Blames error c) (c, false) := by
  rw [locked, wp_bind]
  refine neutral_step trivial (.refl c) fun _ d aside => ?_
  rw [andThen_ok, wp_bind, wp_attempt]
  refine wp_mono (demonic_monotone _ _) _ ?_ _ (holds d aside)
  rintro outcome ⟨after, refused⟩ blames
  rw [andThen_ok, wp_bind]
  refine neutral_step trivial (.refl after) fun _ last unlocked => ?_
  rw [andThen_ok, wp_ofOutcome]
  exact (blames.behind aside.1).before unlocked.1

/-- Discreet programs blame nobody. -/
theorem blameless_wp {α : Type} {program : Method α} {error : ClientError}
    (issues : program.Issues Discreet) (sofar : Hushed start c) :
    program.wp (watching policy thread) (fun _ => Blames error start) (c, refused) := by
  refine wp_mono (demonic_monotone _ _) _ ?_ _ (discreet_wp issues)
  rintro outcome ⟨after, seen⟩ hushed
  exact (sofar.trans hushed).explains

theorem connectTimeoutHandler_watched (ec : ErrorCode) (c : Client) :
    (connectTimeoutHandler native ec).wp (watching policy thread) (fun _ => Blames .responseTimeout c)
      (c, false) := by
  unfold connectTimeoutHandler
  rw [wp_ite]
  split
  · exact (Hushed.of_same rfl).explains
  · apply locked_watched
    intro d _
    have tests : handshaking.Issues Neutral := by
      simp [Issues, handshaking, wp_ite, issuing, Neutral, Discreet]
    rw [wp_bind]
    refine neutral_wp tests (.refl d) fun outcome e aside => ?_
    cases outcome with
    | error what => exact aside.1.explains
    | ok value =>
      rw [andThen_ok, wp_ite]
      split
      · refine wp_mono (demonic_monotone _ _) _ ?_ _ (failSession_watched _ _ e)
        exact fun _ _ blames => blames.behind aside.1
      · exact aside.1.explains

theorem resolveHandler_watched (ec : ErrorCode) (endpoints : List Endpoint) (c : Client) :
    (resolveHandler native ec endpoints).wp (watching policy thread)
      (fun _ => Blames (if ec ≠ .success ∨ endpoints = [] then .dnsResolve else .socketIo) c)
      (c, false) := by
  have failing {base e : Client} (error : ClientError) (message : String) (aside : Aside base e) :
      (failSession native error message).wp (watching policy thread) (fun _ => Blames error base)
        (e, false) := by
    refine wp_mono (demonic_monotone _ _) _ ?_ _ (failSession_watched _ _ e)
    exact fun _ _ blames => blames.behind aside.1
  unfold resolveHandler
  apply locked_watched
  intro d _
  rw [wp_bind]
  refine neutral_step trivial (.refl d) fun state e aside => ?_
  rw [andThen_ok, wp_ite]
  split
  · exact aside.1.explains
  · by_cases unresolved : ec ≠ .success ∨ endpoints = []
    · rw [if_pos unresolved, if_pos unresolved]
      exact failing _ _ aside
    · rw [if_neg unresolved, if_neg unresolved, wp_bind]
      refine neutral_step trivial aside fun _ e aside => ?_
      rw [andThen_ok, wp_bind]
      refine neutral_step trivial aside fun openEc e aside => ?_
      rw [andThen_ok, wp_ite]
      split
      · exact failing _ _ aside
      · rw [wp_bind]
        refine neutral_step trivial aside fun bindEc e aside => ?_
        rw [andThen_ok, wp_ite]
        split
        · exact failing _ _ aside
        · exact blameless_wp (.bind startReceiveLoop_discreet fun _ => sendKeepAlive_discreet) aside.1

theorem handleReceive_watched (ec : ErrorCode) (bytesTransferred : Nat) (c : Client) :
    (handleReceive native ec bytesTransferred).wp (watching policy thread)
      (fun _ => Blames .socketIo c) (c, false) := by
  unfold handleReceive
  rw [wp_bind]
  refine neutral_step trivial (.refl c) fun state d aside => ?_
  rw [andThen_ok, wp_ite]
  split
  · exact aside.1.explains
  · rw [wp_ite]
    split
    · rw [wp_ite]
      split
      · rw [wp_bind, wp_perform, watching_blind rfl, effect_writeLastError, andThen_ok, wp_bind]
        refine neutral_wp (report_neutral (by simp [Callback.hook])) (.refl _) fun outcome e told => ?_
        have hushed : Hushed c e := aside.1.trans told.1
        cases outcome with
        | error what => exact hushed.explains
        | ok value =>
          refine wp_mono (demonic_monotone _ _) _ ?_ _ (disconnect_watched e)
          rintro outcome ⟨after, refused⟩ blames
          rw [told.2] at blames
          exact blames.behind hushed
      · exact aside.1.explains
    · refine blameless_wp ?_ aside.1
      dsimp only
      split
      · refine .bind (.perform trivial) fun sender => .bind (.perform trivial) fun server =>
          .bind (.perform trivial) fun packet => .bind (.perform rfl) fun _ => ?_
        split
        · exact .bind (processPacket_discreet packet) fun _ => startReceiveLoop_discreet
        · exact startReceiveLoop_discreet
      · exact startReceiveLoop_discreet

theorem keepAliveHandler_discreet (ec : ErrorCode) :
    (keepAliveHandler native ec).Issues Discreet := by
  unfold keepAliveHandler
  split
  · exact .pure _
  · refine .bind (.perform trivial) fun state => ?_
    split
    · exact .pure _
    · exact .bind sendKeepAlive_discreet fun _ => startKeepAliveTimer_discreet

end

/-! ### Steps -/

/-- The error of the event by which a step ends a session. -/
def cause : Label → ClientError
  | .handles operation =>
    match operation.kind, operation.completion with
    | .connectTimeout, _ => .responseTimeout
    | .resolve, some completion =>
      if completion.ec ≠ .success ∨ completion.endpoints = [] then .dnsResolve else .socketIo
    | .receive, _ => .socketIo
    | _, _ => .success
  | _ => .success

/-- The step can be taken so that some `send_to` in it is refused exactly if `refused`. -/
inductive Observed (rules : Rules) : Transition Client Label → Bool → Prop where
  | call {c after : Client} {id : Nat} {made : PublicCall} {outcome : Outcome (Option ClientError)}
      {refused : Bool}
      (ran : Exec ((semantics rules.policy (.app id)).watched refusals) rules.nesting.watched
        (publicCall rules.native made) (c, false) outcome (after, refused)) :
      Observed rules ⟨c, .call id made, after⟩ refused
  | handles {c after : Client} {before rest : List Outstanding} {operation : Outstanding}
      {completion : Completion} {outcome : Outcome Unit} {refused : Bool}
      (queued : operation.completion = some completion)
      (ran : Exec ((semantics rules.policy .io).watched refusals) rules.nesting.watched
        (handler rules.native operation.kind completion) (dequeued before rest c, false) outcome
        (after, refused)) :
      Observed rules ⟨c, .handles operation, resting outcome after⟩ refused

/-- The reason comes out as the cause: it is SOCKET_IO anyway, or no `send_to` is refused and, where
the application disconnects, `lastError_` is SUCCESS before. -/
def Clean (transition : Transition Client Label) (refused : Bool) : Prop :=
  cause transition.label = .socketIo ∨
    (refused = false ∧
      (cause transition.label = .success → transition.before.lastError = .success))

section

variable {rules : Rules} {transition : Transition Client Label} {refused : Bool}
  {reason : ClientError}

theorem not_told (none : farewells (added transition) = 0) :
    .invoked (.onDisconnected reason) ∉ added transition := by
  intro told
  rw [farewells, List.countP_eq_zero] at none
  exact none _ told rfl

/-- What the callback is told, from the cause and the fate of the CLOSE datagram. -/
theorem Observed.told (plain : rules.Plain) (observed : Observed rules transition refused)
    (told : .invoked (.onDisconnected reason) ∈ added transition) :
    reason = blamed (if cause transition.label = .success then transition.before.lastError
      else cause transition.label) refused := by
  have empty {β : Type} (operation : Op β) (state : Client × Bool) (inner : Method Unit) :
      ¬ rules.nesting.watched β operation state inner := by
    intro nested
    cases operation <;> try exact nested.elim
    obtain ⟨call, makes, _⟩ := nested
    exact plain _ call makes
  have explained {error : ClientError} (explains : Explains (blamed error refused) transition.before
      transition.after) : reason = blamed error refused := by
    obtain ⟨events, extended, only⟩ := explains
    rw [added_eq extended] at told
    exact only reason told
  cases observed with
  | @call c after id made outcome _ ran =>
    by_cases disconnects : made = .disconnect
    · subst disconnects
      apply explained
      have blames : (publicCall rules.native .disconnect).wp (watching rules.policy (.app id))
          (fun _ => Blames c.lastError c) (c, false) := by
        rw [publicCall, wp_bind]
        refine neutral_step rfl (.refl c) fun _ d aside => ?_
        rw [andThen_ok, wp_bind, method, wp_bind]
        refine wp_mono (demonic_monotone _ _) _ ?_ _ (disconnect_watched d)
        rintro outcome ⟨after, seen⟩ blames
        rw [aside.2] at blames
        have blames : Blames c.lastError c (after, seen) := blames.behind aside.1
        cases outcome with
        | error what => exact blames
        | ok value =>
          rw [andThen_ok, wp_pure, andThen_ok, wp_bind]
          refine neutral_step rfl (.refl after) fun _ last noted => ?_
          exact blames.before noted.1
      exact ran.wp_alone empty blames
    · have performs := (plain.allows.covers _).sound ran.unwatched _
        (publicCall_within plain.allows.settled made c)
      have reports : Concludes rules.native ⟨c, .call id made, after⟩ ∨
          Passes rules.native ⟨c, .call id made, after⟩ := performs.reported
      rcases reports with ⟨_, _, ends, _⟩ | ⟨silent, _⟩
      · exact absurd (ends_call ends) disconnects
      · exact absurd told (not_told silent)
  | @handles c after before rest operation completion outcome _ queued ran =>
    have reads {error : ClientError}
        (watched : (handler rules.native operation.kind completion).wp (watching rules.policy .io)
          (fun _ => Blames error (dequeued before rest c)) (dequeued before rest c, false)) :
        reason = blamed error refused := explained (ran.wp_alone empty watched)
    unfold cause
    simp only [queued]
    cases isKind : operation.kind <;> rw [isKind] at reads
    case connectTimeout => exact reads (connectTimeoutHandler_watched _ _)
    case resolve =>
      have named := reads (resolveHandler_watched _ _ _)
      have other : (if completion.ec ≠ .success ∨ completion.endpoints = [] then ClientError.dnsResolve
          else .socketIo) ≠ .success := by split <;> decide
      dsimp only
      rw [if_neg other]
      exact named
    case receive => exact reads (handleReceive_watched _ _ _)
    case keepAlive => exact reads (blameless_wp (keepAliveHandler_discreet _) (.of_same rfl))

/-- A step in which `onDisconnected` is invoked is a public call or a handler. -/
theorem Step.observed {c after : Client} {label : Label} (plain : rules.Plain)
    (taken : Step rules c label after)
    (told : .invoked (.onDisconnected reason) ∈ added ⟨c, label, after⟩) :
    ∃ refused, Observed rules ⟨c, label, after⟩ refused := by
  have silent (gains : Gains 0 c after) : ∃ refused, Observed rules ⟨c, label, after⟩ refused :=
    absurd told (not_told (@Gains.added _ ⟨c, label, after⟩ gains))
  cases taken with
  | call free ran =>
    obtain ⟨refused, ran⟩ := ran.watched false
    exact ⟨refused, .call ran⟩
  | connectSync free ran =>
    have performs := (plain.allows.covers _).sound ran _ (publicCall_within plain.allows.settled _ _)
    apply silent
    have held := performs.connect_gains
    unfold entering
    split <;> exact held
  | awaits checking ran =>
    have reading := (plain.allows.covers _).sound ran _ (awaitConnection_within _)
    obtain ⟨_, rfl⟩ := reading
    exact silent ⟨[], by simp [awaited], rfl⟩
  | handles found queued idle going ran =>
    obtain ⟨refused, ran⟩ := ran.watched false
    exact ⟨refused, .handles queued ran⟩
  | completes => exact silent ⟨[], by simp [completed], rfl⟩
  | arrives => exact silent ⟨[], by simp [completed, filled], rfl⟩
  | leaves => exact silent ⟨[], by simp, rfl⟩

end

/-- Whenever `onDisconnected` is invoked, its reason is the cause of the step exactly if the step is
clean. -/
theorem reason_is_cause_iff_clean {rules : Rules} (plain : rules.Plain) {dmrId : UInt32}
    {description : Bytes} {hooks : Hook → Bool} {transitions : List (Transition Client Label)}
    {last : Client} (run : rules.Run dmrId description hooks transitions last) :
    ∀ transition ∈ transitions, ∀ reason, .invoked (.onDisconnected reason) ∈ added transition →
      (∃ refused, Observed rules transition refused) ∧
        ∀ refused, Observed rules transition refused →
          (reason = cause transition.label ↔ Clean transition refused) := by
  intro transition member reason told
  refine ⟨(run.taken transition member).observed plain told, fun refused observed => ?_⟩
  rw [observed.told plain told, Clean, blamed]
  generalize cause transition.label = error
  by_cases own : error = .success
  · subst own
    cases refused <;> simp
  · rw [if_neg own]
    cases refused
    · simp [own]
    · simp [eq_comm]

/-- Every `send_to` is refused. -/
def refusing : Weather := fun _ operation =>
  match operation with
  | .sendTo _ _ => { ec := .failure "Network is unreachable" }
  | _ => {}

/-- The first keep-alive cannot be sent, and later the application disconnects. -/
def refusedScript : List (Weather × Label) :=
  [(fair, .call 0 (.connect "master" 54006 [] 1000)),
    (fair, .completes ⟨.resolve, 1, none⟩ { endpoints := [sampleServer] }),
    (refusing, .handles ⟨.resolve, 1, some { endpoints := [sampleServer] }⟩),
    (fair, .call 0 .disconnect)]

theorem reason_is_cause_at_timeout :
    ∃ transitions last, Effects.Run (Step sampleRules) attentive transitions last ∧
      (∃ transition ∈ transitions, .invoked (.onDisconnected .responseTimeout) ∈ added transition) ∧
      ∀ transition ∈ transitions, ∀ reason, .invoked (.onDisconnected reason) ∈ added transition →
        (∃ refused, Observed sampleRules transition refused) ∧
          ∀ refused, Observed sampleRules transition refused →
            (reason = cause transition.label ↔ Clean transition refused) := by
  obtain ⟨transitions, last, run, told⟩ := replay_checked sampleRules attentive timeoutScript
    (fun transitions _ => transitions.any fun transition =>
      .invoked (.onDisconnected .responseTimeout) ∈ added transition) (by decide)
  obtain ⟨transition, member, told⟩ := List.any_eq_true.mp told
  exact ⟨transitions, last, run, ⟨transition, member, by simpa using told⟩,
    reason_is_cause_iff_clean sampleRules_plain run⟩

/-- The application disconnects and is told of a socket error, since a datagram was once refused. -/
theorem disconnect_blamed_on_socket :
    ¬ ∀ (rules : Rules), rules.Plain → ∀ (dmrId : UInt32) (description : Bytes) (hooks : Hook → Bool)
      (transitions : List (Transition Client Label)) (last : Client),
      rules.Run dmrId description hooks transitions last → ∀ transition ∈ transitions, ∀ reason,
        .invoked (.onDisconnected reason) ∈ added transition → reason = cause transition.label := by
  intro claim
  obtain ⟨transitions, last, run, told⟩ := replay_checked sampleRules attentive refusedScript
    (fun transitions _ => transitions.any fun transition =>
      transition.label = .call 0 .disconnect &&
        .invoked (.onDisconnected .socketIo) ∈ added transition) (by decide)
  obtain ⟨transition, member, told⟩ := List.any_eq_true.mp told
  simp only [Bool.and_eq_true, decide_eq_true_eq] at told
  have same := claim sampleRules sampleRules_plain _ _ _ transitions last run transition member
    .socketIo told.2
  rw [told.1] at same
  cases same

end OpenDTP.Client
