import OpenDTP.Client.Methods

/-! The rule of each atomic operation for a thread that runs alone, except that while a callback
is in progress the client may change as `meanwhile` allows. -/

namespace OpenDTP.Client
open Common Protocol Effects Effects.Program

/-- What may happen to the client while a callback runs. -/
abbrev Meanwhile := Callback → Client → Client → Prop

def during (meanwhile : Meanwhile) : Interference Op Client := fun _ operation before after =>
  match operation with
  | .endCallback callback => meanwhile callback before after
  | _ => after = before

def effect (policy : Policy) (thread : Thread) (meanwhile : Meanwhile) : Transformer Op Client :=
  demonic (semantics policy thread) (during meanwhile)

theorem effect_monotone (policy : Policy) (thread : Thread) (meanwhile : Meanwhile) :
    Transformer.Monotone (effect policy thread meanwhile) := demonic_monotone _ _

section

variable {policy : Policy} {thread : Thread} {meanwhile : Meanwhile} {c : Client}

/-- Outside callbacks an operation with one possible result is a plain state change. -/
theorem effect_of_step {β : Type} {operation : Op β} {value : β} {after : Client}
    (undisturbed : ∀ between, during meanwhile β operation c between ↔ between = c)
    (stepped : ∀ answer, step policy thread operation answer c = some (value, after))
    (post : β → Client → Prop) :
    effect policy thread meanwhile β operation post c = post value after := by
  apply propext
  constructor
  · intro holds
    exact holds c ((undisturbed c).mpr rfl) default value after (stepped default)
  · intro holds between reached answer other final taken
    rw [(undisturbed between).mp reached] at taken
    have same := (stepped answer).symm.trans taken
    cases same
    exact holds

@[simp] theorem effect_loadState (post : State → Client → Prop) :
    effect policy thread meanwhile _ .loadState post c = post c.state c :=
  effect_of_step (fun _ => Iff.rfl) (fun _ => rfl) post

@[simp] theorem effect_storeState (value : State) (post : Unit → Client → Prop) :
    effect policy thread meanwhile _ (.storeState value) post c =
      post () { c with state := value, log := c.log ++ [.stored value] } :=
  effect_of_step (fun _ => Iff.rfl) (fun _ => rfl) post

@[simp] theorem effect_loadInCall (post : Bool → Client → Prop) :
    effect policy thread meanwhile _ .loadInCall post c = post c.inCall c :=
  effect_of_step (fun _ => Iff.rfl) (fun _ => rfl) post

@[simp] theorem effect_storeInCall (value : Bool) (post : Unit → Client → Prop) :
    effect policy thread meanwhile _ (.storeInCall value) post c =
      post () { c with inCall := value } :=
  effect_of_step (fun _ => Iff.rfl) (fun _ => rfl) post

@[simp] theorem effect_readIdentity (post : UInt32 × Bytes → Client → Prop) :
    effect policy thread meanwhile _ .readIdentity post c = post (c.dmrId, c.description) c :=
  effect_of_step (fun _ => Iff.rfl) (fun _ => rfl) post

@[simp] theorem effect_readPassword (post : Bytes → Client → Prop) :
    effect policy thread meanwhile _ .readPassword post c = post c.password c :=
  effect_of_step (fun _ => Iff.rfl) (fun _ => rfl) post

@[simp] theorem effect_writePassword (value : Bytes) (post : Unit → Client → Prop) :
    effect policy thread meanwhile _ (.writePassword value) post c =
      post () { c with password := value } :=
  effect_of_step (fun _ => Iff.rfl) (fun _ => rfl) post

@[simp] theorem effect_readLastError (post : ClientError → Client → Prop) :
    effect policy thread meanwhile _ .readLastError post c = post c.lastError c :=
  effect_of_step (fun _ => Iff.rfl) (fun _ => rfl) post

@[simp] theorem effect_writeLastError (value : ClientError) (post : Unit → Client → Prop) :
    effect policy thread meanwhile _ (.writeLastError value) post c =
      post () { c with lastError := value } :=
  effect_of_step (fun _ => Iff.rfl) (fun _ => rfl) post

@[simp] theorem effect_resetRoutineSeq (post : Unit → Client → Prop) :
    effect policy thread meanwhile _ (.resetSeq false) post c = post () { c with routineSeq := 0 } :=
  effect_of_step (fun _ => Iff.rfl) (fun _ => rfl) post

@[simp] theorem effect_resetRealTimeSeq (post : Unit → Client → Prop) :
    effect policy thread meanwhile _ (.resetSeq true) post c = post () { c with realTimeSeq := 0 } :=
  effect_of_step (fun _ => Iff.rfl) (fun _ => rfl) post

/-- Drawing a number advances exactly the counter that is drawn from. -/
@[simp] theorem effect_takeSeq (realTime : Bool) (post : UInt32 → Client → Prop) :
    effect policy thread meanwhile _ (.takeSeq realTime) post c =
      post (if realTime then c.realTimeSeq else c.routineSeq)
        { c with routineSeq := if realTime then c.routineSeq else c.routineSeq + 1,
                 realTimeSeq := if realTime then c.realTimeSeq + 1 else c.realTimeSeq } := by
  cases realTime
  · exact effect_of_step (fun _ => Iff.rfl) (fun _ => rfl) post
  · exact effect_of_step (fun _ => Iff.rfl) (fun _ => rfl) post

@[simp] theorem effect_readServerEndpoint (post : Endpoint → Client → Prop) :
    effect policy thread meanwhile _ .readServerEndpoint post c = post c.serverEndpoint c :=
  effect_of_step (fun _ => Iff.rfl) (fun _ => rfl) post

@[simp] theorem effect_writeServerEndpoint (value : Endpoint) (post : Unit → Client → Prop) :
    effect policy thread meanwhile _ (.writeServerEndpoint value) post c =
      post () { c with serverEndpoint := value } :=
  effect_of_step (fun _ => Iff.rfl) (fun _ => rfl) post

@[simp] theorem effect_readSenderEndpoint (post : Endpoint → Client → Prop) :
    effect policy thread meanwhile _ .readSenderEndpoint post c = post c.senderEndpoint c :=
  effect_of_step (fun _ => Iff.rfl) (fun _ => rfl) post

@[simp] theorem effect_readBuffer (bytesTransferred : Nat) (post : Bytes → Client → Prop) :
    effect policy thread meanwhile _ (.readBuffer bytesTransferred) post c =
      post (c.receiveBuffer.take bytesTransferred) c :=
  effect_of_step (fun _ => Iff.rfl) (fun _ => rfl) post

@[simp] theorem effect_lock (mutex : Mutex) (post : Unit → Client → Prop) :
    effect policy thread meanwhile _ (.lock mutex) post c =
      (c.owner mutex = none → post () (c.setOwner (some thread) mutex)) := by
  by_cases free : c.owner mutex = none
  · have stepped : ∀ answer, step policy thread (.lock mutex) answer c =
        some ((), c.setOwner (some thread) mutex) := fun _ => if_pos free
    rw [effect_of_step (fun _ => Iff.rfl) stepped post]
    simp only [free, forall_const]
  · simp [effect, demonic, during, semantics, step, free]

@[simp] theorem effect_unlock (mutex : Mutex) (post : Unit → Client → Prop) :
    effect policy thread meanwhile _ (.unlock mutex) post c = post () (c.setOwner none mutex) :=
  effect_of_step (fun _ => Iff.rfl) (fun _ => rfl) post

@[simp] theorem effect_notifyAll (post : Unit → Client → Prop) :
    effect policy thread meanwhile _ .notifyAll post c =
      post () { c with waits := fun id => (c.waits id).notify, log := c.log ++ [.notified] } :=
  effect_of_step (fun _ => Iff.rfl) (fun _ => rfl) post

@[simp] theorem effect_restart (post : Unit → Client → Prop) :
    effect policy thread meanwhile _ .restart post c = post () { c with stopped := false } :=
  effect_of_step (fun _ => Iff.rfl) (fun _ => rfl) post

@[simp] theorem effect_stop (post : Unit → Client → Prop) :
    effect policy thread meanwhile _ .stop post c = post () { c with stopped := true } :=
  effect_of_step (fun _ => Iff.rfl) (fun _ => rfl) post

@[simp] theorem effect_makeWorkGuard (post : Unit → Client → Prop) :
    effect policy thread meanwhile _ .makeWorkGuard post c = post () { c with workGuard := true } :=
  effect_of_step (fun _ => Iff.rfl) (fun _ => rfl) post

@[simp] theorem effect_dropWorkGuard (post : Unit → Client → Prop) :
    effect policy thread meanwhile _ .dropWorkGuard post c = post () { c with workGuard := false } :=
  effect_of_step (fun _ => Iff.rfl) (fun _ => rfl) post

@[simp] theorem effect_joinable (post : Bool → Client → Prop) :
    effect policy thread meanwhile _ .joinable post c = post (c.ioThread ≠ .none) c :=
  effect_of_step (fun _ => Iff.rfl) (fun _ => rfl) post

@[simp] theorem effect_onIoThread (post : Bool → Client → Prop) :
    effect policy thread meanwhile _ .onIoThread post c = post (thread = .io) c :=
  effect_of_step (fun _ => Iff.rfl) (fun _ => rfl) post

@[simp] theorem effect_expiresAfter (timer : Timer) (milliseconds : UInt32)
    (post : Unit → Client → Prop) :
    effect policy thread meanwhile _ (.expiresAfter timer milliseconds) post c =
      post () { c with operations := c.operations.map (·.cancel timer.kind) } :=
  effect_of_step (fun _ => Iff.rfl) (fun _ => rfl) post

@[simp] theorem effect_cancelTimer (timer : Timer) (post : Unit → Client → Prop) :
    effect policy thread meanwhile _ (.cancelTimer timer) post c =
      post () { c with operations := c.operations.map (·.cancel timer.kind) } :=
  effect_of_step (fun _ => Iff.rfl) (fun _ => rfl) post

@[simp] theorem effect_cancelResolve (post : Unit → Client → Prop) :
    effect policy thread meanwhile _ .cancelResolve post c =
      post () { c with operations := c.operations.map (·.cancel .resolve) } :=
  effect_of_step (fun _ => Iff.rfl) (fun _ => rfl) post

@[simp] theorem effect_isOpen (post : Bool → Client → Prop) :
    effect policy thread meanwhile _ .isOpen post c = post c.socketOpen c :=
  effect_of_step (fun _ => Iff.rfl) (fun _ => rfl) post

@[simp] theorem effect_closeSocket (post : Unit → Client → Prop) :
    effect policy thread meanwhile _ .closeSocket post c =
      post () { c with operations := c.operations.map (·.cancel .receive), socketOpen := false } :=
  effect_of_step (fun _ => Iff.rfl) (fun _ => rfl) post

@[simp] theorem effect_asyncReceiveFrom (post : Unit → Client → Prop) :
    effect policy thread meanwhile _ .asyncReceiveFrom post c =
      post () { c with operations := c.operations ++ [⟨.receive, c.session, none⟩] } :=
  effect_of_step (fun _ => Iff.rfl) (fun _ => rfl) post

@[simp] theorem effect_hasHook (hook : Hook) (post : Bool → Client → Prop) :
    effect policy thread meanwhile _ (.hasHook hook) post c = post (c.hooks hook) c :=
  effect_of_step (fun _ => Iff.rfl) (fun _ => rfl) post

@[simp] theorem effect_beginCallback (callback : Callback) (post : Unit → Client → Prop) :
    effect policy thread meanwhile _ (.beginCallback callback) post c =
      post () { c with log := c.log ++ [.invoked callback] } :=
  effect_of_step (fun _ => Iff.rfl) (fun _ => rfl) post

@[simp] theorem effect_accept (password : Bytes) (post : Unit → Client → Prop) :
    effect policy thread meanwhile _ (.accept password) post c =
      post () { c with session := c.session + 1, log := c.log ++ [.accepted password] } :=
  effect_of_step (fun _ => Iff.rfl) (fun _ => rfl) post

@[simp] theorem effect_note (event : Event) (post : Unit → Client → Prop) :
    effect policy thread meanwhile _ (.note event) post c =
      post () { c with log := c.log ++ [event] } :=
  effect_of_step (fun _ => Iff.rfl) (fun _ => rfl) post

/-! The operations with more than one possible result. -/

@[simp] theorem effect_bindSocket (isV6 : Bool) (post : ErrorCode → Client → Prop) :
    effect policy thread meanwhile _ (.bindSocket isV6) post c =
      ∀ ec, post ec { c with log := c.log ++ [.bound ec] } := by
  apply propext
  constructor
  · intro holds ec
    exact holds c rfl { ec := ec } ec _ rfl
  · intro holds between reached answer value after stepped
    cases reached
    cases stepped
    exact holds _

@[simp] theorem effect_openSocket (isV6 : Bool) (post : ErrorCode → Client → Prop) :
    effect policy thread meanwhile _ (.openSocket isV6) post c =
      ((∀ ec, ec ≠ .success → post ec { c with log := c.log ++ [.opened ec] }) ∧
        (c.socketOpen = false →
          post .success { c with socketOpen := true, log := c.log ++ [.opened .success] })) := by
  apply propext
  constructor
  · intro holds
    constructor
    · intro ec failed
      exact holds c rfl { ec := ec } ec _ (if_pos failed)
    · intro closed
      exact holds c rfl {} _ _ (by simp [semantics, step, closed, record])
  · rintro ⟨failed, opened⟩ between reached answer value after stepped
    cases reached
    simp only [semantics, step] at stepped
    split at stepped
    · next bad =>
      cases stepped
      exact failed _ bad
    · split at stepped
      · cases stepped
      · next closed =>
        cases stepped
        exact opened (by simpa using closed)

@[simp] theorem effect_sendTo (packet : Bytes) (destination : Endpoint)
    (post : ErrorCode → Client → Prop) :
    effect policy thread meanwhile _ (.sendTo packet destination) post c =
      ∀ ec, (ec = .success → c.socketOpen = true) →
        post ec { c with log := c.log ++ [.sent packet destination] } := by
  apply propext
  constructor
  · intro holds ec possible
    apply holds c rfl { ec := ec }
    by_cases good : ec = .success
    · simp [semantics, step, good, possible good, record]
    · simp [semantics, step, good, record]
  · intro holds between reached answer value after stepped
    cases reached
    simp only [semantics, step] at stepped
    split at stepped
    · cases stepped
    · next possible =>
      cases stepped
      apply holds
      intro good
      simpa [good] using possible

@[simp] theorem effect_join (post : Unit → Client → Prop) :
    effect policy thread meanwhile _ .join post c =
      ((c.ioThread = .exited → post () { c with ioThread := .none }) ∧
        (c.ioThread = .running → c.runReturns = true →
          post () { c with ioThread := .none, stopped := true })) := by
  apply propext
  constructor
  · intro holds
    constructor
    · intro exited
      exact holds c rfl {} _ _ (by simp [semantics, step, exited])
    · intro running returns
      exact holds c rfl {} _ _ (by simp [semantics, step, running, returns])
  · rintro ⟨gone, leaving⟩ between reached answer value after stepped
    cases reached
    simp only [semantics, step] at stepped
    split at stepped
    · next exited =>
      cases stepped
      exact gone exited
    · split at stepped
      · next returns =>
        cases stepped
        exact leaving returns.1 returns.2
      · cases stepped

@[simp] theorem effect_startThread (post : Outcome Unit → Client → Prop) :
    effect policy thread meanwhile _ .startThread post c =
      ((policy.startupThrows = true → ∀ what, post (.error what) c) ∧
        (c.ioThread = .none →
          post (.ok ()) { c with ioThread := .running, log := c.log ++ [.started] })) := by
  apply propext
  constructor
  · intro holds
    constructor
    · intro throws what
      exact holds c rfl { failure := some what } _ _ (by simp [semantics, step, throws])
    · intro idle
      exact holds c rfl {} _ _ (by simp [semantics, step, idle, record])
  · rintro ⟨failed, started⟩ between reached answer value after stepped
    cases reached
    simp only [semantics, step] at stepped
    split at stepped
    · split at stepped
      · next throws =>
        cases stepped
        exact failed throws _
      · cases stepped
    · split at stepped
      · next idle =>
        cases stepped
        exact started idle
      · cases stepped

@[simp] theorem effect_asyncWait (timer : Timer) (post : Outcome Unit → Client → Prop) :
    effect policy thread meanwhile _ (.asyncWait timer) post c =
      ((policy.startupThrows = true → timer = .connectTimeoutTimer →
          ∀ what, post (.error what) c) ∧
        post (.ok ()) { c with operations := c.operations ++ [⟨timer.kind, c.session, none⟩] }) := by
  apply propext
  constructor
  · intro holds
    constructor
    · intro throws same what
      exact holds c rfl { failure := some what } _ _ (by simp [semantics, step, throws, same])
    · exact holds c rfl {} _ _ rfl
  · rintro ⟨failed, waiting⟩ between reached answer value after stepped
    cases reached
    simp only [semantics, step] at stepped
    split at stepped
    · split at stepped
      · next throws =>
        cases stepped
        exact failed throws.1 throws.2 _
      · cases stepped
    · cases stepped
      exact waiting

@[simp] theorem effect_asyncResolve (host : String) (port : UInt16)
    (post : Outcome Unit → Client → Prop) :
    effect policy thread meanwhile _ (.asyncResolve host port) post c =
      ((policy.startupThrows = true → ∀ what, post (.error what) c) ∧
        post (.ok ()) { c with operations := c.operations ++ [⟨.resolve, c.session, none⟩] }) := by
  apply propext
  constructor
  · intro holds
    constructor
    · intro throws what
      exact holds c rfl { failure := some what } _ _ (by simp [semantics, step, throws])
    · exact holds c rfl {} _ _ rfl
  · rintro ⟨failed, resolving⟩ between reached answer value after stepped
    cases reached
    simp only [semantics, step] at stepped
    split at stepped
    · split at stepped
      · next throws =>
        cases stepped
        exact failed throws _
      · cases stepped
    · cases stepped
      exact resolving

@[simp] theorem effect_endCallback (callback : Callback) (post : Outcome Unit → Client → Prop) :
    effect policy thread meanwhile _ (.endCallback callback) post c =
      ∀ between, meanwhile callback c between →
        (policy.throws callback.hook = true → ∀ what, post (.error what) between) ∧
          post (.ok ()) between := by
  apply propext
  constructor
  · intro holds between reached
    constructor
    · intro throws what
      exact holds between reached { failure := some what } _ _ (by simp [semantics, step, throws])
    · exact holds between reached {} _ _ rfl
  · intro holds between reached answer value after stepped
    obtain ⟨thrown, normal⟩ := holds between reached
    simp only [semantics, step] at stepped
    split at stepped
    · split at stepped
      · next throws =>
        cases stepped
        exact thrown throws _
      · cases stepped
    · cases stepped
      exact normal

/-! ### Scopes and callbacks -/

@[simp] theorem wp_locked {α : Type} (mutex : Mutex) (scope : Method α)
    (post : Outcome α → Client → Prop) :
    (locked mutex scope).wp (effect policy thread meanwhile) post c =
      (c.owner mutex = none →
        scope.wp (effect policy thread meanwhile)
          (fun outcome after => post outcome (after.setOwner none mutex))
          (c.setOwner (some thread) mutex)) := by
  simp only [locked, wp_bind, wp_perform, effect_lock, andThen_ok, wp_attempt, effect_unlock,
    wp_ofOutcome]

@[simp] theorem wp_invoke (callback : Callback) (post : Outcome Unit → Client → Prop) :
    (invoke callback).wp (effect policy thread meanwhile) post c =
      ∀ between, meanwhile callback { c with log := c.log ++ [.invoked callback] } between →
        (policy.throws callback.hook = true → ∀ what, post (.error what) between) ∧
          post (.ok ()) between := by
  simp only [invoke, wp_bind, wp_perform, effect_beginCallback, andThen_ok, effect_endCallback,
    wp_ofOutcome]

@[simp] theorem wp_report (callback : Callback) (post : Outcome Unit → Client → Prop) :
    (report callback).wp (effect policy thread meanwhile) post c =
      if c.hooks callback.hook = true then
        (invoke callback).wp (effect policy thread meanwhile) post c
      else post (.ok ()) c := by
  simp only [report, wp_bind, wp_perform, effect_hasHook, andThen_ok, wp_ite, wp_pure]

end

end OpenDTP.Client
