import OpenDTP.Client.Numbering
import OpenDTP.Client.Scopes

/-! The two mutexes when callbacks call back. Neither is recursive, so a thread that holds one must
not come to lock it again. Callbacks run inside both: `TransmitRaw` reports a failed send under
`writeMutex_`, and `Connect` and the handlers of its timer and resolver report and disconnect under
`connectionMutex_`. -/

namespace OpenDTP.Client
open Common Protocol Effects Effects.Program

/-- A thread stands before the lock of a mutex that it holds. -/
def SelfLocks (config : Config Op Client Thread Job) (thread : Thread) : Prop :=
  match config.working thread with
  | some (_, .call (.lock mutex) _) => config.shared.owner mutex = some thread
  | _ => False

instance (config : Config Op Client Thread Job) (thread : Thread) :
    Decidable (SelfLocks config thread) := by
  unfold SelfLocks
  split <;> infer_instance

/-- The calls that transmit whenever they find the client connected. -/
def PublicCall.sendsConnected : PublicCall → Bool
  | .subscribe _ | .unsubscribe _ | .startVoiceCall _ _ _ | .sendTextMessage _ _ _
  | .sendLocationReport _ => true
  | _ => false

/-- The last test of a public call before `TransmitRaw` lets the call through. -/
def passes (made : PublicCall) : {β : Type} → Op β → Client → Bool
  | _, .loadState, c => made.sendsConnected && c.state = .connected
  | _, .loadInCall, c => c.inCall
  | _, .isOpen, c => c.socketOpen
  | _, _, _ => false

/-- Per thread the latest call that it has made from a callback inside `writeMutex_`, as long as it
is inside. -/
abbrev Reentries := Thread → Option PublicCall

def reentries : Scribe Op Client Thread Reentries
  | thread, _, .note event, c, seen =>
    match event with
    | .called made =>
      Function.update seen thread (if c.writeMutex = some thread then some made else none)
    | _ => seen
  | thread, _, .unlock mutex, _, seen =>
    match mutex with
    | .writeMutex => Function.update seen thread none
    | .connectionMutex => seen
  | _, _, _, _, seen => seen

/-- A callback inside `connectionMutex_` does not call `Connect`, and what a callback inside
`writeMutex_` calls is stopped by its tests before `TransmitRaw`. -/
def Restrained (seen : Reentries) (turn : Turn) : Prop :=
  match turn.label with
  | .nests thread made =>
    made.connects = true → turn.before.shared.connectionMutex ≠ some thread
  | .acts thread _ =>
    match turn.before.working thread, seen thread with
    | some (_, .call operation _), some made => passes made operation turn.before.shared = false
    | _, _ => True
  | _ => True

instance (seen : Reentries) (turn : Turn) : Decidable (Restrained seen turn) := by
  unfold Restrained
  split
  · infer_instance
  · split <;> infer_instance
  · infer_instance

/-! ### What a thread holds -/

structure Grip where
  connection : Bool
  write : Bool
  reentered : Option PublicCall

def Grip.holds (grip : Grip) : Mutex → Bool
  | .connectionMutex => grip.connection
  | .writeMutex => grip.write

def Grip.take (grip : Grip) (held : Bool) : Mutex → Grip
  | .connectionMutex => { grip with connection := held }
  | .writeMutex => { grip with write := held, reentered := none }

/-- A thread that calls from inside `writeMutex_` finds nothing that would let it transmit. -/
def locking : Transformer Op Grip
  | _, .lock mutex, post, grip => grip.holds mutex = false ∧ post () (grip.take true mutex)
  | _, .unlock mutex, post, grip => grip.holds mutex = true ∧ post () (grip.take false mutex)
  | _, .note event, post, grip =>
    match event with
    | .called made => post () { grip with reentered := if grip.write then some made else none }
    | _ => post () grip
  | _, .loadState, post, grip =>
    ∀ state, (grip.reentered.any (·.sendsConnected) = true → state ≠ .connected) → post state grip
  | _, .loadInCall, post, grip =>
    ∀ inCall, (grip.reentered ≠ none → inCall = false) → post inCall grip
  | _, .isOpen, post, grip => ∀ isOpen, (grip.reentered ≠ none → isOpen = false) → post isOpen grip
  | _, .endCallback _, post, grip =>
    ∀ reentered outcome, post outcome { grip with reentered := reentered }
  | _, _, post, grip => ∀ answer, post answer grip

/-- The program takes only what is free, and in the end the thread holds what it held. -/
abbrev Even (connection write : Bool) {α : Type} (program : Method α) : Prop :=
  program.Stays locking fun grip => grip.connection = connection ∧ grip.write = write

/-- The operations that leave both mutexes alone. -/
def Op.isLocking : {β : Type} → Op β → Bool
  | _, .lock _ | _, .unlock _ => true
  | _, _ => false

section

variable {native : Endian} {α β : Type} {connection write : Bool}

theorem locking_monotone : Transformer.Monotone locking := by
  intro β operation first second weaker grip holds
  cases operation
  case note event => cases event <;> exact weaker _ _ holds
  case lock mutex => exact ⟨holds.1, weaker _ _ holds.2⟩
  case unlock mutex => exact ⟨holds.1, weaker _ _ holds.2⟩
  case endCallback callback => exact fun reentered outcome => weaker _ _ (holds reentered outcome)
  case loadState => exact fun state found => weaker _ _ (holds state found)
  case loadInCall => exact fun inCall found => weaker _ _ (holds inCall found)
  case isOpen => exact fun isOpen found => weaker _ _ (holds isOpen found)
  all_goals exact fun answer => weaker _ _ (holds answer)

theorem locking_steady {operation : Op β} (apart : operation.isLocking = false) :
    Steady locking (fun grip => grip.connection = connection ∧ grip.write = write) operation := by
  intro post grip held holds
  have same (answer : β) : post answer grip := holds answer grip held
  cases operation <;> try cases apart
  case note event => cases event <;> first | exact same () | exact holds () _ held
  case loadState => exact fun state _ => same state
  case loadInCall => exact fun inCall _ => same inCall
  case isOpen => exact fun isOpen _ => same isOpen
  case endCallback callback => exact fun reentered outcome => holds outcome _ held
  all_goals exact same

theorem Even.locked {scope : Method α} (even : Even true write scope) :
    Even false write (locked .connectionMutex scope) := by
  rintro post ⟨_, _, reentered⟩ ⟨rfl, rfl⟩ holds
  simp only [Client.locked, wp_bind, wp_perform, wp_attempt, wp_ofOutcome, andThen_ok, locking,
    Grip.holds, Grip.take, true_and]
  exact even _ _ ⟨rfl, rfl⟩ fun outcome after held => ⟨held.1, holds _ _ ⟨rfl, held.2⟩⟩

theorem Even.writing {scope : Method α} (even : Even connection true scope) :
    Even connection false (Client.locked .writeMutex scope) := by
  rintro post ⟨_, _, reentered⟩ ⟨rfl, rfl⟩ holds
  simp only [Client.locked, wp_bind, wp_perform, wp_attempt, wp_ofOutcome, andThen_ok, locking,
    Grip.holds, Grip.take, true_and]
  exact even _ _ ⟨rfl, rfl⟩ fun outcome after held => ⟨held.2, holds _ _ ⟨held.1, rfl⟩⟩

/-- What issues neither lock nor unlock. -/
theorem Even.of_issues {program : Method α}
    (issues : program.Issues fun _ operation => operation.isLocking = false) :
    Even connection write program := issues.stays fun _ => locking_steady

/-! ### Methods on a thread outside of `writeMutex_` -/

theorem report_even (callback : Callback) : Even connection write (report callback) :=
  .of_issues (by simp [Issues, report, invoke, wp_ite, issuing, Op.isLocking])

theorem transmitRaw_even (type : MessageType) (flag : UInt16) (payload : Bytes) :
    Even connection false (transmitRaw native type flag payload) := by
  refine .bind (.perform (locking_steady rfl)) fun _ => Even.writing (Even.of_issues ?_)
  simp [Issues, report, invoke, wp_ite, issuing, Op.isLocking]

theorem sendClose_even : Even connection false (sendClose native) := by
  refine .bind (.perform (locking_steady rfl)) fun isOpen => ?_
  split
  · exact .tryCatch (transmitRaw_even _ _ _) fun _ => .ret ()
  · exact .ret ()

/-- What `Disconnect` does after it has sent CLOSE. -/
theorem shutDown_even : Even connection write (do
    stopKeepAliveTimer
    perform (.cancelTimer .connectTimeoutTimer)
    perform .cancelResolve
    perform .closeSocket
    perform .stop
    if ← perform (.hasHook .onDisconnected) then
      let lastError ← perform .readLastError
      invoke (.onDisconnected lastError)) :=
  .of_issues (by simp [Issues, stopKeepAliveTimer, invoke, wp_ite, issuing, Op.isLocking])

theorem joinThread_even : Even connection write joinThread :=
  .of_issues (by simp [Issues, joinThread, wp_ite, issuing, Op.isLocking])

theorem disconnect_even : Even connection false (disconnect native) := by
  have ends : Even connection false (endSession native) :=
    .bind (.perform (locking_steady rfl)) fun _ => .bind sendClose_even fun _ => shutDown_even
  refine .bind (.perform (locking_steady rfl)) fun expected => ?_
  split
  · exact .bind ends fun _ => joinThread_even
  · exact joinThread_even

theorem Op.isPlain.apart {operation : Op β} (plain : operation.isPlain = true) :
    operation.isLocking = false := by
  cases operation <;> first | rfl | cases plain

theorem Framed.even {program : Method α} (framed : Framed native connection program) :
    Even connection false program :=
  framed.stays (fun connection (grip : Grip) => grip.connection = connection ∧ grip.write = false)
    (fun plain => locking_steady (Op.isPlain.apart plain)) (fun _ => locking_steady rfl)
    (fun _ => transmitRaw_even _) (fun _ => disconnect_even)
    (fun _ => .bind (.perform (locking_steady rfl)) fun _ =>
      .bind (.bind disconnect_even fun _ => .ret _) fun _ =>
      .bind (.perform (locking_steady rfl)) fun _ => .ret _) Even.locked

/-! ### Public methods -/

theorem connect_even (host : String) (port : UInt16) (password : Bytes) (timeoutMs : UInt32) :
    Even false write (connect host port password timeoutMs) := by
  have starts : Even true write (startUp host port timeoutMs) :=
    .of_issues (by simp [Issues, startUp, issuing, Op.isLocking, andThen_trivial])
  have plain {β : Type} {operation : Op β} (apart : operation.isLocking = false) :
      Even true write (perform operation) := .perform (locking_steady apart)
  refine .locked (.bind (plain rfl) fun state => ?_)
  split
  · exact .ret _
  · refine .bind (plain rfl) fun _ => .bind (plain rfl) fun _ => .bind (plain rfl) fun _ =>
      .bind (plain rfl) fun _ => .bind (plain rfl) fun _ => .bind (plain rfl) fun _ =>
      .bind (.attempt starts) fun outcome => ?_
    split
    · exact .ret _
    · exact .bind (plain rfl) fun _ => .bind (report_even _) fun _ => .ret _

theorem publicCall_outside (made : PublicCall) (free : made.connects = true → connection = false) :
    Even connection false (publicCall native made) := by
  cases connects : made.connects with
  | false => exact (Framed.publicCall connects).even
  | true =>
    cases made <;> try cases connects
    obtain rfl := free rfl
    exact .bind (.perform (locking_steady rfl)) fun _ =>
      .bind (.bind (connect_even _ _ _ _) fun _ => .ret _) fun _ =>
      .bind (.perform (locking_steady rfl)) fun _ => .ret _

/-! A call from a callback inside `writeMutex_` is stopped by one of its tests. -/

/-- The program does what is left to do of a call that was made inside `writeMutex_`. -/
abbrev Halted (connection : Bool) (made : PublicCall) {α : Type} (program : Method α) : Prop :=
  program.Leads locking (· = ⟨connection, true, some made⟩)
    fun grip => grip.connection = connection ∧ grip.write = true

theorem Halted.goes_on {made : PublicCall} {program : Method α} {rest : α → Method β}
    (first : Halted connection made program) (next : ∀ value, Even connection true (rest value)) :
    Halted connection made (program >>= rest) := first.bind next fun _ => id

theorem Even.halted {made : PublicCall} {program : Method α} (even : Even connection true program) :
    Halted connection made program := by
  rintro post _ rfl holds
  exact even post _ ⟨rfl, rfl⟩ holds

theorem whenConnected_halted {made : PublicCall} (sends : made.sendsConnected = true)
    (body : Method Unit) : Halted connection made (whenConnected body) := by
  rintro post _ rfl holds
  simp only [whenConnected, wp_bind, wp_perform, andThen_ok, locking, wp_ite]
  intro state found
  rw [if_pos (found sends)]
  exact holds _ _ ⟨rfl, rfl⟩

theorem whenInCall_halted (made : PublicCall) (body : Method Unit) :
    Halted connection made (whenInCall body) := by
  rintro post _ rfl holds
  simp only [whenInCall, whenConnected, wp_bind, wp_perform, andThen_ok, locking, wp_ite]
  intro state _
  split
  · exact holds _ _ ⟨rfl, rfl⟩
  · intro inCall found
    rw [found (by simp)]
    exact holds _ _ ⟨rfl, rfl⟩

theorem sendClose_halted (made : PublicCall) : Halted connection made (sendClose native) := by
  rintro post _ rfl holds
  simp only [sendClose, wp_bind, wp_perform, andThen_ok, locking, wp_ite]
  intro isOpen found
  rw [found (by simp)]
  exact holds _ _ ⟨rfl, rfl⟩

/-- Nothing is known or decided at the load and the store of `state_`. -/
theorem disconnect_halted (made : PublicCall) : Halted connection made (disconnect native) := by
  have ends : Halted connection made (endSession native) := by
    rintro post _ rfl holds answer
    exact (sendClose_halted made).goes_on (fun _ => shutDown_even) post _ rfl holds
  rintro post _ rfl holds
  simp only [disconnect, wp_bind, wp_perform, andThen_ok, locking]
  intro expected _
  split
  · exact ends.goes_on (fun _ => joinThread_even) post _ rfl holds
  · exact joinThread_even post _ ⟨rfl, rfl⟩ holds

theorem method_halted (made : PublicCall) (free : made.connects = true → connection = false) :
    Halted connection made (method native made) := by
  cases made with
  | connect host port password timeoutMs =>
    obtain rfl := free rfl
    exact (connect_even _ _ _ _).halted.goes_on fun _ => .ret _
  | disconnect => exact (disconnect_halted _).goes_on fun _ => .ret _
  | subscribe talkgroup => exact (whenConnected_halted rfl _).goes_on fun _ => .ret _
  | unsubscribe talkgroup => exact (whenConnected_halted rfl _).goes_on fun _ => .ret _
  | startVoiceCall sourceId destinationId isGroup =>
    exact (whenConnected_halted rfl _).goes_on fun _ => .ret _
  | sendAudioFrame ambeData => exact (whenInCall_halted _ _).goes_on fun _ => .ret _
  | endVoiceCall => exact (whenInCall_halted _ _).goes_on fun _ => .ret _
  | sendTextMessage destinationId isGroup text =>
    exact (whenConnected_halted rfl _).goes_on fun _ => .ret _
  | sendLocationReport nmeaSentence => exact (whenConnected_halted rfl _).goes_on fun _ => .ret _

/-- A public call takes a mutex only if the thread does not hold it. -/
theorem publicCall_even (made : PublicCall) (free : made.connects = true → connection = false) :
    Even connection write (publicCall native made) := by
  cases write with
  | false => exact publicCall_outside made free
  | true =>
    rintro post ⟨holds, _, reentered⟩ ⟨rfl, rfl⟩ kept
    exact (method_halted made free).goes_on (fun result =>
      .bind (.perform (locking_steady rfl)) fun _ => .ret result) post _ rfl kept

end

/-! ### Every interleaving -/

structure Gripped (c : Client) (seen : Reentries) (grips : Thread → Grip) : Prop where
  holds : ∀ thread mutex, (grips thread).holds mutex = true ↔ c.owner mutex = some thread
  reentered : ∀ thread, (grips thread).reentered = seen thread
  inside : ∀ thread, seen thread ≠ none → (grips thread).write = true

def gripping : Discipline Op Client Reentries Thread Grip where
  idle := ⟨false, false, none⟩
  protocol := fun _ => locking
  ended := fun _ finish grip =>
    (∀ c, (finish c).owner = c.owner) ∧ grip.connection = false ∧ grip.write = false
  scribe := reentries
  joint := Gripped

section

variable {native : Endian} {policy : Policy} {thread : Thread} {c after : Client} {seen : Reentries}
  {grips : Thread → Grip} {grip : Grip}

theorem step_owner {β : Type} {operation : Op β} {answer : Answer} {value : β}
    (apart : operation.isLocking = false)
    (stepped : step policy thread operation answer c = some (value, after)) :
    after.owner = c.owner := by
  funext mutex
  cases operation <;> simp only [step] at stepped <;> (repeat' split at stepped) <;>
    cases stepped <;> first | (cases mutex <;> rfl) | cases apart

namespace Gripped

theorem same (gripped : Gripped c seen grips) (owner : after.owner = c.owner) :
    Gripped after seen grips where
  holds thread mutex := by
    rw [owner]
    exact gripped.holds thread mutex
  reentered := gripped.reentered
  inside := gripped.inside

/-- One thread moves and takes what it gains from nobody. -/
theorem moved (gripped : Gripped c seen grips) {made : Option PublicCall}
    (holds : ∀ mutex, grip.holds mutex = true ↔ after.owner mutex = some thread)
    (others : ∀ mutex other, other ≠ thread →
      (c.owner mutex = some other ↔ after.owner mutex = some other))
    (reentered : grip.reentered = made) (inside : made ≠ none → grip.write = true) :
    Gripped after (Function.update seen thread made) (Function.update grips thread grip) where
  holds := (Function.forall_update_iff grips fun thread grip =>
      ∀ mutex, grip.holds mutex = true ↔ after.owner mutex = some thread).mpr
    ⟨holds, fun other away mutex =>
      (gripped.holds other mutex).trans (others mutex other away)⟩
  reentered other := by
    by_cases same : other = thread
    · subst same
      rw [Function.update_self, Function.update_self]
      exact reentered
    · rw [Function.update_of_ne same, Function.update_of_ne same]
      exact gripped.reentered other
  inside other := by
    by_cases same : other = thread
    · subst same
      rw [Function.update_self, Function.update_self]
      exact inside
    · rw [Function.update_of_ne same, Function.update_of_ne same]
      exact gripped.inside other

theorem outside (gripped : Gripped c seen grips) (write : (grips thread).write = false) :
    seen thread = none := by
  by_contra other
  rw [gripped.inside thread other] at write
  cases write

theorem locks (gripped : Gripped c seen grips) {mutex : Mutex} (free : c.owner mutex = none)
    (holds : (grips thread).holds mutex = false) :
    Gripped (c.setOwner (some thread) mutex) seen
      (Function.update grips thread ((grips thread).take true mutex)) := by
  have here := gripped.holds thread
  have stays : Function.update seen thread (seen thread) = seen := Function.update_eq_self _ _
  rw [← stays]
  cases mutex with
  | connectionMutex =>
    refine gripped.moved (fun mutex => ?_) (fun mutex other away => ?_) (gripped.reentered thread)
      (gripped.inside thread)
    · cases mutex
      · simp [Grip.holds, Grip.take]
      · exact here .writeMutex
    · cases mutex
      · change c.connectionMutex = none at free
        simp [free, Ne.symm away]
      · rfl
  | writeMutex =>
    refine gripped.moved (fun mutex => ?_) (fun mutex other away => ?_)
      (gripped.outside holds).symm (fun _ => rfl)
    · cases mutex
      · exact here .connectionMutex
      · simp [Grip.holds, Grip.take]
    · cases mutex
      · rfl
      · change c.writeMutex = none at free
        simp [free, Ne.symm away]

theorem unlocks (gripped : Gripped c seen grips) {mutex : Mutex}
    (holds : (grips thread).holds mutex = true) :
    Gripped (c.setOwner none mutex) (reentries thread _ (.unlock mutex) c seen)
      (Function.update grips thread ((grips thread).take false mutex)) := by
  have here := gripped.holds thread
  have owner := (here mutex).mp holds
  cases mutex with
  | connectionMutex =>
    have stays : Function.update seen thread (seen thread) = seen := Function.update_eq_self _ _
    change Gripped _ seen _
    rw [← stays]
    refine gripped.moved (fun mutex => ?_) (fun mutex other away => ?_) (gripped.reentered thread)
      (gripped.inside thread)
    · cases mutex
      · simp [Grip.holds, Grip.take]
      · exact here .writeMutex
    · cases mutex
      · change c.connectionMutex = some thread at owner
        simp [owner, Ne.symm away]
      · rfl
  | writeMutex =>
    refine gripped.moved (fun mutex => ?_) (fun mutex other away => ?_) rfl
      (fun other => absurd rfl other)
    · cases mutex
      · exact here .connectionMutex
      · simp [Grip.holds, Grip.take]
    · cases mutex
      · rfl
      · change c.writeMutex = some thread at owner
        simp [owner, Ne.symm away]

theorem acts (gripped : Gripped c seen grips) {β : Type} {operation : Op β} {answer : Answer}
    {value : β} (stepped : step policy thread operation answer c = some (value, after))
    (restrained : ∀ made, seen thread = some made → passes made operation c = false)
    {post : β → Grip → Prop} (holds : locking β operation post (grips thread)) :
    ∃ grip, post value grip ∧ Gripped after (reentries thread β operation c seen)
      (Function.update grips thread grip) := by
  have stays (owner : after.owner = c.owner) :
      Gripped after seen (Function.update grips thread (grips thread)) := by
    rw [Function.update_eq_self]
    exact gripped.same owner
  have here := gripped.reentered thread
  by_cases locks : operation.isLocking = true
  · cases operation
    case lock mutex =>
      simp only [step] at stepped
      split at stepped
      · next free =>
        cases stepped
        exact ⟨_, holds.2, gripped.locks free holds.1⟩
      · cases stepped
    case unlock mutex =>
      cases stepped
      exact ⟨_, holds.2, gripped.unlocks holds.1⟩
    all_goals cases locks
  · have owner := step_owner (by simpa using locks) stepped
    cases operation <;> try exact ⟨_, holds value, stays owner⟩
    case note event =>
      cases event <;> try exact ⟨_, holds, stays owner⟩
      case called made =>
        have inside : (grips thread).write = decide (c.writeMutex = some thread) := by
          rw [Bool.eq_iff_iff, decide_eq_true_eq]
          exact gripped.holds thread .writeMutex
        have same := gripped.same owner
        refine ⟨_, holds, same.moved (fun mutex => ?_) (fun _ _ _ => ?_) ?_ fun noted => ?_⟩
        · cases mutex
          · exact same.holds thread .connectionMutex
          · exact same.holds thread .writeMutex
        · rw [owner]
        · simp [inside]
        · by_contra outside
          rw [inside] at outside
          simp [of_decide_eq_false (by simpa using outside)] at noted
    case loadState =>
      cases stepped
      refine ⟨_, holds _ fun known => ?_, stays rfl⟩
      obtain ⟨made, reentered, sends⟩ := (Option.any_eq_true _ _).mp known
      have ended := restrained made (here.symm.trans reentered)
      simpa [passes, sends] using ended
    case loadInCall =>
      cases stepped
      refine ⟨_, holds _ fun known => ?_, stays rfl⟩
      obtain ⟨made, reentered⟩ := Option.ne_none_iff_exists'.mp known
      exact restrained made (here.symm.trans reentered)
    case isOpen =>
      cases stepped
      refine ⟨_, holds _ fun known => ?_, stays rfl⟩
      obtain ⟨made, reentered⟩ := Option.ne_none_iff_exists'.mp known
      exact restrained made (here.symm.trans reentered)
    case endCallback callback =>
      exact ⟨_, holds (grips thread).reentered value, stays owner⟩
    case lock mutex => exact absurd rfl locks
    case unlock mutex => exact absurd rfl locks

end Gripped

/-- A job starts and ends outside of both mutexes. -/
theorem Even.keeps {α : Type} {program : Method α} (even : Even false false program)
    {rest : Outcome α → Client → Client} (owner : ∀ outcome c, (rest outcome c).owner = c.owner) :
    gripping.Keeps thread (program.settle fun outcome => .ret (rest outcome)) gripping.idle := by
  unfold Discipline.Keeps
  rw [wp_settle]
  exact even _ _ ⟨rfl, rfl⟩ fun outcome grip held => ⟨owner outcome, held⟩

end

theorem threads_gripping (rules : Rules) : Respects (threads rules) gripping Restrained where
  monotone _ := locking_monotone
  begins {config seen grips thread job after task} guided idle begun _ := by
    have resting := guided.resting thread idle
    have stays : Function.update grips thread gripping.idle = grips := by
      rw [← resting, Function.update_eq_self]
    refine ⟨gripping.idle, ?_⟩
    rw [stays]
    cases begins_cases begun with
    | call => exact ⟨(publicCall_even _ fun _ => rfl).keeps fun _ _ => rfl, guided.joint⟩
    | connectSync =>
      refine ⟨(publicCall_even _ fun _ => rfl).keeps fun outcome c => ?_, guided.joint⟩
      unfold entering
      split <;> rfl
    | awaits =>
      refine ⟨(@Framed.awaitConnection rules.native).even.keeps fun outcome c => ?_, guided.joint⟩
      cases outcome <;> rfl
    | handles =>
      exact ⟨(Framed.handler _ _).even.keeps fun _ _ => rfl, guided.joint.same rfl⟩
  acts {config seen grips thread job β operation next answer value after} guided works stepped may
      post holds := by
    refine guided.joint.acts stepped (fun made entered => ?_) holds
    simpa only [Restrained, works, entered] using may
  nests {config seen grips thread job β operation next made} guided works allowed may post holds := by
    cases operation <;> try exact allowed.elim
    case endCallback callback =>
      have free : made.connects = true → (grips thread).connection = false := by
        intro connects
        by_contra held
        have owner := (guided.joint.holds thread .connectionMutex).mp (Bool.of_not_eq_false held)
        exact may connects owner
      have even : Even (grips thread).connection (grips thread).write ((threads rules).body made) :=
        .bind (publicCall_even made free) fun _ => .ret ()
      refine even _ _ ⟨rfl, rfl⟩ fun outcome after held reentered answer => ?_
      obtain ⟨connection, write⟩ := held
      have same : { after with reentered := reentered } =
          { grips thread with reentered := reentered } := by rw [connection, write]
      rw [same]
      exact holds reentered answer
  ends {config seen grips thread job finish} guided works _ ended := by
    obtain ⟨owner, connection, write⟩ := ended
    have here := guided.joint.reentered thread
    rw [guided.joint.outside write] at here
    have same : gripping.idle = grips thread := by
      rcases held : grips thread with ⟨holdsConnection, holdsWrite, reentered⟩
      rw [held] at connection write here
      cases connection
      cases write
      cases here
      rfl
    rw [same, Function.update_eq_self]
    exact guided.joint.same (owner _)
  happens {config seen grips event after} guided happened _ := by
    rcases happens_cases happened with ⟨_, rfl⟩ | ⟨_, _, _, rfl⟩ | ⟨_, _, rfl⟩ <;>
      exact guided.joint.same rfl

theorem Gripped.start (dmrId : UInt32) (description : Bytes) (hooks : Hook → Bool) :
    Gripped (fresh dmrId description hooks) (fun _ => none) fun _ => ⟨false, false, none⟩ where
  holds thread mutex := by
    cases mutex <;> exact ⟨fun held => (by cases held), fun held => (by cases held)⟩
  reentered thread := rfl
  inside thread other := absurd rfl other

/-- Whatever callbacks call otherwise, and however the threads interleave, no thread comes to lock a
mutex that it holds, as long as no callback inside `connectionMutex_` calls `Connect` and what the
callbacks inside `writeMutex_` call is stopped before `TransmitRaw`. -/
theorem no_self_deadlock {rules : Rules} {dmrId : UInt32} {description : Bytes}
    {hooks : Hook → Bool} {last : Config Op Client Thread Job} {turns : List Turn}
    (run : Effects.Run (threads rules).Step (unworked (fresh dmrId description hooks)) turns last)
    (restrained : Always (fun earlier => Restrained (history reentries (fun _ => none) earlier))
      turns) (thread : Thread) : ¬ SelfLocks last thread := by
  have begun := @Guided.start Op Client Thread Job _ _ gripping (fun _ => none) _
    (Gripped.start dmrId description hooks)
  obtain ⟨grips, guided⟩ := (threads_gripping rules).run begun run restrained
  intro locks
  unfold SelfLocks at locks
  split at locks
  · next works =>
    have keeps := guided.working _ _ _ works
    have free := keeps.1
    rw [(guided.joint.holds thread _).mpr locks] at free
    cases free
  · exact locks

/-- Callbacks that report an error may connect again or disconnect. -/
def reconnecting : Rules :=
  { sampleRules with nests := fun callback made =>
      callback.hook = .onError ∧ (made.connects = true ∨ made = .disconnect) }

instance : ∀ (β : Type) (operation : Op β) (made : PublicCall),
    Decidable ((threads reconnecting).nests operation made) := fun _ operation made => by
  cases operation
  case endCallback callback =>
    exact inferInstanceAs (Decidable
      (callback.hook = .onError ∧ (made.connects = true ∨ made = .disconnect)))
  all_goals exact isFalse id

/-- The handshake times out, and from the report of that the application makes a call. -/
def reactTurns (made : PublicCall) (count : Nat) :
    List (Action Answer Thread Job PublicCall Happening) :=
  throughout (.app 0) (.call (.connect "master" 54006 [0x70] 1000)) 19 ++
    [.happens (.completes 0 {}), .begins .io (.handles 0)] ++
    List.replicate 5 (.acts .io {}) ++ .nests .io made :: List.replicate count (.acts .io {})

/-- `Connect` from the report of a timeout, which is made inside `connectionMutex_`. -/
theorem self_deadlock_reconnect : ∃ (rules : Rules) (turns : List Turn)
    (last : Config Op Client Thread Job),
    Effects.Run (threads rules).Step (unworked attentive) turns last ∧ SelfLocks last .io := by
  obtain ⟨turns, last, run, locks⟩ := threads_checked reconnecting (unworked attentive)
    (reactTurns (.connect "master" 54006 [0x70] 1000) 1)
    (fun _ last => SelfLocks last .io) (by decide +kernel)
  exact ⟨reconnecting, turns, last, run, of_decide_eq_true locks⟩

/-- `Disconnect` from the same report does no harm. -/
theorem no_self_deadlock_disconnect : ∃ (turns : List Turn) (last : Config Op Client Thread Job),
    Effects.Run (threads reconnecting).Step (unworked attentive) turns last ∧
      last.shared.state = .disconnected ∧ ¬ SelfLocks last .io := by
  obtain ⟨turns, last, run, checked⟩ := threads_checked reconnecting (unworked attentive)
    (reactTurns .disconnect 22 ++ [.ends .io])
    (fun turns last => last.shared.state = .disconnected ∧
      Along reentries Restrained (fun _ => none) turns) (by decide +kernel)
  obtain ⟨ended, restrained⟩ := of_decide_eq_true checked
  exact ⟨turns, last, run, ended, no_self_deadlock run restrained.always .io⟩

end OpenDTP.Client
