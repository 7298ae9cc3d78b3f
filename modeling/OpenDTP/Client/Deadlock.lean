import OpenDTP.Client.Locking

/-! Threads that wait for one another. The background thread takes `writeMutex_` inside
`connectionMutex_`, and `Disconnect` waits for the background thread. Where callbacks keep to that
order, a chain of waiting threads always ends in one that can go on. -/

namespace OpenDTP.Client
open Common Protocol Effects Effects.Program

/-- The other thread owns the mutex that the thread is about to lock, or it is the background thread
inside a handler, which the thread joins. -/
inductive Awaits (config : Config Op Client Thread Job) (thread : Thread) : Thread → Prop where
  | lock {job : Job} {mutex : Mutex} {next : Unit → Task Op Client} {other : Thread}
      (works : config.working thread = some (job, .call (.lock mutex) next))
      (owned : config.shared.owner mutex = some other) : Awaits config thread other
  | join {job : Job} {next : Unit → Task Op Client}
      (works : config.working thread = some (job, .call .join next))
      (handles : config.shared.ioThread = .handling) : Awaits config thread .io

/-- A callback calls `Connect` only outside of `writeMutex_`, and on a thread of the application it
calls `Disconnect` only outside of both mutexes. -/
def inOrder (turn : Turn) : Bool :=
  match turn.label with
  | .nests thread made =>
    (!made.connects || turn.before.shared.writeMutex != some thread) &&
      (made != .disconnect || thread == .io ||
        (turn.before.shared.connectionMutex != some thread &&
          turn.before.shared.writeMutex != some thread))
  | _ => true

/-- How many scopes of each mutex a thread is in. -/
structure Depth where
  connection : Nat
  write : Nat

def Depth.held (depth : Depth) : Mutex → Nat
  | .connectionMutex => depth.connection
  | .writeMutex => depth.write

def Depth.entered (depth : Depth) : Mutex → Depth
  | .connectionMutex => { depth with connection := depth.connection + 1 }
  | .writeMutex => { depth with write := depth.write + 1 }

def Depth.left (depth : Depth) : Mutex → Depth
  | .connectionMutex => { depth with connection := depth.connection - 1 }
  | .writeMutex => { depth with write := depth.write - 1 }

@[simp] theorem Depth.left_entered (depth : Depth) (mutex : Mutex) :
    (depth.entered mutex).left mutex = depth := by
  cases mutex <;> rfl

@[simp] theorem Depth.held_entered (depth : Depth) (mutex : Mutex) :
    (depth.entered mutex).held mutex = depth.held mutex + 1 := by
  cases mutex <;> rfl

@[simp] theorem Depth.held_left (depth : Depth) (mutex : Mutex) :
    (depth.left mutex).held mutex = depth.held mutex - 1 := by
  cases mutex <;> rfl

theorem Depth.held_entered_other (depth : Depth) {mutex asked : Mutex} (other : asked ≠ mutex) :
    (depth.entered mutex).held asked = depth.held asked := by
  cases mutex <;> cases asked <;> first | rfl | exact absurd rfl other

theorem Depth.held_left_other (depth : Depth) {mutex asked : Mutex} (other : asked ≠ mutex) :
    (depth.left mutex).held asked = depth.held asked := by
  cases mutex <;> cases asked <;> first | rfl | exact absurd rfl other

theorem owner_setOwner (c : Client) (owner : Option Thread) (mutex : Mutex) :
    (c.setOwner owner mutex).owner mutex = owner := by
  cases mutex <;> rfl

theorem owner_setOwner_other (c : Client) (owner : Option Thread) {mutex asked : Mutex}
    (other : asked ≠ mutex) : (c.setOwner owner mutex).owner asked = c.owner asked := by
  cases mutex <;> cases asked <;> first | rfl | exact absurd rfl other

/-- `connectionMutex_` is locked outside of `writeMutex_`, and the background thread is joined
outside of both, by another thread. -/
@[simp] def ordering (thread : Thread) : Transformer Op Depth
  | _, .lock mutex, post, depth =>
    (mutex = .connectionMutex → depth.write = 0) ∧ post () (depth.entered mutex)
  | _, .unlock mutex, post, depth => 0 < depth.held mutex ∧ post () (depth.left mutex)
  | _, .join, post, depth => thread ≠ .io ∧ depth = ⟨0, 0⟩ ∧ post () depth
  | _, .onIoThread, post, depth => ∀ answer, (thread = .io → answer = true) → post answer depth
  | _, _, post, depth => ∀ answer, post answer depth

abbrev Ranked (thread : Thread) (depth : Depth) {α : Type} (program : Method α) : Prop :=
  program.Stays (ordering thread) (· = depth)

/-- The operations by which a thread can come to wait for another, and the end of a scope. -/
def Op.waits : {β : Type} → Op β → Bool
  | _, .lock _ | _, .unlock _ | _, .join => true
  | _, _ => false

section

variable {native : Endian} {α β : Type} {thread : Thread} {depth : Depth}

theorem ordering_monotone : Transformer.Monotone (ordering thread) := by
  intro β operation first second weaker depth holds
  cases operation
  case lock mutex => exact ⟨holds.1, weaker _ _ holds.2⟩
  case unlock mutex => exact ⟨holds.1, weaker _ _ holds.2⟩
  case join => exact ⟨holds.1, holds.2.1, weaker _ _ holds.2.2⟩
  case onIoThread => exact fun answer own => weaker _ _ (holds answer own)
  all_goals exact fun answer => weaker _ _ (holds answer)

theorem ordering_steady {operation : Op β} (apart : operation.waits = false) :
    Steady (ordering thread) (· = depth) operation := by
  intro post here same holds
  have goes (answer : β) : post answer here := holds answer here same
  cases operation <;> try cases apart
  case onIoThread => exact fun answer _ => goes answer
  all_goals exact goes

theorem Ranked.of_issues {program : Method α}
    (issues : program.Issues fun _ operation => operation.waits = false) :
    Ranked thread depth program := issues.stays fun _ => ordering_steady

theorem Ranked.plain {operation : Op β} (apart : operation.waits = false) :
    Ranked thread depth (perform operation) := .perform (ordering_steady apart)

theorem Ranked.locked {scope : Method α} {mutex : Mutex}
    (below : mutex = .connectionMutex → depth.write = 0)
    (ranked : Ranked thread (depth.entered mutex) scope) :
    Ranked thread depth (locked mutex scope) := by
  rintro post _ rfl holds
  simp only [Client.locked, wp_bind, wp_perform, wp_attempt, wp_ofOutcome, andThen_ok, ordering]
  refine ⟨below, ranked _ _ rfl fun outcome after same => ?_⟩
  subst same
  rw [Depth.held_entered, Depth.left_entered]
  exact ⟨Nat.succ_pos _, holds _ _ rfl⟩

theorem transmitRaw_ranked (type : MessageType) (flag : UInt16) (payload : Bytes) :
    Ranked thread depth (transmitRaw native type flag payload) := by
  have writes : Mutex.writeMutex = .connectionMutex → depth.write = 0 := nofun
  refine .bind (Ranked.plain rfl) fun _ => Ranked.locked writes (Ranked.of_issues ?_)
  simp [Issues, report, invoke, wp_ite, issuing, Op.waits]

/-- The thread is joined only where nobody has to wait for the joining one. -/
theorem joinThread_ranked (free : thread = .io ∨ depth = ⟨0, 0⟩) :
    Ranked thread depth joinThread := by
  rintro post _ rfl holds
  simp only [joinThread, wp_bind, wp_perform, andThen_ok, ordering]
  intro joinable
  split
  · simp only [wp_bind, wp_perform, andThen_ok, ordering]
    intro own known
    split
    · next other =>
      have away : thread ≠ .io := by
        intro same
        rw [known same] at other
        cases other
      exact ⟨away, free.resolve_left away, holds _ _ rfl⟩
    · exact holds _ _ rfl
  · exact holds _ _ rfl

theorem disconnect_ranked (free : thread = .io ∨ depth = ⟨0, 0⟩) :
    Ranked thread depth (disconnect native) := by
  have closes : Ranked thread depth (sendClose native) := by
    refine .bind (Ranked.plain rfl) fun isOpen => ?_
    split
    · exact .tryCatch (transmitRaw_ranked _ _ _) fun _ => .ret ()
    · exact .ret ()
  have ends : Ranked thread depth (endSession native) := by
    refine .bind (Ranked.plain rfl) fun _ => .bind closes fun _ => Ranked.of_issues ?_
    simp [Issues, stopKeepAliveTimer, invoke, wp_ite, issuing, Op.waits]
  refine .bind (Ranked.plain rfl) fun expected => ?_
  split
  · exact .bind ends fun _ => joinThread_ranked free
  · exact joinThread_ranked free

/-- The handlers run on the background thread. -/
theorem Framed.ranked {inside : Bool} {program : Method α} (framed : Framed native inside program)
    {depth : Depth} (outside : depth.write = 0) : Ranked .io depth program := by
  induction framed generalizing depth with
  | ret value => exact .ret value
  | throw what => exact .throw what
  | @perform _ _ operation plain =>
    refine Ranked.plain ?_
    cases operation <;> first | rfl | cases plain
  | openSocket isV6 => exact Ranked.plain rfl
  | transmitRaw _ flag payload => exact transmitRaw_ranked _ _ _
  | disconnect => exact disconnect_ranked (.inl rfl)
  | departs =>
    exact .bind (Ranked.plain rfl) fun _ =>
      .bind (.bind (disconnect_ranked (.inl rfl)) fun _ => .ret _) fun _ =>
      .bind (Ranked.plain rfl) fun _ => .ret _
  | bind _ _ firstIh nextIh => exact .bind (firstIh outside) fun value => nextIh value outside
  | attempt _ ih => exact .attempt (ih outside)
  | locked _ ih => exact Ranked.locked (fun _ => outside) (ih outside)

theorem awaitConnection_ranked (outside : depth.write = 0) :
    Ranked thread depth awaitConnection := by
  refine Ranked.locked (fun _ => outside) (Ranked.of_issues ?_)
  simp [Issues, settled, wp_ite, issuing, Op.waits]

theorem connect_ranked (outside : depth.write = 0) (host : String) (port : UInt16)
    (password : Bytes) (timeoutMs : UInt32) :
    Ranked thread depth (connect host port password timeoutMs) := by
  refine Ranked.locked (fun _ => outside) (.bind (Ranked.plain rfl) fun state => ?_)
  split
  · exact .ret _
  · refine .bind (Ranked.plain rfl) fun _ => .bind (Ranked.plain rfl) fun _ =>
      .bind (Ranked.plain rfl) fun _ => .bind (Ranked.plain rfl) fun _ =>
      .bind (Ranked.plain rfl) fun _ => .bind (Ranked.plain rfl) fun _ =>
      .bind (.attempt (Ranked.of_issues ?_)) fun outcome => ?_
    · simp [Issues, startUp, issuing, Op.waits, andThen_trivial]
    · split
      · exact .ret _
      · refine .bind (Ranked.plain rfl) fun _ => .bind (Ranked.of_issues ?_) fun _ => .ret _
        simp [Issues, report, invoke, wp_ite, issuing, Op.waits]

theorem whenConnected_ranked {body : Method Unit} (ranked : Ranked thread depth body) :
    Ranked thread depth (whenConnected body) := by
  refine .bind (Ranked.plain rfl) fun state => ?_
  split
  · exact .ret ()
  · exact ranked

theorem whenInCall_ranked {body : Method Unit} (ranked : Ranked thread depth body) :
    Ranked thread depth (whenInCall body) := by
  refine whenConnected_ranked (.bind (Ranked.plain rfl) fun inCall => ?_)
  split
  · exact .ret ()
  · exact ranked

theorem method_ranked (made : PublicCall) (connects : made.connects = true → depth.write = 0)
    (disconnects : made = .disconnect → thread = .io ∨ depth = ⟨0, 0⟩) :
    Ranked thread depth (method native made) := by
  have sends (type : MessageType) (flag : UInt16) (payload : Bytes) :
      Ranked thread depth (transmitRaw native type flag payload) := transmitRaw_ranked _ _ _
  cases made with
  | connect => exact .bind (connect_ranked (connects rfl) _ _ _ _) fun _ => .ret _
  | disconnect => exact .bind (disconnect_ranked (disconnects rfl)) fun _ => .ret _
  | subscribe talkgroup => exact .bind (whenConnected_ranked (sends _ _ _)) fun _ => .ret _
  | unsubscribe talkgroup => exact .bind (whenConnected_ranked (sends _ _ _)) fun _ => .ret _
  | startVoiceCall sourceId destinationId isGroup =>
    exact .bind (whenConnected_ranked (.bind (Ranked.plain rfl) fun _ =>
      .bind (Ranked.plain rfl) fun _ => .bind (sends _ _ _) fun _ => .bind (sends _ _ _) fun _ =>
      sends _ _ _)) fun _ => .ret _
  | sendAudioFrame ambeData => exact .bind (whenInCall_ranked (sends _ _ _)) fun _ => .ret _
  | endVoiceCall =>
    exact .bind (whenInCall_ranked (.bind (sends _ _ _) fun _ => Ranked.plain rfl)) fun _ => .ret _
  | sendTextMessage destinationId isGroup text =>
    exact .bind (whenConnected_ranked (.bind (Ranked.plain rfl) fun _ => sends _ _ _)) fun _ =>
      .ret _
  | sendLocationReport nmeaSentence =>
    exact .bind (whenConnected_ranked (sends _ _ _)) fun _ => .ret _

theorem publicCall_ranked (made : PublicCall) (connects : made.connects = true → depth.write = 0)
    (disconnects : made = .disconnect → thread = .io ∨ depth = ⟨0, 0⟩) :
    Ranked thread depth (publicCall native made) :=
  .bind (Ranked.plain rfl) fun _ => .bind (method_ranked made connects disconnects) fun _ =>
    .bind (Ranked.plain rfl) fun _ => .ret _

end

/-! ### Every interleaving -/

/-- A thread is in one scope of each mutex that it owns. -/
def Nested (c : Client) (depths : Thread → Depth) : Prop :=
  ∀ thread mutex, (depths thread).held mutex = if c.owner mutex = some thread then 1 else 0

def nesting : Discipline Op Client Unit Thread Depth where
  idle := ⟨0, 0⟩
  protocol := ordering
  ended := fun thread finish depth =>
    (∀ c, (finish c).owner = c.owner) ∧
      (∀ c, (finish c).ioThread = .handling → thread ≠ .io ∧ c.ioThread = .handling) ∧
      depth = ⟨0, 0⟩
  scribe := fun _ _ _ _ seen => seen
  joint := fun c _ depths => Nested c depths

section

variable {native : Endian} {policy : Policy} {thread : Thread} {c after : Client}
  {depths : Thread → Depth}

namespace Nested

theorem same (nested : Nested c depths) (owner : after.owner = c.owner) : Nested after depths := by
  intro thread mutex
  rw [owner]
  exact nested thread mutex

/-- One thread moves in one mutex, which no other thread owns. -/
theorem moved (nested : Nested c depths) {mutex : Mutex} {depth : Depth}
    (here : depth.held mutex = if after.owner mutex = some thread then 1 else 0)
    (apart : ∀ asked, asked ≠ mutex → depth.held asked = (depths thread).held asked ∧
      after.owner asked = c.owner asked)
    (others : ∀ other, other ≠ thread →
      (after.owner mutex = some other ↔ c.owner mutex = some other)) :
    Nested after (Function.update depths thread depth) := by
  intro other asked
  by_cases same : other = thread
  · subst same
    rw [Function.update_self]
    by_cases at_mutex : asked = mutex
    · subst at_mutex
      exact here
    · rw [(apart asked at_mutex).1, (apart asked at_mutex).2]
      exact nested other asked
  · rw [Function.update_of_ne same, nested other asked]
    by_cases at_mutex : asked = mutex
    · subst at_mutex
      exact if_congr (others other same).symm rfl rfl
    · rw [(apart asked at_mutex).2]

theorem locks (nested : Nested c depths) {mutex : Mutex} (free : c.owner mutex = none) :
    Nested (c.setOwner (some thread) mutex)
      (Function.update depths thread ((depths thread).entered mutex)) := by
  refine nested.moved ?_ (fun asked other => ⟨Depth.held_entered_other _ other,
    owner_setOwner_other _ _ other⟩) fun other away => ?_
  · rw [Depth.held_entered, nested thread mutex, owner_setOwner, free]
    simp
  · simp [owner_setOwner, free, Ne.symm away]

theorem owned (nested : Nested c depths) {mutex : Mutex} (held : 0 < (depths thread).held mutex) :
    c.owner mutex = some thread := by
  by_contra other
  rw [nested thread mutex, if_neg other] at held
  exact absurd held (Nat.lt_irrefl 0)

theorem unlocks (nested : Nested c depths) {mutex : Mutex} (held : 0 < (depths thread).held mutex) :
    Nested (c.setOwner none mutex)
      (Function.update depths thread ((depths thread).left mutex)) := by
  have owned := nested.owned held
  refine nested.moved ?_ (fun asked other => ⟨Depth.held_left_other _ other,
    owner_setOwner_other _ _ other⟩) fun other away => ?_
  · rw [Depth.held_left, nested thread mutex, owner_setOwner, if_pos owned]
    simp
  · simp [owner_setOwner, owned, Ne.symm away]

theorem acts (nested : Nested c depths) {β : Type} {operation : Op β} {answer : Answer}
    {value : β} (stepped : step policy thread operation answer c = some (value, after))
    {post : β → Depth → Prop} (holds : ordering thread β operation post (depths thread)) :
    ∃ depth, post value depth ∧ Nested after (Function.update depths thread depth) := by
  have stays (owner : after.owner = c.owner) :
      Nested after (Function.update depths thread (depths thread)) := by
    rw [Function.update_eq_self]
    exact nested.same owner
  cases operation
  case lock mutex =>
    obtain ⟨free, rfl⟩ := step_lock stepped
    exact ⟨_, holds.2, nested.locks free⟩
  case unlock mutex =>
    cases stepped
    exact ⟨_, holds.2, nested.unlocks holds.1⟩
  case join => exact ⟨_, holds.2.2, stays (step_owner rfl stepped)⟩
  case onIoThread =>
    have answered : thread = .io → value = true := by
      rintro rfl
      cases stepped
      rfl
    exact ⟨_, holds value answered, stays (step_owner rfl stepped)⟩
  all_goals exact ⟨_, holds value, stays (step_owner rfl stepped)⟩

end Nested

/-- A job starts and ends outside of both mutexes. -/
theorem Ranked.keeps {α : Type} {program : Method α} (ranked : Ranked thread ⟨0, 0⟩ program)
    {rest : Outcome α → Client → Client} (owner : ∀ outcome c, (rest outcome c).owner = c.owner)
    (rests : ∀ outcome c, (rest outcome c).ioThread = .handling →
      thread ≠ .io ∧ c.ioThread = .handling) :
    nesting.Keeps thread (program.settle fun outcome => .ret (rest outcome)) nesting.idle := by
  unfold Discipline.Keeps
  rw [wp_settle]
  exact ranked _ _ rfl fun outcome depth same => ⟨owner outcome, rests outcome, same⟩

/-- What a job of the application does in the end concerns its waits alone. -/
theorem Ranked.keeps_app {id : Nat} {α : Type} {program : Method α}
    (ranked : Ranked (.app id) ⟨0, 0⟩ program) {rest : Outcome α → Client → Client}
    (waits : ∀ outcome c, ∃ waits, rest outcome c = { c with waits := waits }) :
    nesting.Keeps (.app id) (program.settle fun outcome => .ret (rest outcome)) nesting.idle := by
  refine ranked.keeps (fun outcome c => ?_) fun outcome c handles => ⟨nofun, ?_⟩
  · obtain ⟨waits, same⟩ := waits outcome c
    rw [same]
    funext mutex
    cases mutex <;> rfl
  · obtain ⟨waits, same⟩ := waits outcome c
    rw [same] at handles
    exact handles

end

theorem threads_nesting (rules : Rules) :
    Respects (threads rules) nesting fun _ turn => inOrder turn = true where
  monotone _ := ordering_monotone
  begins {config seen depths thread job after task} guided idle begun _ := by
    have idles := guided.resting thread idle
    have stays : Function.update depths thread nesting.idle = depths := by
      rw [← idles, Function.update_eq_self]
    refine ⟨nesting.idle, ?_⟩
    rw [stays]
    have calls (id : Nat) (made : PublicCall) :
        Ranked (.app id) ⟨0, 0⟩ (publicCall rules.native made) :=
      publicCall_ranked made (fun _ => rfl) fun _ => .inr rfl
    cases begins_cases begun with
    | call => exact ⟨(calls _ _).keeps_app fun _ c => ⟨c.waits, rfl⟩, guided.joint⟩
    | connectSync =>
      refine ⟨(calls _ _).keeps_app fun outcome c => ?_, guided.joint⟩
      unfold entering
      split
      · exact ⟨_, rfl⟩
      · exact ⟨c.waits, rfl⟩
    | awaits =>
      refine ⟨(awaitConnection_ranked rfl).keeps_app fun outcome c => ?_, guided.joint⟩
      cases outcome with
      | ok result => exact ⟨_, rfl⟩
      | error what => exact ⟨c.waits, rfl⟩
    | handles =>
      have ranked (kind : Kind) (completion : Completion) :
          Ranked .io ⟨0, 0⟩ (handler rules.native kind completion) :=
        (Framed.handler kind completion).ranked rfl
      refine ⟨(ranked _ _).keeps (fun _ _ => rfl) fun outcome c handles => ?_,
        guided.joint.same rfl⟩
      cases outcome <;> cases handles
  acts guided works stepped _ post holds := guided.joint.acts stepped holds
  nests {config seen depths thread job β operation next made} guided works allowed may post holds := by
    cases operation <;> try exact allowed.elim
    case endCallback callback =>
      have outside {mutex : Mutex} (free : config.shared.owner mutex ≠ some thread) :
          (depths thread).held mutex = 0 := by rw [guided.joint, if_neg free]
      simp only [inOrder, Bool.and_eq_true, Bool.or_eq_true, Bool.not_eq_true', bne_iff_ne,
        beq_iff_eq] at may
      obtain ⟨connects, disconnects⟩ := may
      have ranked : Ranked thread (depths thread) ((threads rules).body made) := by
        refine .bind (publicCall_ranked made (fun calls => ?_) fun calls => ?_) fun _ => .ret ()
        · exact @outside .writeMutex (connects.resolve_left (by simp [calls]))
        · rcases disconnects with (other | own) | free
          · exact absurd calls other
          · exact .inl own
          · have connection := @outside .connectionMutex free.1
            have write := @outside .writeMutex free.2
            refine .inr ?_
            cases here : depths thread
            rw [here] at connection write
            cases connection
            cases write
            rfl
      exact ranked _ _ rfl fun outcome after same answer => same ▸ holds answer
  ends {config seen depths thread job finish} guided works _ ended := by
    have stays : Function.update depths thread nesting.idle = depths := by
      rw [show nesting.idle = depths thread from ended.2.2.symm, Function.update_eq_self]
    rw [stays]
    exact guided.joint.same (ended.1 _)
  happens {config seen depths event after} guided happened _ := by
    rcases happens_cases happened with ⟨_, rfl⟩ | ⟨_, _, _, rfl⟩ | ⟨_, _, rfl⟩ <;>
      exact guided.joint.same rfl

theorem Nested.start (dmrId : UInt32) (description : Bytes) (hooks : Hook → Bool) :
    Nested (fresh dmrId description hooks) fun _ => ⟨0, 0⟩ := by
  intro thread mutex
  cases mutex <;> rfl

/-! ### Chains of waiting threads -/

section

variable {rules : Rules} {config after : Config Op Client Thread Job} {thread other : Thread}
  {depths : Thread → Depth}

/-- While the background thread is inside a handler it works on one. -/
def Attended (config : Config Op Client Thread Job) : Prop :=
  config.shared.ioThread = .handling → config.working .io ≠ none

theorem step_handling {policy : Policy} {β : Type} {operation : Op β} {answer : Answer} {value : β}
    {c after : Client} (stepped : step policy thread operation answer c = some (value, after)) :
    after.ioThread = .handling → c.ioThread = .handling := by
  cases operation <;> simp only [step] at stepped <;> (repeat' split at stepped) <;>
    cases stepped <;>
    first
      | exact id
      | (intro handles; cases handles)
      | (cases ‹Mutex› <;> exact id)

theorem Attended.step {action : Action Answer Thread Job PublicCall Happening}
    (attended : Attended config) (guided : Guided nesting config () depths)
    (stepped : (threads rules).Step config action after) : Attended after := by
  have stays {work : Option (Job × Task Op Client)} {shared : Client} (thread : Thread)
      (works : thread = .io → shared.ioThread = .handling → work ≠ none)
      (before : thread ≠ .io → shared.ioThread = .handling →
        config.shared.ioThread = .handling) :
      Attended (config.moved thread work shared) := by
    intro handles
    rw [Config.moved_working]
    by_cases own : Thread.io = thread
    · subst own
      rw [Function.update_self]
      exact works rfl handles
    · rw [Function.update_of_ne own]
      exact attended (before (Ne.symm own) handles)
  cases stepped with
  | begins idle begun =>
    refine stays _ (fun _ _ => nofun) fun away handles => ?_
    cases begins_cases begun with
    | handles => exact absurd rfl away
    | _ => exact handles
  | acts works stepped => exact stays _ (fun _ _ => nofun) fun _ => step_handling stepped
  | nests works allowed => exact stays _ (fun _ _ => nofun) fun _ => id
  | @ends thread job finish works =>
    have ended := guided.working _ _ _ works
    exact stays _ (fun own handles => absurd own (ended.2.1 _ handles).1) fun _ handles =>
      (ended.2.1 _ handles).2
  | happens happened =>
    intro handles
    rcases happens_cases happened with ⟨_, rfl⟩ | ⟨_, _, _, rfl⟩ | ⟨_, _, rfl⟩
    · exact attended handles
    · exact attended handles
    · cases handles

/-- Who is waited for works. -/
theorem Awaits.works (awaits : Awaits config thread other)
    (guided : Guided nesting config () depths) (attended : Attended config) :
    ∃ job task, config.working other = some (job, task) := by
  have busy : config.working other ≠ none := by
    cases awaits with
    | @lock _ mutex _ _ works owned =>
      intro idle
      have held := guided.joint other mutex
      rw [guided.resting other idle, if_pos owned] at held
      cases mutex <;> cases held
    | join works handles => exact attended handles
  obtain ⟨⟨job, task⟩, works⟩ := Option.ne_none_iff_exists'.mp busy
  exact ⟨job, task, works⟩

def Op.patience : {β : Type} → Op β → Nat
  | _, .lock mutex =>
    match mutex with
    | .connectionMutex => 1
    | .writeMutex => 0
  | _, _ => 2

def patience (config : Config Op Client Thread Job) (thread : Thread) : Nat :=
  match config.working thread with
  | some (_, .call operation _) => operation.patience
  | _ => 2

/-- Who is waited for waits with less patience, if not for itself. -/
theorem Awaits.descends (guided : Guided nesting config () depths)
    (awaits : Awaits config thread other) :
    patience config other < patience config thread ∨
      ∀ next, Awaits config other next → next = other := by
  by_cases further : ∃ next, Awaits config other next ∧ next ≠ other
  · left
    obtain ⟨next, goes, away⟩ := further
    cases goes with
    | @lock job second rest _ inner taken =>
      have keeps := guided.working _ _ _ inner
      cases awaits with
      | @lock _ first _ _ works owned =>
        have held := guided.joint other first
        rw [if_pos owned] at held
        cases first <;> cases second
        · exact absurd (Option.some.inj (taken.symm.trans owned)) away
        · simp [patience, Op.patience, inner, works]
        · rw [show (depths other).held .writeMutex = (depths other).write from rfl,
            keeps.1 rfl] at held
          cases held
        · exact absurd (Option.some.inj (taken.symm.trans owned)) away
      | join works handles =>
        cases second <;> simp [patience, Op.patience, inner, works]
    | join inner busy =>
      have keeps := guided.working _ _ _ inner
      cases awaits with
      | @lock _ mutex _ _ works owned =>
        have held := guided.joint other mutex
        rw [keeps.2.1, if_pos owned] at held
        cases mutex <;> cases held
      | join works handles => exact absurd rfl keeps.1
  · right
    intro next goes
    by_contra away
    exact further ⟨next, goes, away⟩

/-- The thread can execute an instruction or end its job. -/
def GoesOn (rules : Rules) (config : Config Op Client Thread Job) (thread : Thread) : Prop :=
  ∃ action after, (threads rules).Step config action after ∧
    (action = .ends thread ∨ ∃ answer, action = .acts thread answer)

/-- The thread joins the background thread, which waits for events in `run()` or has been joined. -/
def JoinsIdle (config : Config Op Client Thread Job) (thread : Thread) : Prop :=
  (∃ job next, config.working thread = some (job, .call .join next)) ∧
    (config.shared.ioThread = .none ∨
      config.shared.ioThread = .running ∧ config.shared.runReturns = false)

/-- The thread is about to assign a new thread over one that was not joined. -/
def Terminates (config : Config Op Client Thread Job) (thread : Thread) : Prop :=
  (∃ job next, config.working thread = some (job, .call .startThread next)) ∧
    config.shared.ioThread ≠ .none

def Op.isStart : {β : Type} → Op β → Bool
  | _, .startThread => true
  | _, _ => false

/-- What neither locks nor joins nor starts a thread can always be executed. -/
theorem step_possible {policy : Policy} {β : Type} (operation : Op β) (c : Client)
    (apart : operation.waits = false) (other : operation.isStart = false) :
    ∃ answer value after, step policy thread operation answer c = some (value, after) := by
  cases operation <;> try first | (cases apart; done) | (cases other; done)
  case takeSeq realTime => cases realTime <;> exact ⟨{}, _, _, rfl⟩
  case openSocket isV6 => exact ⟨{ ec := .operationAborted }, _, _, rfl⟩
  case sendTo packet destination => exact ⟨{ ec := .operationAborted }, _, _, rfl⟩
  all_goals exact ⟨{}, _, _, rfl⟩

/-- Who waits for nobody else goes on, or is in one of three kinds of trouble. -/
theorem ends_of_waits (guided : Guided nesting config () depths) {job : Job}
    {task : Task Op Client} (works : config.working thread = some (job, task))
    (ends : ∀ next, Awaits config thread next → next = thread) :
    GoesOn rules config thread ∨ Awaits config thread thread ∨ JoinsIdle config thread ∨
      Terminates config thread := by
  have acts {β : Type} {operation : Op β} {next : β → Task Op Client}
      (works : config.working thread = some (job, .call operation next))
      (possible : ∃ answer value after,
        step rules.policy thread operation answer config.shared = some (value, after)) :
      GoesOn rules config thread := by
    obtain ⟨answer, value, after, stepped⟩ := possible
    exact ⟨_, _, .acts works stepped, .inr ⟨answer, rfl⟩⟩
  have keeps := guided.working _ _ _ works
  cases task with
  | ret finish => exact .inl ⟨_, _, .ends works, .inl rfl⟩
  | throw what => exact keeps.elim
  | @call β operation next =>
    by_cases waits : operation.waits = true
    · cases operation <;> try (cases waits; done)
      · next mutex =>
        cases owned : config.shared.owner mutex with
        | none => exact .inl (acts works ⟨{}, (), _, if_pos owned⟩)
        | some other =>
          have awaits : Awaits config thread other := .lock works owned
          rw [ends other awaits] at awaits
          exact .inr (.inl awaits)
      · exact .inl (acts works ⟨{}, (), _, rfl⟩)
      · cases idle : config.shared.ioThread with
        | none => exact .inr (.inr (.inl ⟨⟨_, _, works⟩, .inl idle⟩))
        | running =>
          cases returns : config.shared.runReturns with
          | false => exact .inr (.inr (.inl ⟨⟨_, _, works⟩, .inr ⟨idle, returns⟩⟩))
          | true =>
            have joins : step rules.policy thread .join {} config.shared =
                some ((), { config.shared with ioThread := .none, stopped := true }) := by
              simp [step, idle, returns]
            exact .inl (acts works ⟨_, _, _, joins⟩)
        | handling => exact absurd (ends _ (.join works idle)).symm keeps.1
        | exited =>
          have joins : step rules.policy thread .join {} config.shared =
              some ((), { config.shared with ioThread := .none }) := by
            simp [step, idle]
          exact .inl (acts works ⟨_, _, _, joins⟩)
    · by_cases start : operation.isStart = true
      · cases operation <;> try (cases start; done)
        by_cases joined : config.shared.ioThread = .none
        · exact .inl (acts works ⟨{}, .ok (), _, if_pos joined⟩)
        · exact .inr (.inr (.inr ⟨⟨_, _, works⟩, joined⟩))
      · exact .inl (acts works
          (step_possible operation _ (by simpa using waits) (by simpa using start)))

theorem guided_attended {dmrId : UInt32} {description : Bytes} {hooks : Hook → Bool}
    {turns : List Turn}
    (run : Effects.Run (threads rules).Step (unworked (fresh dmrId description hooks)) turns config)
    (ordered : ∀ turn ∈ turns, inOrder turn = true) :
    ∃ depths, Guided nesting config () depths ∧ Attended config := by
  induction run with
  | nil =>
    exact ⟨_, Guided.start (Nested.start dmrId description hooks), fun handles => by cases handles⟩
  | @snoc turns middle last action before taken ih =>
    obtain ⟨depths, guided, attended⟩ := ih fun turn member => ordered turn (by simp [member])
    obtain ⟨moved, next⟩ := (threads_nesting rules).step guided taken (ordered _ (by simp))
    exact ⟨moved, next, attended.step guided taken⟩

end

/-- Threads do not wait for one another in a circle: the threads that one waits for, one after the
other, end with one that goes on, that waits for itself, that joins a background thread without a
handler to run, or that terminates the program. -/
theorem waits_end {rules : Rules} {dmrId : UInt32} {description : Bytes} {hooks : Hook → Bool}
    {last : Config Op Client Thread Job} {turns : List Turn}
    (run : Effects.Run (threads rules).Step (unworked (fresh dmrId description hooks)) turns last)
    (ordered : ∀ turn ∈ turns, inOrder turn = true) {thread other : Thread}
    (awaits : Awaits last thread other) :
    ∃ final, Relation.TransGen (Awaits last) thread final ∧
      (GoesOn rules last final ∨ Awaits last final final ∨ JoinsIdle last final ∨
        Terminates last final) := by
  obtain ⟨depths, guided, attended⟩ := guided_attended run ordered
  obtain ⟨final, chain, ends⟩ :=
    chain_ends (patience last) (fun _ _ awaits => awaits.descends guided) awaits
  obtain ⟨before, _, waits⟩ := Relation.TransGen.tail'_iff.mp chain
  obtain ⟨job, task, works⟩ := waits.works guided attended
  exact ⟨final, chain, ends_of_waits guided works ends⟩

def awaitsLock (config : Config Op Client Thread Job) (thread other : Thread) : Bool :=
  match config.working thread with
  | some (_, .call (.lock mutex) _) => config.shared.owner mutex == some other
  | _ => false

theorem Awaits.of_lock {config : Config Op Client Thread Job} {thread other : Thread}
    (stands : awaitsLock config thread other = true) : Awaits config thread other := by
  unfold awaitsLock at stands
  split at stands
  · next works => exact .lock works (by simpa using stands)
  · cases stands

/-- One thread transmits and another is about to. -/
def crowdedTurns : List (Action Answer Thread Job PublicCall Happening) :=
  handshakeTurns ++ .begins (.app 0) (.call (.subscribe 91)) ::
    List.replicate 6 (.acts (.app 0) {}) ++ .begins (.app 1) (.call (.unsubscribe 92)) ::
    List.replicate 3 (.acts (.app 1) {})

theorem waits_end_crowded : ∃ (last : Config Op Client Thread Job) (turns : List Turn),
    Effects.Run (threads sampleRules).Step (unworked sampleClient) turns last ∧
      Awaits last (.app 1) (.app 0) ∧
      ∃ final, Relation.TransGen (Awaits last) (.app 1) final ∧
        (GoesOn sampleRules last final ∨ Awaits last final final ∨ JoinsIdle last final ∨
          Terminates last final) := by
  obtain ⟨turns, last, run, checked⟩ := threads_checked sampleRules (unworked sampleClient)
    crowdedTurns (fun turns last => turns.all inOrder && awaitsLock last (.app 1) (.app 0))
    (by decide +kernel)
  obtain ⟨ordered, stands⟩ := Bool.and_eq_true_iff.mp checked
  have awaits := Awaits.of_lock stands
  exact ⟨last, turns, run, awaits, waits_end run (by simpa using ordered) awaits⟩

end OpenDTP.Client
