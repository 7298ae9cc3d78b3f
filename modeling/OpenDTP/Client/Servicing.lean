import OpenDTP.Client.Duties
import OpenDTP.Client.Resources
import OpenDTP.Client.Teardown

/-! Whether anybody services a session that is up: the background thread has not left `run()`, and
there is an operation that keeps it there, or the thread that is about to start one has not come to it
yet. The threads interleave at every instruction, and callbacks may make any calls and may throw. -/

namespace OpenDTP.Client
open Common Protocol Effects Effects.Program

def Watched (c : Client) : Prop :=
  ∃ operation ∈ c.operations, operation.kind = watcher c.state ∧ operation.isAborted = false

/-- How many callbacks the background thread is inside. -/
def nested : Scribe Op Client Thread Nat
  | thread, _, .beginCallback _, _, depth => if thread = .io then depth + 1 else depth
  | thread, _, .endCallback _, _, depth => if thread = .io then depth - 1 else depth
  | _, _, _, _, depth => depth

/-- A callback that a handler invokes throws only when the session is over; when `Connect` starts the
background thread, the context is not stopped again; and the connect timer starts. -/
def civil (depth : Nat) (failure : Option String) (thread : Thread) (c : Client) :
    {β : Type} → Op β → Bool
  | _, .endCallback _ =>
    thread ≠ .io || depth ≠ 1 || failure = none || c.state = .disconnected
  | _, .startThread => !c.stopped
  | _, .asyncWait timer => timer ≠ .connectTimeoutTimer || failure = none
  | _, _ => true

/-- What the environment throws in a turn. -/
def failureOf (turn : Turn) : Option String :=
  match turn.label with
  | .acts _ answer => answer.failure
  | _ => none

def Civil (depth : Nat) (turn : Turn) : Prop :=
  executing (fun thread _ operation c => civil depth (failureOf turn) thread c operation) turn = true

instance (depth : Nat) (turn : Turn) : Decidable (Civil depth turn) := instDecidableEqBool _ _

/-! ### What holds between steps -/

def offDuty : Duty := ⟨false, .none, none, none, false, false, 0⟩

/-- The background thread is in `run()`, and has or will have something to wait for. -/
structure Served (c : Client) (duties : Thread → Duty) : Prop where
  present : c.ioThread = .running ∨ c.ioThread = .handling
  going : c.stopped = false
  watched : Watched c ∨
    (∃ thread, (duties thread).launch = .started ∧ watcher c.state = .connectTimeout) ∨
    (duties .io).lacks = some (watcher c.state)

/-- What the place of the background thread says. -/
structure Handling (c : Client) (depth : Nat) (duty : Duty) : Prop where
  handling : duty.busy = true → c.ioThread = .handling
  rest : duty.busy = false → duty.stage = none ∧ duty.lacks = none
  stage : ∀ stage, duty.stage = some stage →
    stage ≠ .disconnected ∧ (c.state = stage ∨ c.state = .disconnected)
  down : duty.down = true → c.state = .disconnected ∧ duty.stage ≠ none
  depth : duty.depth = depth

/-- What the place of any thread says. -/
structure Launching (c : Client) (seen : Endings) (thread : Thread) (duty : Duty) : Prop where
  guarded : duty.launch ≠ .none → c.connectionMutex = some thread ∧ c.workGuard = true
  spawned : duty.launch = .spawned → c.state = .disconnected ∧ seen.ending = [] ∧
    (c.ioThread = .running ∨ c.ioThread = .handling) ∧ c.stopped = false
  ending : duty.ending = true → thread ∈ seen.ending

structure Minded (c : Client) (seen : Endings × Nat) (duties : Thread → Duty) : Prop where
  io : Handling c seen.2 (duties .io)
  each : ∀ thread, Launching c seen.1 thread (duties thread)
  alone : (duties .io).stage ≠ none → ∀ thread, (duties thread).launch ≠ .spawned
  served : c.state ≠ .disconnected → Served c duties

def minded : Discipline Op Client (Endings × Nat) Thread Duty where
  idle := offDuty
  protocol := minding
  ended := fun thread finish duty =>
    (∀ c, (finish c).connectionMutex = c.connectionMutex ∧ (finish c).state = c.state ∧
      (finish c).stopped = c.stopped ∧ (finish c).workGuard = c.workGuard ∧
      (finish c).operations = c.operations ∧ (thread ≠ .io → (finish c).ioThread = c.ioThread) ∧
      (thread = .io → (finish c).ioThread = .running ∧ duty.lacks = none ∨ duty.down = true)) ∧
      duty.launch = .none ∧ duty.depth = 0
  scribe := beside endings nested
  joint := Minded

section

variable {native : Endian} {policy : Policy} {thread : Thread} {c after : Client}
  {seen seenAfter : Endings × Nat} {duties : Thread → Duty} {duty : Duty}
  {bearings : Thread → Bearing}

theorem update_io (claim : Duty → Prop) (own : thread = .io → claim duty)
    (other : thread ≠ .io → claim (duties .io)) : claim (Function.update duties thread duty .io) := by
  by_cases here : thread = .io
  · subst here
    rw [Function.update_self]
    exact own rfl
  · rw [Function.update_of_ne (Ne.symm here)]
    exact other here

theorem update_each (claim : Thread → Duty → Prop) (mine : claim thread duty)
    (others : ∀ other, other ≠ thread → claim other (duties other)) :
    ∀ other, claim other (Function.update duties thread duty other) :=
  (Function.forall_update_iff duties claim).mpr ⟨mine, others⟩

theorem update_started {other : Thread} (started : (duties other).launch = .started)
    (mine : other = thread → duty.launch = .started) :
    (Function.update duties thread duty other).launch = .started := by
  by_cases same : other = thread
  · rw [same, Function.update_self]
    exact mine same
  · rw [Function.update_of_ne same]
    exact started

/-- Operations are added, or others are cancelled than the one that looks after the session. -/
theorem Watched.kept (watched : Watched c) (state : after.state = c.state)
    (kept : ∀ operation ∈ c.operations, operation.kind = watcher c.state →
      operation ∈ after.operations) : Watched after := by
  obtain ⟨operation, member, same, whole⟩ := watched
  exact ⟨operation, kept operation member same, by rw [same, state], whole⟩

theorem Watched.dequeued {before rest : List Outstanding} {operation : Outstanding}
    {completion : Completion} (watched : Watched c) (found : c.operations = before ++ operation :: rest)
    (queued : operation.completion = some completion) :
    Watched (dequeued before rest c) ∨
      owing operation.kind completion = some (watcher c.state) := by
  obtain ⟨witness, member, same, whole⟩ := watched
  rw [found] at member
  rcases List.mem_append.mp member with early | late
  · exact .inl ⟨witness, List.mem_append_left _ early, same, whole⟩
  · rcases List.mem_cons.mp late with rfl | behind
    · have real : completion.ec ≠ .operationAborted := by
        simpa [Outstanding.isAborted, queued] using whole
      refine .inr ?_
      rw [same]
      cases c.state <;> exact if_neg real
    · exact .inl ⟨witness, List.mem_append_right _ behind, same, whole⟩

theorem Watched.completed {before rest : List Outstanding} {operation : Outstanding}
    {completion : Completion} (watched : Watched c) (found : c.operations = before ++ operation :: rest)
    (real : completion.ec ≠ .operationAborted) :
    Watched (completed before operation rest completion c) := by
  obtain ⟨witness, member, same, whole⟩ := watched
  rw [found] at member
  rcases List.mem_append.mp member with early | late
  · exact ⟨witness, List.mem_append_left _ early, same, whole⟩
  · rcases List.mem_cons.mp late with rfl | behind
    · refine ⟨{ witness with completion := some completion }, ?_, same, ?_⟩
      · exact List.mem_append_right _ List.mem_cons_self
      · exact decide_eq_false real
    · exact ⟨witness, List.mem_append_right _ (.tail _ behind), same, whole⟩

theorem mem_cancel_other {kind : Kind} {operation : Outstanding} {operations : List Outstanding}
    (member : operation ∈ operations) (other : operation.kind ≠ kind) :
    operation ∈ operations.map (·.cancel kind) := by
  refine List.mem_map.mpr ⟨operation, member, ?_⟩
  rw [Outstanding.cancel, if_neg fun both => other both.1]

/-- A teardown that comes to `onDisconnected` ends in its own thread only. -/
theorem mem_ended {leaves : Prop} [Decidable leaves] {seen : Endings} {other : Thread}
    (away : other ≠ thread) (member : other ∈ seen.ending) :
    other ∈ (if leaves then { seen with ending := seen.ending.filter (· ≠ thread) }
      else seen).ending := by
  split
  · exact List.mem_filter.mpr ⟨member, decide_eq_true away⟩
  · exact member

theorem ended_nil {leaves : Prop} [Decidable leaves] {seen : Endings} (nobody : seen.ending = []) :
    (if leaves then { seen with ending := seen.ending.filter (· ≠ thread) }
      else seen).ending = [] := by
  split
  · rw [nobody]
    rfl
  · exact nobody

theorem runReturns_false (going : c.stopped = false)
    (busy : c.operations ≠ [] ∨ c.workGuard = true) : c.runReturns = false := by
  rcases busy with some | guard
  · simp [runReturns, going, some]
  · simp [runReturns, going, guard]

theorem Handling.same {depth : Nat} (kept : Handling c depth duty) (state : after.state = c.state)
    (ioThread : c.ioThread = .handling → after.ioThread = .handling) : Handling after depth duty := by
  refine ⟨fun works => ioThread (kept.handling works), kept.rest, fun stage same => ?_, fun down => ?_,
    kept.depth⟩
  · rw [state]
    exact kept.stage stage same
  · rw [state]
    exact kept.down down

theorem Handling.launching {depth : Nat} (kept : Handling c depth (duties .io)) (launch : Launch) :
    Handling c depth (Function.update duties thread { duties thread with launch := launch } .io) := by
  refine update_io _ (fun own => ?_) fun _ => kept
  subst own
  exact ⟨kept.handling, kept.rest, kept.stage, kept.down, kept.depth⟩

namespace Minded

theorem unspawned (minded : Minded c seen duties) (up : c.state ≠ .disconnected) (thread : Thread) :
    (duties thread).launch ≠ .spawned :=
  fun spawned => up ((minded.each thread).spawned spawned).1

theorem asleep (minded : Minded c seen duties) (spawned : (duties thread).launch = .spawned) :
    (duties .io).stage = none := by
  by_contra awake
  exact minded.alone awake thread spawned

theorem idle (minded : Minded c seen duties) (elsewhere : c.ioThread ≠ .handling) :
    (duties .io).busy = false := by
  by_contra works
  exact elsewhere (minded.io.handling (by simpa using works))

/-- Only the thread inside `connectionMutex_` is in a start. -/
theorem sole (minded : Minded c seen duties) (mine : c.connectionMutex = some thread) {other : Thread}
    (away : other ≠ thread) : (duties other).launch = .none := by
  by_contra launches
  have owner := ((minded.each other).guarded launches).1
  rw [mine] at owner
  exact away (Option.some.inj owner).symm

/-- While a session is up or about to be, `run()` does not return. -/
theorem stays (minded : Minded c seen duties) (running : c.ioThread = .running)
    (up : c.state ≠ .disconnected ∨ ∃ thread, (duties thread).launch = .spawned) :
    c.runReturns = false := by
  have idle : (duties .io).lacks = none := (minded.io.rest (minded.idle (by simp [running]))).2
  rcases up with up | ⟨thread, spawned⟩
  · obtain ⟨_, going, ⟨operation, member, _⟩ | ⟨thread, started, _⟩ | lacks⟩ := minded.served up
    · exact runReturns_false going (.inl (List.ne_nil_of_mem member))
    · exact runReturns_false going (.inr ((minded.each thread).guarded (by simp [started])).2)
    · cases idle.symm.trans lacks
  · obtain ⟨_, _, _, going⟩ := (minded.each thread).spawned spawned
    exact runReturns_false going (.inr ((minded.each thread).guarded (by simp [spawned])).2)

/-- The thread stays in its part of a start, and the session where it is. -/
theorem moves (minded : Minded c seen duties) (state : after.state = c.state)
    (ioThread : after.ioThread = c.ioThread) (stopped : after.stopped = c.stopped)
    (connectionMutex : after.connectionMutex = c.connectionMutex)
    (workGuard : after.workGuard = c.workGuard)
    (others : ∀ other, other ≠ thread → other ∈ seen.1.ending → other ∈ seenAfter.1.ending)
    (fewer : seen.1.ending = [] → seenAfter.1.ending = [])
    (elsewhere : thread ≠ .io → seenAfter.2 = seen.2)
    (launch : duty.launch ≠ .none → (duties thread).launch ≠ .none)
    (spawned : duty.launch = .spawned → (duties thread).launch = .spawned)
    (started : (duties thread).launch = .started → watcher c.state = .connectTimeout →
      Watched after ∨ duty.launch = .started)
    (ending : duty.ending = true → thread ∈ seenAfter.1.ending)
    (io : thread = .io → Handling after seenAfter.2 duty)
    (alone : thread = .io → duty.stage ≠ none → ∀ other, (duties other).launch ≠ .spawned)
    (watched : c.state ≠ .disconnected → Watched c → Watched after ∨
      (duty.launch = .started ∧ watcher c.state = .connectTimeout) ∨
      thread = .io ∧ duty.lacks = some (watcher c.state))
    (lacks : c.state ≠ .disconnected → thread = .io →
      (duties .io).lacks = some (watcher c.state) → Watched after ∨
        duty.lacks = some (watcher c.state)) :
    Minded after seenAfter (Function.update duties thread duty) where
  io := by
    refine update_io _ io fun away => ?_
    rw [elsewhere away]
    exact minded.io.same state ioThread.trans
  each := by
    refine update_each _ ⟨fun launches => ?_, fun spawns => ?_, ending⟩
      fun other away => ⟨fun launches => ?_, fun spawned => ?_, fun ends => ?_⟩
    · rw [connectionMutex, workGuard]
      exact (minded.each thread).guarded (launch launches)
    · rw [state, ioThread, stopped]
      obtain ⟨down, nobody, rest⟩ := (minded.each thread).spawned (spawned spawns)
      exact ⟨down, fewer nobody, rest⟩
    · rw [connectionMutex, workGuard]
      exact (minded.each other).guarded launches
    · rw [state, ioThread, stopped]
      obtain ⟨down, nobody, rest⟩ := (minded.each other).spawned spawned
      exact ⟨down, fewer nobody, rest⟩
    · exact others other away ((minded.each other).ending ends)
  alone := by
    intro awake other spawns
    have unspawned : ∀ other, (duties other).launch ≠ .spawned := by
      by_cases own : thread = .io
      · subst own
        rw [Function.update_self] at awake
        exact alone rfl awake
      · rw [Function.update_of_ne (Ne.symm own)] at awake
        exact minded.alone awake
    by_cases same : other = thread
    · subst same
      rw [Function.update_self] at spawns
      exact unspawned other (spawned spawns)
    · rw [Function.update_of_ne same] at spawns
      exact unspawned other spawns
  served up := by
    rw [state] at up
    obtain ⟨present, going, cover⟩ := minded.served up
    refine ⟨ioThread ▸ present, stopped.trans going, ?_⟩
    rw [state]
    have starts (here : duty.launch = .started) :
        (Function.update duties thread duty thread).launch = .started := by
      rw [Function.update_self]
      exact here
    rcases cover with found | ⟨other, launched, early⟩ | owes
    · rcases watched up found with still | ⟨here, early⟩ | ⟨rfl, owes⟩
      · exact .inl still
      · exact .inr (.inl ⟨thread, starts here, early⟩)
      · exact .inr (.inr (by rw [Function.update_self]; exact owes))
    · by_cases same : other = thread
      · subst same
        exact (started launched early).imp id fun here => .inl ⟨other, starts here, early⟩
      · exact .inr (.inl ⟨other, by rw [Function.update_of_ne same]; exact launched, early⟩)
    · by_cases own : thread = .io
      · subst own
        rcases lacks up rfl owes with still | owes
        · exact .inl still
        · exact .inr (.inr (by rw [Function.update_self]; exact owes))
      · exact .inr (.inr (by rw [Function.update_of_ne (Ne.symm own)]; exact owes))

/-- Only what looks after the session changes. -/
theorem rewatched (minded : Minded c seen duties) (state : after.state = c.state)
    (ioThread : after.ioThread = c.ioThread) (stopped : after.stopped = c.stopped)
    (connectionMutex : after.connectionMutex = c.connectionMutex)
    (workGuard : after.workGuard = c.workGuard) (watched : Watched c → Watched after) :
    Minded after seen duties := by
  have same : Minded after seen (Function.update duties .io (duties .io)) := minded.moves state
    ioThread stopped connectionMutex workGuard (fun _ _ member => member) id (fun _ => rfl) id id
    (fun started _ => .inr started) (minded.each _).ending
    (fun _ => minded.io.same state ioThread.trans) (fun _ => minded.alone)
    (fun _ some => .inl (watched some)) fun _ _ owes => .inr owes
  rwa [Function.update_eq_self] at same

/-- A thread that begins or ends its part of a start outside of what the session needs. -/
theorem guards (minded : Minded c seen duties) {launch : Launch} (state : after.state = c.state)
    (ioThread : after.ioThread = c.ioThread) (stopped : after.stopped = c.stopped)
    (operations : after.operations = c.operations)
    (early : (duties thread).launch = .none ∨ (duties thread).launch = .guarded)
    (late : launch = .none ∨ launch = .guarded)
    (mine : launch ≠ .none → after.connectionMutex = some thread ∧ after.workGuard = true)
    (others : ∀ other, other ≠ thread → (duties other).launch = .none) :
    Minded after seen (Function.update duties thread { duties thread with launch := launch }) where
  io := (minded.io.same state ioThread.trans).launching launch
  each := by
    refine update_each _ ⟨mine, fun spawned => ?_, (minded.each thread).ending⟩ fun other away =>
      ⟨fun launches => absurd (others other away) launches, fun spawned => ?_,
        (minded.each other).ending⟩
    · rcases late with late | late <;> cases late.symm.trans spawned
    · cases (others other away).symm.trans spawned
  alone _ other spawned := by
    by_cases same : other = thread
    · subst same
      rw [Function.update_self] at spawned
      rcases late with late | late <;> cases late.symm.trans spawned
    · rw [Function.update_of_ne same] at spawned
      cases (others other same).symm.trans spawned
  served up := by
    rw [state] at up
    obtain ⟨present, going, cover⟩ := minded.served up
    refine ⟨ioThread ▸ present, stopped.trans going, ?_⟩
    rw [state]
    rcases cover with watched | ⟨other, started, _⟩ | owes
    · exact .inl (watched.kept state fun operation member _ => operations ▸ member)
    · by_cases same : other = thread
      · subst same
        rcases early with early | early <;> cases early.symm.trans started
      · cases (others other same).symm.trans started
    · refine .inr (.inr (update_io (fun duty => duty.lacks = some (watcher c.state))
        (fun own => ?_) fun _ => owes))
      subst own
      exact owes

/-- `ProcessPacket` moves the session on that its handler has found. -/
theorem progresses (minded : Minded c seen duties) (up : c.state ≠ .disconnected) {value : State}
    (live : value ≠ .disconnected) (awake : (duties .io).stage ≠ none) {lacks : Option Kind}
    (cover : watcher value = watcher c.state ∧ lacks = (duties .io).lacks ∨
      lacks = some (watcher value)) :
    Minded ({ c with state := value }.record (.stored value)) seen
      (Function.update duties .io { duties .io with stage := some value, lacks := lacks }) where
  io := by
    rw [Function.update_self]
    have busy : (duties .io).busy = true := by
      by_contra idle
      exact awake (minded.io.rest (by simpa using idle)).1
    refine ⟨minded.io.handling, fun idle => ?_, fun stage same => ?_, fun down => ?_,
      minded.io.depth⟩
    · cases busy.symm.trans idle
    · cases same
      exact ⟨live, .inl rfl⟩
    · exact absurd (minded.io.down down).1 up
  each := by
    refine update_each _ ?_ fun other _ => ?_
    · exact ⟨(minded.each _).guarded, fun spawned => absurd spawned (minded.unspawned up _),
        (minded.each _).ending⟩
    · exact ⟨(minded.each other).guarded, fun spawned => absurd spawned (minded.unspawned up other),
        (minded.each other).ending⟩
  alone _ := update_each (fun _ duty => duty.launch ≠ .spawned) (minded.unspawned up _)
    fun other _ => minded.unspawned up other
  served _ := by
    obtain ⟨present, going, covered⟩ := minded.served up
    refine ⟨present, going, ?_⟩
    rcases cover with ⟨same, rfl⟩ | rfl
    · rcases covered with ⟨operation, member, kind, whole⟩ | ⟨other, started, early⟩ | owes
      · exact .inl ⟨operation, member, kind.trans same.symm, whole⟩
      · exact .inr (.inl ⟨other, update_started started fun own => own ▸ started, same.trans early⟩)
      · rw [Function.update_self]
        exact .inr (.inr (owes.trans (congrArg some same.symm)))
    · rw [Function.update_self]
      exact .inr (.inr rfl)

/-- `Connect` stores CONNECTING when the thread it has started waits in `run()`. -/
theorem starts (minded : Minded c seen duties) (spawned : (duties thread).launch = .spawned) :
    Minded ({ c with state := .connecting }.record (.stored .connecting)) seen
      (Function.update duties thread { duties thread with launch := .started }) where
  io := by
    have asleep := minded.asleep spawned
    have kept : Handling ({ c with state := .connecting }.record (.stored .connecting)) seen.2
        (duties .io) := by
      refine ⟨minded.io.handling, minded.io.rest, fun stage same => ?_, fun down => ?_,
        minded.io.depth⟩
      · cases asleep.symm.trans same
      · exact absurd asleep (minded.io.down down).2
    exact kept.launching _
  each := by
    obtain ⟨owner, guard⟩ := (minded.each thread).guarded (by simp [spawned])
    refine update_each _ ⟨fun _ => ⟨owner, guard⟩, fun again => (by cases again),
      (minded.each thread).ending⟩ fun other away => ?_
    have outside := minded.sole owner away
    exact ⟨fun launches => absurd outside launches, fun again => (by cases outside.symm.trans again),
      (minded.each other).ending⟩
  alone awake := by
    refine absurd ?_ awake
    have asleep := minded.asleep spawned
    exact update_io (fun duty => duty.stage = none) (fun own => own ▸ asleep)
      fun _ => asleep
  served _ := by
    obtain ⟨_, _, present, going⟩ := (minded.each thread).spawned spawned
    exact ⟨present, going, .inr (.inl ⟨thread, by rw [Function.update_self], rfl⟩)⟩

/-- A thread stores DISCONNECTED, at the end of a session or of a start that has failed. -/
theorem falls (minded : Minded c seen duties) {seenAfter : Endings × Nat}
    (depth : seenAfter.2 = seen.2)
    (stays : c.state = .disconnected → seenAfter.1.ending = seen.1.ending)
    (more : ∀ other ∈ seen.1.ending, other ∈ seenAfter.1.ending) :
    Minded ({ c with state := .disconnected }.record (.stored .disconnected)) seenAfter
      (Function.update duties thread { duties thread with lacks := none }) where
  io := by
    rw [depth]
    have kept : Handling ({ c with state := .disconnected }.record (.stored .disconnected)) seen.2
        (duties .io) := by
      refine ⟨minded.io.handling, minded.io.rest, fun stage same => ?_, fun down => ?_,
        minded.io.depth⟩
      · exact ⟨(minded.io.stage stage same).1, .inr rfl⟩
      · exact ⟨rfl, (minded.io.down down).2⟩
    refine update_io _ (fun own => ?_) fun _ => kept
    subst own
    exact ⟨kept.handling, fun idle => ⟨(kept.rest idle).1, rfl⟩, kept.stage, kept.down, kept.depth⟩
  each := by
    have kept (other : Thread) : Launching
        ({ c with state := .disconnected }.record (.stored .disconnected)) seenAfter.1 other
        (duties other) := by
      refine ⟨(minded.each other).guarded, fun spawned => ?_, fun ends =>
        more other ((minded.each other).ending ends)⟩
      obtain ⟨down, nobody, rest⟩ := (minded.each other).spawned spawned
      exact ⟨rfl, (stays down).trans nobody, rest⟩
    exact update_each _ ⟨(kept thread).guarded, (kept thread).spawned, (kept thread).ending⟩
      fun other _ => kept other
  alone awake := by
    have still : (duties .io).stage ≠ none := by
      by_cases own : thread = .io
      · subst own
        rwa [Function.update_self] at awake
      · rwa [Function.update_of_ne (Ne.symm own)] at awake
    exact update_each (fun _ duty => duty.launch ≠ .spawned) (minded.alone still thread)
      fun other _ => minded.alone still other
  served up := absurd rfl up

/-- `Connect` starts the background thread, which there was none of. -/
theorem launches (minded : Minded c seen duties) (absent : c.ioThread = .none)
    (guarded : (duties thread).launch = .guarded) (down : c.state = .disconnected)
    (nobody : seen.1.ending = []) (going : c.stopped = false) :
    Minded ({ c with ioThread := .running }.record .started) seen
      (Function.update duties thread { duties thread with launch := .spawned }) where
  io := by
    have idle := minded.idle (by simp [absent])
    have kept : Handling ({ c with ioThread := .running }.record .started) seen.2 (duties .io) := by
      refine ⟨fun works => ?_, minded.io.rest, minded.io.stage, minded.io.down, minded.io.depth⟩
      cases idle.symm.trans works
    exact kept.launching _
  each := by
    obtain ⟨owner, guard⟩ := (minded.each thread).guarded (by simp [guarded])
    refine update_each _ ⟨fun _ => ⟨owner, guard⟩, fun _ => ⟨down, nobody, .inl rfl, going⟩,
      (minded.each thread).ending⟩ fun other away => ?_
    have outside := minded.sole owner away
    exact ⟨fun launches => absurd outside launches, fun again => (by cases outside.symm.trans again),
      (minded.each other).ending⟩
  alone awake := by
    have idle := minded.idle (by simp [absent])
    refine absurd ?_ awake
    exact update_io (fun duty => duty.stage = none)
      (fun own => own ▸ (minded.io.rest idle).1) fun _ => (minded.io.rest idle).1
  served up := absurd down up

/-- When no session is up or about to be, `run()` may end and the thread be joined. -/
theorem halts (minded : Minded c seen duties) (down : c.state = .disconnected)
    (unspawned : ∀ thread, (duties thread).launch ≠ .spawned) (state : after.state = c.state)
    (connectionMutex : after.connectionMutex = c.connectionMutex)
    (workGuard : after.workGuard = c.workGuard)
    (handling : c.ioThread = .handling → after.ioThread = .handling) : Minded after seen duties where
  io := minded.io.same state handling
  each thread := by
    refine ⟨fun launches => ?_, fun spawned => absurd spawned (unspawned thread),
      (minded.each thread).ending⟩
    rw [connectionMutex, workGuard]
    exact (minded.each thread).guarded launches
  alone := minded.alone
  served up := absurd (state.trans down) up

/-- An instruction that leaves the session, the start and the background thread alone. -/
theorem rests (minded : Minded c seen duties)
    (same : after.state = c.state ∧ after.ioThread = c.ioThread ∧ after.stopped = c.stopped ∧
      after.connectionMutex = c.connectionMutex ∧ after.workGuard = c.workGuard)
    (kept : ∀ operation ∈ c.operations, operation.kind = watcher c.state →
      operation ∈ after.operations) :
    Minded after seen (Function.update duties thread (duties thread)) := by
  obtain ⟨state, ioThread, stopped, connectionMutex, workGuard⟩ := same
  rw [Function.update_eq_self]
  exact minded.rewatched state ioThread stopped connectionMutex workGuard fun watched =>
    watched.kept state kept

theorem watcher_ne_receive (state : State) : watcher state ≠ .receive := by cases state <;> decide

theorem watcher_ne_resolve (state : State) : watcher state ≠ .resolve := by cases state <;> decide

/-- A thread loads `state_`; a handler knows from then on which session it is in. -/
theorem loads (minded : Minded c seen duties) {post : State → Duty → Prop}
    (holds : minding thread _ .loadState post (duties thread)) :
    ∃ duty, post c.state duty ∧ Minded c (beside endings nested thread _ .loadState c seen)
      (Function.update duties thread duty) := by
  cases thread with
  | app number =>
    refine ⟨_, holds c.state, ?_⟩
    refine minded.moves rfl rfl rfl rfl rfl (fun _ _ member => member) id (fun _ => rfl) id id
      (fun started _ => .inr started) (minded.each _).ending (fun own => by cases own)
      (fun own => by cases own) (fun _ => .inl) fun _ own => by cases own
  | io =>
    have io := minded.io
    have known (stage : State) (here : (duties .io).stage = some stage) :
        c.state = stage ∨ c.state = .disconnected := (io.stage stage here).2
    have awake (down : c.state = .disconnected) :
        ((duties .io).found c.state).stage = (duties .io).stage := if_pos down
    have aware (up : c.state ≠ .disconnected) :
        ((duties .io).found c.state).stage = some c.state := if_neg up
    refine ⟨_, holds.2 c.state known, ?_⟩
    refine minded.moves rfl rfl rfl rfl rfl (fun _ _ member => member) id (fun _ => rfl) id id
      (fun started _ => .inr started) (minded.each _).ending (fun _ => ?_) (fun _ stays => ?_)
      (fun _ => .inl) fun up _ owes => .inr ?_
    · refine ⟨io.handling, fun idle => absurd (holds.1.symm.trans idle) (by decide), fun stage here => ?_,
        fun down => ?_, io.depth⟩
      · by_cases down : c.state = .disconnected
        · exact io.stage stage ((awake down).symm.trans here)
        · cases (aware down).symm.trans here
          exact ⟨down, .inl rfl⟩
      · obtain ⟨past, still⟩ := io.down down
        exact ⟨past, (awake past).symm ▸ still⟩
    · by_cases down : c.state = .disconnected
      · exact minded.alone ((awake down) ▸ stays)
      · exact minded.unspawned down
    · exact (if_pos ⟨up, owes⟩).trans owes

theorem stores (minded : Minded c seen duties) {value : State}
    (intime : timely seen.1 thread c (.storeState value) = true)
    {post : Unit → Duty → Prop} (holds : minding thread _ (.storeState value) post (duties thread)) :
    ∃ duty, post () duty ∧ Minded ({ c with state := value }.record (.stored value))
      (beside endings nested thread _ (.storeState value) c seen)
      (Function.update duties thread duty) := by
  cases value with
  | disconnected =>
    refine ⟨_, holds, ?_⟩
    have late (down : c.state = .disconnected) : seen.1.found thread = false := by
      simpa [timely, down] using intime
    refine minded.falls rfl (fun down => ?_) fun other member => ?_
    · simp [beside, endings, late down]
    · simp only [beside, endings]
      split
      · exact List.mem_cons_of_mem _ member
      · exact member
  | connecting =>
    have same : beside endings nested thread _ (.storeState .connecting) c seen = seen := by
      simp [beside, endings, nested]
    rw [same]
    exact ⟨_, holds.2, minded.starts holds.1⟩
  | authenticating =>
    have same : beside endings nested thread _ (.storeState .authenticating) c seen = seen := by
      simp [beside, endings, nested]
    obtain ⟨rfl, stage, holds⟩ := holds
    have up : c.state ≠ .disconnected := by simpa [timely] using intime
    have early : c.state = .connecting := ((minded.io.stage _ stage).2).resolve_right up
    rw [same]
    refine ⟨_, holds, minded.progresses up (by decide) (by simp [stage]) (.inl ⟨?_, rfl⟩)⟩
    rw [early]
    rfl
  | connected =>
    have same : beside endings nested thread _ (.storeState .connected) c seen = seen := by
      simp [beside, endings, nested]
    obtain ⟨rfl, stage, holds⟩ := holds
    have up : c.state ≠ .disconnected := by simpa [timely] using intime
    rw [same]
    exact ⟨_, holds, minded.progresses up (by decide) (by simp [stage]) (.inr rfl)⟩

/-- The connect timer, which a start sets, and the keep-alive timer, which the handler sets anew. -/
theorem expires (minded : Minded c seen duties) {timer : Timer} {milliseconds : UInt32}
    {post : Unit → Duty → Prop}
    (holds : minding thread _ (.expiresAfter timer milliseconds) post (duties thread)) :
    ∃ duty, post () duty ∧ Minded (c.cancel timer.kind) seen (Function.update duties thread duty) := by
  have kept (other : watcher c.state ≠ timer.kind) (watched : Watched c) :
      Watched (c.cancel timer.kind) :=
    watched.kept rfl fun operation member same => mem_cancel_other member (same ▸ other)
  cases timer with
  | connectTimeoutTimer =>
    obtain ⟨launched, holds⟩ := holds
    refine ⟨_, holds, ?_⟩
    refine minded.moves rfl rfl rfl rfl rfl (fun _ _ member => member) id (fun _ => rfl) id id
      (fun started _ => .inr started) (minded.each _).ending (fun own => ?_) (fun own => ?_)
      (fun _ watched => ?_) fun _ own owes => .inr (own ▸ owes)
    · exact own ▸ minded.io.same rfl id
    · exact own ▸ minded.alone
    · by_cases early : watcher c.state = .connectTimeout
      · exact .inr (.inl ⟨launched, early⟩)
      · exact .inl (kept early watched)
  | keepAliveTimer =>
    obtain ⟨rfl, busy, other, holds⟩ := holds
    have io := minded.io
    refine ⟨_, holds, ?_⟩
    refine minded.moves rfl rfl rfl rfl rfl (fun _ _ member => member) id (fun _ => rfl) id id
      (fun started _ => .inr started) (minded.each _).ending (fun _ => ?_) (fun _ => minded.alone)
      (fun _ watched => ?_) fun _ _ owes => ?_
    · exact ⟨io.handling, fun idle => absurd (busy.symm.trans idle) (by decide), io.stage, io.down,
        io.depth⟩
    · by_cases late : watcher c.state = .keepAlive
      · exact .inr (.inr ⟨rfl, by rw [late]⟩)
      · exact .inl (kept late watched)
    · rw [owes] at other
      cases found : c.state <;> first
        | exact .inr rfl
        | exact absurd (by rw [found]; rfl) other

theorem waits (minded : Minded c seen duties) {timer : Timer} {answer : Answer}
    {value : Outcome Unit}
    (stepped : step policy thread (.asyncWait timer) answer c = some (value, after))
    (calm : civil seen.2 answer.failure thread c (.asyncWait timer) = true)
    {post : Outcome Unit → Duty → Prop}
    (holds : minding thread _ (.asyncWait timer) post (duties thread)) :
    ∃ duty, post value duty ∧ Minded after seen (Function.update duties thread duty) := by
  have fine : answer.failure = none := by
    cases timer with
    | connectTimeoutTimer => simpa [civil] using calm
    | keepAliveTimer =>
      cases thrown : answer.failure with
      | none => rfl
      | some what => simp [step, thrown] at stepped
  simp only [step, fine] at stepped
  cases stepped
  have begun : Watched c → Watched (c.begin timer.kind) := fun watched =>
    watched.kept rfl fun operation member _ => List.mem_append_left _ member
  have here (same : watcher c.state = timer.kind) : Watched (c.begin timer.kind) :=
    ⟨_, List.mem_append_right _ (List.mem_singleton_self _), same.symm, rfl⟩
  have io := minded.io
  cases timer with
  | connectTimeoutTimer =>
    obtain ⟨launched, holds⟩ := holds
    refine ⟨_, holds, ?_⟩
    refine minded.moves rfl rfl rfl rfl rfl (fun _ _ member => member) id (fun _ => rfl)
      (fun _ => by simp [launched]) (fun spawned => by cases spawned) (fun _ early => .inl (here early))
      (minded.each _).ending (fun own => ?_) (fun own => ?_) (fun _ watched => .inl (begun watched))
      fun _ own owes => .inr (own ▸ owes)
    · subst own
      exact ⟨io.handling, io.rest, io.stage, io.down, io.depth⟩
    · exact own ▸ minded.alone
  | keepAliveTimer =>
    obtain ⟨other, holds⟩ := holds
    refine ⟨_, holds, ?_⟩
    refine minded.moves rfl rfl rfl rfl rfl (fun _ _ member => member) id (fun _ => rfl) id id
      (fun started _ => .inr started) (minded.each _).ending (fun own => ?_) (fun own => ?_)
      (fun _ watched => .inl (begun watched)) fun _ own owes => .inl (here ?_)
    · subst own
      exact ⟨io.handling, fun idle => ⟨(io.rest idle).1, rfl⟩, io.stage, io.down, io.depth⟩
    · exact own ▸ minded.alone
    · subst own
      rw [owes] at other
      cases found : c.state <;> first
        | rfl
        | exact absurd (by rw [found]; rfl) other

/-- A timer is cancelled in a teardown, or the connect timer when the session is up. -/
theorem cancels (minded : Minded c seen duties) (torn : Torn native c seen.1 bearings) {timer : Timer}
    {early : Unit → Bearing → Prop} {post : Unit → Duty → Prop}
    (tears : tearing native _ (.cancelTimer timer) early (bearings thread))
    (holds : minding thread _ (.cancelTimer timer) post (duties thread)) :
    ∃ duty, post () duty ∧ Minded (c.cancel timer.kind) seen (Function.update duties thread duty) := by
  have io := minded.io
  cases timer with
  | keepAliveTimer =>
    have member : thread ∈ seen.1.ending := (torn.each thread).ending.mpr (tears.1 rfl)
    have down : c.state = .disconnected := (torn.down (List.ne_nil_of_mem member)).1
    refine ⟨_, holds, ?_⟩
    refine minded.moves rfl rfl rfl rfl rfl (fun _ _ member => member) id (fun _ => rfl) id id
      (fun started _ => .inr started) (fun _ => member) (fun own => ?_) (fun own => ?_)
      (fun up => absurd down up) fun up => absurd down up
    · subst own
      exact ⟨io.handling, io.rest, io.stage, io.down, io.depth⟩
    · exact own ▸ minded.alone
  | connectTimeoutTimer =>
    obtain ⟨reason, holds⟩ := holds
    refine ⟨_, holds, ?_⟩
    have other (up : c.state ≠ .disconnected) : watcher c.state ≠ .connectTimeout := by
      rcases reason with ending | ⟨rfl, stage⟩
      · exact absurd (torn.down (List.ne_nil_of_mem ((minded.each thread).ending ending))).1 up
      · rw [(io.stage _ stage).2.resolve_right up]
        decide
    refine minded.moves rfl rfl rfl rfl rfl (fun _ _ member => member) id (fun _ => rfl) id id
      (fun started _ => .inr started) (minded.each _).ending (fun own => ?_) (fun own => ?_)
      (fun up watched => .inl ?_) fun _ own owes => .inr (own ▸ owes)
    · subst own
      exact ⟨io.handling, io.rest, io.stage, io.down, io.depth⟩
    · exact own ▸ minded.alone
    · exact watched.kept rfl fun operation member same => mem_cancel_other member (same ▸ other up)

/-- The thread that joins waits until `run()` has nothing to do. -/
theorem joins (minded : Minded c seen duties) {answer : Answer} {value : Unit}
    (stepped : step policy thread .join answer c = some (value, after)) : Minded after seen duties := by
  have returns : c.ioThread = .exited ∨ c.ioThread = .running ∧ c.runReturns = true := by
    simp only [step] at stepped
    split at stepped
    · next exited => exact .inl exited
    · split at stepped
      · next both => exact .inr both
      · cases stepped
  have nobody : ¬ (c.state ≠ .disconnected ∨ ∃ thread, (duties thread).launch = .spawned) := by
    intro some
    rcases returns with exited | ⟨running, past⟩
    · have present : c.ioThread = .running ∨ c.ioThread = .handling := by
        rcases some with up | ⟨thread, spawned⟩
        · exact (minded.served up).present
        · exact ((minded.each thread).spawned spawned).2.2.1
      rcases present with present | present <;> cases exited.symm.trans present
    · cases past.symm.trans (minded.stays running some)
  have down : c.state = .disconnected := by_contra fun up => nobody (.inl up)
  have unspawned (thread : Thread) : (duties thread).launch ≠ .spawned :=
    fun spawned => nobody (.inr ⟨thread, spawned⟩)
  have away : c.ioThread ≠ .handling := by
    intro handling
    rcases returns with exited | ⟨running, _⟩
    · cases exited.symm.trans handling
    · cases running.symm.trans handling
  simp only [step] at stepped
  split at stepped
  · cases stepped
    exact minded.halts down unspawned rfl rfl rfl fun handling => absurd handling away
  · split at stepped
    · cases stepped
      exact minded.halts down unspawned rfl rfl rfl fun handling => absurd handling away
    · cases stepped

/-- Callbacks begin and end in threads that are not in a start. -/
theorem visits (minded : Minded c seen duties) {down : Bool} {depth : Nat}
    (state : after.state = c.state) (ioThread : after.ioThread = c.ioThread)
    (stopped : after.stopped = c.stopped) (connectionMutex : after.connectionMutex = c.connectionMutex)
    (workGuard : after.workGuard = c.workGuard) (operations : after.operations = c.operations)
    (others : ∀ other, other ≠ thread → other ∈ seen.1.ending → other ∈ seenAfter.1.ending)
    (fewer : seen.1.ending = [] → seenAfter.1.ending = [])
    (elsewhere : thread ≠ .io → seenAfter.2 = seen.2)
    (here : thread = .io → depth = seenAfter.2)
    (gone : thread = .io → down = true → (duties .io).down = true ∨
      c.state = .disconnected ∧ (duties .io).stage ≠ none) :
    Minded after seenAfter (Function.update duties thread { duties thread with
      ending := false
      down := down
      depth := depth }) := by
  have io := minded.io
  refine minded.moves state ioThread stopped connectionMutex workGuard others fewer elsewhere id id
    (fun started _ => .inr started) (fun ends => by cases ends) (fun own => ?_)
    (fun own => own ▸ minded.alone)
    (fun _ watched => .inl (watched.kept state fun operation member _ => operations ▸ member))
    fun _ own owes => .inr (own ▸ owes)
  subst own
  refine ⟨fun works => ioThread.trans (io.handling works), io.rest, fun stage same => ?_,
    fun past => ?_, here rfl⟩
  · rw [state]
    exact io.stage stage same
  · rw [state]
    exact (gone rfl past).elim io.down fun both => both

theorem restarts (minded : Minded c seen duties) : Minded { c with stopped := false } seen duties where
  io := minded.io.same rfl id
  each other := by
    have launching := minded.each other
    refine ⟨launching.guarded, fun spawned => ?_, launching.ending⟩
    obtain ⟨down, nobody, present, _⟩ := launching.spawned spawned
    exact ⟨down, nobody, present, rfl⟩
  alone := minded.alone
  served up := by
    obtain ⟨present, _, cover⟩ := minded.served up
    exact ⟨present, rfl, cover⟩

/-- A thread that takes a free mutex finds nobody in a start. -/
theorem locks (minded : Minded c seen duties) {mutex : Mutex} (free : c.owner mutex = none) :
    Minded (c.setOwner (some thread) mutex) seen (Function.update duties thread (duties thread)) := by
  cases mutex with
  | connectionMutex =>
    have nobody (other : Thread) : (duties other).launch = .none := by
      by_contra launches
      have owner := ((minded.each other).guarded launches).1
      rw [owner_connectionMutex, owner] at free
      cases free
    exact minded.guards rfl rfl rfl rfl (.inl (nobody thread)) (.inl (nobody thread))
      (absurd (nobody thread)) fun other _ => nobody other
  | writeMutex => exact minded.rests ⟨rfl, rfl, rfl, rfl, rfl⟩ fun _ member _ => member

/-- A callback ends. When it was the outermost one of a handler and throws, the session is over. -/
theorem resumes (minded : Minded c seen duties) {callback : Callback} {answer : Answer}
    {value : Outcome Unit}
    (stepped : step policy thread (.endCallback callback) answer c = some (value, after))
    (calm : civil seen.2 answer.failure thread c (.endCallback callback) = true)
    {post : Outcome Unit → Duty → Prop}
    (holds : minding thread _ (.endCallback callback) post (duties thread)) :
    ∃ duty, post value duty ∧
      Minded after (beside endings nested thread _ (.endCallback callback) c seen)
        (Function.update duties thread duty) := by
  obtain ⟨busy, launch, awake, next⟩ := holds
  have unmoved := step_endCallback stepped
  have thrown (what : String) (failed : value = .error what) : answer.failure ≠ none := by
    subst failed
    intro fine
    simp [step, fine] at stepped
  subst unmoved
  let down := (duties thread).down || thread ≠ .io || after.state = .disconnected
  refine ⟨_, next (duties thread).lacks down value (fun _ => rfl) fun what failed outermost => ?_,
    minded.visits rfl rfl rfl rfl rfl rfl (fun _ _ member => member) id (fun away => if_neg away)
      (fun own => ?_) fun own past => ?_⟩
  · by_cases own : thread = .io
    · subst own
      have depth : seen.2 = 1 := minded.io.depth.symm.trans outermost
      have past : after.state = .disconnected := by
        simpa [civil, depth, thrown what failed] using calm
      simp [down, past]
    · simp [down, own]
  · subst own
    rw [minded.io.depth]
    rfl
  · subst own
    have gone : (duties .io).down = true ∨ after.state = .disconnected := by
      simpa [down] using past
    exact gone.imp id fun past => ⟨past, awake rfl⟩

/-- What one instruction does. -/
theorem acts (minded : Minded c seen duties) (torn : Torn native c seen.1 bearings) {β : Type}
    {operation : Op β} {answer : Answer} {value : β}
    (stepped : step policy thread operation answer c = some (value, after))
    (intime : timely seen.1 thread c operation = true)
    (calm : civil seen.2 answer.failure thread c operation = true) {early : β → Bearing → Prop}
    (tears : tearing native β operation early (bearings thread)) {post : β → Duty → Prop}
    (holds : minding thread β operation post (duties thread)) :
    ∃ duty, post value duty ∧ Minded after (beside endings nested thread β operation c seen)
      (Function.update duties thread duty) := by
  have here := torn.each thread
  have absent (other : Kind) (plain : ∀ state, watcher state ≠ other) (operation : Outstanding)
      (member : operation ∈ c.operations) (same : operation.kind = watcher c.state) :
      operation ∈ c.operations.map (·.cancel other) :=
    mem_cancel_other member (same ▸ plain c.state)
  cases operation
  case loadState =>
    cases stepped
    exact minded.loads holds
  case storeState value =>
    cases stepped
    exact minded.stores intime holds
  case makeWorkGuard =>
    cases stepped
    have owner := here.inside.mp tears.1
    exact ⟨_, holds.2, minded.guards rfl rfl rfl rfl (.inl holds.1) (.inr rfl) (fun _ => ⟨owner, rfl⟩)
      fun other away => minded.sole owner away⟩
  case dropWorkGuard =>
    cases stepped
    have owner := here.inside.mp tears.1
    exact ⟨_, holds.2, minded.guards rfl rfl rfl rfl (.inr holds.1) (.inl rfl) (absurd rfl)
      fun other away => minded.sole owner away⟩
  case startThread =>
    obtain ⟨guarded, busy, fails, starts⟩ := holds
    simp only [step] at stepped
    split at stepped
    · split at stepped
      · cases stepped
        exact ⟨_, fails _, minded.rests ⟨rfl, rfl, rfl, rfl, rfl⟩ fun _ member _ => member⟩
      · cases stepped
    · split at stepped
      · next free =>
        cases stepped
        have going : c.stopped = false := by simpa [civil] using calm
        exact ⟨_, starts, minded.launches free guarded (here.clear (.inr tears.1)).2
          (here.accepting tears.1).1 going⟩
      · cases stepped
  case expiresAfter timer milliseconds =>
    cases stepped
    exact minded.expires holds
  case asyncWait timer => exact minded.waits stepped calm holds
  case cancelTimer timer =>
    cases stepped
    exact minded.cancels torn tears holds
  case stop =>
    cases stepped
    have member := here.ending.mpr tears.1
    refine ⟨_, holds (), ?_⟩
    rw [Function.update_eq_self]
    refine minded.halts (torn.down (List.ne_nil_of_mem member)).1 (fun other spawned => ?_) rfl rfl rfl
      id
    exact List.ne_nil_of_mem member ((minded.each other).spawned spawned).2.1
  case join =>
    refine ⟨_, holds value, ?_⟩
    rw [Function.update_eq_self]
    exact minded.joins stepped
  case restart =>
    cases stepped
    refine ⟨_, holds (), ?_⟩
    rw [Function.update_eq_self]
    exact minded.restarts
  case hasHook hook =>
    cases stepped
    exact ⟨_, holds (c.hooks hook), minded.visits rfl rfl rfl rfl rfl rfl (fun _ => mem_ended)
      ended_nil (fun _ => rfl) (fun own => own ▸ minded.io.depth) fun own down => .inl (own ▸ down)⟩
  case beginCallback callback =>
    cases stepped
    refine ⟨_, holds, minded.visits rfl rfl rfl rfl rfl rfl (fun _ => mem_ended)
      ended_nil (fun away => if_neg away) (fun own => ?_) fun own down => .inl (own ▸ down)⟩
    subst own
    rw [minded.io.depth]
    rfl
  case endCallback callback =>
    exact minded.resumes stepped calm holds
  case lock mutex =>
    obtain ⟨free, rfl⟩ := step_lock stepped
    exact ⟨_, holds (), minded.locks free⟩
  case unlock mutex =>
    cases stepped
    cases mutex with
    | connectionMutex =>
      have owner := here.inside.mp tears.1
      exact ⟨_, holds.2, minded.guards rfl rfl rfl rfl (.inl holds.1) (.inl holds.1) (absurd holds.1)
        fun other away => minded.sole owner away⟩
    | writeMutex =>
      exact ⟨_, holds, minded.rests ⟨rfl, rfl, rfl, rfl, rfl⟩ fun _ member _ => member⟩
  case cancelResolve =>
    cases stepped
    exact ⟨_, holds (), minded.rests ⟨rfl, rfl, rfl, rfl, rfl⟩ (absent _ watcher_ne_resolve)⟩
  case closeSocket =>
    cases stepped
    exact ⟨_, holds (), minded.rests ⟨rfl, rfl, rfl, rfl, rfl⟩ (absent _ watcher_ne_receive)⟩
  all_goals
    simp only [step] at stepped
    (repeat' split at stepped) <;> cases stepped <;> first
      | exact ⟨_, holds _, minded.rests ⟨rfl, rfl, rfl, rfl, rfl⟩ fun _ member _ => member⟩
      | exact ⟨_, holds _, minded.rests ⟨rfl, rfl, rfl, rfl, rfl⟩ fun _ member _ =>
          List.mem_append_left _ member⟩

/-- A thread of the application begins. -/
theorem begins (minded : Minded c seen duties) {id : Nat} (resting : duties (.app id) = offDuty) :
    Minded c seen (Function.update duties (.app id) { offDuty with busy := true }) :=
  minded.moves rfl rfl rfl rfl rfl (fun _ _ member => member) (fun nobody => nobody) (fun _ => rfl)
    (fun launches => absurd rfl launches) (fun spawned => by cases spawned)
    (fun started => by rw [resting] at started; cases started) (fun ends => by cases ends)
    (fun own => by cases own) (fun own => by cases own) (fun _ => .inl) fun _ own => by cases own

/-- The background thread takes an operation out of the queue, and owes it from then on. -/
theorem takes (minded : Minded c seen duties) {before rest : List Outstanding}
    {operation : Outstanding} {completion : Completion}
    (found : c.operations = before ++ operation :: rest)
    (queued : operation.completion = some completion) (going : c.stopped = false)
    (resting : duties .io = offDuty) :
    Minded (dequeued before rest c) seen (Function.update duties .io
      { offDuty with busy := true, lacks := owing operation.kind completion }) where
  io := by
    rw [Function.update_self]
    have depth := minded.io.depth
    rw [resting] at depth
    exact ⟨fun _ => rfl, fun idle => (by cases idle), fun _ same => (by cases same),
      fun down => (by cases down), depth⟩
  each := by
    refine update_each _
      ⟨absurd rfl, fun spawned => (by cases spawned), fun ends => (by cases ends)⟩
      fun other _ => ⟨(minded.each other).guarded, fun spawned => ?_, (minded.each other).ending⟩
    obtain ⟨down, nobody, _, still⟩ := (minded.each other).spawned spawned
    exact ⟨down, nobody, .inr rfl, still⟩
  alone awake := by
    rw [Function.update_self] at awake
    exact absurd rfl awake
  served up := by
    refine ⟨.inr rfl, going, ?_⟩
    rw [Function.update_self]
    rcases (minded.served up).watched with watched | ⟨other, started, early⟩ | owes
    · exact (watched.dequeued found queued).imp id .inr
    · refine .inr (.inl ⟨other, update_started started fun own => ?_, early⟩)
      rw [own, resting] at started
      cases started
    · rw [resting] at owes
      cases owes

/-- A job ends, and with a handler whose exception leaves `run()` no session is up. -/
theorem leaves (minded : Minded c seen duties) (state : after.state = c.state)
    (stopped : after.stopped = c.stopped) (connectionMutex : after.connectionMutex = c.connectionMutex)
    (workGuard : after.workGuard = c.workGuard) (operations : after.operations = c.operations)
    (launch : (duties thread).launch = .none) (depth : (duties thread).depth = 0)
    (away : thread ≠ .io → after.ioThread = c.ioThread)
    (own : thread = .io → after.ioThread = .running ∧ (duties .io).lacks = none ∨
      (duties .io).down = true) :
    Minded after seen (Function.update duties thread offDuty) := by
  by_cases here : thread = .io
  · subst here
    have past : after.ioThread = .running ∧ (duties .io).lacks = none ∨
        c.state = .disconnected ∧ ∀ other, (duties other).launch ≠ .spawned :=
      (own rfl).imp id fun down => ⟨(minded.io.down down).1, minded.alone (minded.io.down down).2⟩
    refine ⟨?_, update_each _ ?_ fun other _ => ?_, fun awake => ?_, fun up => ?_⟩
    · rw [Function.update_self]
      exact ⟨fun works => (by cases works), fun _ => ⟨rfl, rfl⟩, fun _ same => (by cases same),
        fun down => (by cases down), depth.symm.trans minded.io.depth⟩
    · exact ⟨absurd rfl, fun spawned => (by cases spawned), fun ends => (by cases ends)⟩
    · refine ⟨fun launches => ?_, fun spawned => ?_, (minded.each other).ending⟩
      · rw [connectionMutex, workGuard]
        exact (minded.each other).guarded launches
      · obtain ⟨down, nobody, _, going⟩ := (minded.each other).spawned spawned
        rw [state, stopped]
        rcases past with ⟨running, _⟩ | ⟨_, unspawned⟩
        · exact ⟨down, nobody, .inl running, going⟩
        · exact absurd spawned (unspawned other)
    · rw [Function.update_self] at awake
      exact absurd rfl awake
    · rw [state] at up
      obtain ⟨_, going, cover⟩ := minded.served up
      obtain ⟨running, free⟩ := past.resolve_right fun both => up both.1
      refine ⟨.inl running, stopped.trans going, ?_⟩
      rw [state]
      rcases cover with watched | ⟨other, started, early⟩ | owes
      · exact .inl (watched.kept state fun operation member _ => operations ▸ member)
      · refine .inr (.inl ⟨other, update_started started fun same => ?_, early⟩)
        rw [same] at started
        cases launch.symm.trans started
      · cases free.symm.trans owes
  · refine minded.moves state (away here) stopped connectionMutex workGuard
      (fun _ _ member => member) (fun nobody => nobody) (fun _ => rfl)
      (fun launches => absurd rfl launches) (fun spawned => by cases spawned)
      (fun started => by rw [launch] at started; cases started) (fun ends => by cases ends)
      (fun own => absurd own here) (fun own => absurd own here)
      (fun _ watched => .inl (watched.kept state fun operation member _ => operations ▸ member))
      fun _ own => absurd own here

/-- An operation completes, a datagram arrives, or `run()` returns when there is nothing to do. -/
theorem happens (minded : Minded c seen duties) {happening : Happening}
    (happened : Client.happens happening c = some after) : Minded after seen duties := by
  cases happening with
  | completes index completion =>
    simp only [Client.happens] at happened
    split at happened
    · cases happened
    · next found =>
      split at happened
      · next fits =>
        cases happened
        exact minded.rewatched rfl rfl rfl rfl rfl fun watched =>
          watched.completed (parted found) fits.2.1
      · cases happened
  | arrives index sender data =>
    simp only [Client.happens] at happened
    split at happened
    · cases happened
    · next found =>
      split at happened
      · cases happened
        exact minded.rewatched rfl rfl rfl rfl rfl fun watched =>
          watched.completed (parted found) (by simp)
      · cases happened
  | leaves =>
    simp only [Client.happens] at happened
    split at happened
    · next both =>
      cases happened
      have nobody : ¬ (c.state ≠ .disconnected ∨ ∃ thread, (duties thread).launch = .spawned) := by
        intro some
        cases both.2.symm.trans (minded.stays both.1 some)
      exact minded.halts (by_contra fun up => nobody (.inl up))
        (fun thread spawned => nobody (.inr ⟨thread, spawned⟩)) rfl rfl rfl
        fun handling => by cases both.1.symm.trans handling
    · cases happened

end Minded

/-- A call ends outside of a start, and as deep in callbacks as it began. -/
theorem Minds.keeps {α : Type} {id : Nat} {program : Method α}
    (minds : Minds (.app id) 0 none none program) {rest : Outcome α → Client → Client}
    (aside : ∀ outcome c, ∃ waits, rest outcome c = { c with waits := waits }) :
    minded.Keeps (.app id) (program.settle fun outcome => .ret (rest outcome))
      { offDuty with busy := true } := by
  unfold Discipline.Keeps
  rw [wp_settle]
  have leaves (outcome : Outcome α) (duty : Duty) (dutiful : Dutiful 0 none none duty) :
      minded.ended (.app id) (rest outcome) duty := by
    refine ⟨fun c => ?_, dutiful.launch, dutiful.depth⟩
    obtain ⟨waits, same⟩ := aside outcome c
    rw [same]
    exact ⟨rfl, rfl, rfl, rfl, rfl, fun _ => rfl, fun own => (by cases own)⟩
  exact minds _ _ ⟨rfl, rfl, rfl, rfl, fun some => absurd rfl some⟩ (fun _ => leaves _)
    fun _ duty fallen => leaves _ duty fallen.1

theorem handler_keeps (kind : Kind) (completion : Completion) :
    minded.Keeps .io ((handler native kind completion).settle fun outcome => .ret (resting outcome))
      { offDuty with busy := true, lacks := owing kind completion } := by
  unfold Discipline.Keeps
  rw [wp_settle]
  refine handler_done kind completion _ _ ⟨rfl, rfl, rfl, rfl, fun _ => rfl⟩
    (fun _ duty done => ?_) fun _ duty threw => ?_
  · obtain ⟨stage, dutiful⟩ := done
    exact ⟨fun c => ⟨rfl, rfl, rfl, rfl, rfl, absurd rfl, fun _ => .inl ⟨rfl,
      by_contra fun some => some (dutiful.lacks some)⟩⟩, dutiful.launch, dutiful.depth⟩
  · obtain ⟨stage, lacks, dutiful, down⟩ := threw
    exact ⟨fun c => ⟨rfl, rfl, rfl, rfl, rfl, absurd rfl, fun _ => .inr (down rfl)⟩, dutiful.launch,
      dutiful.depth⟩

end

/-- A turn that acts on what still holds, and whose exceptions do no harm. -/
def Mindful (rules : Rules) (seen : Endings × Nat) (turn : Turn) : Prop :=
  Unhurried seen.1 turn ∧ Civil seen.2 turn ∧
    ∃ bearings, Guided (torn rules.native) turn.before seen.1 bearings

theorem threads_minded (rules : Rules) : Respects (threads rules) minded (Mindful rules) where
  monotone := minding_monotone
  begins {config seen duties thread job after task} guided idle begun _ := by
    have rested := guided.resting thread idle
    cases begins_cases begun with
    | call =>
      exact ⟨_, (publicCall_minds (fun own => by cases own) _).keeps fun _ c => ⟨c.waits, rfl⟩,
        guided.joint.begins rested⟩
    | connectSync =>
      refine ⟨_, (publicCall_minds (fun own => by cases own) _).keeps fun outcome c => ?_,
        guided.joint.begins rested⟩
      unfold entering
      split
      · exact ⟨_, rfl⟩
      · exact ⟨c.waits, rfl⟩
    | awaits =>
      refine ⟨_, (awaitConnection_minds fun own => by cases own).keeps fun outcome c => ?_,
        guided.joint.begins rested⟩
      cases outcome with
      | ok result => exact ⟨_, rfl⟩
      | error what => exact ⟨c.waits, rfl⟩
    | handles found queued running going =>
      exact ⟨_, handler_keeps _ _, guided.joint.takes (parted found) queued going rested⟩
  acts {config seen duties thread job β operation next answer value after} guided works stepped may
      post holds := by
    obtain ⟨intime, calm, bearings, tears⟩ := may
    exact guided.joint.acts tears.joint stepped ((executing_acts works).symm.trans intime)
      ((executing_acts works).symm.trans calm) (tears.working _ _ _ works) holds
  nests {config seen duties thread job β operation next made} guided works allowed may post holds := by
    clear may
    cases operation <;> try exact allowed.elim
    case endCallback callback =>
      obtain ⟨busy, launch, awake, next⟩ := holds
      have minds : Minds thread (duties thread).depth (duties thread).stage (duties thread).lacks
          ((threads rules).body made) :=
        .bind (publicCall_minds awake made) fun _ => .ret ()
      have back (after : Duty) (dutiful : Dutiful (duties thread).depth (duties thread).stage
          (duties thread).lacks after) : minding thread _ (.endCallback callback) post after := by
        refine ⟨dutiful.busy, dutiful.launch, fun own => dutiful.stage.symm ▸ awake own,
          fun lacks down outcome fewer fallen => ?_⟩
        have same : { after with
              lacks := lacks
              ending := false
              down := down
              depth := after.depth - 1 } =
            { duties thread with
              lacks := lacks
              ending := false
              down := down
              depth := (duties thread).depth - 1 } := by
          dsimp only
          rw [dutiful.busy, dutiful.launch, dutiful.stage, dutiful.depth, busy, launch]
        rw [same]
        refine next lacks down outcome (fun some => ?_) fun what failed outermost =>
          fallen what failed (dutiful.depth.trans outermost)
        have kept := fewer some
        rw [kept]
        exact dutiful.lacks (kept ▸ some)
      exact minds _ _ ⟨busy, launch, rfl, rfl, fun _ => rfl⟩ (fun _ => back)
        fun _ after fallen => back after fallen.1
  ends {config seen duties thread job finish} guided works _ ended := by
    obtain ⟨aside, launch, depth⟩ := ended
    obtain ⟨mutex, state, stopped, guard, operations, away, own⟩ := aside config.shared
    refine guided.joint.leaves state stopped mutex guard operations launch depth away fun here => ?_
    subst here
    exact own rfl
  happens guided happened _ := guided.joint.happens happened

theorem Minded.start (dmrId : UInt32) (description : Bytes) (hooks : Hook → Bool) :
    Minded (fresh dmrId description hooks) (unended, 0) fun _ => minded.idle where
  io := ⟨fun works => (by cases works), fun _ => ⟨rfl, rfl⟩, fun _ same => (by cases same),
    fun down => (by cases down), rfl⟩
  each _ := ⟨absurd rfl, fun spawned => (by cases spawned), fun ends => (by cases ends)⟩
  alone awake := absurd rfl awake
  served up := absurd rfl up

/-- However the threads interleave, and whatever callbacks call or throw: whenever the background
thread is not in `run()` the session is over, as long as no thread acts on a `state_` that has changed
since, and no callback of a handler throws while a session is up. -/
theorem unserviced_over_if_civil {rules : Rules} {dmrId : UInt32} {description : Bytes}
    {hooks : Hook → Bool} {turns : List Turn} {last : Config Op Client Thread Job}
    (run : Effects.Run (threads rules).Step (unworked (fresh dmrId description hooks)) turns last)
    (unhurried : Always (fun earlier => Unhurried (history endings unended earlier)) turns)
    (civil : Always (fun earlier => Civil (history nested 0 earlier)) turns)
    (absent : last.shared.ioThread ≠ .running ∧ last.shared.ioThread ≠ .handling) :
    last.shared.state = .disconnected := by
  have torn := (threads_torn rules).always
    (@Guided.start Op Client Thread Job _ _ (torn rules.native) unended _
      (Torn.start rules.native dmrId description hooks)) run unhurried
  have begun := @Guided.start Op Client Thread Job _ _ minded (unended, 0) _
    (Minded.start dmrId description hooks)
  have mindful : Always (fun earlier => Mindful rules (history minded.scribe (unended, 0) earlier))
      turns := by
    intro earlier turn later parts
    have split : history minded.scribe (unended, 0) earlier =
        (history endings unended earlier, history nested 0 earlier) :=
      history_beside endings nested (unended, 0) earlier
    rw [split]
    exact ⟨unhurried earlier turn later parts, civil earlier turn later parts,
      torn earlier turn later parts⟩
  obtain ⟨duties, guided⟩ := (threads_minded rules).run begun run mindful
  by_contra up
  exact (guided.joint.served up).present.elim absent.1 absent.2

/-- Callbacks that may throw and make no calls. -/
def throwingRules : Rules where
  native := .little
  policy := { startupThrows := false, throws := fun _ => true }
  nests := fun _ _ => False

instance : ∀ (β : Type) (operation : Op β) (made : PublicCall),
    Decidable ((threads throwingRules).nests operation made) :=
  fun _ operation made => isFalse (by cases operation <;> exact id)

/-- A callback that throws. -/
def throwing : Answer := { failure := some "callback" }

/-- `onDisconnected` throws out of the handler of the connect timeout. -/
def timeoutTurns : List (Action Answer Thread Job PublicCall Happening) :=
  throughout (.app 0) (.call (.connect "master" 54006 [0x70] 1000)) 19 ++
    .happens (.completes 0 {}) :: .begins .io (.handles 0) :: List.replicate 17 (.acts .io {}) ++
    [.acts .io throwing, .acts .io {}, .ends .io]

theorem unserviced_over_at_timeout : ∃ (turns : List Turn) (last : Config Op Client Thread Job),
    Effects.Run (threads throwingRules).Step (unworked attentive) turns last ∧
      last.shared.ioThread = .exited ∧ last.shared.state = .disconnected := by
  obtain ⟨turns, last, run, checked⟩ := threads_checked throwingRules (unworked attentive) timeoutTurns
    (fun turns last => last.shared.ioThread = .exited ∧ Along endings Unhurried unended turns ∧
      Along nested Civil 0 turns) (by decide +kernel)
  obtain ⟨exited, unhurried, civil⟩ := of_decide_eq_true checked
  exact ⟨turns, last, run, exited, unserviced_over_if_civil run unhurried.always civil.always
    (by simp [exited])⟩

/-- The handshake up to `onConnected`, which throws. -/
def zombieTurns : List (Action Answer Thread Job PublicCall Happening) :=
  handshakeTurns.take (handshakeTurns.length - 3) ++ [.acts .io throwing, .ends .io]

/-- The session stays CONNECTED with nobody to service it. -/
theorem connected_unserviced :
    ¬ ∀ (rules : Rules) (dmrId : UInt32) (description : Bytes) (hooks : Hook → Bool)
      (turns : List Turn) (last : Config Op Client Thread Job),
      Effects.Run (threads rules).Step (unworked (fresh dmrId description hooks)) turns last →
        last.shared.ioThread ≠ .running ∧ last.shared.ioThread ≠ .handling →
          last.shared.state = .disconnected := by
  intro claim
  obtain ⟨turns, last, run, checked⟩ := threads_checked throwingRules (unworked attentive) zombieTurns
    (fun _ last => last.shared.ioThread = .exited ∧ last.shared.state = .connected)
    (by decide +kernel)
  obtain ⟨exited, connected⟩ := of_decide_eq_true checked
  have down := claim throwingRules _ _ _ turns last run (by simp [exited])
  rw [connected] at down
  cases down

end OpenDTP.Client
