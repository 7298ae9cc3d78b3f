import OpenDTP.Client.Resources
import OpenDTP.Protocol.Portable

/-! A session that is CONNECTED has an open socket, in every run whose callbacks make no calls. The
difficulty is a datagram left over from an earlier session: it may start the authentication of a
session that has no socket yet. The handshake then goes no further, since without a socket nothing
else can arrive. -/

namespace OpenDTP.Client
open Common Protocol Effects

/-- Whatever datagram is read from the front of this buffer is a challenge. -/
def Challenging (native : Endian) (buffer : Bytes) : Prop :=
  ∀ size header, deserializeHeader native (buffer.take size) = some header →
    header.type = .challenge

structure Plumbed (native : Endian) (c : Client) : Prop where
  down : c.state = .disconnected → c.socketOpen = false
  deaf : c.socketOpen = false → ∀ operation ∈ c.operations, operation.kind = .receive →
    operation.completion ≠ none
  premature : c.socketOpen = false → c.state = .authenticating → Challenging native c.receiveBuffer
  up : c.state = .connected → c.socketOpen = true

/-- The session, its socket and its buffer are as they were, and no receive was started. -/
structure Unmoved (c after : Client) : Prop where
  state : after.state = c.state
  socketOpen : after.socketOpen = c.socketOpen
  receiveBuffer : after.receiveBuffer = c.receiveBuffer
  operations : ∀ operation ∈ after.operations, operation.kind = .receive →
    operation.completion = none → operation ∈ c.operations

theorem Unmoved.of_same {c after : Client} (state : after.state = c.state)
    (socketOpen : after.socketOpen = c.socketOpen)
    (receiveBuffer : after.receiveBuffer = c.receiveBuffer)
    (operations : after.operations = c.operations) : Unmoved c after :=
  ⟨state, socketOpen, receiveBuffer, fun operation member _ _ => by rwa [operations] at member⟩

theorem Unmoved.trans {first second third : Client} (early : Unmoved first second)
    (late : Unmoved second third) : Unmoved first third :=
  ⟨late.state.trans early.state, late.socketOpen.trans early.socketOpen,
    late.receiveBuffer.trans early.receiveBuffer, fun operation member receives pending =>
      early.operations operation (late.operations operation member receives pending) receives
        pending⟩

section

variable {native : Endian} {policy : Policy} {c after : Client} {outcome : Outcome Unit}

theorem Plumbed.unmoved (plumbed : Plumbed native c) (unmoved : Unmoved c after) :
    Plumbed native after where
  down here := by
    rw [unmoved.socketOpen]
    exact plumbed.down (unmoved.state.symm.trans here)
  deaf shut operation member receives pending :=
    plumbed.deaf (unmoved.socketOpen.symm.trans shut) operation
      (unmoved.operations operation member receives pending) receives pending
  premature shut here := by
    rw [unmoved.receiveBuffer]
    exact plumbed.premature (unmoved.socketOpen.symm.trans shut) (unmoved.state.symm.trans here)
  up here := by
    rw [unmoved.socketOpen]
    exact plumbed.up (unmoved.state.symm.trans here)

theorem Down.plumbed (down : Down c) : Plumbed native c where
  down _ := down.socketOpen
  deaf _ operation member _ := down.completed operation member
  premature _ here := by cases down.state.symm.trans here
  up here := by cases down.state.symm.trans here

/-- An open socket settles everything while the session is up. -/
theorem Plumbed.of_open (isOpen : c.socketOpen = true) (up : c.state ≠ .disconnected) :
    Plumbed native c where
  down here := absurd here up
  deaf shut := by cases isOpen.symm.trans shut
  premature shut := by cases isOpen.symm.trans shut
  up _ := isOpen

theorem Transmits.unmoved {type : MessageType} {flag : UInt16} {payload : Bytes}
    (transmits : Transmits native policy type flag payload c outcome after) : Unmoved c after := by
  cases transmits <;> exact .of_same rfl rfl rfl rfl

theorem complained_unmoved (error : ClientError) (message : String) (c : Client) :
    Unmoved c (complained error message c) := .of_same rfl rfl rfl rfl

theorem Fails.plumbed {error : ClientError} {message : String} (plumbed : Plumbed native c)
    (fails : Fails native policy error message c outcome after) : Plumbed native after := by
  cases fails with
  | threw => exact plumbed.unmoved (complained_unmoved error message c)
  | ended ec =>
    have finished : Down (tornDown native ec (complained error message c)) := tornDown_down ec _
    exact finished.plumbed.unmoved (.of_same rfl rfl rfl rfl)
  | leftEarly ec => exact (tornDown_down ec (complained error message c)).plumbed

theorem TimesOut.plumbed {ec : ErrorCode} (plumbed : Plumbed native c)
    (ran : TimesOut native policy ec c outcome after) : Plumbed native after := by
  cases ran with
  | inert => exact plumbed
  | failed _ _ fails => exact fails.plumbed plumbed

theorem Resolves.plumbed {ec : ErrorCode} {endpoints : List Endpoint} (plumbed : Plumbed native c)
    (ran : Resolves native policy ec endpoints c outcome after) : Plumbed native after := by
  cases ran with
  | inert => exact plumbed
  | unresolved _ _ _ fails => exact fails.plumbed plumbed
  | unopened endpoint openEc _ _ _ _ fails =>
    have aimed : Unmoved c (targeted endpoint openEc c) := .of_same rfl rfl rfl rfl
    exact fails.plumbed (plumbed.unmoved aimed)
  | unbound endpoint bindEc _ connecting _ _ _ fails =>
    exact fails.plumbed (.of_open rfl (by simp [opened, connecting]))
  | started endpoint connecting _ _ _ transmits =>
    have ready : Plumbed native (receiving (opened endpoint .success c)) :=
      .of_open rfl (by simp [receiving, opened, connecting])
    exact ready.unmoved transmits.unmoved

theorem cancel_receive {kind : Kind} (other : kind ≠ .receive) {operations : List Outstanding}
    {operation : Outstanding} (member : operation ∈ operations.map (·.cancel kind))
    (receives : operation.kind = .receive) : operation ∈ operations := by
  obtain ⟨old, here, rfl⟩ := List.mem_map.mp member
  rw [cancel_kind] at receives
  rw [Outstanding.cancel, if_neg (fun same => other (same.1.symm.trans receives))]
  exact here

theorem armed_unmoved (c : Client) : Unmoved c (armed c) := by
  refine ⟨rfl, rfl, rfl, fun operation member receives pending => ?_⟩
  rcases List.mem_append.mp member with old | new
  · exact cancel_receive (by decide) old receives
  · rw [List.mem_singleton.mp new] at receives
    cases receives

theorem KeepsAlive.plumbed {ec : ErrorCode} (plumbed : Plumbed native c)
    (ran : KeepsAlive native policy ec c outcome after) : Plumbed native after := by
  cases ran with
  | inert => exact plumbed
  | threw _ transmits => exact plumbed.unmoved transmits.unmoved
  | beat _ transmits => exact plumbed.unmoved (transmits.unmoved.trans (armed_unmoved _))

/-! ### Datagrams -/

/-- The header stands in the first eighteen bytes, however many were received. -/
theorem deserializeHeader_take {buffer : Bytes} {first second : Nat} {one two : Header}
    (here : deserializeHeader native (buffer.take first) = some one)
    (there : deserializeHeader native (buffer.take second) = some two) : one = two := by
  have front {size : Nat} {header : Header}
      (decoded : deserializeHeader native (buffer.take size) = some header) :
      serializeHeader native header = buffer.take 18 := by
    have written := serializeHeader_deserializeHeader native decoded
    have length := congrArg List.length written
    rw [length_serializeHeader, List.length_take, List.length_take] at length
    rw [written, List.take_take]
    by_cases enough : 18 ≤ size
    · rw [Nat.min_eq_left enough]
    · omega
  have same := (front here).trans (front there).symm
  have read := deserializeHeader_serializeHeader native one []
  rw [same, deserializeHeader_serializeHeader] at read
  exact (Option.some.inj read).symm

/-- A challenge in the buffer is what every reading of the buffer finds. -/
theorem Challenging.of_wellFormed {buffer : Bytes} {size : Nat} {header : Header} {payload : Bytes}
    (parsed : wellFormed native (buffer.take size) = some (header, payload))
    (isChallenge : header.type = .challenge) : Challenging native buffer := by
  intro other found decoded
  unfold wellFormed at parsed
  split at parsed
  · cases parsed
  · next first here =>
    split at parsed
    · cases parsed
    · cases parsed
      rw [deserializeHeader_take decoded here]
      exact isChallenge

theorem Reports.unmoved {callback : Callback}
    (reports : Reports policy quiet callback c outcome after) : Unmoved c after := by
  cases reports with
  | unset => exact .of_same rfl rfl rfl rfl
  | done _ ran =>
    cases ran
    exact .of_same rfl rfl rfl rfl
  | threw _ _ ran =>
    cases ran
    exact .of_same rfl rfl rfl rfl

theorem Processes.plumbed {size : Nat} (plumbed : Plumbed native c)
    (processes : Processes native policy quiet (c.receiveBuffer.take size) c outcome after) :
    Plumbed native after := by
  cases processes with
  | ignored => exact plumbed
  | answered parsed isChallenge connecting transmits =>
    have challenging := Challenging.of_wellFormed parsed isChallenge
    have answering : Plumbed native (challenged c) := by
      refine ⟨fun down => ?_, plumbed.deaf, fun _ _ => challenging, fun up => ?_⟩
      · cases down
      · cases up
    exact answering.unmoved transmits.unmoved
  | @admitted header payload _ _ parsed isKeepAlive _ authenticating reports =>
    have isOpen : c.socketOpen = true := by
      by_contra shut
      have challenging := plumbed.premature (by simpa using shut) authenticating
      have type : header.type = .challenge := by
        unfold wellFormed at parsed
        split at parsed
        · cases parsed
        · next first here =>
          split at parsed
          · cases parsed
          · cases parsed
            exact challenging size _ here
      rw [isKeepAlive] at type
      cases type
    exact (Plumbed.of_open isOpen (by simp [welcomed]) : Plumbed native (welcomed c)).unmoved
      reports.unmoved
  | delivered _ _ _ reports => exact plumbed.unmoved reports.unmoved

theorem resumed_plumbed (plumbed : Plumbed native c) : Plumbed native (resumed c) := by
  unfold resumed
  split
  · exact plumbed
  · next going =>
    rw [not_or] at going
    exact .of_open (by simpa [receiving] using going.2) going.1

theorem Receives.plumbed {ec : ErrorCode} {size : Nat} (plumbed : Plumbed native c)
    (ran : Receives native policy quiet ec size c outcome after) : Plumbed native after := by
  have looked : Plumbed native (inspected (c.receiveBuffer.take size) c) :=
    plumbed.unmoved (.of_same rfl rfl rfl rfl)
  cases ran with
  | inert => exact plumbed
  | complaintThrew message => exact plumbed.unmoved (complained_unmoved _ message c)
  | broke message _ _ _ ended => exact ended.down.1.plumbed
  | empty => exact resumed_plumbed plumbed
  | foreign => exact resumed_plumbed looked
  | processed _ _ _ _ processes => exact resumed_plumbed (Processes.plumbed looked processes)
  | threw _ _ _ _ processes => exact Processes.plumbed looked processes

theorem Handles.plumbed {kind : Kind} {completion : Completion} (plumbed : Plumbed native c)
    (ran : Handles native policy quiet completion c kind outcome after) : Plumbed native after := by
  cases ran with
  | connectTimeout ran => exact ran.plumbed plumbed
  | resolve ran => exact ran.plumbed plumbed
  | receive ran => exact ran.plumbed plumbed
  | keepAlive ran => exact ran.plumbed plumbed

/-! ### Calls -/

theorem Sends.unmoved (sends : Sends native policy c outcome after) : Unmoved c after := by
  induction sends with
  | done c => exact .of_same rfl rfl rfl rfl
  | inCall value _ ih => exact ⟨ih.state, ih.socketOpen, ih.receiveBuffer, ih.operations⟩
  | recount _ ih => exact ⟨ih.state, ih.socketOpen, ih.receiveBuffer, ih.operations⟩
  | passed _ _ transmits _ ih => exact transmits.unmoved.trans ih
  | threw _ _ transmits => exact transmits.unmoved

/-- A session that begins or fails to begin has no socket yet. -/
theorem Plumbed.of_idle (plumbed : Plumbed native c) (down : c.state = .disconnected)
    (socketOpen : after.socketOpen = c.socketOpen)
    (operations : ∀ operation ∈ after.operations, operation.kind = .receive →
      operation ∈ c.operations)
    (state : after.state = .connecting ∨ after.state = .disconnected) : Plumbed native after := by
  have shut : after.socketOpen = false := socketOpen.trans (plumbed.down down)
  refine ⟨fun _ => shut, fun _ operation member receives => ?_, fun _ here => ?_, fun here => ?_⟩
  · exact plumbed.deaf (plumbed.down down) operation (operations operation member receives) receives
  · rcases state with same | same <;> cases same.symm.trans here
  · rcases state with same | same <;> cases same.symm.trans here

theorem receive_of_started {operation : Outstanding} (member : operation ∈ (started c).operations)
    (receives : operation.kind = .receive) : operation ∈ c.operations :=
  cancel_receive (by decide) member receives

theorem receive_of_timed {operation : Outstanding}
    (member : operation ∈ (timed (started c)).operations) (receives : operation.kind = .receive) :
    operation ∈ c.operations := by
  rcases List.mem_append.mp member with old | new
  · exact receive_of_started old receives
  · rw [List.mem_singleton.mp new] at receives
    cases receives

theorem receive_of_launched {operation : Outstanding}
    (member : operation ∈ (launched (timed (started c))).operations)
    (receives : operation.kind = .receive) : operation ∈ c.operations := by
  rcases List.mem_append.mp member with old | new
  · exact receive_of_timed old receives
  · rw [List.mem_singleton.mp new] at receives
    cases receives

theorem Stalls.receive {middle : Client} (stalls : Stalls c middle) {operation : Outstanding}
    (member : operation ∈ middle.operations) (receives : operation.kind = .receive) :
    operation ∈ c.operations := by
  cases stalls with
  | noThread => exact member
  | noTimer => exact receive_of_started member receives
  | noResolve => exact receive_of_timed member receives

theorem Stalls.socketOpen {middle : Client} (stalls : Stalls c middle) :
    middle.socketOpen = c.socketOpen := by
  cases stalls <;> rfl

theorem Connects.plumbed {password : Bytes} {result : Outcome ClientError}
    (plumbed : Plumbed native c) (connects : Connects policy password c result after) :
    Plumbed native after := by
  cases connects with
  | rejected => exact plumbed
  | begun down =>
    exact plumbed.of_idle down rfl (fun _ => receive_of_launched (c := accepted password c))
      (.inl rfl)
  | failed what down _ stalls =>
    exact plumbed.of_idle down stalls.socketOpen (fun _ => stalls.receive) (.inr rfl)
  | threw what other down _ stalls =>
    exact plumbed.of_idle down stalls.socketOpen (fun _ => stalls.receive) (.inr rfl)

theorem Disconnects.plumbed {thread : Thread} (plumbed : Plumbed native c)
    (disconnects : Disconnects native policy thread c outcome after) : Plumbed native after := by
  have joined {middle : Client} (joins : Joins thread middle after) : Unmoved middle after := by
    cases joins <;> exact .of_same rfl rfl rfl rfl
  cases disconnects with
  | idle _ joins => exact plumbed.unmoved (joined joins)
  | ended _ ended joins => exact ended.down.1.plumbed.unmoved (joined joins)
  | threw _ _ ended => exact ended.down.1.plumbed

theorem Performs.plumbed {thread : Thread} {call : PublicCall}
    {result : Outcome (Option ClientError)} (plumbed : Plumbed native c)
    (performs : Performs native policy thread c call result after) : Plumbed native after := by
  have begun : Plumbed native { c with log := c.log ++ [.called call] } :=
    plumbed.unmoved (.of_same rfl rfl rfl rfl)
  have ran {outcome : Outcome (Option ClientError)} {middle : Client}
      (calls : Calls native policy thread { c with log := c.log ++ [.called call] } call outcome
        middle) : Plumbed native middle := by
    cases calls with
    | connect connects => exact connects.plumbed begun
    | disconnect disconnects => exact disconnects.plumbed begun
    | sends _ _ sends => exact begun.unmoved sends.unmoved
  cases performs with
  | returned calls => exact (ran calls).unmoved (.of_same rfl rfl rfl rfl)
  | threw calls => exact ran calls

theorem completed_unmoved {before rest : List Outstanding} {operation : Outstanding}
    {completion : Completion} (found : c.operations = before ++ operation :: rest) :
    Unmoved c (completed before operation rest completion c) := by
  refine ⟨rfl, rfl, rfl, fun other member _ pending => ?_⟩
  rw [found]
  rcases List.mem_append.mp member with early | late
  · exact List.mem_append_left _ early
  · rcases List.mem_cons.mp late with rfl | later
    · cases pending
    · exact List.mem_append_right _ (List.mem_cons_of_mem _ later)

end

theorem Step.plumbed {rules : Rules} (plain : rules.Plain) {c after : Client} {label : Label}
    (plumbed : Plumbed rules.native c) (step : Step rules c label after) :
    Plumbed rules.native after := by
  cases step.plain plain with
  | call _ performs => exact performs.plumbed plumbed
  | connectSync _ performs =>
    unfold entering
    split
    · exact (performs.plumbed plumbed).unmoved (.of_same rfl rfl rfl rfl)
    · exact performs.plumbed plumbed
  | awaits => exact plumbed.unmoved (.of_same rfl rfl rfl rfl)
  | @handles after before rest operation completion outcome found _ _ _ handles =>
    have taken : Unmoved c (dequeued before rest c) :=
      ⟨rfl, rfl, rfl, fun other member _ _ => mem_dequeued found member⟩
    exact (Handles.plumbed (plumbed.unmoved taken) handles).unmoved (.of_same rfl rfl rfl rfl)
  | completes found => exact plumbed.unmoved (completed_unmoved found)
  | @arrives before rest operation sender data found pending receives =>
    -- Something was listening, so the socket is open and the buffer may change.
    have isOpen : c.socketOpen = true := by
      by_contra shut
      exact plumbed.deaf (by simpa using shut) _ (mem_found found) receives pending
    have listening : Plumbed rules.native
        (completed before operation rest { bytesTransferred := data.length } c) :=
      plumbed.unmoved (completed_unmoved found)
    refine ⟨listening.down, listening.deaf, fun shut => ?_, listening.up⟩
    cases isOpen.symm.trans shut
  | leaves => exact plumbed.unmoved (.of_same rfl rfl rfl rfl)

/-- In every reachable state of a client whose callbacks make no calls. -/
theorem Rules.Reachable.plumbed {rules : Rules} (plain : rules.Plain) {c : Client}
    (reached : rules.Reachable c) : Plumbed rules.native c := by
  obtain ⟨dmrId, description, hooks, reached⟩ := reached
  apply reached.invariant (Plumbed rules.native)
  · have down : Down (fresh dmrId description hooks) :=
      ⟨rfl, rfl, fun operation member => by cases member⟩
    exact down.plumbed
  · exact fun before label after plumbed step => step.plumbed plain plumbed

end OpenDTP.Client
