import OpenDTP.Client.Footprint
import OpenDTP.Client.Replay
import OpenDTP.Client.Summary
import OpenDTP.Effects.Lockstep
import OpenDTP.Protocol.Portable

/-! Datagrams that the client passes over. Whatever arrives besides the well-formed datagrams of the
server, and whatever stands behind their payload, the client ends up as if it had not arrived: two
clients that receive the same datagrams, one of them with junk in between, go on side by side. -/

namespace OpenDTP.Client
open Common Protocol Effects Effects.Program

/-! ### Well-formed datagrams -/

/-- The length field, bytes 16 and 17 in little-endian order. -/
def declared (data : Bytes) : Nat := (data.getD 16 0).toNat + 256 * (data.getD 17 0).toNat

def isProper (data : Bytes) : Bool :=
  18 ≤ data.length ∧ data.take 8 = protocolSign ∧ 18 + declared data ≤ data.length

/-- A well-formed datagram of the server. -/
def isForClient (server : Endpoint) (datagram : Endpoint × Bytes) : Bool :=
  datagram.1 = server ∧ isProper datagram.2

theorem toNat_assemble (low high : UInt8) :
    (low.toUInt16 ||| (high.toUInt16 <<< 8)).toNat = low.toNat + 256 * high.toNat := by
  have small := low.toNat_lt
  have large := high.toNat_lt
  rw [UInt16.toNat_or, UInt16.toNat_shiftLeft, UInt8.toNat_toUInt16, UInt8.toNat_toUInt16,
    Nat.or_comm]
  have shifted : high.toNat <<< ((8 : UInt16).toNat % 16) % 2 ^ 16 = 2 ^ 8 * high.toNat := by
    change high.toNat <<< 8 % 2 ^ 16 = _
    rw [Nat.shiftLeft_eq, Nat.mod_eq_of_lt (by omega), Nat.mul_comm]
  rw [shifted, ← Nat.two_pow_add_eq_or_of_lt (by omega)]
  omega

section

variable {native : Endian} {data : Bytes} {header : Header}

theorem deserializeHeader_declared (decoded : deserializeHeader native data = some header) :
    18 ≤ data.length ∧ data.take 8 = protocolSign ∧ header.length.toNat = declared data := by
  rw [deserializeHeader_portable] at decoded
  unfold deserializeHeader at decoded
  split at decoded
  · cases decoded
  · next long =>
    split at decoded
    · cases decoded
    · next signed =>
      simp only [Option.bind_eq_bind, Option.bind_eq_some_iff, Prod.exists,
        Option.some.injEq] at decoded
      obtain ⟨_, _, readType, _, _, readFlags, _, _, readNumber, length, _, readLength, rfl⟩ := decoded
      obtain ⟨_, rfl, _⟩ := wire_readLE readType
      obtain ⟨_, rfl, _⟩ := wire_readLE readFlags
      obtain ⟨_, rfl, _⟩ := wire_readLE readNumber
      refine ⟨by omega, (not_not.mp signed : _), ?_⟩
      unfold readLE at readLength
      split at readLength
      · cases readLength
      · cases readLength
        change ((((data.drop 16).take 2).getD 0 0).toUInt16 |||
          ((((data.drop 16).take 2).getD 1 0).toUInt16 <<< 8)).toNat = declared data
        rw [toNat_assemble, declared]
        simp [List.getD_eq_getElem?_getD, List.getElem?_drop]

theorem deserializeHeader_cut (decoded : deserializeHeader native data = some header) {size : Nat}
    (enough : 18 ≤ size) : deserializeHeader native (data.take size) = some header := by
  have written := serializeHeader_deserializeHeader native decoded
  have split : data.take size = serializeHeader native header ++ (data.take size).drop 18 := by
    have front : (data.take size).take 18 = data.take 18 := by
      rw [List.take_take, Nat.min_eq_left enough]
    rw [written, ← front, List.take_append_drop]
  rw [split]
  exact deserializeHeader_serializeHeader native header _

theorem deserializeHeader_of_long (long : 18 ≤ data.length) (signed : data.take 8 = protocolSign) :
    ∃ header, deserializeHeader native data = some header := by
  have read (T : Type) [Integral T] {offset : Nat} (inside : offset + Integral.size T ≤ 18) :
      ∃ value, readLE T native data offset = some (value, offset + Integral.size T) :=
    ⟨_, if_neg (by omega)⟩
  obtain ⟨type, readType⟩ := @read UInt16 _ 8 (by decide)
  obtain ⟨flags, readFlags⟩ := @read UInt16 _ 10 (by decide)
  obtain ⟨number, readNumber⟩ := @read UInt32 _ 12 (by decide)
  obtain ⟨length, readLength⟩ := @read UInt16 _ 16 (by decide)
  refine ⟨⟨⟨type⟩, flags, number, length⟩, ?_⟩
  unfold deserializeHeader
  rw [if_neg (by omega),
    if_neg (not_not.mpr signed : ¬ data.take signLength ≠ protocolSign.take signLength)]
  change (readLE UInt16 native data 8).bind _ = _
  rw [readType]
  change (readLE UInt16 native data 10).bind _ = _
  rw [readFlags]
  change (readLE UInt32 native data 12).bind _ = _
  rw [readNumber]
  change (readLE UInt16 native data 16).bind _ = _
  rw [readLength]
  rfl

/-- A datagram that is not well-formed is not processed. -/
theorem processPacket_improper (improper : isProper data = false) :
    processPacket native data = pure () := by
  unfold processPacket
  split
  · rfl
  · next header decoded =>
    obtain ⟨long, signed, length⟩ := deserializeHeader_declared decoded
    rw [if_pos]
    rw [length]
    by_contra enough
    simp [isProper, long, signed] at improper
    omega

/-- What stands behind the payload is not processed. -/
theorem processPacket_cut (proper : isProper data = true) :
    processPacket native (data.take (18 + declared data)) = processPacket native data := by
  obtain ⟨long, signed, enough⟩ := of_decide_eq_true proper
  obtain ⟨header, decoded⟩ := @deserializeHeader_of_long native data long signed
  have cut := deserializeHeader_cut decoded (Nat.le_add_right 18 (declared data))
  obtain ⟨_, _, length⟩ := deserializeHeader_declared decoded
  have payload : ((data.take (18 + declared data)).drop 18).take header.length.toNat =
      (data.drop 18).take header.length.toNat := by
    rw [List.drop_take, List.take_take, length, Nat.add_sub_cancel_left, Nat.min_self]
  have size : (data.take (18 + declared data)).length = 18 + declared data := by
    rw [List.length_take]
    omega
  have fits : ¬ data.length < 18 + header.length.toNat := by omega
  have exactly : ¬ (data.take (18 + declared data)).length < 18 + header.length.toNat := by omega
  unfold processPacket
  simp only [decoded, cut, payload, if_neg fits, if_neg exactly]

end

/-! ### Two clients side by side -/

def Outstanding.tag (operation : Outstanding) : Kind × Option Completion :=
  (operation.kind, operation.completion)

/-- Everything but the ghost record that a datagram was looked at. -/
def visible (events : List Event) : List Event :=
  events.filter fun
    | .inspected _ _ _ => false
    | _ => true

theorem visible_append (first second : List Event) :
    visible (first ++ second) = visible first ++ visible second := List.filter_append _ _

/-- The same operations in some order and, unless they are to be `exact`, receives besides. -/
def Pends (exact : Prop) (operations others : List Outstanding) : Prop :=
  ∃ extra : List Outstanding, (∀ operation ∈ extra, operation.kind = .receive) ∧
    (exact → extra = []) ∧ (others.map (·.tag)).Perm ((operations ++ extra).map (·.tag))

/-- The same client, what it received last and the order of its operations apart. -/
def Beside (exact : Prop) (c other : Client) : Prop :=
  ∃ operations buffer sender log,
    other = { c with operations := operations
                     receiveBuffer := buffer
                     senderEndpoint := sender
                     log := log } ∧
      visible log = visible c.log ∧ Pends exact c.operations operations

/-- The operations of a handler after it has looked at a datagram, and of the calls nested in it. -/
def Onward : (β : Type) → Op β → Prop
  | _, .readSenderEndpoint | _, .readBuffer _ | _, .writeServerEndpoint _ | _, .openSocket _ => False
  | _, _ => True

def onward : Pairing Op where
  operations one two := one = two ∧ Onward _ one
  answers _ answer reply := answer = reply

section

variable {exact : Prop} {c other : Client}

namespace Pends

variable {operations others : List Outstanding}

theorem appended (pends : Pends exact operations others) (operation : Outstanding) :
    Pends exact (operations ++ [operation]) (others ++ [operation]) := by
  obtain ⟨extra, receives, none, perm⟩ := pends
  refine ⟨extra, receives, none, ?_⟩
  have swap : (operations ++ extra ++ [operation]).Perm (operations ++ [operation] ++ extra) := by
    rw [List.append_assoc, List.append_assoc]
    exact List.perm_append_comm.append_left operations
  rw [List.map_append]
  refine (perm.append_right _).trans ?_
  rw [← List.map_append]
  exact swap.map _

/-- Cancelling looks only at the kind and the completion. -/
theorem cancelled (pends : Pends exact operations others) (kind : Kind) :
    Pends exact (operations.map (·.cancel kind)) (others.map (·.cancel kind)) := by
  obtain ⟨extra, receives, none, perm⟩ := pends
  let change (tag : Kind × Option Completion) : Kind × Option Completion :=
    if tag.1 = kind ∧ tag.2 = Option.none then (tag.1, some { ec := .operationAborted }) else tag
  have commutes (operation : Outstanding) : (operation.cancel kind).tag = change operation.tag := by
    simp only [Outstanding.cancel, change, Outstanding.tag]
    split <;> rfl
  have mapped (list : List Outstanding) :
      (list.map (·.cancel kind)).map (·.tag) = (list.map (·.tag)).map change := by
    simp only [List.map_map]
    exact List.map_congr_left fun operation _ => commutes operation
  refine ⟨extra.map (·.cancel kind), ?_, fun holds => by rw [none holds]; rfl, ?_⟩
  · intro operation member
    obtain ⟨old, here, rfl⟩ := List.mem_map.mp member
    rw [Outstanding.cancel]
    split
    · exact receives old here
    · exact receives old here
  · rw [← List.map_append, mapped, mapped]
    exact perm.map change

theorem weaken {weaker : Prop} (pends : Pends exact operations others) (implies : weaker → exact) :
    Pends weaker operations others := by
  obtain ⟨extra, receives, none, perm⟩ := pends
  exact ⟨extra, receives, fun holds => none (implies holds), perm⟩

theorem of_perm (perm : (others.map (·.tag)).Perm (operations.map (·.tag))) :
    Pends exact operations others := by
  refine ⟨[], by simp, fun _ => rfl, ?_⟩
  rw [List.append_nil]
  exact perm

theorem perm (pends : Pends True operations others) :
    (others.map (·.tag)).Perm (operations.map (·.tag)) := by
  obtain ⟨extra, _, none, perm⟩ := pends
  rw [none trivial, List.append_nil] at perm
  exact perm

/-- The same operation leaves both queues. -/
theorem removed (pends : Pends exact operations others) {tag : Kind × Option Completion}
    {remaining left : List Outstanding}
    (first : (operations.map (·.tag)).Perm (tag :: remaining.map (·.tag)))
    (second : (others.map (·.tag)).Perm (tag :: left.map (·.tag))) :
    Pends exact remaining left := by
  obtain ⟨extra, receives, none, perm⟩ := pends
  refine ⟨extra, receives, none, ?_⟩
  rw [List.map_append] at perm ⊢
  exact ((second.symm.trans perm).trans (first.append_right _)).cons_inv

/-- A receive leaves the first queue only. -/
theorem lost (pends : Pends exact operations others) {remaining : List Outstanding}
    (first : (operations.map (·.tag)).Perm ((.receive, none) :: remaining.map (·.tag))) :
    Pends False remaining others := by
  obtain ⟨extra, receives, _, perm⟩ := pends
  refine ⟨⟨.receive, 0, none⟩ :: extra, ?_, False.elim, perm.trans ?_⟩
  · intro operation member
    rcases List.mem_cons.mp member with rfl | old
    · rfl
    · exact receives operation old
  · rw [List.map_append, List.map_append]
    exact (first.append_right _).trans List.perm_middle.symm

/-- A receive leaves the first queue and another one joins it. -/
theorem rearmed (pends : Pends exact operations others) {remaining : List Outstanding}
    (first : (operations.map (·.tag)).Perm ((.receive, none) :: remaining.map (·.tag)))
    (session : Nat) : Pends exact (remaining ++ [⟨.receive, session, none⟩]) others := by
  obtain ⟨extra, receives, none, perm⟩ := pends
  refine ⟨extra, receives, none, perm.trans ?_⟩
  rw [List.map_append, List.map_append, List.map_append]
  exact (first.trans (List.perm_append_singleton _ _).symm).append_right _

end Pends

theorem seen_recorded {first second : List Event} (seen : visible first = visible second)
    (event : Event) : visible (first ++ [event]) = visible (second ++ [event]) := by
  rw [visible_append, visible_append, seen]

/-- No operation of the background thread, a handler running, tells the two clients apart. -/
theorem onward_lockstep (policy : Policy) :
    Lockstep (semantics policy .io) (semantics policy .io) onward
      (fun c other => c.ioThread = .handling ∧ Beside exact c other) := by
  intro β one two answer c after other value matching related stepped
  obtain ⟨rfl, may⟩ := matching
  obtain ⟨handling, operations, buffer, sender, log, rfl, seen, pends⟩ := related
  cases one <;> simp only [semantics, step] at stepped ⊢ <;> (repeat' split at stepped) <;>
    cases stepped
  case lock mutex free =>
    cases mutex <;> exact ⟨_, _, if_pos free, rfl, handling, _, _, _, _, rfl, seen, pends⟩
  case unlock mutex =>
    cases mutex <;> exact ⟨_, _, rfl, rfl, handling, _, _, _, _, rfl, seen, pends⟩
  case resetSeq.isTrue realTime yes =>
    subst yes
    exact ⟨_, _, rfl, rfl, handling, _, _, _, _, rfl, seen, pends⟩
  case resetSeq.isFalse realTime no =>
    cases realTime
    · exact ⟨_, _, rfl, rfl, handling, _, _, _, _, rfl, seen, pends⟩
    · exact absurd rfl no
  all_goals first
    | exact ⟨_, _, rfl, rfl, handling, _, _, _, _, rfl, seen, pends⟩
    | exact ⟨_, _, rfl, rfl, handling, _, _, _, _, rfl, seen_recorded seen _, pends⟩
    | exact ⟨_, _, rfl, rfl, handling, _, _, _, _, rfl, seen, pends.appended _⟩
    | exact ⟨_, _, rfl, rfl, handling, _, _, _, _, rfl, seen, pends.cancelled _⟩
    | exact ⟨_, _, if_pos ‹_›, rfl, handling, _, _, _, _, rfl, seen, pends⟩
    | exact ⟨_, _, if_neg ‹_›, rfl, handling, _, _, _, _, rfl, seen, pends⟩
    | exact ⟨_, _, if_neg ‹_›, rfl, handling, _, _, _, _, rfl, seen_recorded seen _, pends⟩
    | exact may.elim
    | simp [handling] at *

theorem Processing.onward {β : Type} (operation : Op β) (processing : Processing β operation) :
    Onward β operation := by
  cases operation <;> trivial

theorem Public.onward {β : Type} (operation : Op β) (isPublic : Public β operation) :
    Onward β operation := by
  cases operation <;> trivial

/-- What a client does after it has looked at a datagram, the client beside it does too. -/
theorem Beside.goes_on {rules : Rules} {program : Method Unit} (issues : program.Issues Onward)
    {outcome : Outcome Unit} {after : Client} (handling : c.ioThread = .handling)
    (beside : Beside exact c other) (ran : rules.Runs .io program c outcome after) :
    ∃ otherAfter, rules.Runs .io program other outcome otherAfter ∧
      after.ioThread = .handling ∧ Beside exact after otherAfter := by
  have itself {α : Type} {program : Method α} (issues : program.Issues Onward) :
      Paired onward program program :=
    @Paired.itself Op α onward Onward (fun operation onwards => ⟨⟨rfl, onwards⟩, fun _ _ => id⟩)
      program issues
  refine Exec.lockstep (onward_lockstep rules.policy) ?_ ran (itself issues) ⟨handling, beside⟩
  intro β one two state other inner matching nested
  obtain ⟨rfl, _⟩ := matching
  refine ⟨inner, ?_, ?_⟩
  · cases one <;> exact nested
  · cases one <;> try exact nested.elim
    obtain ⟨made, _, rfl⟩ := nested
    exact itself (.bind ((publicCall_public rules.native made).mono Public.onward) fun _ => .pure _)

end

/-! ### The receive handler -/

section

variable {rules : Rules} {thread : Thread} {α β : Type} {c after final : Client}
  {outcome : Outcome Unit} {size : Nat}

theorem Rules.runs_perform {operation : Op β} {value : β} {rest : β → Method α}
    {outcome : Outcome α} (closed : ∀ inner, ¬ rules.nesting β operation c inner)
    (stepped : ∀ answer, step rules.policy thread operation answer c = some (value, after)) :
    rules.Runs thread (perform operation >>= rest) c outcome final ↔
      rules.Runs thread (rest value) after outcome final := by
  constructor
  · intro ran
    cases ran with
    | @call _ _ _ _ answer _ _ _ _ _ taken ran =>
      have same := (stepped answer).symm.trans taken
      cases same
      exact ran
    | nested allowed => exact absurd allowed (closed _)
  · exact fun ran => .call (stepped {}) ran

theorem Rules.runs_pure :
    rules.Runs thread (pure ()) c outcome final ↔ outcome = .ok () ∧ final = c := by
  constructor
  · intro ran
    cases ran
    exact ⟨rfl, rfl⟩
  · rintro ⟨rfl, rfl⟩
    exact .ret () _

theorem startReceiveLoop_runs : rules.Runs thread startReceiveLoop c outcome final ↔
    outcome = .ok () ∧ final = resumed c := by
  unfold startReceiveLoop
  rw [Rules.runs_perform (fun _ => id) fun _ => rfl]
  split
  · next down => rw [Rules.runs_pure, resumed, if_pos (.inl down)]
  · next up =>
    rw [Rules.runs_perform (fun _ => id) fun _ => rfl]
    split
    · next shut => rw [Rules.runs_pure, resumed, if_pos (.inr (by simpa using shut))]
    · next isOpen =>
      have going : ¬ (c.state = .disconnected ∨ c.socketOpen = false) := by simpa [up] using isOpen
      rw [resumed, if_neg going]
      change rules.Runs thread (perform .asyncReceiveFrom >>= fun _ => pure ()) c outcome final ↔ _
      rw [Rules.runs_perform (fun _ => id) fun _ => rfl, Rules.runs_pure]
      rfl

/-- In a client that is DISCONNECTED the handler does nothing. -/
theorem handleReceive_down (down : c.state = .disconnected) :
    rules.Runs thread (handleReceive rules.native .success size) c outcome final ↔
      outcome = .ok () ∧ final = c := by
  unfold handleReceive
  rw [Rules.runs_perform (fun _ => id) fun _ => rfl, if_pos down, Rules.runs_pure]

theorem handleReceive_empty (up : c.state ≠ .disconnected) :
    rules.Runs thread (handleReceive rules.native .success 0) c outcome final ↔
      outcome = .ok () ∧ final = resumed c := by
  unfold handleReceive
  rw [Rules.runs_perform (fun _ => id) fun _ => rfl, if_neg up]
  exact startReceiveLoop_runs

/-- Otherwise it looks at the datagram, and goes on with one of the server. -/
theorem handleReceive_up (up : c.state ≠ .disconnected) (some : 0 < size) :
    rules.Runs thread (handleReceive rules.native .success size) c outcome final ↔
      rules.Runs thread (do
        if c.senderEndpoint = c.serverEndpoint then
          processPacket rules.native (c.receiveBuffer.take size)
        startReceiveLoop) (inspected (c.receiveBuffer.take size) c) outcome final := by
  unfold handleReceive
  rw [Rules.runs_perform (fun _ => id) fun _ => rfl, if_neg up, if_neg (by simp), if_pos some,
    Rules.runs_perform (fun _ => id) fun _ => rfl, Rules.runs_perform (fun _ => id) fun _ => rfl,
    Rules.runs_perform (fun _ => id) fun _ => rfl, Rules.runs_perform (fun _ => id) fun _ => rfl]
  rfl

end

/-! ### Deliveries -/

/-- A receive that waits for a datagram. -/
def waiting : Kind × Option Completion := (.receive, none)

/-- A datagram arrives through the open socket at a pending receive, whose handler runs. -/
inductive Hears (rules : Rules) (c : Client) (sender : Endpoint) (data : Bytes) (after : Client) :
    Prop where
  | intro {operation : Outstanding} {queued : Client} (through : c.socketOpen = true)
      (arrived : Step rules c (.arrives operation sender data) queued)
      (handled : Step rules queued
        (.handles { operation with completion := some { bytesTransferred := data.length } }) after)

/-- The client could receive a datagram. -/
structure Receptive (c : Client) : Prop where
  through : c.socketOpen = true
  idle : c.ioThread = .running
  going : c.stopped = false
  pending : waiting ∈ c.operations.map (·.tag)

/-- The client in the receive handler. -/
def facing (sender : Endpoint) (data : Bytes) (operations : List Outstanding) (c : Client) :
    Client :=
  filled sender data { c with operations := operations
                              ioThread := .handling }

section

variable {rules : Rules} {c other after : Client} {sender : Endpoint} {data : Bytes}

theorem Hears.handler (hears : Hears rules c sender data after) :
    Receptive c ∧ data.length ≤ 1024 ∧ ∃ operations outcome middle,
      (c.operations.map (·.tag)).Perm (waiting :: operations.map (·.tag)) ∧
        rules.Runs .io (handleReceive rules.native .success data.length)
          (facing sender data operations c) outcome middle ∧ after = resting outcome middle := by
  cases hears with
  | @intro operation queued through arrived handled =>
    obtain ⟨kind, session, completion⟩ := operation
    cases arrived with
    | @arrives before rest _ _ _ found pending receives fits =>
      cases receives
      cases pending
      cases handled with
      | @handles _ first last _ completion outcome refound queued idle going ran =>
        cases queued
        have counted : (c.operations.map (·.tag)).Perm (waiting :: (before ++ rest).map (·.tag)) := by
          rw [found, List.map_append, List.map_append]
          exact List.perm_middle
        have same : ((before ++ rest).map (·.tag)).Perm ((first ++ last).map (·.tag)) := by
          have both := congrArg (List.map (·.tag)) refound
          simp only [filled, completed, List.map_append, List.map_cons] at both
          have perm := (List.perm_middle.symm.trans (List.Perm.of_eq both)).trans List.perm_middle
          rw [List.map_append, List.map_append]
          exact perm.cons_inv
        refine ⟨⟨through, idle, going, ?_⟩, fits, first ++ last, outcome, _,
          counted.trans (same.cons _), ran, rfl⟩
        exact counted.symm.subset (by simp)

/-- Whoever is receptive can run the handler. -/
theorem Receptive.hears (receptive : Receptive c) (fits : data.length ≤ 1024) :
    ∃ operations, (c.operations.map (·.tag)).Perm (waiting :: operations.map (·.tag)) ∧
      ∀ outcome middle, rules.Runs .io (handleReceive rules.native .success data.length)
        (facing sender data operations c) outcome middle →
          Hears rules c sender data (resting outcome middle) := by
  obtain ⟨⟨kind, session, completion⟩, member, same⟩ := List.mem_map.mp receptive.pending
  cases same
  obtain ⟨before, rest, found⟩ := List.append_of_mem member
  refine ⟨before ++ rest, ?_, fun outcome middle ran => ?_⟩
  · rw [found, List.map_append, List.map_append]
    exact List.perm_middle
  · exact .intro receptive.through (.arrives found rfl rfl fits)
      (.handles rfl rfl receptive.idle receptive.going ran)

theorem facing_buffer (operations : List Outstanding) :
    (facing sender data operations c).receiveBuffer.take data.length = data := List.take_left

/-- The client after its handler has passed over a datagram. -/
def passedOver (sender : Endpoint) (data : Bytes) (operations : List Outstanding) (c : Client) :
    Client :=
  if c.state = .disconnected then facing sender data operations c
  else if data = [] then resumed (facing sender data operations c)
  else resumed (inspected data (facing sender data operations c))

theorem junk_runs (junk : isForClient c.serverEndpoint (sender, data) = false)
    {operations : List Outstanding} {outcome : Outcome Unit} {middle : Client} :
    rules.Runs .io (handleReceive rules.native .success data.length)
        (facing sender data operations c) outcome middle ↔
      outcome = .ok () ∧ middle = passedOver sender data operations c := by
  unfold passedOver
  by_cases down : c.state = .disconnected
  · have asleep : (facing sender data operations c).state = .disconnected := down
    rw [if_pos down, handleReceive_down asleep]
  · have awake : (facing sender data operations c).state ≠ .disconnected := down
    rw [if_neg down]
    by_cases empty : data = []
    · subst empty
      rw [if_pos rfl, List.length_nil, handleReceive_empty awake]
    · rw [if_neg empty, handleReceive_up awake (List.length_pos_iff.mpr empty), facing_buffer]
      by_cases own : sender = c.serverEndpoint
      · have improper : isProper data = false := by simpa [isForClient, own] using junk
        have here : (facing sender data operations c).senderEndpoint =
            (facing sender data operations c).serverEndpoint := own
        rw [if_pos here, processPacket_improper improper]
        exact startReceiveLoop_runs
      · have there : (facing sender data operations c).senderEndpoint ≠
            (facing sender data operations c).serverEndpoint := own
        rw [if_neg there]
        exact startReceiveLoop_runs

theorem passedOver_eq (through : c.socketOpen = true) (idle : c.ioThread = .running)
    (operations : List Outstanding) : ∃ buffer log,
      resting (.ok ()) (passedOver sender data operations c) =
        { c with operations := if c.state = .disconnected then operations
                   else operations ++ [⟨.receive, c.session, none⟩]
                 receiveBuffer := buffer
                 senderEndpoint := sender
                 log := log } ∧ visible log = visible c.log := by
  have looked (log : List Event) (server : Endpoint) :
      visible (log ++ [.inspected sender server data]) = visible log := by
    rw [visible_append]
    exact List.append_nil _
  have rested (operations : List Outstanding) (log : List Event) :
      resting (.ok ()) { facing sender data operations c with log := log } =
        { c with operations := operations
                 receiveBuffer := (facing sender data operations c).receiveBuffer
                 senderEndpoint := sender
                 log := log } := by
    cases c
    cases idle
    rfl
  unfold passedOver
  by_cases down : c.state = .disconnected
  · rw [if_pos down, if_pos down]
    exact ⟨_, _, rested operations c.log, rfl⟩
  · have going : ¬ (c.state = .disconnected ∨ c.socketOpen = false) := by simp [down, through]
    rw [if_neg down, if_neg down]
    split
    · refine ⟨(facing sender data operations c).receiveBuffer, c.log, ?_, rfl⟩
      have again : resumed (facing sender data operations c) =
          receiving (facing sender data operations c) := if_neg going
      rw [again]
      exact rested (operations ++ [⟨.receive, c.session, none⟩]) c.log
    · refine ⟨(facing sender data operations c).receiveBuffer, _, ?_, looked c.log c.serverEndpoint⟩
      have again : resumed (inspected data (facing sender data operations c)) =
          receiving (inspected data (facing sender data operations c)) := if_neg going
      rw [again]
      exact rested (operations ++ [⟨.receive, c.session, none⟩]) _

end

/-- The receive loop runs. -/
def listening (c : Client) : Prop := c.state ≠ .disconnected ∧ c.socketOpen = true

/-- Two clients that nobody can tell apart: what they received last and the order of their
operations may differ, and in a client that does not listen the number of receives, whose handlers
have nothing to do. -/
def Indistinct (c other : Client) : Prop := Beside (listening c) c other

section

variable {rules : Rules} {exact : Prop} {c other after : Client} {sender : Endpoint} {data : Bytes}

theorem Beside.instead {weaker : Prop} (beside : Beside exact c other) {operations : List Outstanding}
    {buffer : Bytes} {log : List Event} (seen : visible log = visible c.log)
    (pends : Pends weaker operations other.operations) :
    Beside weaker { c with operations := operations
                           receiveBuffer := buffer
                           senderEndpoint := sender
                           log := log } other := by
  obtain ⟨others, otherBuffer, otherSender, otherLog, rfl, same, _⟩ := beside
  exact ⟨others, otherBuffer, otherSender, otherLog, rfl, same.trans seen.symm, pends⟩

theorem Beside.pends (beside : Beside exact c other) :
    Pends exact c.operations other.operations := by
  obtain ⟨others, _, _, _, rfl, _, pends⟩ := beside
  exact pends

/-- A datagram that is not for the client leaves it as it was. -/
theorem Hears.junk (hears : Hears rules c sender data after) (indistinct : Indistinct c other)
    (junk : isForClient c.serverEndpoint (sender, data) = false) : Indistinct after other := by
  obtain ⟨⟨through, idle, _, _⟩, _, operations, outcome, middle, counted, ran, rfl⟩ :=
    hears.handler
  obtain ⟨rfl, rfl⟩ := (junk_runs junk).mp ran
  obtain ⟨buffer, log, same, seen⟩ := @passedOver_eq c sender data through idle operations
  rw [same]
  by_cases down : c.state = .disconnected
  · rw [if_pos down]
    refine indistinct.instead seen ((indistinct.pends.lost counted).weaken fun listens => ?_)
    exact listens.1 down
  · rw [if_neg down]
    refine indistinct.instead seen (indistinct.pends.rearmed counted c.session)

theorem Beside.faced (beside : Beside exact c other) {operations others : List Outstanding}
    {otherData : Bytes} (first : (c.operations.map (·.tag)).Perm (waiting :: operations.map (·.tag)))
    (second : (other.operations.map (·.tag)).Perm (waiting :: others.map (·.tag))) :
    Beside exact (facing sender data operations c) (facing sender otherData others other) := by
  have pends := beside.pends.removed first second
  obtain ⟨_, buffer, _, log, rfl, seen, _⟩ := beside
  exact ⟨others, otherData ++ buffer.drop otherData.length, sender, log, rfl, seen, pends⟩

theorem Beside.looked (beside : Beside exact c other) (packet otherPacket : Bytes) :
    Beside exact (inspected packet c) (inspected otherPacket other) := by
  obtain ⟨operations, buffer, otherSender, log, rfl, seen, pends⟩ := beside
  refine ⟨operations, buffer, otherSender,
    log ++ [.inspected otherSender c.serverEndpoint otherPacket], rfl, ?_, pends⟩
  change visible (log ++ [_]) = visible (c.log ++ [_])
  rw [visible_append, visible_append, seen]
  rfl

theorem Beside.rested (beside : Beside exact c other) (outcome : Outcome Unit) :
    Beside exact (resting outcome c) (resting outcome other) := by
  obtain ⟨operations, buffer, otherSender, log, rfl, seen, pends⟩ := beside
  exact ⟨operations, buffer, otherSender, log, rfl, seen, pends⟩

theorem Beside.receptive (beside : Beside True c other) (receptive : Receptive c) :
    Receptive other := by
  obtain ⟨_, _, _, _, rfl, _, pends⟩ := beside
  exact ⟨receptive.through, receptive.idle, receptive.going,
    pends.perm.symm.subset receptive.pending⟩

theorem Beside.symm (beside : Beside True c other) : Beside True other c := by
  obtain ⟨operations, buffer, otherSender, log, rfl, seen, pends⟩ := beside
  exact ⟨c.operations, c.receiveBuffer, c.senderEndpoint, c.log, rfl, seen.symm,
    .of_perm pends.perm.symm⟩

/-- Two datagrams that are processed alike take two clients side by side to clients side by side. -/
theorem Beside.hears {otherData : Bytes} (beside : Beside True c other)
    (up : c.state ≠ .disconnected) (some : 0 < data.length) (otherSome : 0 < otherData.length)
    (fits : otherData.length ≤ 1024)
    (same : processPacket rules.native otherData = processPacket rules.native data)
    (hears : Hears rules c sender data after) :
    ∃ otherAfter, Hears rules other sender otherData otherAfter ∧ Beside True after otherAfter := by
  obtain ⟨receptive, _, operations, outcome, middle, counted, ran, rfl⟩ := hears.handler
  obtain ⟨others, otherCounted, delivered⟩ := @Receptive.hears rules other sender otherData
    (beside.receptive receptive) fits
  have faces := @Beside.faced _ _ _ sender data beside _ _ otherData counted otherCounted
  have awake : (facing sender data operations c).state ≠ .disconnected := up
  have otherAwake : (facing sender otherData others other).state ≠ .disconnected := by
    obtain ⟨_, _, _, _, rfl, _, _⟩ := beside
    exact up
  have target : other.serverEndpoint = c.serverEndpoint := by
    obtain ⟨_, _, _, _, rfl, _, _⟩ := beside
    rfl
  rw [handleReceive_up awake some, facing_buffer] at ran
  have issues : Program.Issues Onward (do
      if sender = c.serverEndpoint then
        processPacket rules.native data
      startReceiveLoop) := by
    have resumes : startReceiveLoop.Issues Onward := by
      simp [Issues, startReceiveLoop, wp_ite, issuing, Onward]
    split
    · exact .bind ((processPacket_processing rules.native data).mono Processing.onward)
        fun _ => resumes
    · exact resumes
  obtain ⟨otherMiddle, otherRan, _, ended⟩ := (faces.looked data otherData).goes_on issues rfl ran
  refine ⟨resting outcome otherMiddle, delivered outcome otherMiddle ?_, ended.rested outcome⟩
  rw [handleReceive_up otherAwake otherSome, facing_buffer, same]
  have here : (facing sender otherData others other).serverEndpoint = c.serverEndpoint := target
  rw [here]
  exact otherRan

/-! ### What the handler reads -/

/-- The operations of a receive handler: of the buffer it reads what was received. -/
def Reading (size : Nat) : (β : Type) → Op β → Prop
  | _, .readBuffer count => count = size
  | _, .writeServerEndpoint _ => False
  | _, _ => True

theorem Onward.reading (size : Nat) {β : Type} (operation : Op β) (onward : Onward β operation) :
    Reading size β operation := by
  cases operation <;> trivial

theorem handleReceive_reading (native : Endian) (ec : ErrorCode) (size : Nat) :
    (handleReceive native ec size).Issues (Reading size) := by
  have resumes : startReceiveLoop.Issues (Reading size) := by
    simp [Issues, startReceiveLoop, wp_ite, issuing, Reading]
  have ends : (disconnect native).Issues (Reading size) :=
    (disconnect_public native).mono fun operation isPublic =>
      (Public.onward operation isPublic).reading size
  have complains (message : String) : (report (.onError .socketIo message)).Issues (Reading size) := by
    simp [Issues, report, invoke, wp_ite, issuing, Reading]
  refine .bind (.perform trivial) fun state => ?_
  split
  · exact .pure _
  · split
    · split
      · exact .bind (.perform trivial) fun _ => .bind (complains _) fun _ => ends
      · exact .pure _
    · split
      · refine .bind (.perform trivial) fun sender => .bind (.perform trivial) fun server =>
          .bind (.perform rfl) fun packet => .bind (.perform trivial) fun _ => ?_
        split
        · exact .bind ((processPacket_processing native packet).mono fun operation processing =>
            (Processing.onward operation processing).reading size) fun _ => resumes
        · exact resumes
      · exact resumes

def reading (size : Nat) : Pairing Op where
  operations one two := one = two ∧ Reading size _ one
  answers _ answer reply := answer = reply

/-- No delivery changes whose datagrams are looked at. -/
theorem Hears.server (hears : Hears rules c sender data after) :
    after.serverEndpoint = c.serverEndpoint := by
  obtain ⟨_, _, operations, outcome, middle, _, ran, rfl⟩ := hears.handler
  have steps (size : Nat) {β : Type} (operation : Op β) (answer : Answer) (c : Client) (value : β)
      (after : Client) (reading : Reading size β operation)
      (stepped : step rules.policy .io operation answer c = some (value, after)) :
      after.serverEndpoint = c.serverEndpoint := by
    cases operation <;> simp only [step] at stepped <;> (repeat' split at stepped) <;>
      cases stepped
    case lock mutex _ => cases mutex <;> rfl
    case unlock mutex => cases mutex <;> rfl
    all_goals first | rfl | exact reading.elim
  have covers := covers_of_public rules .io
    (fun (c : Client) => (rfl : c.serverEndpoint = c.serverEndpoint))
    (fun first second => second.trans first)
    (fun operation answer c value after isPublic =>
      steps 0 operation answer c value after
        ((Public.onward operation isPublic).reading 0))
  apply covers.sound ran (fun _ final => final.serverEndpoint = c.serverEndpoint)
  refine demonic_keeps ?_ ?_ _ (handleReceive_reading rules.native .success data.length) ?_
  · intro β operation answer state value after reading same stepped
    exact (steps _ operation answer state value after reading stepped).trans same
  · intro β operation state between same moved
    cases operation
    case endCallback => exact Eq.trans moved same
    all_goals
      rw [show between = state from moved]
      exact same
  · rfl

/-! ### Sequences of datagrams -/

theorem isProper_ne (proper : isProper data = true) : 0 < data.length := by
  obtain ⟨long, _⟩ := of_decide_eq_true proper
  omega

theorem Indistinct.serverEndpoint (indistinct : Indistinct c other) :
    other.serverEndpoint = c.serverEndpoint := by
  obtain ⟨_, _, _, _, rfl, _, _⟩ := indistinct
  rfl

theorem Beside.indistinct (beside : Beside True c other) : Indistinct c other := by
  obtain ⟨operations, buffer, sender, log, same, seen, pends⟩ := beside
  exact ⟨operations, buffer, sender, log, same, seen, pends.weaken fun _ => trivial⟩

theorem Indistinct.beside (indistinct : Indistinct c other) (listens : listening c) :
    Beside True c other := by
  obtain ⟨operations, buffer, sender, log, same, seen, pends⟩ := indistinct
  exact ⟨operations, buffer, sender, log, same, seen, pends.weaken fun _ => listens⟩

theorem Indistinct.receptive (indistinct : Indistinct c other) (receptive : Receptive c) :
    Receptive other := by
  obtain ⟨_, _, _, _, rfl, _, extra, _, _, perm⟩ := indistinct
  refine ⟨receptive.through, receptive.idle, receptive.going, perm.symm.subset ?_⟩
  rw [List.map_append]
  exact List.mem_append_left _ receptive.pending

/-- In a client that is DISCONNECTED a delivery only takes its receive away. -/
theorem Hears.down (hears : Hears rules c sender data after)
    (down : c.state = .disconnected) : ∃ operations,
      (c.operations.map (·.tag)).Perm (waiting :: operations.map (·.tag)) ∧
        after = resting (.ok ()) (facing sender data operations c) := by
  obtain ⟨_, _, operations, outcome, middle, counted, ran, rfl⟩ := hears.handler
  have asleep : (facing sender data operations c).state = .disconnected := down
  obtain ⟨rfl, rfl⟩ := (handleReceive_down asleep).mp ran
  exact ⟨operations, counted, rfl⟩

theorem Indistinct.down {otherData : Bytes} (indistinct : Indistinct c other)
    (down : c.state = .disconnected)
    (fits : otherData.length ≤ 1024) (hears : Hears rules c sender data after) :
    ∃ otherAfter, Hears rules other sender otherData otherAfter ∧ Indistinct after otherAfter := by
  obtain ⟨operations, counted, rfl⟩ := hears.down down
  obtain ⟨others, otherCounted, delivered⟩ := @Receptive.hears rules other sender otherData
    (indistinct.receptive hears.handler.1) fits
  have asleep : (facing sender otherData others other).state = .disconnected := by
    obtain ⟨_, _, _, _, rfl, _, _⟩ := indistinct
    exact down
  refine ⟨_, delivered (.ok ()) _ ((handleReceive_down asleep).mpr ⟨rfl, rfl⟩), ?_⟩
  exact (Beside.faced indistinct counted otherCounted).rested (.ok ())

/-- What one of two indistinct clients receives for itself the other one does, cut. -/
theorem Indistinct.cut (indistinct : Indistinct c other)
    (ours : isForClient c.serverEndpoint (sender, data) = true)
    (hears : Hears rules c sender data after) :
    ∃ otherAfter, Hears rules other sender (data.take (18 + declared data)) otherAfter ∧
      Indistinct after otherAfter := by
  obtain ⟨receptive, fits, _⟩ := hears.handler
  obtain ⟨_, proper⟩ : sender = c.serverEndpoint ∧ isProper data = true := of_decide_eq_true ours
  have some := isProper_ne proper
  have short : (data.take (18 + declared data)).length ≤ 1024 := by
    rw [List.length_take]
    omega
  by_cases down : c.state = .disconnected
  · exact indistinct.down down short hears
  · have cutSome : 0 < (data.take (18 + declared data)).length := by
      rw [List.length_take]
      omega
    obtain ⟨otherAfter, delivered, ended⟩ := (indistinct.beside ⟨down, receptive.through⟩).hears down
      some cutSome short (processPacket_cut proper) hears
    exact ⟨otherAfter, delivered, ended.indistinct⟩

end

theorem Indistinct.refl (c : Client) : Indistinct c c :=
  ⟨c.operations, c.receiveBuffer, c.senderEndpoint, c.log, rfl, rfl, .of_perm (.refl _)⟩

end OpenDTP.Client
