import OpenDTP.Client.Composition
import OpenDTP.Client.Frames
import OpenDTP.Client.Replay
import OpenDTP.Client.Threads
import OpenDTP.Protocol.Wire

/-! The numbers of routine messages when many threads send. A number is drawn and its datagram sent
under `writeMutex_`, so datagrams are handed over in the order in which their numbers were drawn. -/

namespace OpenDTP.Client
open Common Protocol Effects Effects.Program

/-- A call of `TransmitRaw`. -/
structure Transmission where
  type : MessageType
  flag : UInt16
  payload : Bytes
  deriving DecidableEq, Repr

/-- Per thread the latest call of `TransmitRaw`; every routine number that was drawn, oldest first,
with the call that drew it; and how many of them are older than the last reset of the counter. -/
structure Ledger where
  passed : Thread → Option Transmission
  drawn : List (Option Transmission × UInt32)
  reset : Nat

def blank : Ledger := ⟨fun _ => none, [], 0⟩

def entries : Scribe Op Client Thread Ledger
  | thread, _, .note event, _, ledger =>
    match event with
    | .passed type flag payload =>
      { ledger with passed := Function.update ledger.passed thread (some ⟨type, flag, payload⟩) }
    | _ => ledger
  | thread, _, .takeSeq realTime, c, ledger =>
    if realTime then ledger
    else { ledger with drawn := ledger.drawn ++ [(ledger.passed thread, c.routineSeq)] }
  | _, _, .resetSeq realTime, _, ledger =>
    if realTime then ledger else { ledger with reset := ledger.drawn.length }
  | _, _, _, _, ledger => ledger

section

variable (native : Endian)

def Transmission.packet (made : Transmission) (number : UInt32) : Bytes :=
  packetOf native made.type made.flag number made.payload

/-- A datagram without `REAL_TIME_1`. -/
def notRealTime (packet : Bytes) : Bool :=
  (deserializeHeader native packet).all fun header => !isRealTime header.flags

def routineSent (events : List Event) : List Bytes := (datagrams events).filter (notRealTime native)

end

section

variable {native : Endian}

theorem header_packetOf (type : MessageType) (flag : UInt16) (number : UInt32) (payload : Bytes) :
    deserializeHeader native (packetOf native type flag number payload) =
      some ⟨type, flag, number, UInt16.ofNat payload.length⟩ :=
  deserializeHeader_serializeHeader native _ payload

theorem notRealTime_packetOf (type : MessageType) (flag : UInt16) (number : UInt32) (payload : Bytes) :
    notRealTime native (packetOf native type flag number payload) = !isRealTime flag := by
  rw [notRealTime, header_packetOf]
  rfl

theorem routineSent_append (first second : List Event) :
    routineSent native (first ++ second) = routineSent native first ++ routineSent native second := by
  rw [routineSent, datagrams_append, List.filter_append]
  rfl

end

/-! ### Inside and outside of the mutex -/

/-- What a thread passed to `TransmitRaw`, whether it holds `writeMutex_`, and the routine datagram
for which it drew a number that it has not sent. -/
structure Desk where
  passed : Option Transmission
  holds : Bool
  owes : Option Bytes

def numbering (native : Endian) : Transformer Op Desk
  | _, .note event, post, desk =>
    match event with
    | .passed type flag payload => post () { desk with passed := some ⟨type, flag, payload⟩ }
    | .sent _ _ => False
    | _ => post () desk
  | _, .lock mutex, post, desk =>
    match mutex with
    | .writeMutex => desk.holds = false → post () { desk with holds := true }
    | .connectionMutex => post () desk
  | _, .unlock mutex, post, desk =>
    match mutex with
    | .writeMutex => desk.holds = true ∧ desk.owes = none ∧ post () { desk with holds := false }
    | .connectionMutex => post () desk
  | _, .takeSeq realTime, post, desk =>
    if realTime then ∀ number, post number desk
    else
      desk.holds = true ∧ desk.owes = none ∧ ∃ made, desk.passed = some made ∧
        isRealTime made.flag = false ∧
        ∀ number, post number { desk with owes := some (made.packet native number) }
  | _, .sendTo packet _, post, desk =>
    if notRealTime native packet then
      desk.owes = some packet ∧ ∀ ec, post ec { desk with owes := none }
    else ∀ ec, post ec desk
  | _, .endCallback _, post, desk =>
    desk.owes = none ∧ ∀ passed outcome, post outcome { desk with passed := passed }
  | _, _, post, desk => ∀ answer, post answer desk

/-- Between operations a method owes nothing, and in the end it holds the mutex if it did. -/
def Tidy (native : Endian) {α : Type} (program : Method α) : Prop :=
  ∀ desk : Desk, desk.owes = none →
    program.wp (numbering native) (fun _ after => after.owes = none ∧ after.holds = desk.holds) desk

section

variable {native : Endian} {α β : Type}

theorem numbering_monotone : Transformer.Monotone (numbering native) := by
  intro β operation first second weaker desk holds
  cases operation
  case note event => cases event <;> first | exact weaker _ _ holds | exact holds
  case lock mutex =>
    cases mutex
    · exact weaker _ _ holds
    · exact fun free => weaker _ _ (holds free)
  case unlock mutex =>
    cases mutex
    · exact weaker _ _ holds
    · exact ⟨holds.1, holds.2.1, weaker _ _ holds.2.2⟩
  case takeSeq realTime =>
    cases realTime
    · obtain ⟨held, settled, made, passed, isRoutine, rest⟩ := holds
      exact ⟨held, settled, made, passed, isRoutine, fun number => weaker _ _ (rest number)⟩
    · exact fun answer => weaker _ _ (holds answer)
  case sendTo packet destination =>
    simp only [numbering] at holds ⊢
    split
    · next isRoutine =>
      rw [if_pos isRoutine] at holds
      exact ⟨holds.1, fun ec => weaker _ _ (holds.2 ec)⟩
    · next other =>
      rw [if_neg other] at holds
      exact fun ec => weaker _ _ (holds ec)
  case endCallback callback =>
    exact ⟨holds.1, fun passed outcome => weaker _ _ (holds.2 passed outcome)⟩
  all_goals exact fun answer => weaker _ _ (holds answer)

/-- An operation that takes no part in sending leaves the desk as it is, callbacks apart, in which
the thread can send something else. -/
theorem numbering_apart {operation : Op β} (apart : operation.isTransmission = false)
    {post : β → Desk → Prop} {desk : Desk} (settled : desk.owes = none)
    (holds : ∀ answer passed, post answer { desk with passed := passed }) :
    numbering native β operation post desk := by
  have same (answer : β) : post answer desk := holds answer desk.passed
  cases operation <;> first | exact same | cases apart | skip
  case note event => cases event <;> first | exact same () | cases apart
  case lock mutex => cases mutex <;> first | exact same () | cases apart
  case unlock mutex => cases mutex <;> first | exact same () | cases apart
  case endCallback callback => exact ⟨settled, fun passed answer => holds answer passed⟩

theorem Tidy.wp {program : Method α} (tidy : Tidy native program) {desk : Desk}
    (settled : desk.owes = none) {post : Outcome α → Desk → Prop}
    (holds : ∀ outcome passed, post outcome { desk with passed := passed }) :
    program.wp (numbering native) post desk := by
  refine wp_mono numbering_monotone program (fun outcome after same => ?_) desk (tidy desk settled)
  obtain ⟨paid, held⟩ := same
  have here : after = { desk with passed := after.passed } := by
    cases after
    cases desk
    cases paid
    cases held
    cases settled
    rfl
  rw [here]
  exact holds outcome _

/-- The number is drawn for the call that was passed, and its datagram goes out before `unlock`. -/
theorem transmitRaw_tidy (type : MessageType) (flag : UInt16) (payload : Bytes) :
    Tidy native (transmitRaw native type flag payload) := by
  intro desk settled
  have isRoutine (number : UInt32) : notRealTime native (serializeHeader native
      ⟨type, flag, number, UInt16.ofNat payload.length⟩ ++ payload) = !isRealTime flag :=
    notRealTime_packetOf type flag number payload
  have same : decide (flag &&& MessageFlag.realTime1 ≠ 0) = isRealTime flag := rfl
  simp only [transmitRaw, locked, report, invoke, wp_bind, wp_perform, wp_attempt, wp_ite, wp_pure,
    wp_ofOutcome, andThen_ok, numbering, isRoutine, same]
  intro free isOpen
  cases isOpen with
  | false => simp [settled, free]
  | true =>
    cases realTime : isRealTime flag with
    | true => simp [settled, free]
    | false =>
      refine ⟨trivial, settled, ⟨type, flag, payload⟩, rfl, realTime, fun number server => ?_⟩
      simp [Transmission.packet, packetOf, free]

theorem Composed.tidy {program : Method α} (composed : Composed native program) :
    Tidy native program := by
  induction composed with
  | ret value => exact fun desk settled => ⟨settled, rfl⟩
  | throw what => exact fun desk settled => ⟨settled, rfl⟩
  | perform operation apart =>
    intro desk settled
    exact numbering_apart apart settled fun answer passed => ⟨settled, rfl⟩
  | transmitRaw type flag payload => exact transmitRaw_tidy type flag payload
  | bind first next firstIh nextIh =>
    intro desk settled
    rw [wp_bind]
    refine firstIh.wp settled fun outcome passed => ?_
    cases outcome with
    | ok value => exact nextIh value { desk with passed := passed } settled
    | error what => exact ⟨settled, rfl⟩
  | attempt composed ih =>
    intro desk settled
    rw [wp_attempt]
    exact ih desk settled

end

/-! ### What holds between steps -/

/-- The routine datagram that the thread inside the mutex has still to send. -/
def owed (c : Client) (desks : Thread → Desk) : List Bytes :=
  match c.writeMutex with
  | none => []
  | some thread => (desks thread).owes.toList

structure Numbered (native : Endian) (c : Client) (ledger : Ledger) (desks : Thread → Desk) :
    Prop where
  holds : ∀ thread, (desks thread).holds = true ↔ c.writeMutex = some thread
  owes : ∀ thread, (desks thread).owes ≠ none → (desks thread).holds = true
  passed : ∀ thread made, (desks thread).passed = some made → ledger.passed thread = some made
  sent : (routineSent native c.log ++ owed c desks).map some =
    ledger.drawn.map fun draw => draw.1.map (·.packet native draw.2)
  reset : ledger.reset ≤ ledger.drawn.length
  counter : c.routineSeq = UInt32.ofNat (ledger.drawn.length - ledger.reset)
  numbers : ∀ i draw, ledger.drawn[ledger.reset + i]? = some draw → draw.2 = UInt32.ofNat i

/-- Nothing happens that concerns routine messages. -/
structure Unconcerned (c after : Client) : Prop where
  writeMutex : after.writeMutex = c.writeMutex
  routineSeq : after.routineSeq = c.routineSeq
  handed : datagrams after.log = datagrams c.log

def numbered (native : Endian) : Discipline Op Client Ledger Thread Desk where
  idle := ⟨none, false, none⟩
  protocol := fun _ => numbering native
  ended := fun _ finish desk =>
    (∀ c, Unconcerned c (finish c)) ∧ desk.owes = none ∧ desk.holds = false
  scribe := entries
  joint := Numbered native

/-- The operations that change a counter, hold `writeMutex_` or send. -/
def Op.isConcerned : {β : Type} → Op β → Bool
  | _, .resetSeq realTime => !realTime
  | _, operation => operation.isTransmission

section

variable {native : Endian} {policy : Policy} {thread : Thread} {c after : Client}

theorem Unconcerned.recorded {event : Event} (writeMutex : after.writeMutex = c.writeMutex)
    (routineSeq : after.routineSeq = c.routineSeq) (log : after.log = c.log ++ [event])
    (other : datagrams [event] = []) : Unconcerned c after := by
  refine ⟨writeMutex, routineSeq, ?_⟩
  rw [log, datagrams_append, other, List.append_nil]

theorem step_unconcerned {β : Type} {operation : Op β} {answer : Answer} {value : β}
    (apart : operation.isConcerned = false)
    (stepped : step policy thread operation answer c = some (value, after)) :
    Unconcerned c after := by
  cases operation <;> simp only [step] at stepped <;> (repeat' split at stepped) <;>
    cases stepped
  case note event =>
    cases event <;> first | exact .recorded rfl rfl rfl rfl | cases apart
  case resetSeq.isFalse realTime other =>
    cases realTime
    · cases apart
    · exact absurd rfl other
  case lock mutex _ => cases mutex <;> first | exact ⟨rfl, rfl, rfl⟩ | cases apart
  case unlock mutex => cases mutex <;> first | exact ⟨rfl, rfl, rfl⟩ | cases apart
  all_goals first
    | exact ⟨rfl, rfl, rfl⟩
    | exact .recorded rfl rfl rfl rfl
    | cases apart

theorem entries_unconcerned {β : Type} {operation : Op β} (apart : operation.isConcerned = false)
    (ledger : Ledger) : entries thread β operation c ledger = ledger := by
  cases operation <;> first | rfl | cases apart | skip
  case note event => cases event <;> first | rfl | cases apart
  case resetSeq realTime => cases realTime <;> first | rfl | cases apart

/-- An operation that takes no part in sending can leave the thread where it is. -/
theorem numbering_stays {β : Type} {operation : Op β} (apart : operation.isTransmission = false)
    {post : β → Desk → Prop} {desk : Desk} (holds : numbering native β operation post desk)
    (answer : β) : post answer desk := by
  cases operation <;> first | exact holds answer | cases apart | skip
  case note event => cases event <;> first | exact holds | cases apart
  case lock mutex => cases mutex <;> first | exact holds | cases apart
  case unlock mutex => cases mutex <;> first | exact holds | cases apart
  case endCallback callback => exact holds.2 desk.passed answer

namespace Numbered

variable {ledger : Ledger} {desks : Thread → Desk} {desk : Desk}

theorem unconcerned (numbered : Numbered native c ledger desks) (same : Unconcerned c after) :
    Numbered native after ledger desks where
  holds thread := by
    rw [same.writeMutex]
    exact numbered.holds thread
  owes := numbered.owes
  passed := numbered.passed
  sent := by
    have handed := numbered.sent
    unfold routineSent owed at handed ⊢
    rw [same.handed, same.writeMutex]
    exact handed
  reset := numbered.reset
  counter := same.routineSeq.trans numbered.counter
  numbers := numbered.numbers

/-- The thread inside the mutex is the only one that can owe a datagram. -/
theorem owed_eq (numbered : Numbered native c ledger desks) (held : (desks thread).holds = true) :
    owed c desks = (desks thread).owes.toList := by
  unfold owed
  rw [(numbered.holds thread).mp held]

/-- One thread moves, and what it changes concerns only itself and the datagrams. -/
theorem moved (numbered : Numbered native c ledger desks) {ledgerAfter : Ledger}
    (holds : desk.holds = true ↔ after.writeMutex = some thread)
    (others : ∀ other, other ≠ thread →
      (c.writeMutex = some other ↔ after.writeMutex = some other))
    (owes : desk.owes ≠ none → desk.holds = true)
    (passed : ∀ made, desk.passed = some made → ledgerAfter.passed thread = some made)
    (passedOthers : ∀ other, other ≠ thread → ledgerAfter.passed other = ledger.passed other)
    (sent : (routineSent native after.log ++ owed after (Function.update desks thread desk)).map some =
      ledgerAfter.drawn.map fun draw => draw.1.map (·.packet native draw.2))
    (reset : ledgerAfter.reset ≤ ledgerAfter.drawn.length)
    (counter : after.routineSeq = UInt32.ofNat (ledgerAfter.drawn.length - ledgerAfter.reset))
    (numbers : ∀ i draw, ledgerAfter.drawn[ledgerAfter.reset + i]? = some draw →
      draw.2 = UInt32.ofNat i) :
    Numbered native after ledgerAfter (Function.update desks thread desk) where
  holds := (Function.forall_update_iff desks fun thread desk =>
      (desk.holds = true ↔ after.writeMutex = some thread)).mpr
    ⟨holds, fun other away => (numbered.holds other).trans (others other away)⟩
  owes := (Function.forall_update_iff desks fun _ desk => desk.owes ≠ none → desk.holds = true).mpr
    ⟨owes, fun other _ => numbered.owes other⟩
  passed := by
    refine (Function.forall_update_iff desks fun thread desk =>
      ∀ made, desk.passed = some made → ledgerAfter.passed thread = some made).mpr
      ⟨passed, fun other away made same => ?_⟩
    rw [passedOthers other away]
    exact numbered.passed other made same
  sent := sent
  reset := reset
  counter := counter
  numbers := numbers

/-- What a thread owes counts only while it is inside the mutex. -/
theorem owed_moved (writeMutex : after.writeMutex = c.writeMutex) (same : desk.owes = (desks thread).owes) :
    owed after (Function.update desks thread desk) = owed c desks := by
  unfold owed
  rw [writeMutex]
  cases c.writeMutex with
  | none => rfl
  | some holder =>
    by_cases here : holder = thread
    · subst here
      simp [same]
    · simp [Function.update_of_ne here]

theorem passes (numbered : Numbered native c ledger desks) (type : MessageType) (flag : UInt16)
    (payload : Bytes) :
    Numbered native (c.record (.passed type flag payload))
      { ledger with passed := Function.update ledger.passed thread (some ⟨type, flag, payload⟩) }
      (Function.update desks thread { desks thread with passed := some ⟨type, flag, payload⟩ }) := by
  have quietly := numbered.unconcerned
    (.recorded rfl rfl rfl rfl : Unconcerned c (c.record (.passed type flag payload)))
  refine quietly.moved (quietly.holds thread) (fun _ _ => Iff.rfl) (quietly.owes thread) ?_ ?_ ?_
    quietly.reset quietly.counter quietly.numbers
  · intro made same
    rw [← same]
    exact Function.update_self _ _ _
  · exact fun other away => Function.update_of_ne away _ _
  · have same : owed (c.record (.passed type flag payload)) (Function.update desks thread
        { desks thread with passed := some ⟨type, flag, payload⟩ }) = owed c desks :=
      owed_moved rfl rfl
    rw [same]
    exact quietly.sent

theorem locks (numbered : Numbered native c ledger desks) (free : c.writeMutex = none) :
    (desks thread).holds = false ∧
      Numbered native { c with writeMutex := some thread } ledger
        (Function.update desks thread { desks thread with holds := true }) := by
  have outside (other : Thread) : (desks other).holds = false := by
    have holds := numbered.holds other
    rw [free] at holds
    simpa using holds
  have settled : (desks thread).owes = none := by
    by_contra owes
    have held := numbered.owes thread owes
    rw [outside thread] at held
    cases held
  refine ⟨outside thread, numbered.moved (by simp) ?_ (fun _ => rfl) (numbered.passed thread)
    (fun _ _ => rfl) ?_ numbered.reset numbered.counter numbered.numbers⟩
  · intro other away
    simp [free, Ne.symm away]
  · have handed := numbered.sent
    simp only [owed, free] at handed
    simp only [owed, Function.update_self, settled]
    exact handed

theorem unlocks (numbered : Numbered native c ledger desks) (held : (desks thread).holds = true)
    (settled : (desks thread).owes = none) :
    Numbered native { c with writeMutex := none } ledger
      (Function.update desks thread { desks thread with holds := false }) := by
  have owner := (numbered.holds thread).mp held
  refine numbered.moved (by simp) ?_ (fun owes => absurd settled owes) (numbered.passed thread)
    (fun _ _ => rfl) ?_ numbered.reset numbered.counter numbered.numbers
  · intro other away
    simp [owner, Ne.symm away]
  · have handed := numbered.sent
    rw [numbered.owed_eq held, settled] at handed
    exact handed

theorem draws (numbered : Numbered native c ledger desks) (held : (desks thread).holds = true)
    (settled : (desks thread).owes = none) {made : Transmission}
    (passed : (desks thread).passed = some made) :
    Numbered native { c with routineSeq := c.routineSeq + 1 }
      { ledger with drawn := ledger.drawn ++ [(ledger.passed thread, c.routineSeq)] }
      (Function.update desks thread
        { desks thread with owes := some (made.packet native c.routineSeq) }) := by
  have owner := (numbered.holds thread).mp held
  have counter := numbered.counter
  have reset := numbered.reset
  refine numbered.moved (by simp [held, owner]) (fun _ _ => Iff.rfl) (fun _ => held)
    (numbered.passed thread) (fun _ _ => rfl) ?_ ?_ ?_ ?_
  · have handed := numbered.sent
    rw [numbered.owed_eq held, settled] at handed
    simp only [owed, owner, Function.update_self, numbered.passed thread made passed,
      List.map_append, ← handed]
    simp
  · simp only [List.length_append]
    omega
  · simp only [List.length_append, List.length_singleton]
    rw [show ledger.drawn.length + 1 - ledger.reset = ledger.drawn.length - ledger.reset + 1 by omega,
      counter, UInt32.ofNat_add]
    rfl
  · intro i draw found
    dsimp only at found
    by_cases old : ledger.reset + i < ledger.drawn.length
    · rw [List.getElem?_append_left old] at found
      exact numbered.numbers i draw found
    · rw [List.getElem?_append_right (by omega)] at found
      obtain ⟨bound, rfl⟩ := List.getElem?_eq_some_iff.mp found
      simp only [List.length_singleton] at bound
      have last : i = ledger.drawn.length - ledger.reset := by omega
      simp [counter, last]

theorem sends (numbered : Numbered native c ledger desks) {packet : Bytes} (destination : Endpoint)
    (isRoutine : notRealTime native packet = true) (owes : (desks thread).owes = some packet) :
    Numbered native (c.record (.sent packet destination)) ledger
      (Function.update desks thread { desks thread with owes := none }) := by
  have held := numbered.owes thread (by simp [owes])
  have owner := (numbered.holds thread).mp held
  refine numbered.moved (numbered.holds thread) (fun _ _ => Iff.rfl) (fun other => absurd rfl other)
    (numbered.passed thread) (fun _ _ => rfl) ?_ numbered.reset numbered.counter numbered.numbers
  have handed := numbered.sent
  rw [numbered.owed_eq held, owes] at handed
  have sent : routineSent native (c.record (.sent packet destination)).log =
      routineSent native c.log ++ [packet] := by
    change routineSent native (c.log ++ [.sent packet destination]) = _
    rw [routineSent_append]
    simp [routineSent, datagrams, isRoutine]
  have paid : owed (c.record (.sent packet destination))
      (Function.update desks thread { desks thread with owes := none }) = [] := by
    simp [owed, record, owner]
  rw [sent, paid, List.append_nil]
  exact handed

theorem rests (numbered : Numbered native c ledger desks) (settled : (desks thread).owes = none)
    (outside : (desks thread).holds = false) :
    Numbered native c ledger (Function.update desks thread ⟨none, false, none⟩) := by
  have holds := numbered.holds thread
  rw [outside] at holds
  refine numbered.moved holds (fun _ _ => Iff.rfl) (fun other => absurd rfl other)
    (fun made same => by cases same) (fun _ _ => rfl) ?_ numbered.reset numbered.counter
    numbered.numbers
  rw [owed_moved rfl settled.symm]
  exact numbered.sent

theorem realTime (numbered : Numbered native c ledger desks) {packet : Bytes}
    (destination : Endpoint) (other : ¬ notRealTime native packet = true) :
    Numbered native (c.record (.sent packet destination)) ledger desks where
  holds := numbered.holds
  owes := numbered.owes
  passed := numbered.passed
  sent := by
    have same : routineSent native (c.record (.sent packet destination)).log =
        routineSent native c.log := by
      change routineSent native (c.log ++ [.sent packet destination]) = _
      rw [routineSent_append]
      simp [routineSent, datagrams, other]
    rw [same]
    exact numbered.sent
  reset := numbered.reset
  counter := numbered.counter
  numbers := numbered.numbers

theorem resets (numbered : Numbered native c ledger desks) :
    Numbered native { c with routineSeq := 0 } { ledger with reset := ledger.drawn.length } desks where
  holds := numbered.holds
  owes := numbered.owes
  passed := numbered.passed
  sent := numbered.sent
  reset := le_refl _
  counter := by simp
  numbers i draw found := by simp at found

end Numbered

end

/-! ### Every interleaving -/

section

variable {native : Endian} {policy : Policy} {thread : Thread} {c after : Client} {ledger : Ledger}
  {desks : Thread → Desk}

theorem Numbered.acts (numbered : Numbered native c ledger desks) {β : Type} {operation : Op β}
    {answer : Answer} {value : β}
    (stepped : step policy thread operation answer c = some (value, after))
    {post : β → Desk → Prop} (holds : numbering native β operation post (desks thread)) :
    ∃ desk, post value desk ∧ Numbered native after (entries thread β operation c ledger)
      (Function.update desks thread desk) := by
  by_cases apart : operation.isConcerned = false
  · have transmits : operation.isTransmission = false := by
      cases operation <;> first | exact apart | rfl
    refine ⟨desks thread, numbering_stays transmits holds value, ?_⟩
    rw [Function.update_eq_self, entries_unconcerned apart]
    exact numbered.unconcerned (step_unconcerned apart stepped)
  · cases operation <;> try exact absurd rfl apart
    case note event =>
      cases event <;> try exact absurd rfl apart
      case passed type flag payload =>
        cases stepped
        exact ⟨_, holds, numbered.passes type flag payload⟩
      case sent => exact holds.elim
    case lock mutex =>
      cases mutex
      · exact absurd rfl apart
      · simp only [step] at stepped
        split at stepped
        · next free =>
          cases stepped
          obtain ⟨outside, locked⟩ := numbered.locks free
          exact ⟨_, holds outside, locked⟩
        · cases stepped
    case unlock mutex =>
      cases mutex
      · exact absurd rfl apart
      · cases stepped
        exact ⟨_, holds.2.2, numbered.unlocks holds.1 holds.2.1⟩
    case resetSeq realTime =>
      cases realTime
      · cases stepped
        refine ⟨desks thread, holds (), ?_⟩
        rw [Function.update_eq_self]
        exact numbered.resets
      · exact absurd rfl apart
    case takeSeq realTime =>
      cases realTime
      · cases stepped
        obtain ⟨held, settled, made, passed, _, next⟩ := holds
        exact ⟨_, next _, numbered.draws held settled passed⟩
      · cases stepped
        refine ⟨desks thread, holds _, ?_⟩
        rw [Function.update_eq_self]
        exact numbered.unconcerned ⟨rfl, rfl, rfl⟩
    case sendTo packet destination =>
      simp only [numbering] at holds
      simp only [step] at stepped
      split at stepped
      · cases stepped
      · cases stepped
        by_cases isRoutine : notRealTime native packet = true
        · rw [if_pos isRoutine] at holds
          exact ⟨_, holds.2 _, numbered.sends destination isRoutine holds.1⟩
        · rw [if_neg isRoutine] at holds
          refine ⟨desks thread, holds _, ?_⟩
          rw [Function.update_eq_self]
          exact numbered.realTime destination isRoutine

/-- A job starts and ends outside of the mutex, owing nothing. -/
theorem Composed.keeps {α : Type} {program : Method α} (composed : Composed native program)
    {rest : Outcome α → Client → Client} (quietly : ∀ outcome c, Unconcerned c (rest outcome c)) :
    (numbered native).Keeps thread (program.settle fun outcome => .ret (rest outcome))
      (numbered native).idle := by
  unfold Discipline.Keeps
  rw [wp_settle]
  refine composed.tidy.wp rfl fun outcome passed => ?_
  exact ⟨quietly outcome, rfl, rfl⟩

end

theorem threads_numbered (rules : Rules) :
    Respects (threads rules) (numbered rules.native) (fun _ _ => True) where
  monotone _ := numbering_monotone
  begins {config ledger desks thread job after task} guided idle begun _ := by
    have resting := guided.resting thread idle
    have stays : Function.update desks thread (numbered rules.native).idle = desks := by
      rw [← resting, Function.update_eq_self]
    refine ⟨(numbered rules.native).idle, ?_⟩
    rw [stays]
    cases begins_cases begun with
    | call => exact ⟨(Composed.publicCall _).keeps fun _ _ => ⟨rfl, rfl, rfl⟩, guided.joint⟩
    | connectSync =>
      refine ⟨(Composed.publicCall _).keeps fun outcome c => ?_, guided.joint⟩
      unfold entering
      split <;> exact ⟨rfl, rfl, rfl⟩
    | awaits =>
      refine ⟨Composed.awaitConnection.keeps fun outcome c => ?_, guided.joint⟩
      cases outcome <;> exact ⟨rfl, rfl, rfl⟩
    | handles =>
      refine ⟨(Composed.handler _ _).keeps fun outcome c => ⟨rfl, rfl, rfl⟩, ?_⟩
      exact guided.joint.unconcerned ⟨rfl, rfl, rfl⟩
  acts guided works stepped _ post holds := guided.joint.acts stepped holds
  nests {config ledger desks thread job β operation next made} guided works allowed _ post holds := by
    cases operation <;> try exact allowed.elim
    case endCallback callback =>
      obtain ⟨settled, rest⟩ := holds
      have composed : Composed rules.native ((threads rules).body made) :=
        .bind (.publicCall made) fun _ => .ret ()
      exact composed.tidy.wp settled fun outcome passed => ⟨settled, fun passed => rest passed⟩
  ends {config ledger desks thread job finish} guided works _ ended := by
    obtain ⟨quietly, settled, outside⟩ := ended
    exact (guided.joint.unconcerned (quietly _)).rests settled outside
  happens {config ledger desks event after} guided happened _ := by
    rcases happens_cases happened with ⟨_, rfl⟩ | ⟨_, _, _, rfl⟩ | ⟨_, _, rfl⟩ <;>
      exact guided.joint.unconcerned ⟨rfl, rfl, rfl⟩

/-- One atomic step of the client with its threads. -/
abbrev Turn := Transition (Config Op Client Thread Job) (Action Answer Thread Job PublicCall Happening)

def Op.isReset : {β : Type} → Op β → Bool
  | _, .resetSeq realTime => !realTime
  | _, _ => false

/-- The routine counter is set to zero, which `Connect` does when a session begins. -/
def resets (turn : Turn) : Bool :=
  match turn.label with
  | .acts thread _ =>
    match turn.before.working thread with
    | some (_, .call operation _) => operation.isReset
    | _ => false
  | _ => false

/-- The routine numbers drawn in the second part of a run. -/
def drawnIn (early late : List Turn) : List (Option Transmission × UInt32) :=
  (history entries blank (early ++ late)).drawn.drop (history entries blank early).drawn.length

/-- The routine datagrams handed to `send_to` since an earlier state. -/
def sentSince (native : Endian) (c after : Client) : List Bytes :=
  (routineSent native after.log).drop (routineSent native c.log).length

theorem observed_entries (turn : Turn) (ledger : Ledger) :
    (∃ more, (observed entries turn ledger).drawn = ledger.drawn ++ more) ∧
      (resets turn = false → (observed entries turn ledger).reset = ledger.reset) := by
  have unmoved (steady : Prop) : (∃ more, ledger.drawn = ledger.drawn ++ more) ∧
      (steady → ledger.reset = ledger.reset) :=
    ⟨⟨[], (List.append_nil _).symm⟩, fun _ => rfl⟩
  obtain ⟨before, label, after⟩ := turn
  cases label <;> try exact unmoved _
  case acts thread answer =>
    simp only [observed, resets]
    cases before.working thread with
    | none => exact unmoved _
    | some work =>
      obtain ⟨job, task⟩ := work
      cases task <;> try exact unmoved _
      case call β operation next =>
        cases operation <;> try exact unmoved _
        case note event => cases event <;> exact unmoved _
        case takeSeq realTime =>
          cases realTime
          · exact ⟨⟨_, rfl⟩, fun _ => rfl⟩
          · exact unmoved _
        case resetSeq realTime =>
          cases realTime
          · exact ⟨⟨[], (List.append_nil _).symm⟩, fun steady => by cases steady⟩
          · exact unmoved _

theorem history_entries (ledger : Ledger) (turns : List Turn)
    (session : ∀ turn ∈ turns, resets turn = false) :
    (∃ more, (history entries ledger turns).drawn = ledger.drawn ++ more) ∧
      (history entries ledger turns).reset = ledger.reset := by
  induction turns generalizing ledger with
  | nil => exact ⟨⟨[], (List.append_nil _).symm⟩, rfl⟩
  | cons turn turns ih =>
    obtain ⟨⟨first, extended⟩, steady⟩ := observed_entries turn ledger
    obtain ⟨⟨rest, further⟩, kept⟩ := ih (observed entries turn ledger) fun other member =>
      session other (List.mem_cons_of_mem _ member)
    change (∃ more, (history entries (observed entries turn ledger) turns).drawn = _) ∧
      (history entries (observed entries turn ledger) turns).reset = _
    refine ⟨⟨first ++ rest, ?_⟩, kept.trans (steady (session turn (by simp)))⟩
    rw [further, extended, List.append_assoc]

theorem Numbered.start (native : Endian) (dmrId : UInt32) (description : Bytes)
    (hooks : Hook → Bool) :
    Numbered native (fresh dmrId description hooks) blank fun _ => ⟨none, false, none⟩ where
  holds thread := ⟨fun held => (by cases held), fun held => (by cases held)⟩
  owes thread other := absurd rfl other
  passed thread made same := by cases same
  sent := rfl
  reset := le_refl _
  counter := rfl
  numbers i draw found := by simp [blank] at found

section

variable {native : Endian} {c after : Client} {ledger ledgerAfter : Ledger}
  {desks desksAfter : Thread → Desk} {more : List (Option Transmission × UInt32)}

theorem owed_length (c : Client) (desks : Thread → Desk) :
    (owed c desks).length ≤ 1 ∧ (c.writeMutex = none → owed c desks = []) := by
  unfold owed
  split
  · exact ⟨Nat.zero_le _, fun _ => rfl⟩
  · next thread held =>
    refine ⟨?_, fun free => by rw [held] at free; cases free⟩
    cases (desks thread).owes <;> simp

/-- The numbers drawn since an earlier state go on from the counter of that state. -/
theorem Numbered.follows (numbered : Numbered native after ledgerAfter desksAfter)
    (earlier : Numbered native c ledger desks) (extended : ledgerAfter.drawn = ledger.drawn ++ more)
    (steady : ledgerAfter.reset = ledger.reset) :
    (∀ i draw, more[i]? = some draw → draw.2 = c.routineSeq + UInt32.ofNat i) ∧
      after.routineSeq = c.routineSeq + UInt32.ofNat more.length := by
  have reset := earlier.reset
  constructor
  · intro i draw found
    have here := numbered.numbers (ledger.drawn.length - ledger.reset + i) draw
    rw [steady, extended, List.getElem?_append_right (by omega),
      show ledger.reset + (ledger.drawn.length - ledger.reset + i) - ledger.drawn.length = i by omega]
      at here
    rw [here found, earlier.counter, UInt32.ofNat_add]
  · rw [numbered.counter, earlier.counter, extended, steady, List.length_append,
      show ledger.drawn.length + more.length - ledger.reset =
        ledger.drawn.length - ledger.reset + more.length by omega, UInt32.ofNat_add]

/-- What was sent since an earlier state in which nothing was owed is what was drawn since. -/
theorem Numbered.carries (numbered : Numbered native after ledgerAfter desksAfter)
    (earlier : Numbered native c ledger desks) (free : c.writeMutex = none)
    (extended : ledgerAfter.drawn = ledger.drawn ++ more) :
    (∀ (i : Nat) (packet : Bytes), (sentSince native c after)[i]? = some packet →
      ∃ (made : Transmission) (number : UInt32), more[i]? = some (some made, number) ∧
        packet = made.packet native number) ∧
      (more.length = (sentSince native c after).length ∨
        after.writeMutex ≠ none ∧ more.length = (sentSince native c after).length + 1) := by
  have before := earlier.sent
  rw [(owed_length c desks).2 free, List.append_nil] at before
  have sent := numbered.sent
  rw [extended] at sent
  have count : (routineSent native c.log).length = ledger.drawn.length := by
    simpa using congrArg List.length before
  have total : (routineSent native after.log).length + (owed after desksAfter).length =
      ledger.drawn.length + more.length := by
    simpa using congrArg List.length sent
  obtain ⟨short, settled⟩ := owed_length after desksAfter
  constructor
  · intro i packet found
    rw [sentSince, List.getElem?_drop, count] at found
    have same := congrArg (·[ledger.drawn.length + i]?) sent
    simp only [List.map_append, List.getElem?_append, List.length_map, List.getElem?_map] at same
    have bound := (List.getElem?_eq_some_iff.mp found).1
    rw [if_pos bound, if_neg (by omega), found, Nat.add_sub_cancel_left] at same
    cases drew : more[i]? with
    | none =>
      rw [drew] at same
      cases same
    | some draw =>
      obtain ⟨passed, number⟩ := draw
      rw [drew] at same
      obtain ⟨made, rfl, carried⟩ := Option.map_eq_some_iff.mp (Option.some.inj same).symm
      exact ⟨made, number, rfl, carried.symm⟩
  · rw [sentSince, List.length_drop, count]
    by_cases held : after.writeMutex = none
    · rw [settled held, List.length_nil] at total
      omega
    · by_cases behind : (routineSent native after.log).length + 1 = ledger.drawn.length + more.length ∧
          ledger.drawn.length ≤ (routineSent native after.log).length
      · exact .inr ⟨held, by omega⟩
      · omega

/-- Consecutive numbers from `first` on, one in each header, in the order in which they were drawn. -/
structure Consecutive (native : Endian) (first : UInt32)
    (drawn : List (Option Transmission × UInt32)) (sent : List Bytes) : Prop where
  headers : sent.map (fun packet => (deserializeHeader native packet).map (·.number)) =
    (List.range sent.length).map fun i => some (first + UInt32.ofNat i)
  carries : ∀ (i : Nat) (packet : Bytes), sent[i]? = some packet → ∃ made : Transmission,
    drawn[i]? = some (some made, first + UInt32.ofNat i) ∧
      packet = made.packet native (first + UInt32.ofNat i)

end

/-- Within one session the routine datagrams carry the numbers that the counter goes through, each
with the payload of the call that drew its number, whichever threads send and however their steps
interleave. At most one number is drawn and not yet sent, by the thread inside `writeMutex_`. -/
theorem routine_numbers_consecutive {rules : Rules} {dmrId : UInt32} {description : Bytes}
    {hooks : Hook → Bool} {start last : Config Op Client Thread Job} {early late : List Turn}
    (before : Effects.Run (threads rules).Step (unworked (fresh dmrId description hooks)) early start)
    (free : start.shared.writeMutex = none)
    (run : Effects.Run (threads rules).Step start late last)
    (session : ∀ turn ∈ late, resets turn = false) :
    Consecutive rules.native start.shared.routineSeq (drawnIn early late)
        (sentSince rules.native start.shared last.shared) ∧
      ((drawnIn early late).length = (sentSince rules.native start.shared last.shared).length ∨
        last.shared.writeMutex ≠ none ∧
          (drawnIn early late).length =
            (sentSince rules.native start.shared last.shared).length + 1) ∧
      last.shared.routineSeq =
        start.shared.routineSeq + UInt32.ofNat (drawnIn early late).length := by
  have begun := @Guided.start Op Client Thread Job _ _ (numbered rules.native) blank _
    (Numbered.start rules.native dmrId description hooks)
  obtain ⟨_, first⟩ := (threads_numbered rules).run begun before (.of_forall fun _ _ _ => trivial)
  obtain ⟨_, second⟩ := (threads_numbered rules).run first run (.of_forall fun _ _ _ => trivial)
  obtain ⟨⟨more, extended⟩, steady⟩ := history_entries (history entries blank early) late session
  have drawn : drawnIn early late = more := by
    rw [drawnIn, history_append, extended, List.drop_left]
  rw [drawn]
  obtain ⟨numbers, counter⟩ := second.joint.follows first.joint extended steady
  obtain ⟨carries, counts⟩ := second.joint.carries first.joint free extended
  have each (i : Nat) (packet : Bytes)
      (found : (sentSince rules.native start.shared last.shared)[i]? = some packet) :
      ∃ made : Transmission, more[i]? = some (some made, start.shared.routineSeq + UInt32.ofNat i) ∧
        packet = made.packet rules.native (start.shared.routineSeq + UInt32.ofNat i) := by
    obtain ⟨made, number, drew, carried⟩ := carries i packet found
    have same : number = start.shared.routineSeq + UInt32.ofNat i := numbers i _ drew
    subst same
    exact ⟨made, drew, carried⟩
  refine ⟨⟨?_, each⟩, counts, counter⟩
  apply List.ext_getElem
  · simp
  · intro i bound _
    obtain ⟨made, _, carried⟩ := each i _ (List.getElem?_eq_getElem (by simpa using bound))
    rw [List.getElem_map, carried, Transmission.packet, header_packetOf, List.getElem_map,
      List.getElem_range]
    rfl

instance : ∀ (β : Type) (operation : Op β) (made : PublicCall),
    Decidable ((threads sampleRules).nests operation made) :=
  fun _ operation made => isFalse (by cases operation <;> exact id)

/-- A thread works on a job from its beginning to its end. -/
def throughout (thread : Thread) (job : Job) (count : Nat) :
    List (Action Answer Thread Job PublicCall Happening) :=
  .begins thread job :: List.replicate count (.acts thread {}) ++ [.ends thread]

/-- The handshake of `handshakeScript`, one atomic step after the other. -/
def handshakeTurns : List (Action Answer Thread Job PublicCall Happening) :=
  let challenge := packetOf .little .challenge MessageFlag.none 0 []
  let acknowledgement := packetOf .little .keepAlive MessageFlag.none 1 []
  throughout (.app 0) (.call (.connect "master" 54006 [0x70] 1000)) 19 ++
    .happens (.completes 1 { endpoints := [sampleServer] }) :: throughout .io (.handles 1) 17 ++
    .happens (.arrives 1 sampleServer challenge) :: throughout .io (.handles 1) 18 ++
    .happens (.arrives 1 sampleServer acknowledgement) :: throughout .io (.handles 1) 18

/-- Two threads send at once: the second waits for the first, which has drawn its number. -/
def rivalTurns : List (Action Answer Thread Job PublicCall Happening) :=
  .begins (.app 0) (.call (.subscribe 91)) :: List.replicate 6 (.acts (.app 0) {}) ++
    .begins (.app 1) (.call (.unsubscribe 92)) :: List.replicate 3 (.acts (.app 1) {}) ++
    List.replicate 4 (.acts (.app 0) {}) ++ List.replicate 5 (.acts (.app 1) {})

theorem rivals_take_turns : ∃ (start last : Config Op Client Thread Job) (early late : List Turn),
    Effects.Run (threads sampleRules).Step (unworked sampleClient) early start ∧
      Effects.Run (threads sampleRules).Step start late last ∧
      (sentSince .little start.shared last.shared).length = 2 ∧
      Consecutive .little start.shared.routineSeq (drawnIn early late)
        (sentSince .little start.shared last.shared) := by
  obtain ⟨early, start, before, passed⟩ := threads_checked sampleRules (unworked sampleClient)
    handshakeTurns
    (fun _ start => start.shared.writeMutex = none ∧
      (play (threads sampleRules).advance id [] start rivalTurns).any fun result =>
        result.1.all (resets · = false) ∧
          (sentSince .little start.shared result.2.shared).length = 2) (by decide +kernel)
  obtain ⟨free, passes⟩ := of_decide_eq_true passed
  obtain ⟨late, last, run, checked⟩ := threads_checked sampleRules start rivalTurns
    (fun late last => late.all (resets · = false) ∧
      (sentSince .little start.shared last.shared).length = 2) passes
  obtain ⟨session, two⟩ := of_decide_eq_true checked
  have steady : ∀ turn ∈ late, resets turn = false := by simpa using session
  exact ⟨start, last, early, late, before, run, two,
    (routine_numbers_consecutive before free run steady).1⟩

end OpenDTP.Client
