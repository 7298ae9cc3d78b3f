import OpenDTP.Client.Sequential

/-! What handlers and sending calls never touch: the thread, the session number, the hooks and the
password, and of the log only its end, which they extend by events of their own. How often they
invoke `onDisconnected` is counted along. -/

namespace OpenDTP.Client
open Common Protocol Effects

/-- The events of method bodies. The others mark calls, sessions and threads. -/
def Event.isInner : Event → Bool
  | .called _ | .returned _ _ | .accepted _ | .started => false
  | _ => true

def Event.isFarewell : Event → Bool
  | .invoked (.onDisconnected _) => true
  | _ => false

def farewells (events : List Event) : Nat := events.countP Event.isFarewell

theorem farewells_append (first second : List Event) :
    farewells (first ++ second) = farewells first + farewells second := List.countP_append

/-- The datagrams handed to `send_to`. -/
def datagrams (events : List Event) : List Bytes :=
  events.filterMap fun
    | .sent packet _ => some packet
    | _ => none

theorem datagrams_append (first second : List Event) :
    datagrams (first ++ second) = datagrams first ++ datagrams second := List.filterMap_append

structure Kept (count : Nat) (c after : Client) : Prop where
  ioThread : after.ioThread = c.ioThread
  session : after.session = c.session
  hooks : after.hooks = c.hooks
  password : after.password = c.password
  log : ∃ events, after.log = c.log ++ events ∧ (∀ event ∈ events, event.isInner = true) ∧
    farewells events = count

namespace Kept

theorem refl (c : Client) : Kept 0 c c := ⟨rfl, rfl, rfl, rfl, [], by simp, by simp, rfl⟩

theorem trans {one two : Nat} {first second third : Client} (early : Kept one first second)
    (late : Kept two second third) : Kept (one + two) first third := by
  obtain ⟨events, extended, inner, counted⟩ := early.log
  obtain ⟨others, extendedMore, innerMore, countedMore⟩ := late.log
  refine ⟨late.ioThread.trans early.ioThread, late.session.trans early.session,
    late.hooks.trans early.hooks, late.password.trans early.password, events ++ others, ?_, ?_, ?_⟩
  · rw [extendedMore, extended, List.append_assoc]
  · intro event member
    rcases List.mem_append.mp member with here | there
    · exact inner event here
    · exact innerMore event there
  · rw [farewells_append, counted, countedMore]

/-- In front of a step that invokes nothing the count is the later one. -/
theorem before {two : Nat} {first second third : Client} (early : Kept 0 first second)
    (late : Kept two second third) : Kept two first third := by
  have both := early.trans late
  rw [Nat.zero_add] at both
  exact both

theorem recorded {c : Client} {event : Event} (inner : event.isInner = true)
    (other : event.isFarewell = false) : Kept 0 c { c with log := c.log ++ [event] } := by
  refine ⟨rfl, rfl, rfl, rfl, [event], rfl, ?_, ?_⟩
  · intro member same
    rw [List.mem_singleton.mp same]
    exact inner
  · simp [farewells, other]

end Kept

/-- How often the end of a session calls `onDisconnected`: once, if it is assigned. -/
def farewell (c : Client) : Nat := if c.hooks .onDisconnected then 1 else 0

section

variable {native : Endian} {policy : Policy} {c after : Client} {outcome : Outcome Unit}

theorem announcement_inner (callback : Callback) (c : Client) :
    ∀ event ∈ announcement callback c, event.isInner = true := by
  unfold announcement
  split <;> simp [Event.isInner]

theorem announcement_farewells {callback : Callback} (other : callback.hook ≠ .onDisconnected)
    (c : Client) : farewells (announcement callback c) = 0 := by
  unfold announcement
  split
  · cases callback <;> first | rfl | exact absurd rfl other
  · rfl

theorem announced_kept {callback : Callback} (other : callback.hook ≠ .onDisconnected) (c : Client) :
    Kept 0 c (announced callback c) :=
  ⟨rfl, rfl, rfl, rfl, _, rfl, announcement_inner callback c, announcement_farewells other c⟩

theorem sending_inner (type : MessageType) (flag : UInt16) (payload : Bytes) (ec : ErrorCode)
    (c : Client) : ∀ event ∈ sending native type flag payload ec c, event.isInner = true := by
  have complaint := announcement_inner (.onError .socketIo ("Socket write error: " ++ ec.message)) c
  unfold sending
  split
  · simp [Event.isInner]
  · intro event member
    rcases List.mem_cons.mp member with rfl | later
    · rfl
    · exact complaint event later

theorem sending_farewells (type : MessageType) (flag : UInt16) (payload : Bytes) (ec : ErrorCode)
    (c : Client) : farewells (sending native type flag payload ec c) = 0 := by
  have complaint : farewells (announcement (.onError .socketIo ("Socket write error: " ++ ec.message)) c)
      = 0 := announcement_farewells (by simp [Callback.hook]) c
  unfold sending
  split
  · rfl
  · exact complaint

theorem announcement_datagrams (callback : Callback) (c : Client) :
    datagrams (announcement callback c) = [] := by
  unfold announcement
  split <;> rfl

/-- `send_to` is handed one datagram, whatever comes of it. -/
theorem datagrams_sending (type : MessageType) (flag : UInt16) (payload : Bytes) (ec : ErrorCode)
    (c : Client) : datagrams (sending native type flag payload ec c) =
      [packetOf native type flag (nextSeq flag c) payload] := by
  unfold sending
  split
  · rfl
  · exact congrArg (List.cons _) (announcement_datagrams _ c)

theorem transmitted_kept (type : MessageType) (flag : UInt16) (payload : Bytes) (ec : ErrorCode)
    (c : Client) : Kept 0 c (transmitted native type flag payload ec c) := by
  have inner : ∀ event ∈ sending native type flag payload ec c, event.isInner = true :=
    sending_inner type flag payload ec c
  have counted : farewells (sending native type flag payload ec c) = 0 :=
    sending_farewells type flag payload ec c
  refine ⟨rfl, rfl, rfl, rfl, _, rfl, ?_, ?_⟩
  · intro event member
    rcases List.mem_cons.mp member with rfl | later
    · rfl
    · split at later
      · exact inner event later
      · cases later
  · split
    · exact counted
    · rfl

theorem Transmits.kept {type : MessageType} {flag : UInt16} {payload : Bytes}
    (transmits : Transmits native policy type flag payload c outcome after) : Kept 0 c after := by
  cases transmits <;> exact transmitted_kept _ _ _ _ _

theorem complained_kept (error : ClientError) (message : String) (c : Client) :
    Kept 0 c (complained error message c) :=
  ⟨rfl, rfl, rfl, rfl, _, rfl, announcement_inner _ _,
    announcement_farewells (by simp [Callback.hook]) _⟩

theorem notified_kept (c : Client) : Kept 0 c (notified c) :=
  ⟨rfl, rfl, rfl, rfl, [.notified], rfl, by simp [Event.isInner], rfl⟩

theorem saidClose_kept (ec : ErrorCode) (c : Client) : Kept 0 c (saidClose native ec c) := by
  have inner : ∀ event ∈ sending native .close MessageFlag.none [] ec c, event.isInner = true :=
    sending_inner _ _ _ ec c
  have counted : farewells (sending native .close MessageFlag.none [] ec c) = 0 :=
    sending_farewells _ _ _ ec c
  refine ⟨rfl, rfl, rfl, rfl, _, rfl, ?_, ?_⟩
  · split
    · simpa [Event.isInner] using inner
    · simp
  · split
    · exact counted
    · rfl

theorem closing_kept (ec : ErrorCode) (c : Client) : Kept 0 c (closing native ec c) := by
  have stored : Kept 0 c
      { c with state := .disconnected, log := c.log ++ [.stored .disconnected] } :=
    ⟨rfl, rfl, rfl, rfl, [.stored .disconnected], rfl, by simp [Event.isInner], rfl⟩
  exact stored.trans (saidClose_kept ec _)

theorem tornDown_kept (ec : ErrorCode) (c : Client) :
    Kept (farewell c) c (tornDown native ec c) := by
  have closed : Kept 0 c (closing native ec c) := closing_kept ec c
  obtain ⟨events, extended, inner, counted⟩ := closed.log
  refine ⟨rfl, rfl, rfl, rfl,
    events ++ announcement (.onDisconnected (closing native ec c).lastError) c, ?_, ?_, ?_⟩
  · rw [← List.append_assoc, ← extended]
    rfl
  · intro event member
    rcases List.mem_append.mp member with early | late
    · exact inner event early
    · exact announcement_inner _ c event late
  · rw [farewells_append, counted]
    by_cases assigned : c.hooks .onDisconnected = true
    · simp [announcement, farewell, Callback.hook, assigned, farewells, Event.isFarewell]
    · simp [announcement, farewell, Callback.hook, assigned, farewells]

theorem Ended.kept (ended : Ended native policy c outcome after) :
    Kept (farewell c) c after := by
  cases ended <;> exact tornDown_kept _ _

theorem Fails.kept {error : ClientError} {message : String}
    (fails : Fails native policy error message c outcome after) : ∃ count, Kept count c after := by
  have complaint := complained_kept error message c
  cases fails with
  | threw => exact ⟨_, complaint⟩
  | ended ec => exact ⟨_, (complaint.trans (tornDown_kept ec _)).trans (notified_kept _)⟩
  | leftEarly ec => exact ⟨_, complaint.trans (tornDown_kept ec _)⟩

theorem TimesOut.kept {ec : ErrorCode} (ran : TimesOut native policy ec c outcome after) :
    ∃ count, Kept count c after := by
  cases ran with
  | inert => exact ⟨_, .refl c⟩
  | failed _ _ fails => exact fails.kept

theorem targeted_kept (endpoint : Endpoint) (openEc : ErrorCode) (c : Client) :
    Kept 0 c (targeted endpoint openEc c) :=
  ⟨rfl, rfl, rfl, rfl, [.opened openEc], rfl, by simp [Event.isInner], rfl⟩

theorem opened_kept (endpoint : Endpoint) (bindEc : ErrorCode) (c : Client) :
    Kept 0 c (opened endpoint bindEc c) :=
  ⟨rfl, rfl, rfl, rfl, [.opened .success, .bound bindEc], by simp [opened], by simp [Event.isInner],
    rfl⟩

theorem receiving_kept (c : Client) : Kept 0 c (receiving c) :=
  ⟨rfl, rfl, rfl, rfl, [], by simp [receiving], by simp, rfl⟩

theorem Resolves.kept {ec : ErrorCode} {endpoints : List Endpoint}
    (ran : Resolves native policy ec endpoints c outcome after) : ∃ count, Kept count c after := by
  cases ran with
  | inert => exact ⟨_, .refl c⟩
  | unresolved _ _ _ fails => exact fails.kept
  | unopened endpoint openEc _ _ _ _ fails =>
    obtain ⟨count, kept⟩ := fails.kept
    exact ⟨count, (targeted_kept endpoint openEc c).before kept⟩
  | unbound endpoint bindEc _ _ _ _ _ fails =>
    obtain ⟨count, kept⟩ := fails.kept
    exact ⟨count, (opened_kept endpoint bindEc c).before kept⟩
  | started endpoint _ _ _ _ transmits =>
    exact ⟨0, ((opened_kept endpoint .success c).trans (receiving_kept _)).trans transmits.kept⟩

theorem armed_kept (c : Client) : Kept 0 c (armed c) :=
  ⟨rfl, rfl, rfl, rfl, [], by simp [armed], by simp, rfl⟩

theorem KeepsAlive.kept {ec : ErrorCode} (ran : KeepsAlive native policy ec c outcome after) :
    Kept 0 c after := by
  cases ran with
  | inert => exact .refl c
  | threw _ transmits => exact transmits.kept
  | beat _ transmits => exact transmits.kept.trans (armed_kept _)

theorem Reports.kept {callback : Callback} (other : callback.hook ≠ .onDisconnected)
    (reports : Reports policy quiet callback c outcome after) : Kept 0 c after := by
  have invoked : Kept 0 c { c with log := c.log ++ [.invoked callback] } := by
    apply Kept.recorded rfl
    cases callback <;> first | rfl | exact absurd rfl other
  cases reports with
  | unset => exact .refl c
  | done _ ran =>
    cases ran
    exact invoked
  | threw _ _ ran =>
    cases ran
    exact invoked

theorem challenged_kept (c : Client) : Kept 0 c (challenged c) :=
  ⟨rfl, rfl, rfl, rfl, [.stored .authenticating], rfl, by simp [Event.isInner], rfl⟩

theorem welcomed_kept (c : Client) : Kept 0 c (welcomed c) :=
  ⟨rfl, rfl, rfl, rfl, [.stored .connected, .notified], rfl, by simp [Event.isInner], rfl⟩

/-- The dispatcher never delivers the end of a session. -/
theorem deliver_other {type : MessageType} {number : UInt32} {payload : Bytes} {callback : Callback}
    (delivers : deliver native type number payload = some callback) :
    callback.hook ≠ .onDisconnected ∧ callback.hook ≠ .onError := by
  unfold deliver at delivers
  repeat' split at delivers
  all_goals first
    | cases delivers
    | (obtain ⟨value, _, rfl⟩ := Option.map_eq_some_iff.mp delivers)
  all_goals simp [Callback.hook, voiceHeaderOf]

theorem Processes.kept {packet : Bytes}
    (processes : Processes native policy quiet packet c outcome after) : Kept 0 c after := by
  cases processes with
  | ignored => exact .refl c
  | answered _ _ _ transmits => exact (challenged_kept c).trans transmits.kept
  | admitted _ _ _ _ reports =>
    exact (welcomed_kept c).trans (reports.kept (by simp [Callback.hook]))
  | delivered _ decoded _ reports => exact reports.kept (deliver_other decoded).1

theorem resumed_kept (c : Client) : Kept 0 c (resumed c) := by
  unfold resumed
  split
  · exact .refl c
  · exact receiving_kept c

theorem inspected_kept (packet : Bytes) (c : Client) : Kept 0 c (inspected packet c) :=
  Kept.recorded rfl rfl

theorem Receives.kept {ec : ErrorCode} {bytesTransferred : Nat}
    (ran : Receives native policy quiet ec bytesTransferred c outcome after) :
    ∃ count, Kept count c after := by
  cases ran with
  | inert => exact ⟨_, .refl c⟩
  | complaintThrew message => exact ⟨_, complained_kept _ message c⟩
  | broke message _ _ _ ended => exact ⟨_, (complained_kept _ message c).trans ended.kept⟩
  | empty => exact ⟨_, resumed_kept c⟩
  | foreign => exact ⟨_, (inspected_kept _ c).trans (resumed_kept _)⟩
  | processed _ _ _ _ processes =>
    exact ⟨_, ((inspected_kept _ c).trans processes.kept).trans (resumed_kept _)⟩
  | threw _ _ _ _ processes => exact ⟨_, (inspected_kept _ c).trans processes.kept⟩

theorem Handles.kept {kind : Kind} {completion : Completion}
    (ran : Handles native policy quiet completion c kind outcome after) :
    ∃ count, Kept count c after := by
  cases ran with
  | connectTimeout ran => exact ran.kept
  | resolve ran => exact ran.kept
  | receive ran => exact ran.kept
  | keepAlive ran => exact ⟨_, ran.kept⟩

theorem Sends.kept (sends : Sends native policy c outcome after) : Kept 0 c after := by
  induction sends with
  | done c => exact .refl c
  | inCall value _ ih => exact ⟨ih.ioThread, ih.session, ih.hooks, ih.password, ih.log⟩
  | recount _ ih => exact ⟨ih.ioThread, ih.session, ih.hooks, ih.password, ih.log⟩
  | passed _ _ transmits _ ih => exact transmits.kept.trans ih
  | threw _ _ transmits => exact transmits.kept

end

end OpenDTP.Client
