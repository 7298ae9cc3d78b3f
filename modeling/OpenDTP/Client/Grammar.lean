import OpenDTP.Client.Frames
import OpenDTP.Client.Replay
import OpenDTP.Protocol.Wire
import Mathlib.Computability.Language

/-! What a session sends. The datagrams of each session form an initial part of a word of a small
regular language, the messages of the application come only after the session was CONNECTED, and
the datagrams without the real-time flag are numbered without a gap. -/

namespace OpenDTP.Client
open Common Protocol Effects

/-! ### The language -/

/-- What a connected client sends until it closes. -/
def isApplication (type : MessageType) : Prop :=
  type ∈ [MessageType.keepAlive, .subscription, .cancelling, .voiceHeader, .dmrAudioFrame,
    .voiceTerminator, .messageText, .locationReport]

def single (type : MessageType) : Language MessageType := {word | word = [type]}

def application : Language MessageType := {word | ∃ type, isApplication type ∧ word = [type]}

/-- `(KEEP_ALIVE (AUTHENTICATION APP*)?)? CLOSE`. -/
def grammar : Language MessageType :=
  (1 + single .keepAlive * (1 + single .authentication * KStar.kstar application)) * single .close

/-- The words without their CLOSE. -/
inductive Body : List MessageType → Prop where
  | silent : Body []
  | greeted : Body [.keepAlive]
  | authenticated {types : List MessageType} (app : ∀ type ∈ types, isApplication type) :
      Body (.keepAlive :: .authentication :: types)

theorem application_kstar {types : List MessageType} (app : ∀ type ∈ types, isApplication type) :
    types ∈ KStar.kstar application := by
  rw [Language.mem_kstar]
  refine ⟨types.map (fun type => [type]), ?_, ?_⟩
  · rw [← List.flatMap_def, List.flatMap_singleton']
  · intro word member
    obtain ⟨type, present, rfl⟩ := List.mem_map.mp member
    exact ⟨type, app type present, rfl⟩

theorem mem_single (type : MessageType) : [type] ∈ single type := rfl

theorem Body.close_mem {word : List MessageType} (body : Body word) :
    word ++ [.close] ∈ grammar := by
  refine Language.append_mem_mul ?_ (mem_single .close)
  cases body with
  | silent => exact .inl rfl
  | greeted => exact .inr (Language.append_mem_mul (mem_single .keepAlive) (.inl rfl))
  | authenticated app =>
    have answering := Language.append_mem_mul (mem_single .authentication) (application_kstar app)
    exact .inr (Language.append_mem_mul (mem_single .keepAlive) (.inr answering))

/-! ### The sessions in a log -/

def sessionsStep : List (List Event) → Event → List (List Event)
  | sessions, .accepted _ => [] :: sessions
  | [], event => [[event]]
  | current :: past, event => (current ++ [event]) :: past

/-- What was recorded in each session, from its accepted `Connect` on, the last session first. What
came before all sessions stands at the end. -/
def sessions (log : List Event) : List (List Event) := log.foldl sessionsStep [[]]

theorem sessions_append (log : List Event) {events : List Event}
    (within : ∀ event ∈ events, event.isAccepted = false) {current : List Event}
    {past : List (List Event)} (split : sessions log = current :: past) :
    sessions (log ++ events) = (current ++ events) :: past := by
  induction events using List.reverseRecOn with
  | nil => simpa using split
  | append_singleton events event ih =>
    have earlier := ih (fun other member => within other (List.mem_append_left _ member))
    have last := within event (by simp)
    rw [← List.append_assoc, sessions, List.foldl_append, ← sessions, earlier, ← List.append_assoc]
    cases event <;> first | rfl | cases last

theorem sessions_accepted (log : List Event) (password : Bytes) :
    sessions (log ++ [.accepted password]) = [] :: sessions log := by
  rw [sessions, List.foldl_append]
  rfl

/-! ### Orderly sessions -/

/-- The headers without the real-time flag. -/
def routine (headers : List Header) : List Header :=
  headers.filter fun header => !isRealTime header.flags

/-- Every datagram but CLOSE behind the two of the handshake was sent after the session had become
CONNECTED. -/
def Late (native : Endian) (since : List Event) : Prop :=
  ∀ first packet destination second, since = first ++ .sent packet destination :: second →
    2 ≤ (datagrams first).length →
      (∃ header, deserializeHeader native packet = some header ∧ header.type = .close) ∨
        .stored .connected ∈ first

structure Orderly (native : Endian) (since : List Event) : Prop where
  spoken : ∃ headers,
    (datagrams since).map (deserializeHeader native) = headers.map some ∧
    (∃ word ∈ grammar, headers.map Header.type <+: word) ∧
    ∀ (index : Nat) (header : Header), (routine headers)[index]? = some header →
      header.number = UInt32.ofNat index
  late : Late native since

/-! ### What a step says -/

/-- Datagrams with these headers were sent, numbered on from the counter of `c`. -/
structure Says (native : Endian) (headers : List Header) (c after : Client) : Prop where
  log : ∃ events, after.log = c.log ++ events ∧ (∀ event ∈ events, event.isAccepted = false) ∧
    (datagrams events).map (deserializeHeader native) = headers.map some ∧
    (after.state = .connected → c.state = .connected ∨ .stored .connected ∈ events)
  numbers : ∀ (index : Nat) (header : Header), (routine headers)[index]? = some header →
    header.number = c.routineSeq + UInt32.ofNat index
  routineSeq : after.routineSeq = c.routineSeq + UInt32.ofNat (routine headers).length

theorem routine_append (first second : List Header) :
    routine (first ++ second) = routine first ++ routine second := List.filter_append ..

section

variable {native : Endian} {policy : Policy} {c after : Client} {outcome : Outcome Unit}

theorem Says.trans {first second : List Header} {middle : Client}
    (early : Says native first c middle) (late : Says native second middle after) :
    Says native (first ++ second) c after := by
  obtain ⟨events, extended, within, heard, connects⟩ := early.log
  obtain ⟨others, extendedMore, withinMore, heardMore, connectsMore⟩ := late.log
  refine ⟨⟨events ++ others, ?_, ?_, ?_, ?_⟩, ?_, ?_⟩
  · rw [extendedMore, extended, List.append_assoc]
  · intro event member
    rcases List.mem_append.mp member with here | there
    · exact within event here
    · exact withinMore event there
  · rw [datagrams_append, List.map_append, List.map_append, heard, heardMore]
  · intro connected
    rcases connectsMore connected with before | stored
    · rcases connects before with earlier | stored
      · exact .inl earlier
      · exact .inr (List.mem_append_left _ stored)
    · exact .inr (List.mem_append_right _ stored)
  · intro index header found
    rw [routine_append] at found
    by_cases inside : index < (routine first).length
    · rw [List.getElem?_append_left inside] at found
      exact early.numbers index header found
    · rw [List.getElem?_append_right (by omega)] at found
      rw [late.numbers _ header found, early.routineSeq, UInt32.add_assoc, ← UInt32.ofNat_add]
      congr 2
      omega
  · rw [late.routineSeq, early.routineSeq, routine_append, List.length_append, UInt32.ofNat_add,
      UInt32.add_assoc]

/-- A step that sends nothing and leaves the session where it is. -/
structure Mute (native : Endian) (c after : Client) : Prop where
  said : Says native [] c after
  state : after.state = c.state
  socketOpen : after.socketOpen = c.socketOpen

theorem Says.silent (events : List Event) (extended : after.log = c.log ++ events)
    (within : ∀ event ∈ events, event.isAccepted = false) (none : datagrams events = [])
    (connects : after.state = .connected → c.state = .connected ∨ .stored .connected ∈ events)
    (routineSeq : after.routineSeq = c.routineSeq) : Says native [] c after :=
  ⟨⟨events, extended, within, by rw [none]; rfl, connects⟩, by simp [routine],
    by simpa [routine] using routineSeq⟩

theorem Mute.recorded (events : List Event) (extended : after.log = c.log ++ events)
    (within : ∀ event ∈ events, event.isAccepted = false) (none : datagrams events = [])
    (state : after.state = c.state) (socketOpen : after.socketOpen = c.socketOpen)
    (routineSeq : after.routineSeq = c.routineSeq) : Mute native c after :=
  ⟨.silent events extended within none (fun connected => .inl (by rw [← state]; exact connected)) routineSeq,
    state, socketOpen⟩

theorem Mute.of_same (log : after.log = c.log) (state : after.state = c.state)
    (socketOpen : after.socketOpen = c.socketOpen) (routineSeq : after.routineSeq = c.routineSeq) :
    Mute native c after :=
  .recorded [] (by rw [log, List.append_nil]) (by simp) rfl state socketOpen routineSeq

theorem Mute.refl (c : Client) : Mute native c c := .of_same rfl rfl rfl rfl

theorem Mute.trans {middle : Client} (early : Mute native c middle)
    (late : Mute native middle after) : Mute native c after :=
  ⟨early.said.trans late.said, late.state.trans early.state,
    late.socketOpen.trans early.socketOpen⟩

theorem announcement_mute (callback : Callback) (c : Client) :
    (∀ event ∈ announcement callback c, event.isAccepted = false) ∧
      datagrams (announcement callback c) = [] := by
  unfold announcement
  split
  · exact ⟨by simp [Event.isAccepted], rfl⟩
  · exact ⟨by simp, rfl⟩

theorem complained_mute (error : ClientError) (message : String) (c : Client) :
    Mute native c (complained error message c) :=
  .recorded _ rfl (announcement_mute _ c).1 (announcement_mute _ c).2 rfl rfl rfl

theorem notified_mute (c : Client) : Mute native c (notified c) :=
  .recorded [.notified] rfl (by simp [Event.isAccepted]) rfl rfl rfl rfl

theorem Reports.mute {callback : Callback}
    (reports : Reports policy quiet callback c outcome after) : Mute native c after := by
  have told : Mute native c { c with log := c.log ++ [.invoked callback] } :=
    .recorded [.invoked callback] rfl (by simp [Event.isAccepted]) rfl rfl rfl rfl
  cases reports with
  | unset => exact .refl c
  | done _ ran =>
    cases ran
    exact told
  | threw _ _ ran =>
    cases ran
    exact told

/-! ### Single datagrams -/

/-- The header that `TransmitRaw` would send next. -/
def nextHeader (type : MessageType) (flag : UInt16) (payload : Bytes) (c : Client) : Header :=
  ⟨type, flag, nextSeq flag c, UInt16.ofNat payload.length⟩

/-- What `TransmitRaw` sends: one datagram through an open socket. -/
def spoken (type : MessageType) (flag : UInt16) (payload : Bytes) (c : Client) : List Header :=
  if c.socketOpen then [nextHeader type flag payload c] else []

theorem sending_datagrams (type : MessageType) (flag : UInt16) (payload : Bytes) (ec : ErrorCode)
    (c : Client) :
    (∀ event ∈ sending native type flag payload ec c, event.isAccepted = false) ∧
      (datagrams (sending native type flag payload ec c)).map (deserializeHeader native) =
        [some (nextHeader type flag payload c)] := by
  have complaint := announcement_mute
    (.onError .socketIo ("Socket write error: " ++ ec.message)) c
  have decoded := deserializeHeader_serializeHeader native (nextHeader type flag payload c) payload
  constructor
  · intro event member
    rcases List.mem_cons.mp member with rfl | later
    · rfl
    · split at later
      · cases later
      · exact complaint.1 event later
  · rw [datagrams_sending, List.map_singleton]
    exact congrArg (List.cons · []) decoded

/-- A sent header counts on the counter that its flag selects. -/
theorem routine_nextHeader (type : MessageType) (flag : UInt16) (payload : Bytes) (c : Client) :
    routine [nextHeader type flag payload c] =
      if isRealTime flag then [] else [nextHeader type flag payload c] := by
  cases real : isRealTime flag <;> simp [routine, nextHeader, real]

theorem spoken_said {type : MessageType} {flag : UInt16} {payload : Bytes} {events : List Event}
    (extended : after.log = c.log ++ events)
    (within : ∀ event ∈ events, event.isAccepted = false)
    (heard : (datagrams events).map (deserializeHeader native) =
      (spoken type flag payload c).map some)
    (connects : after.state = .connected → c.state = .connected ∨ .stored .connected ∈ events)
    (routineSeq : after.routineSeq =
      if c.socketOpen ∧ ¬ isRealTime flag then c.routineSeq + 1 else c.routineSeq) :
    Says native (spoken type flag payload c) c after := by
  refine ⟨⟨events, extended, within, heard, connects⟩, ?_, ?_⟩
  · intro index header found
    unfold spoken at found
    split at found
    · rw [routine_nextHeader] at found
      split at found
      · cases found
      · next slow =>
        have first : index = 0 := by
          have bound := (List.getElem?_eq_some_iff.mp found).1
          simpa using bound
        subst first
        have same : nextHeader type flag payload c = header := by simpa using found
        rw [← same]
        simp [nextHeader, nextSeq, slow]
    · cases found
  · rw [routineSeq, spoken]
    by_cases isOpen : c.socketOpen = true
    · rw [if_pos isOpen, routine_nextHeader]
      by_cases real : isRealTime flag = true
      · simp [isOpen, real]
      · simp [isOpen, real]
    · simp [isOpen, routine]

theorem transmitted_said (type : MessageType) (flag : UInt16) (payload : Bytes) (ec : ErrorCode)
    (c : Client) :
    Says native (spoken type flag payload c) c (transmitted native type flag payload ec c) := by
  have sends := @sending_datagrams native type flag payload ec c
  refine spoken_said rfl ?_ ?_ (fun connected => .inl connected) rfl
  · intro event member
    rcases List.mem_cons.mp member with rfl | later
    · rfl
    · split at later
      · exact sends.1 event later
      · cases later
  · unfold spoken
    split
    · exact sends.2
    · rfl

/-! ### The shape of a session -/

/-- The words a session can have spoken in each state. Once the socket is open the state tells how
far the word has come. -/
def Shape : State → Bool → List MessageType → Prop
  | .disconnected, isOpen, word =>
      isOpen = false ∧ ∃ body, Body body ∧ (word = body ∨ word = body ++ [.close])
  | .connecting, isOpen, word => word = if isOpen then [.keepAlive] else []
  | .authenticating, isOpen, word => word = if isOpen then [.keepAlive, .authentication] else []
  | .connected, false, word => word = []
  | .connected, true, word =>
      ∃ types, (∀ type ∈ types, isApplication type) ∧
        word = .keepAlive :: .authentication :: types

theorem Shape.body {state : State} {isOpen : Bool} {word : List MessageType}
    (shape : Shape state isOpen word) (up : state ≠ .disconnected) : Body word := by
  cases state with
  | disconnected => exact absurd rfl up
  | connecting =>
    cases isOpen <;> obtain rfl := shape
    · exact .silent
    · exact .greeted
  | authenticating =>
    cases isOpen <;> obtain rfl := shape
    · exact .silent
    · exact .authenticated (by simp)
  | connected =>
    cases isOpen with
    | false =>
      obtain rfl := shape
      exact .silent
    | true =>
      obtain ⟨types, app, rfl⟩ := shape
      exact .authenticated app

theorem Shape.spoken {state : State} {isOpen : Bool} {word : List MessageType}
    (shape : Shape state isOpen word) : ∃ closed ∈ grammar, word <+: closed := by
  by_cases up : state = .disconnected
  · subst up
    obtain ⟨_, body, begun, same | same⟩ := shape
    · exact ⟨_, begun.close_mem, by rw [same]; exact List.prefix_append _ _⟩
    · exact ⟨_, begun.close_mem, by rw [same]⟩
  · exact ⟨_, (shape.body up).close_mem, List.prefix_append _ _⟩

/-- How a step continues the word of its session. -/
structure Turns (native : Endian) (c after : Client) : Prop where
  more : ∃ headers, Says native headers c after ∧
    ∀ word, Shape c.state c.socketOpen word →
      Shape after.state after.socketOpen (word ++ headers.map Header.type) ∧
      (c.state = .connected ∨ (∀ header ∈ headers, header.type = .close) ∨
        word.length + headers.length ≤ 2)

theorem Mute.turns (mute : Mute native c after) : Turns native c after := by
  refine ⟨[], mute.said, fun word shape => ⟨?_, .inr (.inl (by simp))⟩⟩
  rw [mute.state, mute.socketOpen]
  simpa using shape

theorem Turns.after_mute {middle : Client} (mute : Mute native c middle)
    (turns : Turns native middle after) : Turns native c after := by
  obtain ⟨headers, said, continues⟩ := turns.more
  refine ⟨headers, mute.said.trans said, fun word shape => ?_⟩
  rw [← mute.state, ← mute.socketOpen] at shape
  rw [← mute.state]
  exact continues word shape

theorem Turns.then_mute {middle : Client} (turns : Turns native c middle)
    (mute : Mute native middle after) : Turns native c after := by
  obtain ⟨headers, said, continues⟩ := turns.more
  refine ⟨headers, ?_, fun word shape => ?_⟩
  · have both := said.trans mute.said
    rw [List.append_nil] at both
    exact both
  · rw [mute.state, mute.socketOpen]
    exact continues word shape

theorem spoken_types (type : MessageType) (flag : UInt16) (payload : Bytes) (c : Client) :
    (spoken type flag payload c).map Header.type = if c.socketOpen then [type] else [] := by
  unfold spoken
  split <;> rfl

/-- A connected client sends one more message of the application. -/
theorem application_turns {type : MessageType} (app : isApplication type) (flag : UInt16)
    (payload : Bytes) (connected : c.state = .connected)
    (transmits : Transmits native policy type flag payload c outcome after) :
    Turns native c after := by
  obtain ⟨ec, rfl⟩ : ∃ ec, after = transmitted native type flag payload ec c := by
    cases transmits with
    | done ec => exact ⟨ec, rfl⟩
    | threw ec => exact ⟨ec, rfl⟩
  refine ⟨_, transmitted_said type flag payload ec c, fun word shape => ⟨?_, .inl connected⟩⟩
  change Shape c.state c.socketOpen _
  rw [spoken_types]
  rw [connected] at shape ⊢
  cases isOpen : c.socketOpen with
  | false => simpa [isOpen] using shape
  | true =>
    rw [isOpen] at shape
    obtain ⟨types, earlier, rfl⟩ := shape
    refine ⟨types ++ [type], ?_, by simp⟩
    intro other member
    rcases List.mem_append.mp member with early | late
    · exact earlier other early
    · rw [List.mem_singleton.mp late]
      exact app

theorem saidClose_said (ec : ErrorCode) (c : Client) :
    Says native (spoken .close MessageFlag.none [] c) c (saidClose native ec c) := by
  have sends := @sending_datagrams native .close MessageFlag.none [] ec c
  refine spoken_said rfl ?_ ?_ (fun connected => .inl connected) ?_
  · split
    · exact List.forall_mem_cons.mpr ⟨rfl, sends.1⟩
    · simp
  · unfold spoken
    split
    · exact sends.2
    · rfl
  · simp [saidClose, isRealTime, MessageFlag.none]

/-- The end of a session: CLOSE is sent if the socket is open. -/
theorem tornDown_said (ec : ErrorCode) (c : Client) :
    Says native (spoken .close MessageFlag.none [] c) c (tornDown native ec c) := by
  have reason := announcement_mute (.onDisconnected (closing native ec c).lastError) c
  have stored : Says native [] c
      { c with state := .disconnected, log := c.log ++ [.stored .disconnected] } :=
    .silent [.stored .disconnected] rfl (by simp [Event.isAccepted]) rfl (by simp) rfl
  have closes : Says native (spoken .close MessageFlag.none [] c)
      { c with state := .disconnected, log := c.log ++ [.stored .disconnected] }
      (closing native ec c) :=
    saidClose_said ec { c with state := .disconnected, log := c.log ++ [.stored .disconnected] }
  have leaves : Says native [] (closing native ec c) (tornDown native ec c) :=
    .silent _ rfl reason.1 reason.2 (fun connected => .inl connected) rfl
  have all := (stored.trans closes).trans leaves
  rw [List.nil_append, List.append_nil] at all
  exact all

theorem spoken_close (c : Client) :
    ∀ header ∈ spoken .close MessageFlag.none [] c, header.type = .close := by
  unfold spoken
  split
  · simp [nextHeader]
  · simp

/-- Whatever body the word of a session has, its end leaves a word that may be closed. -/
theorem tornDown_turns (ec : ErrorCode) (c : Client) {word : List MessageType}
    (body : Body word) :
    Shape (tornDown native ec c).state (tornDown native ec c).socketOpen
      (word ++ (spoken .close MessageFlag.none [] c).map Header.type) := by
  refine ⟨rfl, word, body, ?_⟩
  rw [spoken_types]
  split
  · exact .inr rfl
  · exact .inl (List.append_nil _)

theorem Ended.turns (up : c.state ≠ .disconnected)
    (ended : Ended native policy c outcome after) : Turns native c after := by
  obtain ⟨ec, rfl⟩ : ∃ ec, after = tornDown native ec c := by
    cases ended with
    | done ec => exact ⟨ec, rfl⟩
    | threw ec => exact ⟨ec, rfl⟩
  exact ⟨_, tornDown_said ec c, fun word shape =>
    ⟨tornDown_turns ec c (shape.body up), .inr (.inl (spoken_close c))⟩⟩

theorem Fails.turns {error : ClientError} {message : String} (up : c.state ≠ .disconnected)
    (fails : Fails native policy error message c outcome after) : Turns native c after := by
  have complaint : Mute native c (complained error message c) := complained_mute error message c
  have ended (ec : ErrorCode) : Turns native c (tornDown native ec (complained error message c)) :=
    .after_mute complaint ((Ended.done ec : Ended native policy _ _ _).turns up)
  cases fails with
  | threw => exact complaint.turns
  | ended ec => exact (ended ec).then_mute (notified_mute _)
  | leftEarly ec => exact ended ec

theorem TimesOut.turns {ec : ErrorCode} (ran : TimesOut native policy ec c outcome after) :
    Turns native c after := by
  cases ran with
  | inert => exact (Mute.refl c).turns
  | failed _ handshakes fails =>
    apply fails.turns
    rcases handshakes with here | here <;> simp [here]

theorem targeted_mute (endpoint : Endpoint) (openEc : ErrorCode) (c : Client) :
    Mute native c (targeted endpoint openEc c) :=
  .recorded [.opened openEc] rfl (by simp [Event.isAccepted]) rfl rfl rfl rfl

/-- The socket is open, and the session has not said anything yet. -/
theorem opened_said (endpoint : Endpoint) (bindEc : ErrorCode) (c : Client) :
    Says native [] c (opened endpoint bindEc c) :=
  .silent [.opened .success, .bound bindEc] (by simp [opened]) (by simp [Event.isAccepted]) rfl
    (fun connected => .inl connected) rfl

theorem receiving_mute (c : Client) : Mute native c (receiving c) := .of_same rfl rfl rfl rfl

/-- A handler whose complaint throws after the socket was opened leaves a session that has not said
anything, and no thread to run a handler. -/
structure Strands (native : Endian) (c : Client) (outcome : Outcome Unit) (after : Client) :
    Prop where
  said : Says native [] c after
  failed : ∃ what, outcome = .error what
  before : c.state = .connecting ∧ c.socketOpen = false
  after : after.state = .connecting ∧ after.socketOpen = true

theorem Resolves.turns {ec : ErrorCode} {endpoints : List Endpoint}
    (ran : Resolves native policy ec endpoints c outcome after) :
    Turns native c after ∨ Strands native c outcome after := by
  cases ran with
  | inert => exact .inl (Mute.refl c).turns
  | unresolved _ connecting _ fails => exact .inl (fails.turns (by simp [connecting]))
  | unopened endpoint openEc _ connecting _ _ fails =>
    have up : (targeted endpoint openEc c).state ≠ .disconnected := by simp [targeted, connecting]
    exact .inl (.after_mute (targeted_mute endpoint openEc c) (fails.turns up))
  | unbound endpoint bindEc message connecting _ shut _ fails =>
    have complains : Mute native (opened endpoint bindEc c)
        (complained .socketIo message (opened endpoint bindEc c)) := complained_mute _ _ _
    have complaint := (opened_said endpoint bindEc c).trans complains.said
    -- The word is still empty, so all that can follow is CLOSE.
    have ended (ec : ErrorCode) :
        Turns native c (tornDown native ec (complained .socketIo message (opened endpoint bindEc c))) := by
      refine ⟨_, complaint.trans (tornDown_said ec _), fun word shape => ⟨?_, .inr (.inl ?_)⟩⟩
      · rw [connecting, shut] at shape
        obtain rfl := shape
        exact tornDown_turns ec _ .silent
      · exact fun header member => spoken_close _ header (by simpa using member)
    cases fails with
    | threw what => exact .inr ⟨complaint, ⟨what, rfl⟩, ⟨connecting, shut⟩, connecting, rfl⟩
    | ended ec => exact .inl ((ended ec).then_mute (notified_mute _))
    | leftEarly ec => exact .inl (ended ec)
  | started endpoint connecting _ _ shut transmits =>
    obtain ⟨ec, rfl⟩ : ∃ ec, after = transmitted native .keepAlive MessageFlag.none (identity native c) ec
        (receiving (opened endpoint .success c)) := by
      cases transmits with
      | done ec => exact ⟨ec, rfl⟩
      | threw ec => exact ⟨ec, rfl⟩
    left
    refine ⟨_, ((opened_said endpoint .success c).trans (receiving_mute _).said).trans
      (transmitted_said _ _ _ ec _), fun word shape => ?_⟩
    rw [connecting, shut] at shape
    obtain rfl := shape
    refine ⟨?_, .inr (.inr ?_)⟩
    · change Shape c.state true _
      rw [connecting]
      rfl
    · simp [spoken, receiving, opened]

theorem KeepsAlive.turns {ec : ErrorCode} (ran : KeepsAlive native policy ec c outcome after) :
    Turns native c after := by
  have beats : isApplication .keepAlive := by simp [isApplication]
  cases ran with
  | inert => exact (Mute.refl c).turns
  | threw connected transmits => exact application_turns beats _ _ connected transmits
  | beat connected transmits =>
    exact (application_turns beats _ _ connected transmits).then_mute (.of_same rfl rfl rfl rfl)

theorem Processes.turns {packet : Bytes}
    (processes : Processes native policy quiet packet c outcome after) : Turns native c after := by
  cases processes with
  | ignored => exact (Mute.refl c).turns
  | @answered header salt _ _ _ _ connecting transmits =>
    obtain ⟨ec, rfl⟩ : ∃ ec, after = transmitted native .authentication MessageFlag.none
        (answerTo salt c) ec (challenged c) := by
      cases transmits with
      | done ec => exact ⟨ec, rfl⟩
      | threw ec => exact ⟨ec, rfl⟩
    have begun : Says native [] c (challenged c) :=
      .silent [.stored .authenticating] rfl (by simp [Event.isAccepted]) rfl (by simp [challenged]) rfl
    refine ⟨_, begun.trans (transmitted_said _ _ _ ec _), fun word shape => ?_⟩
    rw [connecting] at shape
    obtain rfl := shape
    have types := spoken_types .authentication MessageFlag.none (answerTo salt c) (challenged c)
    change Shape .authenticating c.socketOpen _ ∧ _
    rw [List.nil_append, types]
    refine ⟨?_, .inr (.inr ?_)⟩
    · cases isOpen : c.socketOpen <;> simp [Shape, challenged, isOpen]
    · cases isOpen : c.socketOpen <;> simp [spoken, challenged, isOpen]
  | admitted _ _ _ authenticating reports =>
    have welcome : Says native [] c (welcomed c) :=
      .silent [.stored .connected, .notified] rfl (by simp [Event.isAccepted]) rfl
        (fun _ => .inr (by simp)) rfl
    have welcomes : Turns native c (welcomed c) := by
      refine ⟨[], welcome, fun word shape => ⟨?_, .inr (.inl (by simp))⟩⟩
      rw [authenticating] at shape
      obtain rfl := shape
      change Shape .connected c.socketOpen _
      cases c.socketOpen with
      | false => rfl
      | true => exact ⟨[], by simp, rfl⟩
    exact welcomes.then_mute reports.mute
  | delivered _ _ _ reports => exact reports.mute.turns

theorem resumed_mute (c : Client) : Mute native c (resumed c) := by
  unfold resumed
  split
  · exact .refl c
  · exact receiving_mute c

theorem inspected_mute (packet : Bytes) (c : Client) : Mute native c (inspected packet c) :=
  .recorded [.inspected c.senderEndpoint c.serverEndpoint packet] rfl (by simp [Event.isAccepted])
    rfl rfl rfl rfl

theorem Receives.turns {ec : ErrorCode} {bytesTransferred : Nat}
    (ran : Receives native policy quiet ec bytesTransferred c outcome after) :
    Turns native c after := by
  cases ran with
  | inert => exact (Mute.refl c).turns
  | complaintThrew message => exact (complained_mute _ message c).turns
  | broke message up _ _ ended =>
    have still : (complained .socketIo message c).state ≠ .disconnected := up
    exact .after_mute (complained_mute _ message c) (ended.turns still)
  | empty => exact (resumed_mute c).turns
  | foreign => exact ((inspected_mute _ c).trans (resumed_mute _)).turns
  | processed _ _ _ _ processes =>
    exact (Turns.after_mute (inspected_mute _ c) processes.turns).then_mute (resumed_mute _)
  | threw _ _ _ _ processes => exact .after_mute (inspected_mute _ c) processes.turns

theorem Handles.turns {kind : Kind} {completion : Completion}
    (ran : Handles native policy quiet completion c kind outcome after) :
    Turns native c after ∨ Strands native c outcome after := by
  cases ran with
  | connectTimeout ran => exact .inl ran.turns
  | resolve ran => exact ran.turns
  | receive ran => exact .inl ran.turns
  | keepAlive ran => exact .inl ran.turns

theorem Application.mem {type : MessageType} {flag : UInt16} (app : Application type flag) :
    isApplication type := by
  cases app <;> simp [isApplication]

/-- What is said in the state CONNECTED goes on being said. -/
theorem Turns.trans {middle : Client} (connected : c.state = .connected)
    (early : Turns native c middle) (late : Turns native middle after) : Turns native c after := by
  obtain ⟨headers, said, continues⟩ := early.more
  obtain ⟨others, saidMore, continuesMore⟩ := late.more
  refine ⟨headers ++ others, said.trans saidMore, fun word shape => ⟨?_, .inl connected⟩⟩
  rw [List.map_append, ← List.append_assoc]
  exact (continuesMore _ (continues word shape).1).1

theorem Sends.turns (sends : Sends native policy c outcome after) : Turns native c after := by
  induction sends with
  | done c => exact (Mute.refl c).turns
  | @inCall c _ _ value _ ih =>
    have unsaid : Mute native c { c with inCall := value } := .of_same rfl rfl rfl rfl
    exact .after_mute unsaid ih
  | @recount c _ _ _ ih =>
    have unsaid : Mute native c { c with realTimeSeq := 0 } := .of_same rfl rfl rfl rfl
    exact .after_mute unsaid ih
  | passed app connected transmits _ ih =>
    exact .trans connected (application_turns app.mem _ _ connected transmits) ih
  | threw app connected transmits => exact application_turns app.mem _ _ connected transmits

end

/-! ### The invariant -/

/-- The word of the current session, which is stranded where a handler left it without a thread. -/
def Speaking (c : Client) (word : List MessageType) : Prop :=
  Shape c.state c.socketOpen word ∨
    c.ioThread = .exited ∧ c.state = .connecting ∧ c.socketOpen = true ∧ word = []

structure Voices (native : Endian) (headers : List Header) (c : Client) (since : List Event) :
    Prop where
  heard : (datagrams since).map (deserializeHeader native) = headers.map some
  speaking : Speaking c (headers.map Header.type)
  numbers : ∀ (index : Nat) (header : Header), (routine headers)[index]? = some header →
    header.number = UInt32.ofNat index
  routineSeq : c.routineSeq = UInt32.ofNat (routine headers).length
  late : Late native since
  connected : c.state = .connected → .stored .connected ∈ since

/-- Every session so far was orderly, and the current one has come as far as its state says. -/
def Disciplined (native : Endian) (c : Client) : Prop :=
  ∃ headers since past, sessions c.log = since :: past ∧ Voices native headers c since ∧
    ∀ earlier ∈ past, Orderly native earlier

section

variable {native : Endian} {c after : Client}

theorem Voices.orderly {headers : List Header} {since : List Event}
    (voices : Voices native headers c since) : Orderly native since := by
  refine ⟨⟨headers, voices.heard, ?_, voices.numbers⟩, voices.late⟩
  rcases voices.speaking with shape | ⟨_, _, _, empty⟩
  · exact shape.spoken
  · rw [empty]
    exact ⟨[] ++ [.close], Body.silent.close_mem, List.nil_prefix⟩

theorem Late.append {since events : List Event} {more : List Header} (late : Late native since)
    (heard : (datagrams events).map (deserializeHeader native) = more.map some)
    (timely : .stored .connected ∈ since ∨ (∀ header ∈ more, header.type = .close) ∨
      (datagrams since).length + (datagrams events).length ≤ 2) : Late native (since ++ events) := by
  intro first packet destination second split two
  have behind (middle : List Event) (here : first = since ++ middle)
      (rest : events = middle ++ .sent packet destination :: second) :
      (∃ header, deserializeHeader native packet = some header ∧ header.type = .close) ∨
        .stored .connected ∈ first := by
    rcases timely with stored | closes | short
    · exact .inr (by rw [here]; exact List.mem_append_left _ stored)
    · left
      have member : deserializeHeader native packet ∈
          (datagrams events).map (deserializeHeader native) := by
        rw [rest]
        simp [datagrams]
      rw [heard] at member
      obtain ⟨header, present, same⟩ := List.mem_map.mp member
      exact ⟨header, same.symm, closes header present⟩
    · rw [here, datagrams_append, List.length_append] at two
      have one : (datagrams events).length =
          (datagrams middle).length + ((datagrams second).length + 1) := by
        rw [rest, datagrams_append, List.length_append]
        rfl
      omega
  rcases List.append_eq_append_iff.mp split with ⟨middle, here, rest⟩ | ⟨middle, here, rest⟩
  · exact behind middle here rest
  · cases middle with
    | nil => exact behind [] (by simpa using here.symm) rest.symm
    | cons event middle =>
      obtain ⟨rfl, -⟩ := List.cons.inj rest
      exact late first packet destination middle here two

theorem Voices.length {headers : List Header} {since : List Event}
    (voices : Voices native headers c since) : (datagrams since).length = headers.length := by
  have same := congrArg List.length voices.heard
  rwa [List.length_map, List.length_map] at same

/-- A step inside a session. -/
theorem Disciplined.continues (disciplined : Disciplined native c) {more : List Header}
    (said : Says native more c after)
    (continues : ∀ word, Speaking c word → Speaking after (word ++ more.map Header.type) ∧
      (c.state = .connected ∨ (∀ header ∈ more, header.type = .close) ∨
        word.length + more.length ≤ 2)) : Disciplined native after := by
  obtain ⟨headers, since, past, split, voices, orderly⟩ := disciplined
  obtain ⟨events, extended, within, heard, connects⟩ := said.log
  obtain ⟨speaking, timely⟩ := continues _ voices.speaking
  have length : (datagrams events).length = more.length := by
    have same := congrArg List.length heard
    rwa [List.length_map, List.length_map] at same
  refine ⟨headers ++ more, since ++ events, past, ?_, ?_, orderly⟩
  · rw [extended]
    exact sessions_append _ within split
  · refine ⟨?_, ?_, ?_, ?_, ?_, ?_⟩
    · rw [datagrams_append, List.map_append, List.map_append, voices.heard, heard]
    · rw [List.map_append]
      exact speaking
    · intro index header found
      rw [routine_append] at found
      by_cases inside : index < (routine headers).length
      · rw [List.getElem?_append_left inside] at found
        exact voices.numbers index header found
      · rw [List.getElem?_append_right (by omega)] at found
        rw [said.numbers _ header found, voices.routineSeq, ← UInt32.ofNat_add]
        congr 1
        omega
    · rw [said.routineSeq, voices.routineSeq, routine_append, List.length_append, UInt32.ofNat_add]
    · apply voices.late.append heard
      rcases timely with connected | closes | short
      · exact .inl (voices.connected connected)
      · exact .inr (.inl closes)
      · rw [List.length_map] at short
        exact .inr (.inr (by rw [voices.length, length]; exact short))
    · intro connected
      rcases connects connected with before | stored
      · exact List.mem_append_left _ (voices.connected before)
      · exact List.mem_append_right _ stored

/-- A session that has just begun: nothing is sent, nothing is counted, the socket is closed. -/
structure Fresh (native : Endian) (c : Client) : Prop where
  log : ∃ since past, sessions c.log = since :: past ∧ datagrams since = [] ∧
    ∀ earlier ∈ past, Orderly native earlier
  routineSeq : c.routineSeq = 0
  socketOpen : c.socketOpen = false

theorem Fresh.extended (fresh : Fresh native c) {events : List Event}
    (extended : after.log = c.log ++ events) (within : ∀ event ∈ events, event.isAccepted = false)
    (none : datagrams events = []) (routineSeq : after.routineSeq = c.routineSeq)
    (socketOpen : after.socketOpen = c.socketOpen) : Fresh native after := by
  obtain ⟨since, past, split, unsaid, orderly⟩ := fresh.log
  refine ⟨⟨since ++ events, past, ?_, ?_, orderly⟩, routineSeq.trans fresh.routineSeq,
    socketOpen.trans fresh.socketOpen⟩
  · rw [extended]
    exact sessions_append _ within split
  · rw [datagrams_append, unsaid, none]
    rfl

theorem Fresh.disciplined (fresh : Fresh native c) (other : c.state ≠ .connected) :
    Disciplined native c := by
  obtain ⟨since, past, split, unsaid, orderly⟩ := fresh.log
  have shape : Shape c.state c.socketOpen [] := by
    rw [fresh.socketOpen]
    cases state : c.state with
    | disconnected => exact ⟨rfl, [], .silent, .inl rfl⟩
    | connecting => rfl
    | authenticating => rfl
    | connected => exact absurd state other
  refine ⟨[], since, past, split, ⟨by rw [unsaid]; rfl, .inl shape, by simp [routine],
    fresh.routineSeq, ?_, fun up => absurd up other⟩, orderly⟩
  intro first packet destination second same two
  rw [same, datagrams_append] at unsaid
  cases (List.append_eq_nil_iff.mp unsaid).2

theorem Disciplined.mute (disciplined : Disciplined native c) (mute : Mute native c after)
    (ioThread : after.ioThread = c.ioThread) : Disciplined native after := by
  refine disciplined.continues mute.said fun word speaking => ⟨?_, .inr (.inl (by simp))⟩
  rw [Speaking, ioThread, mute.state, mute.socketOpen, List.map_nil, List.append_nil]
  exact speaking

theorem Disciplined.turns (disciplined : Disciplined native c) (turns : Turns native c after)
    (live : c.state = .connecting → c.ioThread ≠ .exited) : Disciplined native after := by
  obtain ⟨headers, said, continues⟩ := turns.more
  refine disciplined.continues said fun word speaking => ?_
  rcases speaking with shape | ⟨exited, connecting, _⟩
  · exact ⟨.inl (continues word shape).1, (continues word shape).2⟩
  · exact absurd exited (live connecting)

end

section

variable {rules : Rules} {native : Endian} {policy : Policy} {c after : Client}

theorem Sends.mute {outcome : Outcome Unit} (other : c.state ≠ .connected)
    (sends : Sends native policy c outcome after) :
    Mute native c after ∧ after.ioThread = c.ioThread := by
  induction sends with
  | done c => exact ⟨.refl c, rfl⟩
  | @inCall c _ _ value _ ih =>
    have unsaid : Mute native c { c with inCall := value } := .of_same rfl rfl rfl rfl
    exact ⟨unsaid.trans (ih other).1, (ih other).2⟩
  | @recount c _ _ _ ih =>
    have unsaid : Mute native c { c with realTimeSeq := 0 } := .of_same rfl rfl rfl rfl
    exact ⟨unsaid.trans (ih other).1, (ih other).2⟩
  | passed _ connected => exact absurd connected other
  | threw _ connected => exact absurd connected other

theorem Sends.disciplined {outcome : Outcome Unit} (disciplined : Disciplined native c)
    (sends : Sends native policy c outcome after) : Disciplined native after := by
  by_cases connected : c.state = .connected
  · exact disciplined.turns sends.turns (by simp [connected])
  · exact disciplined.mute (sends.mute connected).1 (sends.mute connected).2

/-- A session that is stranded ends like any other. -/
theorem Ended.disciplined {outcome : Outcome Unit} (up : c.state ≠ .disconnected)
    (disciplined : Disciplined native c) (ended : Ended native policy c outcome after) :
    Disciplined native after := by
  obtain ⟨ec, rfl⟩ : ∃ ec, after = tornDown native ec c := by
    cases ended with
    | done ec => exact ⟨ec, rfl⟩
    | threw ec => exact ⟨ec, rfl⟩
  refine disciplined.continues (tornDown_said ec c) fun word speaking => ?_
  have body : Body word := by
    rcases speaking with shape | ⟨_, _, _, rfl⟩
    · exact shape.body up
    · exact .silent
  exact ⟨.inl (tornDown_turns ec c body), .inr (.inl (spoken_close c))⟩

theorem Joins.disciplined {thread : Thread} (down : c.state = .disconnected)
    (disciplined : Disciplined native c) (joins : Joins thread c after) :
    Disciplined native after := by
  have settled {after : Client} (mute : Mute native c after) : Disciplined native after :=
    disciplined.turns mute.turns (by simp [down])
  cases joins with
  | skipped => exact disciplined
  | exited => exact settled (.of_same rfl rfl rfl rfl)
  | returned => exact settled (.of_same rfl rfl rfl rfl)

theorem Disconnects.disciplined {thread : Thread} {outcome : Outcome Unit}
    (disciplined : Disciplined native c)
    (disconnects : Disconnects native policy thread c outcome after) :
    Disciplined native after := by
  cases disconnects with
  | idle down joins => exact joins.disciplined down disciplined
  | @ended middle _ up ended joins =>
    have down : middle.state = .disconnected := by
      cases ended
      rfl
    exact joins.disciplined down (ended.disciplined up disciplined)
  | threw _ up ended => exact ended.disciplined up disciplined

/-- Between two sessions the socket is closed. -/
theorem Disciplined.closed (disciplined : Disciplined native c) (down : c.state = .disconnected) :
    c.socketOpen = false := by
  obtain ⟨headers, since, past, _, voices, _⟩ := disciplined
  rcases voices.speaking with shape | ⟨_, connecting, _⟩
  · rw [down] at shape
    exact shape.1
  · cases connecting.symm.trans down

theorem accepted_fresh (disciplined : Disciplined native c) (down : c.state = .disconnected)
    (password : Bytes) : Fresh native (accepted password c) := by
  have shut := disciplined.closed down
  obtain ⟨headers, since, past, split, voices, orderly⟩ := disciplined
  refine ⟨⟨[], since :: past, ?_, rfl, ?_⟩, rfl, shut⟩
  · rw [← split]
    exact sessions_accepted c.log password
  · intro earlier member
    rcases List.mem_cons.mp member with rfl | old
    · exact voices.orderly
    · exact orderly earlier old

theorem started_fresh (fresh : Fresh native c) : Fresh native (started c) := by
  have extended : (started c).log = c.log ++ [.started, .stored .connecting] :=
    List.append_assoc _ _ _
  exact fresh.extended extended (by simp [Event.isAccepted]) rfl rfl rfl

theorem Stalls.fresh (fresh : Fresh native c) (stalls : Stalls c after) : Fresh native after := by
  cases stalls with
  | noThread => exact fresh
  | noTimer => exact started_fresh fresh
  | noResolve => exact ⟨(started_fresh fresh).log, fresh.routineSeq, fresh.socketOpen⟩

theorem abandoned_fresh (fresh : Fresh native c) (what : String) :
    Fresh native (abandoned what c) := by
  have complaint := announcement_mute
    (.onError .socketIo ("Socket error during connection startup: " ++ what)) c
  refine fresh.extended (List.append_assoc _ _ _) ?_ ?_ rfl rfl
  · exact List.forall_mem_cons.mpr ⟨rfl, complaint.1⟩
  · exact complaint.2

theorem Connects.disciplined {password : Bytes} {outcome : Outcome ClientError}
    (disciplined : Disciplined native c) (connects : Connects policy password c outcome after) :
    Disciplined native after := by
  have left {what : String} {middle : Client} (down : c.state = .disconnected)
      (stalls : Stalls (accepted password c) middle) : Disciplined native (abandoned what middle) :=
    (abandoned_fresh (stalls.fresh (accepted_fresh disciplined down password)) what).disciplined
      (by simp [abandoned, announced])
  cases connects with
  | rejected => exact disciplined
  | begun down =>
    have running := started_fresh (accepted_fresh disciplined down password)
    exact Fresh.disciplined ⟨running.log, running.routineSeq, running.socketOpen⟩
      (by simp [launched, timed, started])
  | failed what down _ stalls => exact left down stalls
  | threw what _ down _ stalls => exact left down stalls

theorem Performs.disciplined {thread : Thread} {call : PublicCall}
    {outcome : Outcome (Option ClientError)} (disciplined : Disciplined native c)
    (performs : Performs native policy thread c call outcome after) : Disciplined native after := by
  have noted (event : Event) (plain : event.isAccepted = false) (unsent : datagrams [event] = [])
      {c : Client} (disciplined : Disciplined native c) :
      Disciplined native { c with log := c.log ++ [event] } :=
    disciplined.mute (.recorded [event] rfl (by simpa using plain) unsent rfl rfl rfl) rfl
  have called := noted (.called call) rfl rfl disciplined
  have ran {result : Outcome (Option ClientError)} {middle : Client}
      (calls : Calls native policy thread { c with log := c.log ++ [.called call] } call result
        middle) : Disciplined native middle := by
    cases calls with
    | connect connects => exact connects.disciplined called
    | disconnect disconnects => exact disconnects.disciplined called
    | sends _ _ sends => exact sends.disciplined called
  cases performs with
  | @returned result _ calls => exact noted (.returned call result) rfl rfl (ran calls)
  | threw calls => exact ran calls

theorem Moves.disciplined {label : Label} (disciplined : Disciplined rules.native c)
    (moves : Moves rules quiet c label after) : Disciplined rules.native after := by
  cases moves with
  | call _ performs => exact performs.disciplined disciplined
  | connectSync _ performs =>
    have held := performs.disciplined disciplined
    unfold entering
    split
    · exact held.mute (.of_same rfl rfl rfl rfl) rfl
    · exact held
  | awaits => exact disciplined.mute (.of_same rfl rfl rfl rfl) rfl
  | @handles after before rest operation completion outcome found queued idle going ran =>
    have taken : Mute rules.native c (dequeued before rest c) := .of_same rfl rfl rfl rfl
    have rests : Mute rules.native after (resting outcome after) := .of_same rfl rfl rfl rfl
    rcases ran.turns with turns | strands
    · exact disciplined.turns (.then_mute (.after_mute taken turns) rests) (by simp [idle])
    · have said := (taken.said.trans strands.said).trans rests.said
      refine disciplined.continues said fun word speaking => ⟨.inr ?_, .inr (.inl (by simp))⟩
      obtain ⟨what, rfl⟩ := strands.failed
      obtain ⟨connecting, shut⟩ := strands.before
      refine ⟨rfl, strands.after.1, strands.after.2, ?_⟩
      rcases speaking with shape | ⟨exited, _⟩
      · change Shape c.state c.socketOpen word at shape
        rw [show c.state = _ from connecting, show c.socketOpen = _ from shut] at shape
        rw [show word = [] from shape]
        rfl
      · cases idle.symm.trans exited
  | completes => exact disciplined.mute (.of_same rfl rfl rfl rfl) rfl
  | arrives => exact disciplined.mute (.of_same rfl rfl rfl rfl) rfl
  | leaves idle =>
    have gone : Mute rules.native c { c with ioThread := .exited, stopped := true } :=
      .of_same rfl rfl rfl rfl
    exact disciplined.turns gone.turns (by simp [idle])

end

/-- In every run without calls from callbacks, what each session sends is an initial part of a word
of the language, its application messages come after it was CONNECTED, and its datagrams without the
real-time flag are numbered 0, 1, 2 and so on modulo 2^32. -/
theorem sessions_orderly {rules : Rules} (plain : rules.Plain) {c : Client}
    (reached : rules.Reachable c) : ∀ since ∈ sessions c.log, Orderly rules.native since := by
  obtain ⟨dmrId, description, hooks, reached⟩ := reached
  have disciplined : Disciplined rules.native c := by
    apply reached.invariant (Disciplined rules.native)
    · exact Fresh.disciplined ⟨⟨[], [], rfl, rfl, by simp⟩, rfl, rfl⟩ (fun up => by cases up)
    · exact fun before label after disciplined step => (step.plain plain).disciplined disciplined
  obtain ⟨headers, since, past, split, voices, orderly⟩ := disciplined
  rw [split]
  exact List.forall_mem_cons.mpr ⟨voices.orderly, orderly⟩

/-- A session with one subscription that the application ends. -/
theorem sessions_orderly_subscribed :
    ∃ c, sampleRules.Reachable c ∧
      (sessions c.log).map (fun since => (datagrams since).length) = [4, 0] ∧
      ∀ since ∈ sessions c.log, Orderly .little since := by
  obtain ⟨transitions, last, run, ended⟩ := replay_checked sampleRules sampleClient
    (handshakeScript ++ [(fair, .call 0 (.subscribe 91)), (fair, .call 0 .disconnect)])
    (fun _ last => (sessions last.log).map (fun since => (datagrams since).length) = [4, 0])
    (by decide +kernel)
  have reached : sampleRules.Reachable last := ⟨_, _, _, transitions, run⟩
  exact ⟨last, reached, of_decide_eq_true ended, sessions_orderly sampleRules_plain reached⟩

end OpenDTP.Client
