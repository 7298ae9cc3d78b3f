import OpenDTP.Client.Footprint
import OpenDTP.Client.Frames
import OpenDTP.Client.Replay
import OpenDTP.Client.Isolation
import OpenDTP.Protocol.Portable
import OpenDTP.Protocol.Text

/-! What one client sends and what another makes of it. A datagram that is handled delivers exactly
what it decodes to, whatever the callbacks do, and a message is decoded to what was sent as long as
its datagram fits the receive buffer. -/

namespace OpenDTP.Client
open Common Protocol Effects Effects.Program Unicode

/-! ### Deliveries -/

def Event.delivery : Event → Option Callback
  | .invoked callback => if callback.hook.isOwn then none else some callback
  | _ => none

/-- The callbacks that delivered something received, with their arguments. -/
def deliveries (events : List Event) : List Callback := events.filterMap Event.delivery

theorem deliveries_append (first second : List Event) :
    deliveries (first ++ second) = deliveries first ++ deliveries second := List.filterMap_append

/-- The log goes on, and these callbacks were delivered meanwhile. -/
structure Delivers (callbacks : List Callback) (c after : Client) : Prop where
  hooks : after.hooks = c.hooks
  log : ∃ events, after.log = c.log ++ events ∧ deliveries events = callbacks

theorem Delivers.of_same {c after : Client} (hooks : after.hooks = c.hooks)
    (log : after.log = c.log) : Delivers [] c after :=
  ⟨hooks, [], by rw [log, List.append_nil], rfl⟩

theorem Delivers.recorded {c after : Client} {event : Event} (hooks : after.hooks = c.hooks)
    (log : after.log = c.log ++ [event]) (other : event.delivery = none) : Delivers [] c after :=
  ⟨hooks, [event], log, by simp [deliveries, other]⟩

theorem Delivers.trans {early late : List Callback} {first second third : Client}
    (one : Delivers early first second) (two : Delivers late second third) :
    Delivers (early ++ late) first third := by
  obtain ⟨events, extended, delivered⟩ := one.log
  obtain ⟨more, extendedMore, deliveredMore⟩ := two.log
  refine ⟨two.hooks.trans one.hooks, events ++ more, ?_, ?_⟩
  · rw [extendedMore, extended, List.append_assoc]
  · rw [deliveries_append, delivered, deliveredMore]

/-- Operations that deliver nothing. -/
def Tacit : (β : Type) → Op β → Prop
  | _, .beginCallback callback => callback.hook.isOwn = true
  | _, .note event => event.delivery = none
  | _, _ => True

theorem Public.tacit {β : Type} (operation : Op β) (isPublic : Public β operation) :
    Tacit β operation := by
  cases operation
  case beginCallback => exact isPublic
  case note event => cases event <;> first | rfl | cases isPublic
  all_goals trivial

theorem Tacit.delivers {policy : Policy} {thread : Thread} {β : Type} {operation : Op β}
    (tacit : Tacit β operation) {answer : Answer} {c after : Client} {value : β}
    (stepped : step policy thread operation answer c = some (value, after)) :
    Delivers [] c after := by
  cases operation <;> simp only [step] at stepped <;> (repeat' split at stepped) <;>
    cases stepped
  case beginCallback callback =>
    have own : callback.hook.isOwn = true := tacit
    exact .recorded rfl rfl (by simp [Event.delivery, own])
  case note => exact .recorded rfl rfl tacit
  all_goals first
    | exact .of_same rfl rfl
    | exact .recorded rfl rfl rfl
    | (cases ‹Mutex› <;> exact .of_same rfl rfl)

/-- Callbacks may do whatever delivers nothing. -/
def tacitly : Meanwhile := fun _ => Delivers []

theorem tacitly_covers (rules : Rules) (thread : Thread) :
    Covers (semantics rules.policy thread) rules.nesting (during tacitly) :=
  covers_of_public rules thread (fun _ => .of_same rfl rfl) (fun one two => one.trans two)
    fun operation _ _ _ _ isPublic stepped => (Public.tacit operation isPublic).delivers stepped

section

variable {native : Endian} {policy : Policy} {thread : Thread} {c : Client}

theorem tacit_wp {α : Type} {program : Method α} (issues : program.Issues Tacit)
    {callbacks : List Callback} {before : Client} (sofar : Delivers callbacks before c) :
    program.wp (effect policy thread tacitly) (fun _ after => Delivers callbacks before after) c := by
  apply demonic_keeps _ _ program issues sofar
  · intro β operation answer state value after tacit reached stepped
    have more := reached.trans (tacit.delivers stepped)
    rwa [List.append_nil] at more
  · intro β operation state between reached moved
    cases operation
    case endCallback =>
      have more := reached.trans (show Delivers [] state between from moved)
      rwa [List.append_nil] at more
    all_goals
      rw [show between = state from moved]
      exact reached

/-- The dispatcher hands nothing to a hook that speaks of the client itself. -/
theorem deliver_foreign {type : MessageType} {number : UInt32} {payload : Bytes}
    {callback : Callback} (delivers : deliver native type number payload = some callback) :
    callback.hook.isOwn = false := by
  unfold deliver at delivers
  repeat' split at delivers
  all_goals first
    | cases delivers
    | (obtain ⟨value, _, rfl⟩ := Option.map_eq_some_iff.mp delivers)
  all_goals rfl

/-- What a datagram is to deliver, given which hooks are assigned. -/
def heard (native : Endian) (hooks : Hook → Bool) (packet : Bytes) : List Callback :=
  match wellFormed native packet with
  | none => []
  | some (header, payload) =>
    (deliver native header.type header.number payload).toList.filter fun callback =>
      hooks callback.hook

theorem report_delivers {callback : Callback} (foreign : callback.hook.isOwn = false) :
    (report callback).wp (effect policy thread tacitly)
      (fun _ after => Delivers ([callback].filter fun callback => c.hooks callback.hook) c after)
        c := by
  rw [wp_report]
  split
  · next assigned =>
    rw [wp_invoke]
    intro between moved
    have begun : Delivers [callback] c { c with log := c.log ++ [.invoked callback] } :=
      ⟨rfl, [.invoked callback], rfl, by simp [deliveries, Event.delivery, foreign]⟩
    have ended := begun.trans moved
    rw [List.append_nil] at ended
    have kept : [callback].filter (fun callback => c.hooks callback.hook) = [callback] :=
      List.filter_cons_of_pos assigned
    rw [kept]
    exact ⟨fun _ _ => ended, ended⟩
  · next unset =>
    have dropped : [callback].filter (fun callback => c.hooks callback.hook) = [] :=
      List.filter_cons_of_neg unset
    rw [dropped]
    exact .of_same rfl rfl

/-- The branch of the dispatcher that ends the handshake. -/
theorem welcome_tacit (header : Header) : Program.Issues Tacit (do
    if header.length = 0 then
      if (← perform .loadState) = .authenticating then
        perform (.storeState .connected)
        perform (.cancelTimer .connectTimeoutTimer)
        startKeepAliveTimer
        locked .connectionMutex (perform .notifyAll)
        report .onConnected : Method Unit) := by
  have waits : startKeepAliveTimer.Issues Tacit := by
    refine .bind (.perform trivial) fun state => ?_
    split
    · exact .pure _
    · exact .bind (.perform trivial) fun _ => .bind (.perform trivial) fun _ => .ofOutcome _
  have wakes : (locked .connectionMutex (perform .notifyAll)).Issues Tacit :=
    .bind (.perform trivial) fun _ => .bind (.attempt (.perform trivial)) fun _ =>
      .bind (.perform trivial) fun _ => .ofOutcome _
  split
  · refine .bind (.perform trivial) fun state => ?_
    split
    · exact .bind (.perform trivial) fun _ => .bind (.perform trivial) fun _ =>
        .bind waits fun _ => .bind wakes fun _ => .mono Public.tacit (report_public rfl)
    · exact .pure _
  · exact .pure _

theorem processPacket_delivers (packet : Bytes) :
    (processPacket native packet).wp (effect policy thread tacitly)
      (fun _ after => Delivers (heard native c.hooks packet) c after) c := by
  have started : Delivers [] c c := .of_same rfl rfl
  unfold processPacket heard wellFormed
  cases parsed : deserializeHeader native packet with
  | none => exact started
  | some header =>
    simp only []
    by_cases short : packet.length < 18 + header.length.toNat
    · rw [if_pos short, if_pos short]
      exact started
    · rw [if_neg short, if_neg short]
      by_cases isChallenge : header.type = .challenge
      · have none_ : deliver native header.type header.number
            ((packet.drop 18).take header.length.toNat) = none := by
          rw [isChallenge]
          rfl
        simp only [if_pos isChallenge, none_]
        apply tacit_wp _ started
        refine .bind (.perform trivial) fun state => ?_
        split
        · exact .bind (.perform trivial) fun _ => .bind (.perform trivial) fun _ =>
            ((transmitRaw_sending native _ _ _).mono Sending.toPublic).mono Public.tacit
        · exact .pure _
      · by_cases isKeepAlive : header.type = .keepAlive
        · have none_ : deliver native header.type header.number
              ((packet.drop 18).take header.length.toNat) = none := by
            rw [isKeepAlive]
            rfl
          simp only [if_neg isChallenge, if_pos isKeepAlive, none_]
          exact tacit_wp (welcome_tacit header) started
        · simp only [if_neg isChallenge, if_neg isKeepAlive]
          cases delivers : deliver native header.type header.number
              ((packet.drop 18).take header.length.toNat) with
          | none => exact started
          | some callback => exact report_delivers (deliver_foreign delivers)

/-- A received datagram delivers what it is to deliver, if it came from the server. -/
theorem handleReceive_delivers {bytesTransferred : Nat} (up : c.state ≠ .disconnected)
    (some_ : 0 < bytesTransferred) (own : c.senderEndpoint = c.serverEndpoint) :
    (handleReceive native .success bytesTransferred).wp (effect policy thread tacitly)
      (fun _ after => Delivers (heard native c.hooks (c.receiveBuffer.take bytesTransferred))
        c after) c := by
  simp only [handleReceive, wp_bind, wp_perform, effect_loadState, andThen_ok, wp_ite, if_neg up,
    ne_eq, not_true_eq_false, if_false, if_pos some_, effect_readSenderEndpoint,
    effect_readServerEndpoint, effect_readBuffer, effect_note, if_pos own]
  have noted : Delivers [] c { c with log := c.log ++ [.inspected c.senderEndpoint c.serverEndpoint
      (c.receiveBuffer.take bytesTransferred)] } := .recorded rfl rfl rfl
  apply wp_mono (effect_monotone _ _ _) _ _ _ (processPacket_delivers _)
  intro outcome after delivers
  cases outcome with
  | error what => exact noted.trans delivers
  | ok value =>
    apply tacit_wp _ (noted.trans delivers)
    simp [Issues, startReceiveLoop, wp_ite, issuing, Tacit]

end

/-! ### Messages -/

/-- The first datagram of these events, if there is one, is `packet`. -/
def Builds (packet : Bytes) (base : List Event) (after : Client) : Prop :=
  ∃ events, after.log = base ++ events ∧ ∀ first, (datagrams events).head? = some first →
    first = packet

theorem Builds.of_sent {packet : Bytes} {destination : Endpoint} {base early : List Event}
    {after : Client} (none_ : datagrams early = [])
    (extends_ : base ++ early ++ [.sent packet destination] <+: after.log) :
    Builds packet base after := by
  obtain ⟨late, extended⟩ := extends_
  refine ⟨early ++ [.sent packet destination] ++ late, ?_, ?_⟩
  · rw [← extended]
    simp only [List.append_assoc]
  · intro first head
    rw [datagrams_append, datagrams_append, none_] at head
    exact (Option.some.inj head).symm

theorem Builds.of_shut {packet : Bytes} {base : List Event} {after : Client} {call : PublicCall}
    {type : MessageType} {flag : UInt16} {payload : Bytes}
    (log : after.log = base ++ [.called call] ++ [.passed type flag payload] ++
      [.returned call none]) : Builds packet base after := by
  refine ⟨[.called call, .passed type flag payload, .returned call none], ?_, fun first head => ?_⟩
  · simp only [log, List.append_assoc, List.cons_append, List.nil_append]
  · cases (head : none = some first)

section

variable {native : Endian} {policy : Policy} {thread : Thread} {c : Client}

/-- What is in the log stays there, whatever runs next. -/
theorem grown_wp {α : Type} (program : Method α) {base : List Event}
    {post : Outcome α → Client → Prop}
    (enough : ∀ outcome after, base <+: after.log → post outcome after) (behind : base <+: c.log) :
    program.wp (effect policy thread growing) post c := by
  apply (program_grows program c).wp (effect_monotone _ _ _)
  exact fun outcome after grows => enough outcome after (behind.trans grows)

theorem grown_andThen {α β : Type} (rest : α → Method β) {base : List Event}
    {post : Outcome β → Client → Prop}
    (enough : ∀ outcome after, base <+: after.log → post outcome after) :
    ∀ outcome after, base <+: after.log →
      andThen (fun value after => (rest value).wp (effect policy thread growing) post after)
        (fun what after => post (.error what) after) outcome after := by
  intro outcome after behind
  cases outcome with
  | error what => exact enough _ _ behind
  | ok value => exact grown_wp (rest value) enough behind

/-- `TransmitRaw` hands its datagram to `send_to` first, or finds the socket closed. -/
theorem transmitRaw_first (type : MessageType) (flag : UInt16) (payload : Bytes)
    {post : Outcome Unit → Client → Prop}
    (sent : ∀ outcome after, c.log ++ [.passed type flag payload] ++
      [.sent (packetOf native type flag (nextSeq flag c) payload) c.serverEndpoint] <+: after.log →
        post outcome after)
    (shut : post (.ok ()) { c with log := c.log ++ [.passed type flag payload] }) :
    (transmitRaw native type flag payload).wp (effect policy thread growing) post c := by
  by_cases isOpen : c.socketOpen = true
  · rw [transmitRaw, wp_bind, wp_perform, effect_note, andThen_ok, wp_locked]
    intro free
    rw [wp_bind, wp_perform, effect_isOpen, andThen_ok, wp_ite, if_neg (by simp [isOpen]), wp_bind,
      wp_perform, effect_takeSeq, andThen_ok, wp_bind, wp_perform, effect_readServerEndpoint,
      andThen_ok, wp_bind, wp_perform, effect_sendTo]
    intro ec _
    rw [andThen_ok]
    refine grown_wp _ (fun outcome after behind => sent _ _ ?_) List.prefix_rfl
    rw [setOwner_log]
    exact behind
  · exact transmitRaw_shut (by simpa using isOpen) shut

theorem sendTextMessage_builds (connected : c.state = .connected) (destinationId : UInt32)
    (isGroup : Bool) (text : Bytes) :
    (publicCall native (.sendTextMessage destinationId isGroup text)).wp
      (effect policy thread growing)
      (fun _ after => Builds (packetOf native .messageText MessageFlag.none c.routineSeq
        (serializeTextMessage native ⟨c.dmrId, destinationId, isGroup, text⟩)) c.log after) c := by
  rw [publicCall, wp_bind, wp_perform, effect_note, andThen_ok, wp_bind, method, wp_bind,
    sendTextMessage, whenConnected, wp_bind, wp_perform, effect_loadState, andThen_ok, wp_ite,
    if_neg (not_not.mpr connected), wp_bind, wp_perform, effect_readIdentity, andThen_ok]
  apply transmitRaw_first
  · refine grown_andThen _ (grown_andThen _ fun outcome after behind => ?_)
    rw [List.append_assoc c.log] at behind
    exact .of_sent rfl behind
  · rw [andThen_ok, wp_pure, andThen_ok, wp_bind, wp_perform, effect_note, andThen_ok, wp_pure]
    exact .of_shut rfl

theorem sendLocationReport_builds (connected : c.state = .connected) (nmea : Bytes) :
    (publicCall native (.sendLocationReport nmea)).wp (effect policy thread growing)
      (fun _ after => Builds (packetOf native .locationReport MessageFlag.none c.routineSeq
        (serializeLocationReport native ⟨0, nmea⟩)) c.log after) c := by
  rw [publicCall, wp_bind, wp_perform, effect_note, andThen_ok, wp_bind, method, wp_bind,
    sendLocationReport, whenConnected, wp_bind, wp_perform, effect_loadState, andThen_ok, wp_ite,
    if_neg (not_not.mpr connected)]
  apply transmitRaw_first
  · refine grown_andThen _ (grown_andThen _ fun outcome after behind => ?_)
    rw [List.append_assoc c.log] at behind
    exact .of_sent rfl behind
  · rw [andThen_ok, wp_pure, andThen_ok, wp_bind, wp_perform, effect_note, andThen_ok, wp_pure]
    exact .of_shut rfl

end

/-! ### What the receiver makes of a datagram -/

section

variable {native : Endian} {type : MessageType} {flag : UInt16} {number : UInt32} {payload : Bytes}

/-- A host of either byte order builds the same datagram. -/
theorem packetOf_portable (first second : Endian) :
    packetOf first type flag number payload = packetOf second type flag number payload := by
  unfold packetOf
  rw [serializeHeader_portable first, serializeHeader_portable second]

theorem length_packetOf : (packetOf native type flag number payload).length = 18 + payload.length := by
  rw [packetOf, List.length_append, length_serializeHeader]

/-- A datagram is parsed to the header it was built with and as much of its payload as the length
field can say. -/
theorem wellFormed_packetOf :
    wellFormed native (packetOf native type flag number payload) =
      some (⟨type, flag, number, UInt16.ofNat payload.length⟩,
        payload.take (UInt16.ofNat payload.length).toNat) := by
  have declared : (UInt16.ofNat payload.length).toNat ≤ payload.length := by
    rw [UInt16.toNat_ofNat']
    exact Nat.mod_le _ _
  unfold wellFormed
  rw [packetOf, deserializeHeader_serializeHeader]
  have long : ¬ (serializeHeader native ⟨type, flag, number, UInt16.ofNat payload.length⟩ ++
      payload).length < 18 + (UInt16.ofNat payload.length).toNat := by
    rw [List.length_append, length_serializeHeader]
    omega
  simp only [if_neg long]
  rw [← length_serializeHeader native ⟨type, flag, number, UInt16.ofNat payload.length⟩,
    List.drop_left]

theorem wellFormed_whole (fits : payload.length < 0x10000) :
    wellFormed native (packetOf native type flag number payload) =
      some (⟨type, flag, number, UInt16.ofNat payload.length⟩, payload) := by
  rw [wellFormed_packetOf, toNat_unit fits, List.take_length]

/-- A longer one is cut, and what is left is no well-formed datagram. -/
theorem wellFormed_cut {size : Nat} (fits : payload.length < 0x10000) (header : 18 ≤ size)
    (cut : size < 18 + payload.length) :
    wellFormed native ((packetOf native type flag number payload).take size) = none := by
  have exactly : (UInt16.ofNat payload.length).toNat = payload.length := toNat_unit fits
  have front : (packetOf native type flag number payload).take size =
      serializeHeader native ⟨type, flag, number, UInt16.ofNat payload.length⟩ ++
        payload.take (size - 18) := by
    rw [packetOf, List.take_append, length_serializeHeader,
      List.take_of_length_le (by rw [length_serializeHeader]; exact header)]
  have short : (serializeHeader native ⟨type, flag, number, UInt16.ofNat payload.length⟩ ++
      payload.take (size - 18)).length < 18 + payload.length := by
    rw [List.length_append, length_serializeHeader, List.length_take]
    omega
  unfold wellFormed
  rw [front, deserializeHeader_serializeHeader]
  simp only [exactly, if_pos short]

theorem packetOf_cut_ne : (packetOf native type flag number payload).take 1024 ≠ [] := by
  intro empty
  have length := congrArg List.length empty
  rw [List.length_take, length_packetOf, List.length_nil] at length
  omega

/-- Between hosts of any byte orders a text is decoded to what it was. -/
theorem deliver_text (sender receiver : Endian) {sourceId destinationId : UInt32} {isGroup : Bool}
    {text : List Char} (fits : (utf16 text).length ≤ 32767) :
    deliver receiver .messageText number
      (serializeTextMessage sender ⟨sourceId, destinationId, isGroup, utf8 text⟩) =
        some (.onTextMessage ⟨sourceId, destinationId, isGroup, utf8 text⟩) := by
  have read := deserializeTextMessage_utf8 receiver
    ⟨sourceId, destinationId, isGroup, utf8 text⟩ text rfl fits []
  rw [List.append_nil] at read
  change (deserializeTextMessage receiver _).map _ = _
  rw [serializeTextMessage_portable sender, ← serializeTextMessage_portable receiver, read]
  rfl

theorem deliver_location (sender receiver : Endian) {nmea : Bytes} (free : 0 ∉ nmea)
    (fits : nmea.length + 1 < 0x10000) :
    deliver receiver .locationReport number (serializeLocationReport sender ⟨0, nmea⟩) =
      some (.onLocationReport ⟨0, nmea⟩) := by
  have read := deserializeLocationReport_serialize receiver ⟨0, nmea⟩ free fits []
  rw [List.append_nil] at read
  change (deserializeLocationReport receiver _).map _ = _
  rw [serializeLocationReport_portable sender, ← serializeLocationReport_portable receiver, read]
  rfl

/-- What a datagram delivers that was cut to the size of the receive buffer. -/
theorem heard_cut {hooks : Hook → Bool} {callback : Callback} (sender : Endian)
    (fits : payload.length < 0x10000)
    (delivers : deliver native type number payload = some callback)
    (assigned : hooks callback.hook = true) :
    heard native hooks ((packetOf sender type flag number payload).take 1024) =
      if payload.length ≤ 1006 then [callback] else [] := by
  rw [packetOf_portable sender native]
  unfold heard
  by_cases small : payload.length ≤ 1006
  · have whole : (packetOf native type flag number payload).take 1024 =
        packetOf native type flag number payload := by
      rw [List.take_of_length_le]
      rw [length_packetOf]
      omega
    rw [whole, wellFormed_whole fits, if_pos small]
    simp [delivers, assigned]
  · rw [wellFormed_cut fits (by decide) (by omega), if_neg small]

end

/-! ### From one client to another -/

theorem delivered_iff {condition : Prop} [Decidable condition] {callback : Callback} :
    (if condition then [callback] else []) = [callback] ↔ condition := by
  split <;> simp [*]

/-- The receive operation that a datagram completes. -/
def Outstanding.received (operation : Outstanding) (size : Nat) : Outstanding :=
  { operation with completion := some { bytesTransferred := size } }

section

variable {rules : Rules} {c arrived after : Client} {operation : Outstanding}

/-- A datagram from the server that arrives at a session that is up delivers what it says. -/
theorem arrival_delivers (up : c.state ≠ .disconnected) {data : Bytes} (some_ : data ≠ [])
    (arrives : Step rules c (.arrives operation c.serverEndpoint data) arrived)
    (handles : Step rules arrived (.handles (operation.received data.length)) after) :
    deliveries (added ⟨arrived, .handles (operation.received data.length), after⟩) =
      heard rules.native c.hooks data := by
  cases arrives with
  | arrives found pending receives fits =>
    cases handles with
    | handles found queued idle going ran =>
      cases queued
      have kind : (operation.received data.length).kind = .receive := receives
      rw [kind] at ran
      have taken : (data ++ c.receiveBuffer.drop data.length).take data.length = data :=
        List.take_left
      have delivered := (tacitly_covers rules .io).sound ran _
        (handleReceive_delivers up (List.length_pos_iff.mpr some_) rfl)
      obtain ⟨events, extended, delivers⟩ := delivered.log
      rw [added_eq extended, delivers]
      exact congrArg (heard rules.native c.hooks) taken

/-- The first datagram that a call added to the log. -/
theorem built_eq {call : PublicCall} {id : Nat} {built : Bytes}
    (builds : (publicCall rules.native call).wp (effect rules.policy (.app id) growing)
      (fun _ after => Builds built c.log after) c)
    (calls : Step rules c (.call id call) after) {packet : Bytes}
    (head : (datagrams (added ⟨c, .call id call, after⟩)).head? = some packet) :
    packet = built := by
  cases calls with
  | call free ran =>
    obtain ⟨events, extended, first⟩ := (growing_covers rules (.app id)).sound ran _ builds
    rw [added_eq extended] at head
    exact first packet head

end

/-- A text that one client sends to another, whose hook is assigned, is delivered there exactly once
and unchanged if and only if it has at most 495 UTF-16 units; a location report, if and only if its
sentence has at most 995 bytes. `packet` is the datagram that was built, which arrives cut to the
size of the receive buffer. -/
theorem message_received_iff {sender receiver : Rules} {s sent r arrived handled : Client} {id : Nat}
    {operation : Outstanding} {packet : Bytes} (connected : s.state = .connected)
    (up : r.state = .connected) (fits : packet.length ≤ 65507)
    (arrives : Step receiver r (.arrives operation r.serverEndpoint (packet.take 1024)) arrived)
    (handles : Step receiver arrived (.handles (operation.received (packet.take 1024).length))
      handled) :
    (∀ destinationId isGroup text, r.hooks .onTextMessage = true →
      Step sender s (.call id (.sendTextMessage destinationId isGroup (utf8 text))) sent →
      (datagrams (added ⟨s, .call id (.sendTextMessage destinationId isGroup (utf8 text)),
        sent⟩)).head? = some packet →
      (deliveries (added ⟨arrived, .handles (operation.received (packet.take 1024).length),
        handled⟩) = [.onTextMessage ⟨s.dmrId, destinationId, isGroup, utf8 text⟩] ↔
          (utf16 text).length ≤ 495)) ∧
    (∀ nmea, 0 ∉ nmea → r.hooks .onLocationReport = true →
      Step sender s (.call id (.sendLocationReport nmea)) sent →
      (datagrams (added ⟨s, .call id (.sendLocationReport nmea), sent⟩)).head? = some packet →
      (deliveries (added ⟨arrived, .handles (operation.received (packet.take 1024).length),
        handled⟩) = [.onLocationReport ⟨0, nmea⟩] ↔ nmea.length ≤ 995)) := by
  have up : r.state ≠ .disconnected := by simp [up]
  constructor
  · intro destinationId isGroup text assigned calls head
    have built := built_eq (sendTextMessage_builds connected destinationId isGroup (utf8 text))
      calls head
    have length := length_serializeTextMessage sender.native
      ⟨s.dmrId, destinationId, isGroup, utf8 text⟩
    rw [utf8ToUtf16_text] at length
    have small : (serializeTextMessage sender.native
        ⟨s.dmrId, destinationId, isGroup, utf8 text⟩).length ≤ 65489 := by
      rw [built, length_packetOf] at fits
      omega
    have delivers : deliver receiver.native .messageText s.routineSeq
        (serializeTextMessage sender.native ⟨s.dmrId, destinationId, isGroup, utf8 text⟩) =
          some (.onTextMessage ⟨s.dmrId, destinationId, isGroup, utf8 text⟩) :=
      deliver_text sender.native receiver.native (by omega)
    rw [arrival_delivers up (by rw [built]; exact packetOf_cut_ne) arrives handles, built,
      heard_cut sender.native (by omega) delivers assigned, delivered_iff]
    omega
  · intro nmea free assigned calls head
    have built := built_eq (sendLocationReport_builds connected nmea) calls head
    have length : (serializeLocationReport sender.native ⟨0, nmea⟩).length = 11 + nmea.length :=
      length_serializeLocationReport sender.native ⟨0, nmea⟩
    have small : (serializeLocationReport sender.native ⟨0, nmea⟩).length ≤ 65489 := by
      rw [built, length_packetOf] at fits
      omega
    have delivers : deliver receiver.native .locationReport s.routineSeq
        (serializeLocationReport sender.native ⟨0, nmea⟩) = some (.onLocationReport ⟨0, nmea⟩) :=
      deliver_location sender.native receiver.native free (by omega)
    rw [arrival_delivers up (by rw [built]; exact packetOf_cut_ne) arrives handles, built,
      heard_cut sender.native (by omega) delivers assigned, delivered_iff]
    omega

/-- A client at the end of the handshake. -/
def greeted (hooks : Hook → Bool) : Client :=
  match play (fun c (entry : Weather × Label) => advance sampleRules entry.1 c entry.2) Prod.snd []
    (fresh 1234567 [] hooks) handshakeScript with
  | some (_, last) => last
  | none => fresh 1234567 [] hooks

def talker : Client := greeted fun _ => false
def listener : Client := greeted fun _ => true

def greeting (text : List Char) : PublicCall := .sendTextMessage 91 true (utf8 text)

def greetingPacket (text : List Char) : Bytes :=
  packetOf .little .messageText MessageFlag.none 2
    (serializeTextMessage .little ⟨1234567, 91, true, utf8 text⟩)

def pendingReceive : Outstanding := ⟨.receive, 1, none⟩

/-- The talker sends a text, and the listener receives the datagram and handles it. -/
def Exchanges (text : List Char) (sent arrived handled : Client) : Prop :=
  Step sampleRules talker (.call 0 (greeting text)) sent ∧
    (datagrams (added ⟨talker, .call 0 (greeting text), sent⟩)).head? =
      some (greetingPacket text) ∧
    Step sampleRules listener
      (.arrives pendingReceive listener.serverEndpoint ((greetingPacket text).take 1024)) arrived ∧
    Step sampleRules arrived
      (.handles (pendingReceive.received ((greetingPacket text).take 1024).length)) handled

def exchange (text : List Char) : Option (Client × Client × Client) := do
  let sent ← advance sampleRules fair talker (.call 0 (greeting text))
  let data := (greetingPacket text).take 1024
  let arrived ← advance sampleRules fair listener
    (.arrives pendingReceive listener.serverEndpoint data)
  let handled ← advance sampleRules fair arrived (.handles (pendingReceive.received data.length))
  some (sent, arrived, handled)

theorem exchange_exchanges {text : List Char} (check : Client → Client → Bool)
    (passes : (exchange text).any (fun result =>
      ((datagrams (added ⟨talker, .call 0 (greeting text), result.1⟩)).head? ==
        some (greetingPacket text)) && check result.2.1 result.2.2) = true) :
    ∃ sent arrived handled, Exchanges text sent arrived handled ∧ check arrived handled = true := by
  obtain ⟨result, exchanged, checked⟩ := (Option.any_eq_true _ _).mp passes
  simp only [exchange, Option.bind_eq_bind, Option.bind_eq_some_iff] at exchanged
  obtain ⟨sent, sends, arrived, arrives, handled, handles, same⟩ := exchanged
  cases same
  obtain ⟨head, checked⟩ := Bool.and_eq_true_iff.mp checked
  exact ⟨sent, arrived, handled, ⟨advance_step _ _ sends, eq_of_beq head, advance_step _ _ arrives,
    advance_step _ _ handles⟩, checked⟩

theorem message_received_iff_hi : ∃ sent arrived handled,
    Exchanges ['h', 'i'] sent arrived handled ∧
      deliveries (added ⟨arrived, .handles (pendingReceive.received 38), handled⟩) =
        [.onTextMessage ⟨1234567, 91, true, utf8 ['h', 'i']⟩] := by
  obtain ⟨sent, arrived, handled, exchanged, _⟩ :=
    @exchange_exchanges ['h', 'i'] (fun _ _ => true) (by decide +kernel)
  obtain ⟨sends, head, arrives, handles⟩ := exchanged
  have received := (message_received_iff (by decide +kernel) (by decide +kernel)
    (by decide +kernel) arrives handles).1 91 true ['h', 'i'] (by decide +kernel) sends head
  exact ⟨sent, arrived, handled, ⟨sends, head, arrives, handles⟩, received.mpr (by decide)⟩

/-- A text of 496 units makes a datagram of 1026 bytes; the listener drops it as malformed. -/
theorem long_text_lost : ∃ sent arrived handled,
    talker.state = .connected ∧ listener.state = .connected ∧
      listener.hooks .onTextMessage = true ∧
      (greetingPacket (List.replicate 496 'a')).length = 1026 ∧
      Exchanges (List.replicate 496 'a') sent arrived handled ∧
      deliveries (added ⟨arrived, .handles (pendingReceive.received 1024), handled⟩) = [] := by
  obtain ⟨sent, arrived, handled, exchanged, lost⟩ :=
    @exchange_exchanges (List.replicate 496 'a') (fun arrived handled =>
      deliveries (added ⟨arrived, .handles (pendingReceive.received 1024), handled⟩) == [])
        (by decide +kernel)
  exact ⟨sent, arrived, handled, by decide +kernel, by decide +kernel, by decide +kernel,
    by decide +kernel, exchanged, eq_of_beq lost⟩

end OpenDTP.Client
