import OpenDTP.Network.Server
import OpenDTP.Client.Delivery
import OpenDTP.Client.Digests

/-! A client and the server of its tests on a network that loses, repeats and reorders datagrams, and
on which strangers send what they like from addresses of their own. A client that gets connected has
been given a password with the digest that the server expects. -/

namespace OpenDTP.Network
open Common Protocol Effects Effects.Program Client

/-- The addresses of the client and of the server. -/
structure Site where
  home : Endpoint
  address : Endpoint

/-- What the members of a client that has received nothing hold. -/
def nowhere : Endpoint := ⟨[], 0⟩

structure World where
  client : OpenDTP.Client
  server : MockServer

/-- The host is resolved to the address of the server. What arrives has a sender, and what arrives
from the server was sent by it to this client. -/
def Real (site : Site) (sent : List (Endpoint × Bytes)) : Label → Prop
  | .completes operation completion =>
    operation.kind = .resolve → ∀ endpoint ∈ completion.endpoints.head?, endpoint = site.address
  | .arrives _ sender data =>
    sender ≠ nowhere ∧
      (sender = site.address → ∃ packet, (site.home, packet) ∈ sent ∧ data = packet.take 1024)
  | _ => True

inductive Act where
  | client (label : Label)
  | hears (packet : Bytes)
  | strange (sender : Endpoint) (data : Bytes)

inductive Step (rules : Rules) (setup : Setup) (site : Site) : World → Act → World → Prop where
  | client {w : World} {label : Label} {after : OpenDTP.Client}
      (stepped : Client.Step rules w.client label after) (real : Real site w.server.sent label) :
      Step rules setup site w (.client label) ⟨after, w.server⟩
  | hears {w : World} {packet : Bytes} {after : MockServer}
      (sent : .sent packet site.address ∈ w.client.log)
      (received : receive setup site.home (packet.take 1024) w.server = some after) :
      Step rules setup site w (.hears packet) ⟨w.client, after⟩
  | strange {w : World} {sender : Endpoint} {data : Bytes} {after : MockServer}
      (stranger : sender ≠ site.home) (fits : data.length ≤ 1024)
      (received : receive setup sender data w.server = some after) :
      Step rules setup site w (.strange sender data) ⟨w.client, after⟩

/-- A new client, and a server that has heard nothing. -/
def opening (dmrId : UInt32) (description : Bytes) (hooks : Hook → Bool) : World :=
  ⟨fresh dmrId description hooks, .listening⟩

/-! ### What the client looks at -/

/-- The server sent a datagram that reads so. -/
def Said (native : Endian) (site : Site) (sent : List (Endpoint × Bytes)) (header : Header)
    (payload : Bytes) : Prop :=
  ∃ packet, (site.home, packet) ∈ sent ∧ wellFormed native packet = some (header, payload)

/-- A buffer that nothing was written to, or that begins with a datagram of the server. The rest can
be of any datagrams that arrived earlier. -/
def Held (site : Site) (sent : List (Endpoint × Bytes)) (buffer : Bytes) : Prop :=
  buffer = List.replicate 1024 0 ∨
    ∃ packet, (site.home, packet) ∈ sent ∧ packet.take 1024 <+: buffer

/-- What the dispatcher is handed was sent by the server. -/
def Genuine (native : Endian) (site : Site) (sent : List (Endpoint × Bytes)) : Client.Event → Prop
  | .inspected sender server packet => sender = server → ∀ header payload,
    wellFormed native packet = some (header, payload) → Said native site sent header payload
  | _ => True

def Resolved (site : Site) (operation : Outstanding) : Prop :=
  operation.kind = .resolve → ∀ completion, operation.completion = some completion →
    ∀ endpoint ∈ completion.endpoints.head?, endpoint = site.address

structure Sound (native : Endian) (site : Site) (sent : List (Endpoint × Bytes)) (c : OpenDTP.Client) :
    Prop where
  shaped : ∀ packet, (site.home, packet) ∈ sent →
    ∃ type payload, packet = packetOf native type 0 0 payload
  server : c.serverEndpoint = site.address ∨ c.serverEndpoint = nowhere
  size : c.receiveBuffer.length = 1024
  buffer : c.senderEndpoint = site.address ∨ c.senderEndpoint = nowhere →
    Held site sent c.receiveBuffer
  resolves : ∀ operation ∈ c.operations, Resolved site operation
  log : ∀ event ∈ c.log, Genuine native site sent event

section

variable {native : Endian} {site : Site} {sent more : List (Endpoint × Bytes)}
  {policy : Policy} {thread : Thread} {c after : OpenDTP.Client} {buffer : Bytes} {header : Header}
  {payload : Bytes}

theorem blank_malformed (size : Nat) : wellFormed native (List.replicate size 0) = none := by
  have undecoded : deserializeHeader native (List.replicate size 0) = none := by
    unfold deserializeHeader
    split
    · rfl
    · next long =>
      rw [List.length_replicate] at long
      have unsigned : (List.replicate size (0 : Byte)).take signLength ≠
          protocolSign.take signLength := by
        rw [List.take_replicate, Nat.min_eq_left (by unfold signLength; omega)]
        decide
      rw [if_pos unsigned]
  rw [wellFormed, undecoded]

/-- However much of the buffer is looked at, and whatever is left in it of earlier datagrams, the header
says how much of it is the datagram that was written last. -/
theorem wellFormed_behind {type : MessageType} {data rest : Bytes} {size : Nat}
    (whole : ((packetOf native type 0 0 data).take 1024 ++ rest).length = 1024)
    (parsed : wellFormed native (((packetOf native type 0 0 data).take 1024 ++ rest).take size) =
      some (header, payload)) :
    wellFormed native (packetOf native type 0 0 data) = some (header, payload) := by
  have front : (packetOf native type 0 0 data).take 1024 =
      serializeHeader native ⟨type, 0, 0, UInt16.ofNat data.length⟩ ++ data.take 1006 := by
    rw [packetOf, List.take_append, length_serializeHeader,
      List.take_of_length_le (by rw [length_serializeHeader]; decide)]
  rw [front] at whole parsed
  by_cases short : size < 18
  · rw [wellFormed, deserializeHeader, if_pos (by rw [List.length_take]; omega)] at parsed
    cases parsed
  · have cut : ((serializeHeader native ⟨type, 0, 0, UInt16.ofNat data.length⟩ ++ data.take 1006) ++
        rest).take size = serializeHeader native ⟨type, 0, 0, UInt16.ofNat data.length⟩ ++
          (data.take 1006 ++ rest).take (size - 18) := by
      rw [List.append_assoc, List.take_append, length_serializeHeader,
        List.take_of_length_le (by rw [length_serializeHeader]; omega)]
    rw [cut] at parsed
    unfold wellFormed at parsed
    rw [deserializeHeader_serializeHeader] at parsed
    simp only [List.length_append, length_serializeHeader, List.length_take] at parsed whole
    split at parsed
    · cases parsed
    · next long =>
      have declared : (UInt16.ofNat data.length).toNat ≤ data.length := by
        rw [UInt16.toNat_ofNat']
        exact Nat.mod_le _ _
      rw [wellFormed_packetOf, ← parsed,
        List.drop_left' (length_serializeHeader native _), List.take_take, List.take_append,
        List.take_take]
      have inside : (UInt16.ofNat data.length).toNat ≤ 1006 := by omega
      have enough : min (UInt16.ofNat data.length).toNat (size - 18) =
          (UInt16.ofNat data.length).toNat := by omega
      have exactly : min (UInt16.ofNat data.length).toNat 1006 =
          (UInt16.ofNat data.length).toNat := by omega
      have none : (UInt16.ofNat data.length).toNat - (data.take 1006).length = 0 := by
        rw [List.length_take]
        omega
      rw [enough, exactly, none, List.take_zero, List.append_nil]

theorem Held.parsed (held : Held site sent buffer)
    (shaped : ∀ packet, (site.home, packet) ∈ sent →
      ∃ type payload, packet = packetOf native type 0 0 payload)
    (size : buffer.length = 1024) {count : Nat}
    (parsed : wellFormed native (buffer.take count) = some (header, payload)) :
    Said native site sent header payload := by
  rcases held with rfl | ⟨packet, member, front⟩
  · rw [List.take_replicate, blank_malformed] at parsed
    cases parsed
  · obtain ⟨type, data, rfl⟩ := shaped packet member
    obtain ⟨rest, rfl⟩ := front
    exact ⟨_, member, wellFormed_behind size parsed⟩

theorem Genuine.mono {event : Client.Event} (genuine : Genuine native site sent event)
    (sub : sent ⊆ more) : Genuine native site more event := by
  cases event <;> try trivial
  case inspected sender server packet =>
    intro own header payload parsed
    obtain ⟨packet, member, reads⟩ := genuine own header payload parsed
    exact ⟨packet, sub member, reads⟩

theorem genuine_other {event : Client.Event} (other : event.isInspected = false) :
    Genuine native site sent event := by
  cases event <;> trivial

namespace Sound

/-- The server has sent more. -/
theorem mono (sound : Sound native site sent c) (sub : sent ⊆ more)
    (shaped : ∀ packet, (site.home, packet) ∈ more →
      ∃ type payload, packet = packetOf native type 0 0 payload) :
    Sound native site more c where
  shaped := shaped
  server := sound.server
  size := sound.size
  buffer own := by
    rcases sound.buffer own with blank | ⟨packet, member, front⟩
    · exact .inl blank
    · exact .inr ⟨packet, sub member, front⟩
  resolves := sound.resolves
  log event member := (sound.log event member).mono sub

/-- The client does something else than to receive or to look at what it received. -/
theorem moved (sound : Sound native site sent c)
    (server : after.serverEndpoint = c.serverEndpoint)
    (sender : after.senderEndpoint = c.senderEndpoint)
    (buffer : after.receiveBuffer = c.receiveBuffer)
    (resolves : ∀ operation ∈ after.operations, Resolved site operation)
    (log : ∃ events, after.log = c.log ++ events ∧ ∀ event ∈ events, event.isInspected = false) :
    Sound native site sent after where
  shaped := sound.shaped
  server := by
    rw [server]
    exact sound.server
  size := by
    rw [buffer]
    exact sound.size
  buffer := by
    rw [sender, buffer]
    exact sound.buffer
  resolves := resolves
  log event member := by
    obtain ⟨events, extended, others⟩ := log
    rw [extended] at member
    rcases List.mem_append.mp member with old | new
    · exact sound.log event old
    · exact genuine_other (others event new)

theorem begun (sound : Sound native site sent c) (kind : Kind) :
    ∀ operation ∈ (c.begin kind).operations, Resolved site operation := by
  intro operation member
  rcases List.mem_append.mp member with old | new
  · exact sound.resolves operation old
  · rw [List.mem_singleton.mp new]
    intro _ completion done
    cases done

theorem cancelled (sound : Sound native site sent c) (kind : Kind) :
    ∀ operation ∈ (c.cancel kind).operations, Resolved site operation := by
  intro operation member
  obtain ⟨before, old, rfl⟩ := List.mem_map.mp member
  unfold Outstanding.cancel
  split
  · intro _ completion done endpoint first
    cases done
    cases first
  · exact sound.resolves before old

end Sound

/-- The operations that neither look at a datagram nor take another endpoint for the server. -/
@[simp] def Proper (site : Site) : (β : Type) → Op β → Prop
  | _, .writeServerEndpoint value => value = site.address
  | _, .note event => event.isInspected = false
  | _, _ => True

theorem Sound.step (sound : Sound native site sent c) {β : Type} {operation : Op β}
    (proper : Proper site β operation) {answer : Answer} {value : β}
    (stepped : step policy thread operation answer c = some (value, after)) :
    Sound native site sent after := by
  have quiet {after : OpenDTP.Client} (server : after.serverEndpoint = c.serverEndpoint)
      (sender : after.senderEndpoint = c.senderEndpoint)
      (buffer : after.receiveBuffer = c.receiveBuffer)
      (resolves : ∀ operation ∈ after.operations, Resolved site operation)
      (log : after.log = c.log) : Sound native site sent after :=
    sound.moved server sender buffer resolves ⟨[], by simp [log], by simp⟩
  have noted {after : OpenDTP.Client} {event : Client.Event}
      (server : after.serverEndpoint = c.serverEndpoint)
      (sender : after.senderEndpoint = c.senderEndpoint)
      (buffer : after.receiveBuffer = c.receiveBuffer) (operations : after.operations = c.operations)
      (log : after.log = c.log ++ [event]) (other : event.isInspected = false) :
      Sound native site sent after :=
    sound.moved server sender buffer (by rw [operations]; exact sound.resolves)
      ⟨[event], log, by simpa using other⟩
  cases operation <;> simp only [Client.step] at stepped <;> (repeat' split at stepped) <;>
    cases stepped
  case writeServerEndpoint value =>
    exact ⟨sound.shaped, .inl proper, sound.size, sound.buffer, sound.resolves, sound.log⟩
  case note event => exact noted rfl rfl rfl rfl rfl proper
  all_goals first
    | exact sound
    | exact quiet rfl rfl rfl sound.resolves rfl
    | exact quiet rfl rfl rfl (sound.begun _) rfl
    | exact quiet rfl rfl rfl (sound.cancelled _) rfl
    | exact noted rfl rfl rfl rfl rfl rfl
    | (cases ‹Mutex› <;> exact quiet rfl rfl rfl sound.resolves rfl)

/-! ### What the client does -/

theorem public_proper {β : Type} (operation : Op β) (isPublic : Public β operation) :
    Proper site β operation := by
  cases operation <;> first | trivial | exact isPublic.elim | skip
  case note event =>
    have call : event.isCall = true := isPublic
    cases event <;> first | rfl | cases call

theorem processing_proper {β : Type} (operation : Op β) (processing : Processing β operation) :
    Proper site β operation := by
  cases operation <;> first | trivial | exact processing.elim | skip
  case note event => cases event <;> first | rfl | exact processing.elim

theorem failSession_proper (error : ClientError) (message : String) :
    (failSession native error message).Issues (Proper site) :=
  .bind (.perform trivial) fun _ => .bind ((report_public rfl).mono public_proper) fun _ =>
    .bind ((disconnect_public native).mono public_proper) fun _ => .perform trivial

theorem locked_proper {α : Type} (mutex : Mutex) {scope : Method α}
    (issues : scope.Issues (Proper site)) : (locked mutex scope).Issues (Proper site) :=
  .bind (.perform trivial) fun _ => .bind issues.attempt fun outcome =>
    .bind (.perform trivial) fun _ => .ofOutcome outcome

theorem startReceiveLoop_proper : startReceiveLoop.Issues (Proper site) := by
  simp [Issues, startReceiveLoop, wp_ite, issuing]

theorem sendKeepAlive_proper : (sendKeepAlive native).Issues (Proper site) :=
  ((sendKeepAlive_sending native).mono Sending.processing).mono processing_proper

theorem connectTimeoutHandler_proper (ec : ErrorCode) :
    (connectTimeoutHandler native ec).Issues (Proper site) := by
  unfold connectTimeoutHandler
  split
  · exact .pure _
  · refine locked_proper _ (.bind ?_ fun handshaking => ?_)
    · simp [Issues, handshaking, wp_ite, issuing]
    · split
      · exact failSession_proper _ _
      · exact .pure _

theorem keepAliveHandler_proper (ec : ErrorCode) :
    (keepAliveHandler native ec).Issues (Proper site) := by
  unfold keepAliveHandler
  split
  · exact .pure _
  · refine .bind (.perform trivial) fun state => ?_
    split
    · exact .pure _
    · exact .bind sendKeepAlive_proper fun _ => startKeepAliveTimer_processing.mono processing_proper

/-- The resolver handler takes the address of the server from what was resolved. -/
theorem resolveHandler_proper (ec : ErrorCode) (endpoints : List Endpoint)
    (resolved : ∀ endpoint ∈ endpoints.head?, endpoint = site.address) :
    (resolveHandler native ec endpoints).Issues (Proper site) := by
  refine locked_proper _ (.bind (.perform trivial) fun state => ?_)
  split
  · exact .pure _
  · split
    · exact failSession_proper _ _
    · next usable =>
      have address : endpoints.headD ⟨[], 0⟩ = site.address := by
        cases endpoints with
        | nil => simp at usable
        | cons first rest => exact resolved first rfl
      refine .bind (.perform address) fun _ => .bind (.perform trivial) fun openEc => ?_
      split
      · exact failSession_proper _ _
      · refine .bind (.perform trivial) fun bindEc => ?_
        split
        · exact failSession_proper _ _
        · exact .bind startReceiveLoop_proper fun _ => sendKeepAlive_proper

/-- What is looked at was sent by the server if it came from the endpoint taken for it. -/
theorem Sound.inspected (sound : Sound native site sent c) (count : Nat) :
    Sound native site sent { c with
      log := c.log ++ [.inspected c.senderEndpoint c.serverEndpoint (c.receiveBuffer.take count)] } where
  shaped := sound.shaped
  server := sound.server
  size := sound.size
  buffer := sound.buffer
  resolves := sound.resolves
  log event member := by
    rcases List.mem_append.mp member with old | new
    · exact sound.log event old
    · rw [List.mem_singleton.mp new]
      intro own header payload parsed
      have held := sound.buffer (by
        rw [own]
        exact sound.server)
      exact held.parsed sound.shaped sound.size parsed

theorem proper_sound {α : Type} {program : Method α} (issues : program.Issues (Proper site))
    (sound : Sound native site sent c) :
    program.wp (effect policy thread (keeping (Sound native site sent)))
      (fun _ after => Sound native site sent after) c :=
  keeps_of_issues (fun proper sound stepped => sound.step proper stepped) issues sound

theorem handleReceive_sound (sound : Sound native site sent c) (ec : ErrorCode) (count : Nat) :
    (handleReceive native ec count).wp (effect policy thread (keeping (Sound native site sent)))
      (fun _ after => Sound native site sent after) c := by
  rw [handleReceive, wp_bind, wp_perform, effect_loadState, andThen_ok, wp_ite]
  split
  · exact sound
  · rw [wp_ite]
    split
    · apply proper_sound _ sound
      split
      · exact .bind (.perform trivial) fun _ => .bind ((report_public rfl).mono public_proper) fun _ =>
          (disconnect_public native).mono public_proper
      · exact .pure _
    · rw [wp_ite]
      split
      · rw [wp_bind, wp_perform, effect_readSenderEndpoint, andThen_ok, wp_bind, wp_perform,
          effect_readServerEndpoint, andThen_ok, wp_bind, wp_perform, effect_readBuffer, andThen_ok,
          wp_bind, wp_perform, effect_note, andThen_ok]
        apply proper_sound _ (sound.inspected count)
        split
        · exact .bind ((processPacket_processing native _).mono processing_proper) fun _ =>
            startReceiveLoop_proper
        · exact startReceiveLoop_proper
      · exact proper_sound startReceiveLoop_proper sound

theorem handler_sound (sound : Sound native site sent c) (kind : Kind) {completion : Completion}
    (resolved : kind = .resolve → ∀ endpoint ∈ completion.endpoints.head?, endpoint = site.address) :
    (handler native kind completion).wp (effect policy thread (keeping (Sound native site sent)))
      (fun _ after => Sound native site sent after) c := by
  cases kind with
  | connectTimeout => exact proper_sound (connectTimeoutHandler_proper _) sound
  | resolve => exact proper_sound (resolveHandler_proper _ _ (resolved rfl)) sound
  | receive => exact handleReceive_sound sound _ _
  | keepAlive => exact proper_sound (keepAliveHandler_proper _) sound

end

section

variable {rules : Rules} {site : Site} {sent : List (Endpoint × Bytes)} {c after : OpenDTP.Client}
  {label : Label}

theorem sound_covers (rules : Rules) (site : Site) (sent : List (Endpoint × Bytes)) (thread : Thread) :
    Covers (semantics rules.policy thread) rules.nesting
      (during (keeping (Sound rules.native site sent))) :=
  @covers_of_public rules thread
    (fun before after => Sound rules.native site sent before → Sound rules.native site sent after)
    (fun _ sound => sound) (fun early late sound => late (early sound))
    fun _ _ _ _ _ isPublic stepped sound => sound.step (public_proper _ isPublic) stepped

theorem Sound.dequeued (sound : Sound rules.native site sent c) {before rest : List Outstanding}
    {operation : Outstanding} (found : c.operations = before ++ operation :: rest) :
    Sound rules.native site sent (Client.dequeued before rest c) := by
  refine sound.moved rfl rfl rfl (fun other member => sound.resolves other ?_)
    ⟨[], by simp [Client.dequeued], by simp⟩
  rw [found]
  rcases List.mem_append.mp member with early | late
  · exact List.mem_append_left _ early
  · exact List.mem_append_right _ (List.mem_cons_of_mem _ late)

theorem Sound.completed (sound : Sound rules.native site sent c) {before rest : List Outstanding}
    {operation : Outstanding} {completion : Completion}
    (found : c.operations = before ++ operation :: rest)
    (resolved : operation.kind = .resolve →
      ∀ endpoint ∈ completion.endpoints.head?, endpoint = site.address) :
    Sound rules.native site sent (Client.completed before operation rest completion c) := by
  refine sound.moved rfl rfl rfl (fun other member => ?_) ⟨[], by simp [Client.completed], by simp⟩
  rcases List.mem_append.mp member with early | late
  · exact sound.resolves other (by simp [found, early])
  · rcases List.mem_cons.mp late with rfl | late
    · intro resolves done same
      cases same
      exact resolved resolves
    · exact sound.resolves other (by simp [found, late])

/-- Every step of the client that the network allows. -/
theorem Sound.stepped (sound : Sound rules.native site sent c)
    (stepped : Client.Step rules c label after) (real : Real site sent label) :
    Sound rules.native site sent after := by
  have covers := sound_covers rules site sent
  have calls (thread : Thread) (made : PublicCall) :
      (publicCall rules.native made).wp
        (effect rules.policy thread (keeping (Sound rules.native site sent)))
        (fun _ after => Sound rules.native site sent after) c :=
    proper_sound ((publicCall_public rules.native made).mono public_proper) sound
  cases stepped with
  | call _ ran => exact (covers _).sound ran _ (calls _ _)
  | connectSync _ ran =>
    have kept := (covers _).sound ran _ (calls _ _)
    unfold entering
    split
    · exact kept.moved rfl rfl rfl kept.resolves ⟨[], by simp, by simp⟩
    · exact kept
  | awaits _ ran =>
    have issues : awaitConnection.Issues (Proper site) := by
      simp [Issues, awaitConnection, locked, settled, wp_ite, issuing]
    have kept := (covers _).sound ran _ (proper_sound issues sound)
    exact kept.moved rfl rfl rfl kept.resolves ⟨[], by simp [awaited], by simp⟩
  | handles found queued _ _ ran =>
    have resolved := sound.resolves _ (by
      rw [found]
      exact List.mem_append_right _ (List.mem_cons_self ..))
    have kept := (covers _).sound ran _
      (handler_sound (sound.dequeued found) _ fun resolves => resolved resolves _ queued)
    exact kept.moved rfl rfl rfl kept.resolves ⟨[], by simp [resting], by simp⟩
  | completes found _ _ _ => exact sound.completed found real
  | @arrives before rest operation sender data found pending receives fits =>
    obtain ⟨known, own⟩ := real
    have done := @Sound.completed rules site sent c sound before rest operation
      { bytesTransferred := data.length } found fun _ endpoint first => by cases first
    refine ⟨done.shaped, done.server, ?_, fun same => ?_, done.resolves, done.log⟩
    · have size := done.size
      simp only [filled, List.length_append, List.length_drop, size]
      omega
    · rcases same with same | same
      · obtain ⟨packet, member, rfl⟩ := own same
        exact .inr ⟨packet, member, List.prefix_append _ _⟩
      · exact absurd same known
  | leaves => exact sound.moved rfl rfl rfl sound.resolves ⟨[], by simp, by simp⟩

end

/-! ### What the server has heard -/

/-- A datagram of the client proved that it knows a password with the expected digest. -/
def Vouched (setup : Setup) (site : Site) (log : List Client.Event) : Prop :=
  ∃ packet, .sent packet site.address ∈ log ∧ Proves setup (packet.take 1024)

structure Secure (rules : Rules) (setup : Setup) (site : Site) (w : World) : Prop where
  sound : Sound rules.native site w.server.sent w.client
  answers : ∀ packet, (site.home, packet) ∈ w.server.sent →
    packet = challenged setup ∨ packet = welcome setup ∧ Vouched setup site w.client.log

section

variable {rules : Rules} {setup : Setup} {site : Site} {w : World}

theorem Vouched.mono {log more : List Client.Event} (vouched : Vouched setup site log)
    (grows : log <+: more) : Vouched setup site more := by
  obtain ⟨packet, member, proves⟩ := vouched
  exact ⟨packet, grows.subset member, proves⟩

theorem step_log_grows {c after : OpenDTP.Client} {label : Label}
    (stepped : Client.Step rules c label after) : c.log <+: after.log := by
  have covers := growing_covers rules
  have ran {α : Type} {thread : Thread} {program : Method α} {before final : OpenDTP.Client}
      {outcome : Outcome α} (ran : rules.Runs thread program before outcome final) :
      before.log <+: final.log :=
    (covers thread).sound ran _ (program_grows program before)
  cases stepped with
  | call _ called => exact ran called
  | connectSync _ called =>
    have grows := ran called
    unfold entering
    split <;> exact grows
  | awaits _ waited =>
    have grows := ran waited
    exact grows
  | handles _ _ _ _ handled =>
    have grows := ran handled
    exact grows
  | completes => exact List.prefix_rfl
  | arrives => exact List.prefix_rfl
  | leaves => exact List.prefix_rfl

/-- Both kinds of answers are datagrams of the wire format. -/
theorem answer_shaped {packet : Bytes} (answers : packet = challenged setup ∨ packet = welcome setup)
    (native : Endian) : ∃ type payload, packet = packetOf native type 0 0 payload := by
  rcases answers with rfl | rfl
  · exact ⟨_, _, packetOf_portable setup.native native⟩
  · exact ⟨_, _, packetOf_portable setup.native native⟩

/-- The server hears a datagram from anywhere. -/
theorem Secure.heard (secure : Secure rules setup site w) {sender : Endpoint} {data : Bytes}
    {after : MockServer} (received : receive setup sender data w.server = some after)
    (vouches : sender = site.home → Proves setup data → Vouched setup site w.client.log) :
    Secure rules setup site ⟨w.client, after⟩ := by
  obtain ⟨answers, extended, sends⟩ := receive_sends received
  have answered : ∀ packet, (site.home, packet) ∈ after.sent →
      packet = challenged setup ∨ packet = welcome setup ∧ Vouched setup site w.client.log := by
    intro packet member
    rw [extended] at member
    rcases List.mem_append.mp member with old | new
    · exact secure.answers packet old
    · cases sends with
      | nothing => cases new
      | challenge =>
        cases List.mem_singleton.mp new
        exact .inl rfl
      | welcome proves =>
        cases List.mem_singleton.mp new
        exact .inr ⟨rfl, vouches rfl proves⟩
  refine ⟨secure.sound.mono ?_ fun packet member => ?_, answered⟩
  · rw [extended]
    exact List.subset_append_left _ _
  · exact answer_shaped ((answered packet member).imp_right And.left) _

theorem Secure.stepped (secure : Secure rules setup site w) {act : Act} {after : World}
    (stepped : Step rules setup site w act after) : Secure rules setup site after := by
  cases stepped with
  | client stepped real =>
    refine ⟨secure.sound.stepped stepped real, fun packet member => ?_⟩
    exact (secure.answers packet member).imp_right fun ⟨same, vouched⟩ =>
      ⟨same, vouched.mono (step_log_grows stepped)⟩
  | hears sent received => exact secure.heard received fun _ proves => ⟨_, sent, proves⟩
  | strange stranger fits received =>
    exact secure.heard received fun same => absurd same stranger

theorem secure_opening (dmrId : UInt32) (description : Bytes) (hooks : Hook → Bool) :
    Secure rules setup site (opening dmrId description hooks) where
  sound := by
    refine ⟨?_, .inr rfl, List.length_replicate, fun _ => .inl rfl, ?_, ?_⟩
    · intro packet member
      cases member
    · intro operation member
      cases member
    · intro event member
      cases member
  answers packet member := by cases member

/-- The client of a reachable world is one that the client alone can reach. -/
theorem client_reachable {dmrId : UInt32} {description : Bytes} {hooks : Hook → Bool}
    (reached : Reachable (Step rules setup site) (opening dmrId description hooks) w) :
    rules.Reachable w.client := by
  refine ⟨dmrId, description, hooks, ?_⟩
  refine reached.invariant
    (fun w => Reachable (Client.Step rules) (fresh dmrId description hooks) w.client) .refl ?_
  intro before act after sofar stepped
  cases stepped with
  | client stepped _ => exact sofar.snoc stepped
  | hears => exact sofar
  | strange => exact sofar

/-- What the server reads as an answer to a challenge was passed to `TransmitRaw` as one. -/
theorem Vouched.passed {c : OpenDTP.Client} (stamped : Stamped rules.native c)
    (owed : Always (Owed rules.native) c.log) (vouched : Vouched setup site c.log) :
    ∃ before, before <+: c.log ∧
      Due rules.native before (Sha256.sha256 (setup.salt ++ setup.expectedPassword)) := by
  obtain ⟨packet, member, header, answer, proves, authenticates, expected⟩ := vouched
  obtain ⟨earlier, later, split⟩ := List.append_of_mem member
  obtain ⟨before, type, flag, payload, number, rfl, rfl⟩ := stamped _ _ _ split
  rw [packetOf_portable rules.native setup.native] at proves
  have decoded : deserializeHeader setup.native
      ((packetOf setup.native type flag number payload).take 1024) =
        some ⟨type, flag, number, UInt16.ofNat payload.length⟩ := by
    rw [packetOf, List.take_append, length_serializeHeader,
      List.take_of_length_le (by rw [length_serializeHeader]; decide)]
    exact deserializeHeader_serializeHeader _ _ _
  rw [List.append_assoc] at split
  have type_eq : type = .authentication := by
    rw [wellFormed, decoded] at proves
    dsimp only at proves
    split at proves
    · cases proves
    · rw [← (Prod.mk.inj (Option.some.inj proves)).1] at authenticates
      exact authenticates
  have due : Due rules.native before payload := owed before _ _ split type_eq
  refine ⟨before, ⟨_, split.symm⟩, ?_⟩
  obtain ⟨_, password, _, _, _, salt, _, _, _, _, same⟩ := id due
  have digest : payload.length = 32 := by
    rw [same]
    exact Sha256.length_sha256 _
  have whole : (packetOf setup.native type flag number payload).take 1024 =
      packetOf setup.native type flag number payload := by
    rw [List.take_of_length_le]
    rw [length_packetOf, digest]
    decide
  rw [whole, wellFormed_whole (by omega)] at proves
  rw [← expected, ← (Prod.mk.inj (Option.some.inj proves)).2]
  exact due

/-- The salt of any challenge that the client looked at is that of the server. -/
theorem Secure.salt (secure : Secure rules setup site w) (fits : setup.salt.length < 65536)
    {salt : Bytes} {event : Client.Event} (member : event ∈ w.client.log)
    (asks : Asks rules.native salt event) : salt = setup.salt := by
  cases event <;> try exact asks.elim
  case inspected sender server packet =>
    obtain ⟨own, header, parsed, challenges⟩ := asks
    obtain ⟨datagram, sent, reads⟩ := secure.sound.log _ member own header salt parsed
    rcases secure.answers datagram sent with rfl | ⟨rfl, _⟩
    · rw [challenged, packetOf_portable setup.native rules.native, wellFormed_whole fits] at reads
      exact (Prod.mk.inj (Option.some.inj reads)).2.symm
    · rw [welcome, packetOf_portable setup.native rules.native, wellFormed_whole (by decide)] at reads
      rw [← (Prod.mk.inj (Option.some.inj reads)).1] at challenges
      cases challenges

/-- What the client takes for its acknowledgement the server sent after a proof. -/
theorem Secure.acknowledged (secure : Secure rules setup site w) {event : Client.Event}
    (member : event ∈ w.client.log) (acknowledges : Acknowledges rules.native event) :
    Vouched setup site w.client.log := by
  cases event <;> try exact acknowledges.elim
  case inspected sender server packet =>
    obtain ⟨own, header, payload, parsed, keepsAlive, _⟩ := acknowledges
    obtain ⟨datagram, sent, reads⟩ := secure.sound.log _ member own header payload parsed
    rcases secure.answers datagram sent with rfl | ⟨_, vouched⟩
    · rw [challenged, packetOf_portable setup.native rules.native, wellFormed_packetOf] at reads
      rw [← (Prod.mk.inj (Option.some.inj reads)).1] at keepsAlive
      cases keepsAlive
    · exact vouched

theorem secure_reachable {dmrId : UInt32} {description : Bytes} {hooks : Hook → Bool}
    (reached : Reachable (Step rules setup site) (opening dmrId description hooks) w) :
    Secure rules setup site w :=
  reached.invariant (Secure rules setup site) (secure_opening dmrId description hooks)
    fun _ _ _ secure stepped => secure.stepped stepped

/-- A client that is CONNECTED answered a challenge of the server so that the server consented. -/
theorem Secure.connected (secure : Secure rules setup site w) (honest : Honest rules.native w.client)
    (stamped : Stamped rules.native w.client) (fits : setup.salt.length < 65536)
    (connected : w.client.state = .connected) :
    ∃ password, .accepted password ∈ w.client.log ∧
      Sha256.sha256 (setup.salt ++ password) =
        Sha256.sha256 (setup.salt ++ setup.expectedPassword) := by
  obtain ⟨since, hence, stage⟩ := honest.faithful (by simp [connected])
  rw [connected] at stage
  obtain ⟨_, first, challenge, second, third, acknowledgement, fourth, split, _, _, acknowledges⟩ :=
    stage
  obtain ⟨earlier, log⟩ := hence.log
  have vouched := secure.acknowledged (by simp [log, split]) acknowledges
  obtain ⟨before, front, due⟩ := vouched.passed stamped honest.owed
  obtain ⟨start, password, between, asked, behind, salt, rfl, _, _, asks, same⟩ := due
  have known := secure.salt fits (front.subset (by simp)) asks
  rw [known] at same
  exact ⟨password, front.subset (by simp), same.symm⟩

theorem honest_reachable {rules : Rules} {c : OpenDTP.Client} (reached : rules.Reachable c) :
    Honest rules.native c :=
  (honest_chronicled rules.native).preserved.reachable (fun _ _ _ => ⟨.of_disconnected rfl, .nil⟩)
    reached

theorem stamped_reachable {rules : Rules} {c : OpenDTP.Client} (reached : rules.Reachable c) :
    Stamped rules.native c :=
  (stamped_preserved rules).reachable (fun _ _ _ => .nil) reached

end

end OpenDTP.Network
