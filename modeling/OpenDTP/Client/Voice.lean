import OpenDTP.Client.Delivery
import OpenDTP.Client.Sockets

/-! Voice calls from end to end. A caller is outside of a call or has sent a number of frames in
one, and that position determines what the peer hears of every call that is made. The members
`inCall_` and `realTimeSeq_` of the sender refine the position. -/

namespace OpenDTP.Client
open Common Protocol Effects Effects.Program

/-! ### What is to be heard -/

/-- The low 24 bits of an id, all that a link control block carries. -/
def low24 (id : UInt32) : UInt32 := UInt32.ofNat (id.toNat % 2 ^ 24)

/-- Outside of a call, or the number of frames sent in it. -/
abbrev Position := Option Nat

def voiceHeard : Position → PublicCall → List Callback
  | _, .startVoiceCall sourceId destinationId isGroup =>
      List.replicate 3 (.onVoiceHeader (low24 sourceId) (low24 destinationId) isGroup)
  | some frames, .sendAudioFrame ambeData =>
      [.onAudioFrame ⟨UInt32.ofNat (2 + (frames + 1)), ambeData⟩]
  | some _, .endVoiceCall => [.onVoiceTerminator]
  | _, _ => []

def Position.next : Position → PublicCall → Position
  | _, .startVoiceCall _ _ _ => some 0
  | some frames, .sendAudioFrame _ => some (frames + 1)
  | some _, .endVoiceCall => none
  | position, _ => position

def conversation : Position → List PublicCall → List Callback
  | _, [] => []
  | position, made :: calls => voiceHeard position made ++ conversation (position.next made) calls

/-- The hooks for voice traffic. -/
def Hook.isVoice : Hook → Bool
  | .onVoiceHeader | .onAudioFrame | .onVoiceTerminator => true
  | _ => false

def voices (callbacks : List Callback) : List Callback := callbacks.filter (·.hook.isVoice)

/-! ### Link control -/

theorem bytes24 (id : UInt32) :
    ((id >>> 16).toUInt8.toUInt32 <<< 16) ||| ((id >>> 8).toUInt8.toUInt32 <<< 8) |||
      id.toUInt8.toUInt32 = (id <<< 8) >>> 8 := by
  apply UInt32.eq_of_toBitVec_eq
  simp only [UInt32.toBitVec_or, UInt32.toBitVec_shiftLeft, UInt8.toBitVec_toUInt32,
    UInt32.toBitVec_toUInt8, UInt32.toBitVec_shiftRight]
  ext i bound
  simp
  grind

theorem low24_eq (id : UInt32) : (id <<< 8) >>> 8 = low24 id := by
  apply UInt32.toNat_inj.mp
  rw [UInt32.toNat_shiftRight, UInt32.toNat_shiftLeft, low24, toNat_ofNat (by omega)]
  change (id.toNat <<< 8 % 2 ^ 32) >>> 8 = _
  rw [Nat.shiftLeft_eq, Nat.shiftRight_eq_div_pow]
  omega

theorem toUInt8_masked (value : UInt32) : (value &&& 0xFF).toUInt8 = value.toUInt8 := by
  apply UInt8.toNat_inj.mp
  have bits : value.toNat &&& (2 ^ 8 - 1) = value.toNat % 2 ^ 8 := Nat.and_two_pow_sub_one_eq_mod _ _
  rw [UInt32.toNat_toUInt8, UInt32.toNat_toUInt8, UInt32.toNat_and]
  change (value.toNat &&& (2 ^ 8 - 1)) % 2 ^ 8 = _
  rw [bits, Nat.mod_mod]

/-- A link control block is decoded to the low bits of the ids it was made from. -/
theorem voiceHeaderOf_linkControl (sourceId destinationId : UInt32) (isGroup : Bool) :
    voiceHeaderOf (linkControl sourceId destinationId isGroup) =
      .onVoiceHeader (low24 sourceId) (low24 destinationId) isGroup := by
  have source := (bytes24 sourceId).trans (low24_eq sourceId)
  have destination := (bytes24 destinationId).trans (low24_eq destinationId)
  unfold voiceHeaderOf linkControl
  simp only [List.getD_cons_zero, List.getD_cons_succ, toUInt8_masked]
  rw [source, destination]
  cases isGroup <;> rfl

theorem low24_exact (id : UInt32) : low24 id = id ↔ id.toNat < 2 ^ 24 := by
  rw [← UInt32.toNat_inj, low24, toNat_ofNat (by omega)]
  exact Nat.mod_eq_iff_lt (by decide)

theorem voiceHeard_start (position : Position) (sourceId destinationId : UInt32) (isGroup : Bool) :
    voiceHeard position (.startVoiceCall sourceId destinationId isGroup) =
        List.replicate 3 (.onVoiceHeader sourceId destinationId isGroup) ↔
      low24 sourceId = sourceId ∧ low24 destinationId = destinationId := by
  change List.replicate 3 (Callback.onVoiceHeader (low24 sourceId) (low24 destinationId) isGroup) = _
    ↔ _
  rw [List.replicate_right_inj (by decide), Callback.onVoiceHeader.injEq]
  exact and_congr_right fun _ => and_iff_left rfl

/-! ### What a datagram says -/

section

variable {native : Endian} {type : MessageType} {flag : UInt16} {number : UInt32} {payload : Bytes}

/-- The voice traffic a datagram delivers where all hooks are assigned. -/
def voiced (native : Endian) (packet : Bytes) : List Callback :=
  voices (heard native (fun _ => true) packet)

theorem voiced_packetOf : voiced native (packetOf native type flag number payload) =
    voices (deliver native type number
      (payload.take (UInt16.ofNat payload.length).toNat)).toList := by
  unfold voiced heard
  rw [wellFormed_packetOf]
  simp only [List.filter_true]

theorem voiced_whole (fits : payload.length < 0x10000) :
    voiced native (packetOf native type flag number payload) =
      voices (deliver native type number payload).toList := by
  rw [voiced_packetOf, toNat_unit fits, List.take_length]

theorem voiced_linkControl (sourceId destinationId : UInt32) (isGroup : Bool) :
    voiced native (packetOf native .voiceHeader flag number
      (linkControl sourceId destinationId isGroup)) =
        [.onVoiceHeader (low24 sourceId) (low24 destinationId) isGroup] := by
  have delivers : deliver native .voiceHeader number (linkControl sourceId destinationId isGroup) =
      some (voiceHeaderOf (linkControl sourceId destinationId isGroup)) := rfl
  rw [voiced_whole (by change 12 < 0x10000; decide), delivers, voiceHeaderOf_linkControl]
  rfl

theorem voiced_audioFrame (fits : payload.length < 0x10000) :
    voiced native (packetOf native .dmrAudioFrame flag number payload) =
      [.onAudioFrame ⟨number, payload⟩] := by
  rw [voiced_whole fits]
  rfl

theorem voiced_terminator :
    voiced native (packetOf native .voiceTerminator flag number []) = [.onVoiceTerminator] := by
  rw [voiced_whole (by decide)]
  rfl

/-- The types of the routine messages that calls send. -/
def RoutineType (type : MessageType) : Prop :=
  type = .subscription ∨ type = .cancelling ∨ type = .messageText ∨ type = .locationReport

theorem voiced_routine (routine : RoutineType type) :
    voiced native (packetOf native type flag number payload) = [] := by
  rw [voiced_packetOf]
  rcases routine with rfl | rfl | rfl | rfl
  · rfl
  · rfl
  · change voices ((deserializeTextMessage native _).map _).toList = []
    cases deserializeTextMessage native _ <;> rfl
  · change voices ((deserializeLocationReport native _).map _).toList = []
    cases deserializeLocationReport native _ <;> rfl

end

/-! ### The sender -/

/-- The members of the sender that refine its position. -/
def Talks : Position → Client → Prop
  | none, c => c.inCall = false
  | some frames, c => c.inCall = true ∧ c.realTimeSeq = UInt32.ofNat (3 + frames)

/-- Every client is somewhere, in a call or not. -/
theorem exists_talks (c : Client) : ∃ position, Talks position c := by
  cases inCall : c.inCall with
  | false => exact ⟨none, inCall⟩
  | true =>
    refine ⟨some (c.realTimeSeq.toNat + (2 ^ 32 - 3)), inCall, ?_⟩
    apply UInt32.toNat_inj.mp
    have bound := c.realTimeSeq.toNat_lt
    rw [UInt32.toNat_ofNat']
    omega

/-- A connected client that has sent these datagrams since. -/
structure Sent (packets : List Bytes) (c after : Client) : Prop where
  connected : after.state = .connected
  isOpen : after.socketOpen = true
  log : ∃ events, after.log = c.log ++ events ∧ datagrams events = packets

section

variable {native : Endian} {policy : Policy} {thread : Thread} {c : Client}

theorem transmitted_log (isOpen : c.socketOpen = true) (type : MessageType) (flag : UInt16)
    (payload : Bytes) (ec : ErrorCode) :
    ∃ events, (transmitted native type flag payload ec c).log = c.log ++ events ∧
      datagrams events = [packetOf native type flag (nextSeq flag c) payload] := by
  refine ⟨.passed type flag payload :: sending native type flag payload ec c, ?_,
    datagrams_sending type flag payload ec c⟩
  simp only [transmitted, isOpen, if_true]

theorem transmitRaw_wp (type : MessageType) (flag : UInt16) (payload : Bytes)
    {post : Outcome Unit → Client → Prop} (threw : ∀ what after, post (.error what) after)
    (done : ∀ ec, post (.ok ()) (transmitted native type flag payload ec c)) :
    (transmitRaw native type flag payload).wp (effect policy thread quiet) post c := by
  apply (transmitRaw_within quiet_settled type flag payload c).wp (effect_monotone _ _ _)
  intro outcome after transmits
  cases transmits with
  | done ec => exact done ec
  | threw => exact threw _ _

theorem Sent.passed (native : Endian) {packets : List Bytes} {d : Client} (sent : Sent packets c d)
    (type : MessageType) (flag : UInt16) (payload : Bytes) (ec : ErrorCode) :
    Sent (packets ++ [packetOf native type flag (nextSeq flag d) payload]) c
      (transmitted native type flag payload ec d) := by
  obtain ⟨events, extended, earlier⟩ := sent.log
  obtain ⟨more, extendedMore, later⟩ := @transmitted_log native d sent.isOpen type flag payload ec
  refine ⟨sent.connected, sent.isOpen, events ++ more, ?_, ?_⟩
  · rw [extendedMore, extended, List.append_assoc]
  · rw [datagrams_append, earlier, later]

theorem Sent.noted {packets : List Bytes} {d : Client} (sent : Sent packets c d) {event : Event}
    (silent : datagrams [event] = []) : Sent packets c { d with log := d.log ++ [event] } := by
  obtain ⟨events, extended, earlier⟩ := sent.log
  refine ⟨sent.connected, sent.isOpen, events ++ [event], ?_, ?_⟩
  · change d.log ++ [event] = _
    rw [extended, List.append_assoc]
  · rw [datagrams_append, earlier, silent, List.append_nil]

theorem Talks.same {position : Position} {d after : Client} (talks : Talks position d)
    (inCall : after.inCall = d.inCall) (realTimeSeq : after.realTimeSeq = d.realTimeSeq) :
    Talks position after := by
  cases position with
  | none => exact inCall.trans talks
  | some frames => exact ⟨inCall.trans talks.1, realTimeSeq.trans talks.2⟩

/-- A routine message leaves the position alone. -/
theorem Talks.routine (native : Endian) {position : Position} {d : Client} (talks : Talks position d)
    (type : MessageType) (payload : Bytes) (ec : ErrorCode) :
    Talks position (transmitted native type MessageFlag.none payload ec d) :=
  talks.same rfl (if_neg (by simp [isRealTime, MessageFlag.none]))

theorem transmitted_realTime (native : Endian) {d : Client} (isOpen : d.socketOpen = true)
    (type : MessageType) (payload : Bytes) (ec : ErrorCode) :
    (transmitted native type MessageFlag.realTime1 payload ec d).realTimeSeq = d.realTimeSeq + 1 :=
  if_pos ⟨isOpen, rfl⟩

/-- What a call has said when it returns, and where it leaves the sender. -/
def Speaks (native : Endian) (position : Position) (call : PublicCall) (c : Client) {α : Type}
    (outcome : Outcome α) (after : Client) : Prop :=
  ∀ value, outcome = .ok value → Talks (position.next call) after ∧
    ∃ packets, Sent packets c after ∧ packets.flatMap (voiced native) = voiceHeard position call

theorem Speaks.threw {position : Position} {call : PublicCall} {α : Type} (what : String)
    (after : Client) : Speaks native position call c (.error what : Outcome α) after := by
  intro value same
  cases same

theorem Sent.speaks {position : Position} {call : PublicCall} {packets : List Bytes} {d : Client}
    (sent : Sent packets c d) (talks : Talks (position.next call) d)
    (said : packets.flatMap (voiced native) = voiceHeard position call) {α : Type} (value : α) :
    Speaks native position call c (.ok value) d := fun _ _ => ⟨talks, packets, sent, said⟩

/-- Around its body a call does nothing but record its start and its return. -/
theorem publicCall_wp {position : Position} {call : PublicCall} {body : Method Unit}
    (runs : method native call = body >>= fun _ => pure none)
    (speaks : body.wp (effect policy thread quiet) (Speaks native position call c)
      { c with log := c.log ++ [.called call] }) :
    (publicCall native call).wp (effect policy thread quiet) (Speaks native position call c) c := by
  rw [publicCall, runs, wp_bind, wp_perform, effect_note, andThen_ok, wp_bind, wp_bind]
  apply wp_mono (effect_monotone _ _ _) _ _ _ speaks
  intro outcome after speaks
  cases outcome with
  | error what => exact .threw what after
  | ok value =>
    obtain ⟨talks, packets, sent, said⟩ := speaks value rfl
    have returned : datagrams [.returned call none] = [] := rfl
    rw [andThen_ok, wp_pure, andThen_ok, wp_bind, wp_perform, effect_note, andThen_ok, wp_pure]
    exact (sent.noted returned).speaks (talks.same rfl rfl) said none

theorem connected_wp (connected : c.state = .connected) (body : Method Unit)
    (post : Outcome Unit → Client → Prop) :
    (whenConnected body).wp (effect policy thread quiet) post c =
      body.wp (effect policy thread quiet) post c := by
  rw [whenConnected, wp_bind, wp_perform, effect_loadState, andThen_ok, wp_ite,
    if_neg (not_not.mpr connected)]

theorem inCall_wp (connected : c.state = .connected) (body : Method Unit)
    (post : Outcome Unit → Client → Prop) :
    (whenInCall body).wp (effect policy thread quiet) post c =
      if c.inCall = true then body.wp (effect policy thread quiet) post c else post (.ok ()) c := by
  rw [whenInCall, connected_wp connected, wp_bind, wp_perform, effect_loadInCall, andThen_ok,
    wp_ite, wp_pure]
  cases c.inCall <;> rfl

/-- A call that sends one routine message. -/
theorem routine_speaks {position : Position} {call : PublicCall} {type : MessageType}
    (routine : RoutineType type) (payload : Bytes) {d : Client} (begun : Sent [] c d)
    (talks : Talks position d) (stays : position.next call = position)
    (hush : voiceHeard position call = []) :
    (transmitRaw native type MessageFlag.none payload).wp (effect policy thread quiet)
      (Speaks native position call c) d := by
  apply transmitRaw_wp
  · exact Speaks.threw
  · intro ec
    apply (begun.passed native type MessageFlag.none payload ec).speaks
    · rw [stays]
      exact talks.routine native type payload ec
    · rw [hush, List.nil_append, List.flatMap_cons, voiced_routine routine]
      rfl

theorem startVoiceCall_speaks {position : Position} {d : Client} (begun : Sent [] c d)
    (sourceId destinationId : UInt32) (isGroup : Bool) :
    (startVoiceCall native sourceId destinationId isGroup).wp (effect policy thread quiet)
      (Speaks native position (.startVoiceCall sourceId destinationId isGroup) c) d := by
  rw [startVoiceCall, connected_wp begun.connected, wp_bind, wp_perform, effect_storeInCall,
    andThen_ok, wp_bind, wp_perform, effect_resetRealTimeSeq, andThen_ok, wp_bind]
  have reset : Sent [] c { d with inCall := true, realTimeSeq := 0 } :=
    ⟨begun.connected, begun.isOpen, begun.log⟩
  apply transmitRaw_wp
  · exact Speaks.threw
  · intro ec₁
    rw [andThen_ok, wp_bind]
    have first := reset.passed native .voiceHeader MessageFlag.realTime1
      (linkControl sourceId destinationId isGroup) ec₁
    apply transmitRaw_wp
    · exact Speaks.threw
    · intro ec₂
      rw [andThen_ok]
      have second := first.passed native .voiceHeader MessageFlag.realTime1
        (linkControl sourceId destinationId isGroup) ec₂
      apply transmitRaw_wp
      · exact Speaks.threw
      · intro ec₃
        have third := second.passed native .voiceHeader MessageFlag.realTime1
          (linkControl sourceId destinationId isGroup) ec₃
        apply third.speaks
        · refine ⟨rfl, ?_⟩
          rw [transmitted_realTime native second.isOpen, transmitted_realTime native first.isOpen,
            transmitted_realTime native reset.isOpen]
          rfl
        · simp only [List.nil_append, List.cons_append, List.flatMap_cons, List.flatMap_nil,
            voiced_linkControl]
          rfl

theorem sendAudioFrame_speaks {position : Position} {d : Client} (begun : Sent [] c d)
    (talks : Talks position d) {ambeData : Bytes} (short : ambeData.length ≤ 1006) :
    (sendAudioFrame native ambeData).wp (effect policy thread quiet)
      (Speaks native position (.sendAudioFrame ambeData) c) d := by
  rw [sendAudioFrame, inCall_wp begun.connected]
  cases position with
  | none =>
    have outside : d.inCall = false := talks
    rw [if_neg (by simp [outside])]
    apply begun.speaks
    · exact talks
    · rfl
  | some frames =>
    obtain ⟨inCall, counter⟩ := talks
    rw [if_pos inCall]
    apply transmitRaw_wp
    · exact Speaks.threw
    · intro ec
      apply (begun.passed native .dmrAudioFrame MessageFlag.realTime1 ambeData ec).speaks
      · refine ⟨inCall, ?_⟩
        rw [transmitted_realTime native begun.isOpen, counter]
        exact (UInt32.ofNat_add (3 + frames) 1).symm
      · have number : nextSeq MessageFlag.realTime1 d = UInt32.ofNat (2 + (frames + 1)) := by
          change d.realTimeSeq = _
          rw [counter]
          congr 1
          omega
        rw [List.nil_append, List.flatMap_cons, voiced_audioFrame (by omega), number]
        rfl

theorem endVoiceCall_speaks {position : Position} {d : Client} (begun : Sent [] c d)
    (talks : Talks position d) :
    (endVoiceCall native).wp (effect policy thread quiet)
      (Speaks native position .endVoiceCall c) d := by
  rw [endVoiceCall, inCall_wp begun.connected]
  cases position with
  | none =>
    have outside : d.inCall = false := talks
    rw [if_neg (by simp [outside])]
    apply begun.speaks
    · exact talks
    · rfl
  | some frames =>
    rw [if_pos talks.1, wp_bind]
    apply transmitRaw_wp
    · exact Speaks.threw
    · intro ec
      rw [andThen_ok, wp_perform, effect_storeInCall]
      have passed := begun.passed native .voiceTerminator MessageFlag.realTime1 [] ec
      have ended : Sent _ c { transmitted native .voiceTerminator MessageFlag.realTime1 [] ec d with
          inCall := false } := ⟨passed.connected, passed.isOpen, passed.log⟩
      apply ended.speaks
      · exact rfl
      · rw [List.nil_append, List.flatMap_cons, voiced_terminator]
        rfl

theorem publicCall_speaks {position : Position} (call : PublicCall) (sends : call.sends = true)
    (connected : c.state = .connected) (isOpen : c.socketOpen = true) (talks : Talks position c)
    (short : ∀ ambeData, call = .sendAudioFrame ambeData → ambeData.length ≤ 1006) :
    (publicCall native call).wp (effect policy thread quiet) (Speaks native position call c) c := by
  have begun : Sent [] c { c with log := c.log ++ [.called call] } :=
    ⟨connected, isOpen, [.called call], rfl, rfl⟩
  have talking : Talks position { c with log := c.log ++ [.called call] } := talks.same rfl rfl
  cases call with
  | connect => cases sends
  | disconnect => cases sends
  | subscribe talkgroup =>
    apply publicCall_wp rfl
    rw [subscribe, connected_wp begun.connected]
    apply routine_speaks (.inl rfl) _ begun talking <;> cases position <;> rfl
  | unsubscribe talkgroup =>
    apply publicCall_wp rfl
    rw [unsubscribe, connected_wp begun.connected]
    apply routine_speaks (.inr (.inl rfl)) _ begun talking <;> cases position <;> rfl
  | startVoiceCall sourceId destinationId isGroup =>
    exact publicCall_wp rfl (startVoiceCall_speaks begun _ _ _)
  | sendAudioFrame ambeData =>
    exact publicCall_wp rfl (sendAudioFrame_speaks begun talking (short _ rfl))
  | endVoiceCall => exact publicCall_wp rfl (endVoiceCall_speaks begun talking)
  | sendTextMessage destinationId isGroup text =>
    apply publicCall_wp rfl
    rw [sendTextMessage, connected_wp begun.connected, wp_bind, wp_perform, effect_readIdentity,
      andThen_ok]
    apply routine_speaks (.inr (.inr (.inl rfl))) _ begun talking <;> cases position <;> rfl
  | sendLocationReport nmea =>
    apply publicCall_wp rfl
    rw [sendLocationReport, connected_wp begun.connected]
    apply routine_speaks (.inr (.inr (.inr rfl))) _ begun talking <;> cases position <;> rfl

end

/-! ### The peer -/

/-- Calls that are made one after the other by threads of the application, and all return. -/
inductive Executes (rules : Rules) : Client → List PublicCall → Client → Prop where
  | nil (c : Client) : Executes rules c [] c
  | cons {c middle after : Client} {id : Nat} {call : PublicCall} {calls : List PublicCall}
      {result : Option ClientError}
      (ran : rules.Runs (.app id) (publicCall rules.native call) c (.ok result) middle)
      (rest : Executes rules middle calls after) : Executes rules c (call :: calls) after

/-- Datagrams that `ProcessPacket` is given one after the other. -/
inductive Feeds (rules : Rules) : Client → List Bytes → Client → Prop where
  | nil (c : Client) : Feeds rules c [] c
  | cons {c middle after : Client} {packet : Bytes} {packets : List Bytes} {outcome : Outcome Unit}
      (ran : rules.Runs .io (processPacket rules.native packet) c outcome middle)
      (rest : Feeds rules middle packets after) : Feeds rules c (packet :: packets) after

theorem heard_portable (first second : Endian) (hooks : Hook → Bool) (packet : Bytes) :
    heard first hooks packet = heard second hooks packet := by
  have same : deliver first = deliver second := by
    funext type number payload
    unfold deliver
    rw [deserializeTextMessage_portable first, deserializeTextMessage_portable second,
      deserializeTextMessageStatus_portable first, deserializeTextMessageStatus_portable second,
      deserializeLocationRequest_portable first, deserializeLocationRequest_portable second,
      deserializeLocationReport_portable first, deserializeLocationReport_portable second]
  unfold heard wellFormed
  rw [same, deserializeHeader_portable first, deserializeHeader_portable second]

/-- Where the voice hooks are assigned all voice traffic is heard. -/
theorem voices_heard {native : Endian} {hooks : Hook → Bool}
    (assigned : ∀ hook, hook.isVoice = true → hooks hook = true) (packet : Bytes) :
    voices (heard native hooks packet) = voiced native packet := by
  unfold voiced heard voices
  split
  · rfl
  · rw [List.filter_filter, List.filter_filter]
    apply List.filter_congr
    intro callback _
    by_cases voice : callback.hook.isVoice = true
    · rw [assigned _ voice]
    · simp [voice]

theorem Feeds.delivers {rules : Rules} {peer after : Client} {packets : List Bytes}
    (feeds : Feeds rules peer packets after) :
    Delivers (packets.flatMap (heard rules.native peer.hooks)) peer after := by
  induction feeds with
  | nil c => exact .of_same rfl rfl
  | cons ran rest ih =>
    have first := (tacitly_covers rules .io).sound ran _ (processPacket_delivers _)
    rw [first.hooks] at ih
    exact first.trans ih

theorem voices_flatMap (heard : Bytes → List Callback) (packets : List Bytes) :
    voices (packets.flatMap heard) = packets.flatMap fun packet => voices (heard packet) := by
  unfold voices
  rw [List.filter_flatMap]

/-- A conversation, as far as the sender is concerned. -/
theorem Executes.speaks {rules : Rules} (plain : rules.Plain) {c after : Client}
    {calls : List PublicCall} (executes : Executes rules c calls after)
    (sends : ∀ call ∈ calls, call.sends = true)
    (short : ∀ ambeData, .sendAudioFrame ambeData ∈ calls → ambeData.length ≤ 1006)
    (connected : c.state = .connected) (isOpen : c.socketOpen = true) {position : Position}
    (talks : Talks position c) :
    ∃ packets, Sent packets c after ∧
      packets.flatMap (voiced rules.native) = conversation position calls := by
  induction executes generalizing position with
  | nil c => exact ⟨[], ⟨connected, isOpen, [], (List.append_nil _).symm, rfl⟩, rfl⟩
  | @cons c middle after id call calls result ran rest ih =>
    have spoken := (plain.allows.covers (.app id)).sound ran _ (publicCall_speaks call
      (sends call List.mem_cons_self) connected isOpen talks
      fun ambeData same => short ambeData (same ▸ List.mem_cons_self))
    obtain ⟨next, packets, sent, said⟩ := spoken result rfl
    obtain ⟨more, sentMore, saidMore⟩ := ih (fun other member => sends other (.tail _ member))
      (fun ambeData member => short ambeData (.tail _ member)) sent.connected sent.isOpen next
    obtain ⟨events, extended, sum⟩ := sent.log
    obtain ⟨others, extendedMore, sumMore⟩ := sentMore.log
    refine ⟨packets ++ more, ⟨sentMore.connected, sentMore.isOpen, events ++ others, ?_, ?_⟩, ?_⟩
    · rw [extendedMore, extended, List.append_assoc]
    · rw [datagrams_append, sum, sumMore]
    · rw [List.flatMap_append, said, saidMore]
      rfl

/-- Feeding the datagrams of a conversation to a peer makes its voice callbacks say exactly what the
calls were: three headers with the low 24 bits of the ids for each start of a call, one frame with
its number and its bytes for each frame sent in a call, one terminator for its end, and nothing
else. The ids are exact if and only if both are below `2 ^ 24`. -/
theorem voiceCalls_heard {rules peerRules : Rules} (plain : rules.Plain) {c after : Client}
    (reached : rules.Reachable c) (connected : c.state = .connected) {position : Position}
    (talks : Talks position c) {calls : List PublicCall} (sends : ∀ call ∈ calls, call.sends = true)
    (short : ∀ ambeData, .sendAudioFrame ambeData ∈ calls → ambeData.length ≤ 1006)
    (executes : Executes rules c calls after) {peer heard : Client}
    (assigned : ∀ hook, hook.isVoice = true → peer.hooks hook = true)
    (feeds : Feeds peerRules peer (datagrams (after.log.drop c.log.length)) heard) :
    voices (deliveries (heard.log.drop peer.log.length)) = conversation position calls ∧
      ∀ sourceId destinationId isGroup,
        voiceHeard position (.startVoiceCall sourceId destinationId isGroup) =
          List.replicate 3 (.onVoiceHeader sourceId destinationId isGroup) ↔
            sourceId.toNat < 2 ^ 24 ∧ destinationId.toNat < 2 ^ 24 := by
  constructor
  · obtain ⟨packets, sent, said⟩ := executes.speaks plain sends short connected
      ((reached.plumbed plain).up connected) talks
    obtain ⟨events, extended, sum⟩ := sent.log
    obtain ⟨others, extendedMore, delivered⟩ := feeds.delivers.log
    rw [extended, List.drop_left, sum] at delivered
    rw [extendedMore, List.drop_left, delivered, voices_flatMap, ← said]
    congr 1
    funext packet
    rw [voices_heard assigned, voiced, voiced, heard_portable]
  · intro sourceId destinationId isGroup
    exact (voiceHeard_start _ _ _ _).trans (and_congr (low24_exact _) (low24_exact _))

/-- Makes calls one after the other, with everything succeeding. -/
def converse (c : Client) : List PublicCall → Option Client
  | [] => some c
  | made :: calls =>
    match (publicCall sampleRules.native made).run (semantics sampleRules.policy (.app 0)) (fair _)
      c with
    | some (.ok _, middle) => converse middle calls
    | _ => none

theorem converse_executes {c after : Client} {calls : List PublicCall}
    (made : converse c calls = some after) : Executes sampleRules c calls after := by
  induction calls generalizing c with
  | nil =>
    cases made
    exact .nil _
  | cons first calls ih =>
    simp only [converse] at made
    split at made
    · next ran => exact .cons (Program.run_exec _ _ ran) (ih made)
    · cases made

def listen (c : Client) : List Bytes → Option Client
  | [] => some c
  | packet :: packets =>
    match (processPacket sampleRules.native packet).run (semantics sampleRules.policy .io) (fair _)
      c with
    | some (_, middle) => listen middle packets
    | none => none

theorem listen_feeds {c after : Client} {packets : List Bytes}
    (listened : listen c packets = some after) : Feeds sampleRules c packets after := by
  induction packets generalizing c with
  | nil =>
    cases listened
    exact .nil _
  | cons packet packets ih =>
    simp only [listen] at listened
    split at listened
    · next ran => exact .cons (Program.run_exec _ _ ran) (ih listened)
    · cases listened

theorem greeted_reachable {hooks : Hook → Bool} (passes : (greeted hooks).state = .connected) :
    sampleRules.Reachable (greeted hooks) := by
  unfold greeted at passes ⊢
  split
  · next played => exact ⟨_, _, _, _, play_run (fun _ entry _ => advance_step _ entry.1) .nil played⟩
  · next unplayed =>
    rw [unplayed] at passes
    cases passes

/-- A group call with a frame and a subscription in it, from an id of 25 bits. -/
def groupCall : List PublicCall :=
  [.startVoiceCall 0x1000001 91 true, .sendAudioFrame [1, 2, 3], .subscribe 5, .endVoiceCall,
    .sendAudioFrame [4]]

theorem voiceCalls_heard_group : ∃ after heard, Executes sampleRules talker groupCall after ∧
    Feeds sampleRules listener (datagrams (after.log.drop talker.log.length)) heard ∧
      voices (deliveries (heard.log.drop listener.log.length)) =
        [.onVoiceHeader 1 91 true, .onVoiceHeader 1 91 true, .onVoiceHeader 1 91 true,
          .onAudioFrame ⟨3, [1, 2, 3]⟩, .onVoiceTerminator] := by
  have called : (converse talker groupCall).any (fun after =>
      (listen listener (datagrams (after.log.drop talker.log.length))).isSome) = true := by
    decide +kernel
  obtain ⟨after, made, listened⟩ := (Option.any_eq_true _ _).mp called
  obtain ⟨heard, listened⟩ := Option.isSome_iff_exists.mp listened
  have executes := converse_executes made
  have feeds := listen_feeds listened
  have reached : sampleRules.Reachable talker := greeted_reachable (by decide +kernel)
  have silent : talker.inCall = false := by decide +kernel
  have outside : Talks none talker := silent
  have short : ∀ ambeData, .sendAudioFrame ambeData ∈ groupCall → ambeData.length ≤ 1006 := by
    intro ambeData member
    simp only [groupCall, List.mem_cons, reduceCtorEq, false_or, or_false,
      PublicCall.sendAudioFrame.injEq, List.not_mem_nil] at member
    rcases member with rfl | rfl <;> decide
  have all : listener.hooks = fun _ => true := by
    funext hook
    cases hook <;> decide +kernel
  have said := (voiceCalls_heard sampleRules_plain reached (by decide +kernel) outside (by decide)
    short executes (fun hook _ => by rw [all]) feeds).1
  exact ⟨after, heard, executes, feeds, said⟩

end OpenDTP.Client
