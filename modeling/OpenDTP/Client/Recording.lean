import OpenDTP.Blocks
import OpenDTP.Client.Voice
import Mathlib.Data.List.Flatten

/-! The two example programs. `play_audio` reads frames of 27 bytes from its input and sends them in a
call to a group, and `record_audio` writes the frames that it hears to a file. What was played is
recorded, except for frames that get lost on the way and for a rest that does not fill a frame. -/

namespace OpenDTP.Client
open Common Protocol Effects Effects.Program Blocks

/-- The loop around `std::cin.read`, which ends with the first read of less than 27 bytes. -/
def readUpTo : Nat → Bytes → List Bytes
  | 0, _ => []
  | rounds + 1, input =>
    if 27 ≤ input.length then input.take 27 :: readUpTo rounds (input.drop 27) else []

def readFrames (input : Bytes) : List Bytes := readUpTo input.length input

/-- What `play_audio` calls between its connection and its disconnection. -/
def play (sourceId groupId : UInt32) (input : Bytes) : List PublicCall :=
  .subscribe groupId :: .startVoiceCall sourceId groupId true ::
    ((readFrames input).map .sendAudioFrame ++ [.endVoiceCall])

/-- What the hooks of `record_audio` write to the output file. -/
def written : Callback → Bytes
  | .onAudioFrame frame => if !frame.ambeData.isEmpty then frame.ambeData else []
  | _ => []

def recording (callbacks : List Callback) : Bytes := callbacks.flatMap written

/-! ### Playing -/

/-- Every round of the loop takes a frame away, so its length is rounds enough. -/
theorem readUpTo_blocks {rounds : Nat} {input : Bytes} (enough : input.length ≤ rounds) :
    readUpTo rounds input = blocks 27 input := by
  induction rounds generalizing input with
  | zero =>
    rw [List.eq_nil_of_length_eq_zero (Nat.le_zero.mp enough), blocks_nil]
    rfl
  | succ rounds ih =>
    rw [readUpTo]
    split
    · next room =>
      have first : (input.take 27).length = 27 := List.length_take_of_le room
      have rest : (input.drop 27).length ≤ rounds := by
        rw [List.length_drop]
        omega
      calc input.take 27 :: readUpTo rounds (input.drop 27)
          = blocks 27 (input.take 27) ++ blocks 27 (input.drop 27) := by
            rw [ih rest, blocks_one (by decide) first]
            rfl
        _ = blocks 27 (input.take 27 ++ input.drop 27) :=
            (blocks_append (by decide) (first.trans (Nat.mul_one 27).symm) _).symm
        _ = blocks 27 input := by rw [List.take_append_drop]
    · next short => exact (blocks_short (Nat.lt_of_not_le short)).symm

theorem readFrames_blocks (input : Bytes) : readFrames input = blocks 27 input :=
  readUpTo_blocks le_rfl

theorem length_of_readFrames {input frame : Bytes} (member : frame ∈ readFrames input) :
    frame.length = 27 := by
  rw [readFrames_blocks, blocks] at member
  obtain ⟨index, below, rfl⟩ := List.mem_map.mp member
  have room : 27 * (index + 1) ≤ input.length :=
    (Nat.mul_le_mul_left 27 (List.mem_range.mp below)).trans (Nat.mul_div_le _ _)
  rw [List.length_take, List.length_drop]
  omega

theorem play_sends {sourceId groupId : UInt32} {input : Bytes} :
    ∀ call ∈ play sourceId groupId input, call.sends = true := by
  intro call member
  simp only [play, List.mem_cons, List.mem_append, List.mem_map, List.not_mem_nil, or_false]
    at member
  rcases member with rfl | rfl | ⟨frame, _, rfl⟩ | rfl <;> rfl

theorem play_short {sourceId groupId : UInt32} {input ambeData : Bytes}
    (member : .sendAudioFrame ambeData ∈ play sourceId groupId input) : ambeData.length ≤ 1006 := by
  simp only [play, List.mem_cons, reduceCtorEq, List.mem_append, List.mem_map,
    PublicCall.sendAudioFrame.injEq, List.not_mem_nil, false_or, or_false, exists_eq_right]
    at member
  rw [length_of_readFrames member]
  decide

/-! ### Recording -/

/-- The frames among the callbacks. -/
def frames (callbacks : List Callback) : List Bytes :=
  callbacks.flatMap fun callback =>
    match callback with
    | .onAudioFrame frame => [frame.ambeData]
    | _ => []

theorem recording_frames (callbacks : List Callback) :
    recording callbacks = (frames callbacks).flatten := by
  induction callbacks with
  | nil => rfl
  | cons callback callbacks ih =>
    have here : written callback = (frames [callback]).flatten := by
      cases callback <;> try rfl
      case onAudioFrame frame =>
        cases empty : frame.ambeData <;> simp [written, frames, empty]
    calc recording (callback :: callbacks)
        = written callback ++ recording callbacks := rfl
      _ = (frames [callback] ++ frames callbacks).flatten := by
          rw [here, ih, List.flatten_append]
      _ = (frames (callback :: callbacks)).flatten := by
          simp [frames]

theorem frames_append (early late : List Callback) :
    frames (early ++ late) = frames early ++ frames late := List.flatMap_append

theorem frames_voices (callbacks : List Callback) : frames (voices callbacks) = frames callbacks := by
  induction callbacks with
  | nil => rfl
  | cons callback callbacks ih =>
    cases callback <;> simp_all [frames, voices, Callback.hook, Hook.isVoice]

/-- In a call every frame is heard once. -/
theorem frames_conversation (sent : Nat) (data : List Bytes) :
    frames (conversation (some sent) (data.map .sendAudioFrame ++ [.endVoiceCall])) = data := by
  induction data generalizing sent with
  | nil => rfl
  | cons ambeData data ih =>
    rw [List.map_cons, List.cons_append, conversation, frames_append]
    exact congrArg (ambeData :: ·) (ih (sent + 1))

theorem frames_play (position : Position) (sourceId groupId : UInt32) (input : Bytes) :
    frames (conversation position (play sourceId groupId input)) = readFrames input := by
  have subscribed : conversation position (play sourceId groupId input) =
      voiceHeard position (.startVoiceCall sourceId groupId true) ++
        conversation (some 0) ((readFrames input).map .sendAudioFrame ++ [.endVoiceCall]) := by
    cases position <;> rfl
  rw [subscribed, frames_append, frames_conversation]
  cases position <;> rfl

/-- The file that `record_audio` writes is put together from frames of the input of `play_audio`, in
their order and none of them twice, if datagrams between the two get lost only. If none is lost, it
is the input up to its last full frame. No handler runs between the calls of `play_audio`, and
callbacks make no calls. -/
theorem recording_is_played {rules peerRules : Rules} (plain : rules.Plain) {c after : Client}
    (reached : rules.Reachable c) (connected : c.state = .connected) {sourceId groupId : UInt32}
    {input : Bytes} (executes : Executes rules c (play sourceId groupId input) after)
    {peer heard : Client}
    (assigned : ∀ hook, hook.isVoice = true → peer.hooks hook = true) {arrived : List Bytes}
    (lossy : arrived.Sublist (datagrams (after.log.drop c.log.length)))
    (feeds : Feeds peerRules peer arrived heard) :
    (∃ kept : List Bytes, kept.Sublist (blocks 27 input) ∧
      recording (deliveries (heard.log.drop peer.log.length)) = kept.flatten) ∧
    (arrived = datagrams (after.log.drop c.log.length) →
      recording (deliveries (heard.log.drop peer.log.length)) =
        input.take (27 * (input.length / 27))) := by
  obtain ⟨position, talks⟩ := exists_talks c
  obtain ⟨packets, sent, said⟩ := executes.speaks plain play_sends (fun _ => play_short) connected
    ((reached.plumbed plain).up connected) talks
  obtain ⟨events, extended, sum⟩ := sent.log
  obtain ⟨others, extendedMore, delivered⟩ := feeds.delivers.log
  rw [extended, List.drop_left, sum] at lossy ⊢
  rw [extendedMore, List.drop_left, delivered, recording_frames]
  -- What the peer hears of one datagram decides which frames it brings.
  let brought (packet : Bytes) : List Bytes := frames (voiced rules.native packet)
  have bring (arriving : List Bytes) :
      frames (arriving.flatMap (OpenDTP.Client.heard peerRules.native peer.hooks)) =
        arriving.flatMap brought := by
    rw [frames, List.flatMap_assoc]
    congr 1
    funext packet
    change frames (OpenDTP.Client.heard peerRules.native peer.hooks packet) = brought packet
    rw [← frames_voices, voices_heard assigned, voiced, heard_portable peerRules.native rules.native]
    rfl
  have all : packets.flatMap brought = blocks 27 input := by
    calc packets.flatMap brought
        = frames (packets.flatMap (voiced rules.native)) := by
          rw [frames, List.flatMap_assoc]
          rfl
      _ = blocks 27 input := by rw [said, frames_play, readFrames_blocks]
  rw [bring]
  constructor
  · refine ⟨arrived.flatMap brought, ?_, rfl⟩
    rw [← all]
    exact lossy.flatMap brought
  · rintro rfl
    rw [all, flatten_blocks_take (by decide)]

/-- Two frames and a rest. -/
def sampleInput : Bytes := (List.range 60).map UInt8.ofNat

theorem recording_is_played_sample : ∃ after heard : Client,
    Executes sampleRules talker (play 1 91 sampleInput) after ∧
      recording (deliveries (heard.log.drop listener.log.length)) = sampleInput.take 54 := by
  have called : (converse talker (play 1 91 sampleInput)).any (fun after =>
      (listen listener (datagrams (after.log.drop talker.log.length))).isSome) = true := by
    decide +kernel
  obtain ⟨after, made, listened⟩ := (Option.any_eq_true _ _).mp called
  obtain ⟨heard, listened⟩ := Option.isSome_iff_exists.mp listened
  have executes := converse_executes made
  have reached : sampleRules.Reachable talker := greeted_reachable (by decide +kernel)
  have all : listener.hooks = fun _ => true := by
    funext hook
    cases hook <;> decide +kernel
  exact ⟨after, heard, executes, (recording_is_played sampleRules_plain reached (by decide +kernel)
    executes (fun hook _ => by rw [all]) (List.Sublist.refl _) (listen_feeds listened)).2 rfl⟩

end OpenDTP.Client
