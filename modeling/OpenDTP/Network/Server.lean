import OpenDTP.Client.Summary

/-! The server of the client's tests. It answers a login with a challenge and a correct digest with an
empty KEEP_ALIVE. Each of its answers goes to the endpoint that it heard from last. -/

namespace OpenDTP.Network
open Common Protocol Client

/-- The members that are never assigned, and the byte order of the host. -/
structure Setup where
  native : Endian
  expectedPassword : Bytes
  salt : Bytes

/-- `sent` is a ghost: what was handed to `send_to`, with its destination. -/
structure MockServer where
  receiving : Bool
  clientEp : Endpoint
  receivedVersionDmrId : UInt32
  receivedPackets : List Bytes
  sent : List (Endpoint × Bytes)

def MockServer.listening : MockServer := ⟨true, ⟨[], 0⟩, 0, [], []⟩

section

variable (setup : Setup)

def sendPacket (type : MessageType) (flags : UInt16) (payload : Bytes) (server : MockServer) :
    MockServer :=
  let h : Header := ⟨type, flags, 0, UInt16.ofNat payload.length⟩
  let pkt := serializeHeader setup.native h ++ payload
  { server with sent := server.sent ++ [(server.clientEp, pkt)] }

/-- The loop that compares the payload with the expected digest. -/
def matching (payload expectedDigest : Bytes) : Bool :=
  payload.length == 32 && (List.range 32).all fun i => payload.getD i 0 == expectedDigest.getD i 0

/-- There is no result where the span over the payload would reach past the datagram. -/
def processIncoming (pkt : Bytes) (server : MockServer) : Option MockServer :=
  match deserializeHeader setup.native pkt with
  | none => some server
  | some header =>
    if pkt.length < 18 + header.length.toNat then none
    else
      let payload := (pkt.drop 18).take header.length.toNat
      if header.type = .keepAlive ∧ 0 < header.length then
        match deserializeVersionData setup.native payload with
        | none => some server
        | some version =>
          some (sendPacket setup .challenge 0 setup.salt
            { server with receivedVersionDmrId := version.dmrId })
      else if header.type = .authentication then
        let expectedDigest := Sha256.sha256 (setup.salt ++ setup.expectedPassword)
        if matching payload expectedDigest then some (sendPacket setup .keepAlive 0 [] server)
        else some server
      else some server

/-- The handler that `StartReceive` registers. After an empty datagram it is not registered again. -/
def receive (sender : Endpoint) (data : Bytes) (server : MockServer) : Option MockServer :=
  if server.receiving = false then none
  else if data = [] then some { server with clientEp := sender, receiving := false }
  else
    processIncoming setup data
      { server with clientEp := sender, receivedPackets := server.receivedPackets ++ [data] }

end

/-! ### What it sends -/

section

variable {setup : Setup} {server after : MockServer} {sender : Endpoint} {data : Bytes}

theorem matching_digest {payload expectedDigest : Bytes} (digest : expectedDigest.length = 32) :
    matching payload expectedDigest = true ↔ payload = expectedDigest := by
  constructor
  · intro same
    simp only [matching, Bool.and_eq_true, beq_iff_eq, List.all_eq_true, List.mem_range] at same
    obtain ⟨length, bytes⟩ := same
    refine List.ext_getElem (by rw [length, digest]) fun i here there => ?_
    have byte := bytes i (by rw [← length]; exact here)
    simpa [List.getD_eq_getElem?_getD, here, there] using byte
  · rintro rfl
    simp [matching, digest]

/-- A challenge of the server, or its consent. -/
def challenged (setup : Setup) : Bytes := packetOf setup.native .challenge 0 0 setup.salt
def welcome (setup : Setup) : Bytes := packetOf setup.native .keepAlive 0 0 []

/-- The datagram answers a challenge with the expected digest. -/
def Proves (setup : Setup) (data : Bytes) : Prop :=
  ∃ header payload, wellFormed setup.native data = some (header, payload) ∧
    header.type = .authentication ∧
    payload = Sha256.sha256 (setup.salt ++ setup.expectedPassword)

/-- The server sends nothing but challenges, and a consent only where the digest was right. -/
inductive Sends (setup : Setup) (sender : Endpoint) (data : Bytes) :
    List (Endpoint × Bytes) → Prop where
  | nothing : Sends setup sender data []
  | challenge : Sends setup sender data [(sender, challenged setup)]
  | welcome (proves : Proves setup data) : Sends setup sender data [(sender, Network.welcome setup)]

theorem processIncoming_sends (processed : processIncoming setup data server = some after) :
    ∃ answers, after.sent = server.sent ++ answers ∧ Sends setup server.clientEp data answers := by
  have silent (same : after.sent = server.sent) :
      ∃ answers, after.sent = server.sent ++ answers ∧ Sends setup server.clientEp data answers :=
    ⟨[], by rw [same, List.append_nil], .nothing⟩
  unfold processIncoming at processed
  split at processed
  · cases processed
    exact silent rfl
  · next header decoded =>
    split at processed
    · cases processed
    · next long =>
      dsimp only at processed
      split at processed
      · split at processed
        · cases processed
          exact silent rfl
        · cases processed
          exact ⟨_, rfl, .challenge⟩
      · split at processed
        · next authenticates =>
          split at processed
          · next same =>
            cases processed
            refine ⟨_, rfl, .welcome ⟨header, _, ?_, authenticates,
              (matching_digest (Sha256.length_sha256 _)).mp same⟩⟩
            rw [wellFormed, decoded]
            exact if_neg long
          · cases processed
            exact silent rfl
        · cases processed
          exact silent rfl

theorem receive_sends (received : receive setup sender data server = some after) :
    ∃ answers, after.sent = server.sent ++ answers ∧ Sends setup sender data answers := by
  unfold receive at received
  split at received
  · cases received
  · split at received
    · cases received
      exact ⟨[], by simp, .nothing⟩
    · exact processIncoming_sends received

end

end OpenDTP.Network
