import OpenDTP.Network.Handshake
import OpenDTP.Protocol.Terminators

/-! A client with a password of the digest that the server expects can get connected. -/

namespace OpenDTP.Network
open Common Protocol Effects Effects.Program Client

section

variable {native : Endian} {policy : Policy} {c : OpenDTP.Client}

/-- What `Connect` makes of a client that has no operation outstanding. -/
def started (password : Bytes) (call : PublicCall) (c : OpenDTP.Client) : OpenDTP.Client :=
  { c with
    state := .connecting
    password := password
    lastError := .success
    routineSeq := 0
    realTimeSeq := 0
    inCall := false
    stopped := false
    workGuard := false
    ioThread := .running
    operations := [⟨.connectTimeout, c.session + 1, none⟩, ⟨.resolve, c.session + 1, none⟩]
    session := c.session + 1
    log := c.log ++ [.called call, .accepted password, .started, .stored .connecting,
      .returned call (some .success)] }

theorem connect_can {id : Nat} {host : String} {port : UInt16} {password : Bytes}
    {timeoutMs : UInt32}
    (down : c.state = .disconnected) (free : c.connectionMutex = none)
    (idle : c.operations = []) (joined : c.ioThread = .none) :
    (publicCall native (.connect host port password timeoutMs)).wp
      (chosen (semantics policy (.app id)) (fair _))
      (fun outcome after => outcome = .ok (some .success) ∧
        after = started password (.connect host port password timeoutMs) c) c := by
  simp [publicCall, method, connect, startUp, locked, chosen, semantics, Client.step, fair, begin,
    cancel, record, wp_ite, down, free, idle, joined, started, Timer.kind]

/-- What the resolver handler makes of a client that is CONNECTING. -/
def loggedIn (native : Endian) (address : Endpoint) (c : OpenDTP.Client) : OpenDTP.Client :=
  { c with
    serverEndpoint := address
    socketOpen := true
    operations := c.operations ++ [⟨.receive, c.session, none⟩]
    routineSeq := c.routineSeq + 1
    log := c.log ++ [.opened .success, .bound .success,
      .passed .keepAlive MessageFlag.none (identity native c),
      .sent (packetOf native .keepAlive MessageFlag.none c.routineSeq (identity native c)) address] }

theorem resolve_can {address : Endpoint}
    (connecting : c.state = .connecting) (free : c.connectionMutex = none)
    (unlocked : c.writeMutex = none) (shut : c.socketOpen = false) :
    (resolveHandler native .success [address]).wp (chosen (semantics policy .io) (fair _))
      (fun outcome after => outcome = .ok () ∧ after = loggedIn native address c) c := by
  have routine : MessageFlag.none &&& MessageFlag.realTime1 = 0 := by decide
  simp [resolveHandler, startReceiveLoop, sendKeepAlive, transmitRaw, locked, chosen, semantics,
    Client.step, fair, begin, record, wp_ite, connecting, free, unlocked, shut, loggedIn, routine,
    identity, packetOf]

/-- What the receive handler makes of a client that is CONNECTING and looks at a challenge. -/
def answering (native : Endian) (salt : Bytes) (packet : Bytes) (c : OpenDTP.Client) :
    OpenDTP.Client :=
  let digest := Sha256.sha256 (salt ++ c.password)
  { c with
    state := .authenticating
    operations := c.operations ++ [⟨.receive, c.session, none⟩]
    routineSeq := c.routineSeq + 1
    log := c.log ++ [.inspected c.serverEndpoint c.serverEndpoint packet, .stored .authenticating,
      .passed .authentication MessageFlag.none digest,
      .sent (packetOf native .authentication MessageFlag.none c.routineSeq digest)
        c.serverEndpoint] }

/-- What the dispatcher does with a datagram that the server sent whole. -/
theorem processPacket_whole {type : MessageType} {payload : Bytes} (fits : payload.length < 65536) :
    processPacket native (packetOf native type 0 0 payload) =
      if type = .challenge then do
        if (← perform .loadState) = .connecting then
          perform (.storeState .authenticating)
          let password ← perform .readPassword
          transmitRaw native .authentication MessageFlag.none (Sha256.sha256 (payload ++ password))
      else if type = .keepAlive then
        if UInt16.ofNat payload.length = 0 then do
          if (← perform .loadState) = .authenticating then
            perform (.storeState .connected)
            perform (.cancelTimer .connectTimeoutTimer)
            startKeepAliveTimer
            locked .connectionMutex (perform .notifyAll)
            report .onConnected
        else pure ()
      else
        match deliver native type 0 payload with
        | none => pure ()
        | some callback => report callback := by
  have size : ¬ (packetOf native type 0 0 payload).length <
      18 + (UInt16.ofNat payload.length).toNat := by
    rw [length_packetOf, toNat_unit fits]
    omega
  have body : ((packetOf native type 0 0 payload).drop 18).take
      (UInt16.ofNat payload.length).toNat = payload := by
    rw [packetOf, List.drop_left' (length_serializeHeader native _), toNat_unit fits, List.take_length]
  unfold processPacket
  rw [packetOf, deserializeHeader_serializeHeader, ← packetOf]
  refine (if_neg size).trans ?_
  generalize ((packetOf native type 0 0 payload).drop 18).take (UInt16.ofNat payload.length).toNat =
    contents at body ⊢
  subst body
  rfl

theorem challenge_can {salt : Bytes} {count : Nat} (connecting : c.state = .connecting)
    (unlocked : c.writeMutex = none) (isOpen : c.socketOpen = true) (fits : salt.length < 65536)
    (own : c.senderEndpoint = c.serverEndpoint) (some_ : 0 < count)
    (whole : c.receiveBuffer.take count = packetOf native .challenge 0 0 salt) :
    (handleReceive native .success count).wp (chosen (semantics policy .io) (fair _))
      (fun outcome after => outcome = .ok () ∧
        after = answering native salt (packetOf native .challenge 0 0 salt) c) c := by
  have routine : MessageFlag.none &&& MessageFlag.realTime1 = 0 := by decide
  simp [handleReceive, processPacket_whole fits, startReceiveLoop, transmitRaw, locked, chosen,
    semantics, Client.step, fair, begin, record, wp_ite, connecting, unlocked, isOpen, own, whole,
    some_, answering, routine]
  rw [packetOf]

/-- What the receive handler makes of a client that is AUTHENTICATING and looks at a consent. -/
def greeted (packet : Bytes) (c : OpenDTP.Client) : OpenDTP.Client :=
  { c with
    state := .connected
    waits := fun id => (c.waits id).notify
    operations :=
      c.operations.map (fun operation => (operation.cancel .connectTimeout).cancel .keepAlive) ++
        [⟨.keepAlive, c.session, none⟩, ⟨.receive, c.session, none⟩]
    log := c.log ++ [.inspected c.serverEndpoint c.serverEndpoint packet, .stored .connected,
      .notified] ++ if c.hooks .onConnected then [.invoked .onConnected] else [] }

theorem welcome_can {count : Nat} (authenticating : c.state = .authenticating)
    (free : c.connectionMutex = none) (isOpen : c.socketOpen = true)
    (own : c.senderEndpoint = c.serverEndpoint) (some_ : 0 < count)
    (whole : c.receiveBuffer.take count = packetOf native .keepAlive 0 0 []) :
    (handleReceive native .success count).wp (chosen (semantics policy .io) (fair _))
      (fun outcome after => outcome = .ok () ∧
        after = greeted (packetOf native .keepAlive 0 0 []) c) c := by
  have short : ([] : Bytes).length < 65536 := by decide
  have apart : MessageType.keepAlive ≠ MessageType.challenge := by decide
  cases assigned : c.hooks .onConnected <;>
    simp [handleReceive, processPacket_whole short, startReceiveLoop, startKeepAliveTimer, report,
      invoke, Callback.hook, locked, chosen, semantics, Client.step, fair, begin, cancel, record,
      wp_ite, authenticating, free, isOpen, own, whole, some_, greeted, apart, assigned, Timer.kind]

end

/-! ### The server's part -/

section

variable {setup : Setup} {server : MockServer} {native : Endian} {sender : Endpoint} {number : UInt32}
  {payload : Bytes}

/-- A datagram that fits the buffer of the server is processed whole. -/
theorem receive_whole {type : MessageType} {flag : UInt16} (listening : server.receiving = true)
    (fits : payload.length ≤ 1006) :
    receive setup sender ((packetOf native type flag number payload).take 1024) server =
      processIncoming setup (packetOf setup.native type flag number payload)
        { server with
          clientEp := sender
          receivedPackets :=
            server.receivedPackets ++ [packetOf setup.native type flag number payload] } := by
  rw [packetOf_portable native setup.native, List.take_of_length_le (by rw [length_packetOf]; omega)]
  have some_ : packetOf setup.native type flag number payload ≠ [] := by
    intro empty
    have length := congrArg List.length empty
    rw [length_packetOf, List.length_nil] at length
    omega
  unfold receive
  rw [if_neg (by simp [listening]), if_neg some_]

theorem receive_login {version : VersionData} (listening : server.receiving = true)
    (fits : version.description.length ≤ 1001) :
    ∃ after, receive setup sender ((packetOf native .keepAlive MessageFlag.none number
        (serializeVersionData native version)).take 1024) server = some after ∧
      after.receiving = true ∧ after.receivedVersionDmrId = version.dmrId ∧
      (sender, challenged setup) ∈ after.sent := by
  have size : (serializeVersionData setup.native version).length =
      5 + version.description.length := by
    rw [serializeVersionData_eq]
    simp only [List.length_append, length_wire]
    change 4 + (1 + version.description.length) = _
    omega
  rw [serializeVersionData_portable native, ← serializeVersionData_portable setup.native,
    receive_whole listening (by omega), processIncoming, packetOf, deserializeHeader_serializeHeader]
  have exactly : (UInt16.ofNat (serializeVersionData setup.native version).length).toNat =
      5 + version.description.length := by
    rw [toNat_unit (by omega), size]
  have long : ¬ (serializeHeader setup.native ⟨.keepAlive, MessageFlag.none, number,
      UInt16.ofNat (serializeVersionData setup.native version).length⟩ ++
        serializeVersionData setup.native version).length < 18 + (5 + version.description.length) := by
    rw [List.length_append, length_serializeHeader, size]
    omega
  have positive : 0 < UInt16.ofNat (serializeVersionData setup.native version).length := by
    rw [UInt16.lt_iff_toNat_lt, exactly]
    exact Nat.lt_of_lt_of_le (by decide) (Nat.le_add_right 5 _)
  simp only [exactly, if_neg long, List.drop_left' (length_serializeHeader setup.native _),
    List.take_of_length_le size.le, positive, and_self, if_true,
    deserializeVersionData_serializeVersionData]
  exact ⟨_, rfl, listening, rfl, List.mem_append_right _ (List.mem_singleton.mpr rfl)⟩

theorem receive_proof (listening : server.receiving = true)
    (expected : payload = Sha256.sha256 (setup.salt ++ setup.expectedPassword)) :
    ∃ after, receive setup sender ((packetOf native .authentication MessageFlag.none number
        payload).take 1024) server = some after ∧
      after.receivedVersionDmrId = server.receivedVersionDmrId ∧
      (sender, welcome setup) ∈ after.sent := by
  have size : payload.length = 32 := by
    rw [expected]
    exact Sha256.length_sha256 _
  rw [receive_whole listening (by omega), processIncoming, packetOf, deserializeHeader_serializeHeader]
  have exactly : (UInt16.ofNat payload.length).toNat = 32 := by rw [toNat_unit (by omega), size]
  have long : ¬ (serializeHeader setup.native ⟨.authentication, MessageFlag.none, number,
      UInt16.ofNat payload.length⟩ ++ payload).length < 18 + 32 := by
    rw [List.length_append, length_serializeHeader, size]
    omega
  have matches_ : matching payload (Sha256.sha256 (setup.salt ++ setup.expectedPassword)) = true :=
    (matching_digest (Sha256.length_sha256 _)).mpr expected
  have apart : ¬ (MessageType.authentication = MessageType.keepAlive) := by decide
  simp only [exactly, if_neg long, List.drop_left' (length_serializeHeader setup.native _),
    List.take_of_length_le size.le, apart, false_and, if_false, if_true, matches_]
  exact ⟨_, rfl, rfl, List.mem_append_right _ (List.mem_singleton.mpr rfl)⟩

end

/-! ### The whole handshake -/

section

variable {rules : Rules} {setup : Setup} {site : Site} {w : World}

/-- A handler that can end so is a step of the client. -/
theorem handles_can {c result : OpenDTP.Client} {before rest : List Outstanding} {kind : Kind}
    {session : Nat} {completion : Completion}
    (found : c.operations = before ++ ⟨kind, session, some completion⟩ :: rest)
    (idle : c.ioThread = .running) (going : c.stopped = false)
    (can : (handler rules.native kind completion).wp (chosen (semantics rules.policy .io) (fair _))
      (fun outcome after => outcome = .ok () ∧ after = result) (dequeued before rest c)) :
    Client.Step rules c (.handles ⟨kind, session, some completion⟩)
      { result with ioThread := .running } := by
  obtain ⟨outcome, after, ran, rfl, rfl⟩ := chosen_exec rules.nesting _ can
  exact .handles found rfl idle going ran

/-- A client in a handshake that waits for the next datagram of the server. -/
structure Waiting (site : Site) (secret : Bytes) (stage : State) (c : OpenDTP.Client) : Prop where
  state : c.state = stage
  password : c.password = secret
  connectionMutex : c.connectionMutex = none
  writeMutex : c.writeMutex = none
  ioThread : c.ioThread = .running
  stopped : c.stopped = false
  socketOpen : c.socketOpen = true
  serverEndpoint : c.serverEndpoint = site.address
  operations : c.operations = [⟨.connectTimeout, c.session, none⟩, ⟨.receive, c.session, none⟩]
  only : ∀ other, .accepted other ∈ c.log → other = secret

/-- The client has resolved the host and sent its identity. -/
theorem client_logs_in (dmrId : UInt32) (description : Bytes) (hooks : Hook → Bool)
    (password : Bytes) :
    ∃ c number, Reachable (Step rules setup site) (opening dmrId description hooks) ⟨c, .listening⟩ ∧
      Waiting site password .connecting c ∧
      .sent (packetOf rules.native .keepAlive MessageFlag.none number
        (serializeVersionData rules.native ⟨dmrId, .openTerminal, description⟩)) site.address ∈
          c.log := by
  let first := fresh dmrId description hooks
  obtain ⟨outcome, c, ran, rfl, rfl⟩ := chosen_exec rules.nesting _
    (@connect_can rules.native rules.policy first 0 "master" 54006 password 1000 rfl rfl rfl rfl)
  have connects : Client.Step rules first (.call 0 (.connect "master" 54006 password 1000))
      (started password (.connect "master" 54006 password 1000) first) := .call rfl ran
  have resolved := @Client.Step.completes rules
    (started password (.connect "master" 54006 password 1000) first) [⟨.connectTimeout, 1, none⟩] []
    ⟨.resolve, 1, none⟩ { endpoints := [site.address] } rfl rfl (fun same => by cases same)
    (fun same => by cases same)
  have handled := @handles_can rules (completed [⟨.connectTimeout, 1, none⟩] ⟨.resolve, 1, none⟩ []
      { endpoints := [site.address] } (started password (.connect "master" 54006 password 1000) first))
    _ [⟨.connectTimeout, 1, none⟩] [] .resolve 1
    { endpoints := [site.address] } rfl rfl rfl
    (@resolve_can rules.native rules.policy _ site.address rfl rfl rfl rfl)
  have begins : Step rules setup site (opening dmrId description hooks) (.client _)
      ⟨_, .listening⟩ := .client connects trivial
  have finds : Step rules setup site ⟨_, .listening⟩ (.client _) ⟨_, .listening⟩ :=
    .client resolved fun _ endpoint first => (Option.some.inj first).symm
  have logs : Step rules setup site ⟨_, .listening⟩ (.client _) ⟨_, .listening⟩ :=
    .client handled trivial
  refine ⟨_, 0, ((Reachable.refl.snoc begins).snoc finds).snoc logs, ?_,
    List.mem_append_right _ (.tail _ (.tail _ (.tail _ (.head _))))⟩
  refine ⟨rfl, rfl, rfl, rfl, rfl, rfl, rfl, rfl, rfl, fun other member => ?_⟩
  rcases List.mem_append.mp member with early | late
  · simpa using show Client.Event.accepted other ∈ [_, .accepted password, _, _, _] from early
  · simp at late

/-- A datagram of the server arrives, and its handler runs. -/
theorem server_reaches {state : State} {c : OpenDTP.Client} {server : MockServer} {packet : Bytes}
    {password : Bytes} (waiting : Waiting site password state c)
    (sent : (site.home, packet) ∈ server.sent) (fits : packet.length ≤ 1024)
    (somewhere : site.address ≠ nowhere) :
    ∃ ready : OpenDTP.Client, ready.state = state ∧ ready.password = password ∧
      ready.connectionMutex = none ∧ ready.writeMutex = none ∧ ready.stopped = false ∧
      ready.socketOpen = true ∧ ready.serverEndpoint = site.address ∧
      ready.senderEndpoint = site.address ∧ ready.receiveBuffer.take packet.length = packet ∧
      ready.operations = [⟨.connectTimeout, ready.session, none⟩] ∧ ready.log = c.log ∧
      ∀ result, (handleReceive rules.native .success packet.length).wp
          (chosen (semantics rules.policy .io) (fair _))
          (fun outcome after => outcome = .ok () ∧ after = result) ready →
        Reachable (Step rules setup site) ⟨c, server⟩
          ⟨{ result with ioThread := .running }, server⟩ := by
  let pending : Outstanding := ⟨.receive, c.session, none⟩
  let timeout : Outstanding := ⟨.connectTimeout, c.session, none⟩
  let arrived := filled site.address packet
    (completed [timeout] pending [] { bytesTransferred := packet.length } c)
  have arrives : Client.Step rules c (.arrives pending site.address packet) arrived :=
    .arrives waiting.operations rfl rfl fits
  have real : Real site server.sent (.arrives pending site.address packet) :=
    ⟨somewhere, fun _ => ⟨packet, sent, (List.take_of_length_le fits).symm⟩⟩
  refine ⟨dequeued [timeout] [] arrived, waiting.state, waiting.password, waiting.connectionMutex,
    waiting.writeMutex, waiting.stopped, waiting.socketOpen, waiting.serverEndpoint, rfl, ?_, rfl, rfl,
    fun result can => ?_⟩
  · exact List.take_left' rfl
  · exact (Reachable.refl.snoc (.client arrives real)).snoc
      (.client (handles_can rfl waiting.ioThread waiting.stopped can) trivial)

/-- A client with a password of the expected digest gets connected if every message arrives. -/
theorem password_connects (dmrId : UInt32) (description : Bytes) (hooks : Hook → Bool)
    (password : Bytes) (challenge : setup.salt.length ≤ 1006) (login : description.length ≤ 1001)
    (somewhere : site.address ≠ nowhere)
    (known : Sha256.sha256 (setup.salt ++ password) =
      Sha256.sha256 (setup.salt ++ setup.expectedPassword)) :
    ∃ w, Reachable (Step rules setup site) (opening dmrId description hooks) w ∧
      w.client.state = .connected ∧ w.server.receivedVersionDmrId = dmrId ∧
      ∀ other, .accepted other ∈ w.client.log → other = password := by
  obtain ⟨c, number, reached, waiting, sent⟩ :=
    @client_logs_in rules setup site dmrId description hooks password
  -- The server hears the identity and sends its challenge.
  obtain ⟨server, heard, listening, identified, challenges⟩ := @receive_login setup .listening
    rules.native site.home number ⟨dmrId, .openTerminal, description⟩ rfl login
  have reached := reached.snoc (.hears sent heard)
  obtain ⟨ready, state, secret, free, unlocked, going, isOpen, target, sender, whole, operations, log,
    goes⟩ := @server_reaches rules setup site _ c server _ _ waiting challenges
      (by rw [challenged, length_packetOf]; omega) somewhere
  rw [challenged, packetOf_portable setup.native rules.native] at whole goes
  have reached := reached.trans (goes _ (challenge_can state unlocked isOpen (by omega)
    (sender.trans target.symm) (by rw [length_packetOf]; omega) whole))
  -- The server hears the digest and sends its consent.
  have waiting : Waiting site password .authenticating
      { answering rules.native setup.salt (packetOf rules.native .challenge 0 0 setup.salt) ready with
        ioThread := .running } := by
    refine ⟨rfl, secret, free, unlocked, rfl, going, isOpen, target, ?_, fun other member => ?_⟩
    · exact congrArg (· ++ [_]) operations
    · rcases List.mem_append.mp member with early | late
      · rw [log] at early
        exact waiting.only other early
      · simp at late
  obtain ⟨consenting, heard, kept, consents⟩ := @receive_proof setup server rules.native site.home
    ready.routineSeq (Sha256.sha256 (setup.salt ++ ready.password)) listening (by rw [secret, known])
  have reached := reached.snoc (.hears
    (by
      rw [← target]
      exact List.mem_append_right _ (.tail _ (.tail _ (.tail _ (.head _))))) heard)
  -- The consent arrives.
  obtain ⟨final, state, _, free, _, _, isOpen, target, sender, whole, _, log, goes⟩ :=
    @server_reaches rules setup site _ _ consenting _ _ waiting consents
      (by rw [welcome, length_packetOf]; decide) somewhere
  rw [welcome, packetOf_portable setup.native rules.native] at whole goes
  have reached := reached.trans (goes _ (welcome_can state free isOpen
    (sender.trans target.symm) (by rw [length_packetOf]; decide) whole))
  refine ⟨_, reached, rfl, kept.trans identified, fun other member => ?_⟩
  rcases List.mem_append.mp member with early | late
  · rcases List.mem_append.mp early with earlier | late
    · rw [log] at earlier
      exact waiting.only other earlier
    · simp at late
  · split at late <;> simp at late

/-- A client that is CONNECTED was given a password with the digest that the server expects, whatever
is lost, repeated or reordered on the way, and whatever strangers send to either side. -/
theorem connected_knows_password {dmrId : UInt32} {description : Bytes} {hooks : Hook → Bool}
    (reached : Reachable (Step rules setup site) (opening dmrId description hooks) w)
    (fits : setup.salt.length < 65536) (connected : w.client.state = .connected) :
    ∃ password, .accepted password ∈ w.client.log ∧
      Sha256.sha256 (setup.salt ++ password) =
        Sha256.sha256 (setup.salt ++ setup.expectedPassword) :=
  have alone := client_reachable reached
  (secure_reachable reached).connected (honest_reachable alone) (stamped_reachable alone) fits connected

/-- The values of the tests. -/
def testSetup : Setup :=
  ⟨.little, Unicode.utf8 "supersecretpassword".toList, Unicode.utf8 "saltsaltsalt".toList⟩

def testSite : Site := ⟨⟨[127, 0, 0, 1], 40000⟩, ⟨[127, 0, 0, 1], 54006⟩⟩

theorem connected_knows_password_test :
    ∃ w, Reachable (Step sampleRules testSetup testSite) (opening 268999 [] fun _ => true) w ∧
      ∃ password, .accepted password ∈ w.client.log ∧
        Sha256.sha256 (testSetup.salt ++ password) =
          Sha256.sha256 (testSetup.salt ++ testSetup.expectedPassword) := by
  obtain ⟨w, reached, connected, _⟩ := @password_connects sampleRules testSetup testSite 268999 []
    (fun _ => true) testSetup.expectedPassword (by decide +kernel) (by decide) (by decide) rfl
  exact ⟨w, reached, connected_knows_password reached (by decide +kernel) connected⟩

/-- A client that is given one password can get connected exactly if it has the digest that the server
expects. -/
theorem password_decides (dmrId : UInt32) (description : Bytes) (hooks : Hook → Bool)
    (password : Bytes) (challenge : setup.salt.length ≤ 1006) (login : description.length ≤ 1001)
    (somewhere : site.address ≠ nowhere) :
    (∃ w, Reachable (Step rules setup site) (opening dmrId description hooks) w ∧
      w.client.state = .connected ∧ ∀ other, .accepted other ∈ w.client.log → other = password) ↔
    Sha256.sha256 (setup.salt ++ password) =
      Sha256.sha256 (setup.salt ++ setup.expectedPassword) := by
  constructor
  · intro ⟨w, reached, connected, only⟩
    have alone := client_reachable reached
    obtain ⟨given, accepted, known⟩ := (secure_reachable reached).connected (honest_reachable alone)
      (stamped_reachable alone) (by omega) connected
    rw [← only given accepted]
    exact known
  · intro known
    obtain ⟨w, reached, connected, _, only⟩ :=
      password_connects dmrId description hooks password challenge login somewhere known
    exact ⟨w, reached, connected, only⟩

theorem password_decides_test :
    (∃ w, Reachable (Step sampleRules testSetup testSite) (opening 268999 [] fun _ => true) w ∧
      w.client.state = .connected ∧
      ∀ other, .accepted other ∈ w.client.log → other = testSetup.expectedPassword) :=
  (password_decides 268999 [] (fun _ => true) testSetup.expectedPassword (by decide +kernel)
    (by decide) (by decide)).mpr rfl

end

end OpenDTP.Network
