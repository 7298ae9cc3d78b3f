import OpenDTP.Client.Composition
import OpenDTP.Client.Frames

/-! How the methods are put together around `connectionMutex_`: from `TransmitRaw`, `Disconnect` and
operations that neither synchronize nor begin or end a session. Only `Connect` is not among them.
What these parts keep inside and outside of the mutex, every handler keeps. -/

namespace OpenDTP.Client
open Common Protocol Effects Effects.Program

/-- The operations that handlers perform by themselves, outside of `TransmitRaw` and `Disconnect`. -/
def Op.isPlain : {β : Type} → Op β → Bool
  | _, .storeState value => value = .authenticating || value = .connected
  | _, .hasHook hook => hook ≠ .onDisconnected
  | _, .beginCallback callback => callback.hook ≠ .onDisconnected
  | _, .cancelTimer timer => timer = .connectTimeoutTimer
  | _, .note event =>
    match event with
    | .called _ | .inspected _ _ _ => true
    | .returned made _ => made ≠ .disconnect
    | _ => false
  | _, .lock _ | _, .unlock _ | _, .accept _ | _, .openSocket _ | _, .closeSocket | _, .startThread
  | _, .makeWorkGuard | _, .dropWorkGuard | _, .stop | _, .join | _, .takeSeq _ | _, .sendTo _ _ =>
    false
  | _, _ => true

/-- The first argument after the byte order says whether the thread is inside `connectionMutex_`. -/
inductive Framed (native : Endian) : Bool → {α : Type} → Method α → Prop where
  | ret {inside : Bool} {α : Type} (value : α) : Framed native inside (.ret value)
  | throw {inside : Bool} {α : Type} (what : String) : Framed native inside (.throw what : Method α)
  | perform {inside : Bool} {β : Type} {operation : Op β} (plain : operation.isPlain = true) :
      Framed native inside (Program.perform operation)
  | openSocket (isV6 : Bool) : Framed native true (Program.perform (.openSocket isV6))
  | transmitRaw {inside : Bool} {type : MessageType} (other : type ≠ .close) (flag : UInt16)
      (payload : Bytes) : Framed native inside (transmitRaw native type flag payload)
  | disconnect {inside : Bool} : Framed native inside (disconnect native)
  | departs {inside : Bool} : Framed native inside (publicCall native .disconnect)
  | bind {inside : Bool} {α β : Type} {program : Method α} {rest : α → Method β}
      (first : Framed native inside program) (next : ∀ value, Framed native inside (rest value)) :
      Framed native inside (program >>= rest)
  | attempt {inside : Bool} {α : Type} {program : Method α} (framed : Framed native inside program) :
      Framed native inside program.attempt
  | locked {α : Type} {scope : Method α} (framed : Framed native true scope) :
      Framed native false (locked .connectionMutex scope)

def PublicCall.connects : PublicCall → Bool
  | .connect _ _ _ _ => true
  | _ => false

namespace Framed

variable {native : Endian} {inside : Bool} {α : Type}

theorem ofOutcome (outcome : Outcome α) :
    Framed native inside (Program.ofOutcome outcome : Method α) := by
  cases outcome with
  | ok value => exact .ret value
  | error what => exact .throw what

theorem report {callback : Callback} (other : callback.hook ≠ .onDisconnected) :
    Framed native inside (report callback) := by
  refine .bind (.perform (decide_eq_true other)) fun assigned => ?_
  split
  · exact .bind (.perform (decide_eq_true other)) fun _ => .bind (.perform rfl) fun outcome =>
      ofOutcome outcome
  · exact .ret ()

theorem sendKeepAlive : Framed native inside (sendKeepAlive native) :=
  .bind (.perform rfl) fun _ => .transmitRaw (by decide) _ _

theorem startKeepAliveTimer : Framed native inside startKeepAliveTimer := by
  refine .bind (.perform rfl) fun state => ?_
  split
  · exact .ret ()
  · exact .bind (.perform rfl) fun _ => .bind (.perform rfl) fun outcome => ofOutcome outcome

theorem startReceiveLoop : Framed native inside startReceiveLoop := by
  refine .bind (.perform rfl) fun state => ?_
  split
  · exact .ret ()
  · refine .bind (.perform rfl) fun isOpen => ?_
    split
    · exact .ret ()
    · exact .perform rfl

theorem failSession (error : ClientError) (message : String) :
    Framed native inside (failSession native error message) :=
  .bind (.perform rfl) fun _ => .bind (report (by simp [Callback.hook])) fun _ => .bind .disconnect fun _ =>
    .perform rfl

/-! ### Handlers -/

theorem connectTimeoutHandler (ec : ErrorCode) :
    Framed native false (connectTimeoutHandler native ec) := by
  have handshaking : Framed native true handshaking := by
    refine .bind (.perform rfl) fun state => ?_
    split
    · exact .ret true
    · exact .bind (.perform rfl) fun state => .ret _
  unfold Client.connectTimeoutHandler
  split
  · exact .ret ()
  · refine .locked (.bind handshaking fun waiting => ?_)
    split
    · exact failSession _ _
    · exact .ret ()

theorem resolveHandler (ec : ErrorCode) (endpoints : List Endpoint) :
    Framed native false (resolveHandler native ec endpoints) := by
  refine .locked (.bind (.perform rfl) fun state => ?_)
  split
  · exact .ret ()
  · split
    · exact failSession _ _
    · refine .bind (.perform rfl) fun _ => .bind (.openSocket _) fun openEc => ?_
      split
      · exact failSession _ _
      · refine .bind (.perform rfl) fun bindEc => ?_
        split
        · exact failSession _ _
        · exact .bind startReceiveLoop fun _ => sendKeepAlive

theorem keepAliveHandler (ec : ErrorCode) : Framed native inside (keepAliveHandler native ec) := by
  unfold Client.keepAliveHandler
  split
  · exact .ret ()
  · refine .bind (.perform rfl) fun state => ?_
    split
    · exact .ret ()
    · exact .bind sendKeepAlive fun _ => startKeepAliveTimer

theorem processPacket (packet : Bytes) : Framed native false (processPacket native packet) := by
  unfold Client.processPacket
  split
  · exact .ret ()
  · split
    · exact .ret ()
    · split
      · refine .bind (.perform rfl) fun state => ?_
        split
        · exact .bind (.perform rfl) fun _ => .bind (.perform rfl) fun password =>
            .transmitRaw (by decide) _ _
        · exact .ret ()
      · split
        · split
          · refine .bind (.perform rfl) fun state => ?_
            split
            · exact .bind (.perform rfl) fun _ => .bind (.perform rfl) fun _ =>
                .bind startKeepAliveTimer fun _ => .bind (.locked (.perform rfl)) fun _ =>
                report (by simp [Callback.hook])
            · exact .ret ()
          · exact .ret ()
        · dsimp only
          split
          · exact .ret ()
          · next delivers => exact report (deliver_other delivers).1

theorem handleReceive (ec : ErrorCode) (bytesTransferred : Nat) :
    Framed native false (handleReceive native ec bytesTransferred) := by
  refine .bind (.perform rfl) fun state => ?_
  split
  · exact .ret ()
  · split
    · split
      · exact .bind (.perform rfl) fun _ => .bind (report (by simp [Callback.hook])) fun _ => .disconnect
      · exact .ret ()
    · split
      · refine .bind (.perform rfl) fun sender => .bind (.perform rfl) fun server =>
          .bind (.perform rfl) fun packet => .bind (.perform rfl) fun _ => ?_
        split
        · exact .bind (processPacket packet) fun _ => startReceiveLoop
        · exact startReceiveLoop
      · exact startReceiveLoop

theorem handler (kind : Kind) (completion : Completion) :
    Framed native false (handler native kind completion) := by
  cases kind with
  | connectTimeout => exact connectTimeoutHandler _
  | resolve => exact resolveHandler _ _
  | receive => exact handleReceive _ _
  | keepAlive => exact keepAliveHandler _

/-! ### Public methods -/

theorem awaitConnection : Framed native false awaitConnection := by
  have settled : Framed native true settled := by
    refine .bind (.perform rfl) fun state => ?_
    split
    · exact .ret true
    · exact .bind (.perform rfl) fun state => .ret _
  refine .locked (.bind settled fun holds => ?_)
  split
  · refine .bind (.perform rfl) fun state => ?_
    split
    · exact .bind (.perform rfl) fun lastError => .ret _
    · exact .ret _
  · exact .ret _

theorem whenConnected {body : Method Unit} (framed : Framed native inside body) :
    Framed native inside (whenConnected body) := by
  refine .bind (.perform rfl) fun state => ?_
  split
  · exact .ret ()
  · exact framed

theorem whenInCall {body : Method Unit} (framed : Framed native inside body) :
    Framed native inside (whenInCall body) := by
  refine whenConnected (.bind (.perform rfl) fun inCall => ?_)
  split
  · exact .ret ()
  · exact framed

theorem method {made : PublicCall} (other : made.connects = false) :
    Framed native inside (method native made) := by
  have sends {type : MessageType} (other : type ≠ .close) (flag : UInt16) (payload : Bytes) :
      Framed native inside (Client.transmitRaw native type flag payload) := .transmitRaw other _ _
  cases made with
  | connect => cases other
  | disconnect => exact .bind .disconnect fun _ => .ret _
  | subscribe talkgroup => exact .bind (whenConnected (sends (by decide) _ _)) fun _ => .ret _
  | unsubscribe talkgroup => exact .bind (whenConnected (sends (by decide) _ _)) fun _ => .ret _
  | startVoiceCall sourceId destinationId isGroup =>
    exact .bind (whenConnected (.bind (.perform rfl) fun _ => .bind (.perform rfl) fun _ =>
      .bind (sends (by decide) _ _) fun _ => .bind (sends (by decide) _ _) fun _ =>
      sends (by decide) _ _)) fun _ => .ret _
  | sendAudioFrame ambeData => exact .bind (whenInCall (sends (by decide) _ _)) fun _ => .ret _
  | endVoiceCall =>
    exact .bind (whenInCall (.bind (sends (by decide) _ _) fun _ => .perform rfl)) fun _ => .ret _
  | sendTextMessage destinationId isGroup text =>
    exact .bind (whenConnected (.bind (.perform rfl) fun _ => sends (by decide) _ _)) fun _ =>
      .ret _
  | sendLocationReport nmeaSentence =>
    exact .bind (whenConnected (sends (by decide) _ _)) fun _ => .ret _

theorem publicCall {made : PublicCall} (other : made.connects = false) :
    Framed native inside (publicCall native made) := by
  by_cases ends : made = .disconnect
  · subst ends
    exact .departs
  · exact .bind (.perform rfl) fun _ => .bind (method other) fun _ =>
      .bind (.perform (decide_eq_true ends)) fun _ => .ret _

/-- What the parts keep, inside and outside of `connectionMutex_`, the whole keeps. -/
theorem stays {π : Type} {transformer : Transformer Op π} (within : Bool → π → Prop)
    (plain : ∀ {inside : Bool} {β : Type} {operation : Op β}, operation.isPlain = true →
      Steady transformer (within inside) operation)
    (opens : ∀ isV6, Steady transformer (within true) (.openSocket isV6))
    (transmits : ∀ {inside : Bool} {type : MessageType}, type ≠ .close →
      ∀ (flag : UInt16) (payload : Bytes),
        (Client.transmitRaw native type flag payload).Stays transformer (within inside))
    (disconnects : ∀ inside, (Client.disconnect native).Stays transformer (within inside))
    (departs : ∀ inside, (Client.publicCall native .disconnect).Stays transformer (within inside))
    (locks : ∀ {α : Type} {scope : Method α}, scope.Stays transformer (within true) →
      (Client.locked .connectionMutex scope).Stays transformer (within false))
    {program : Method α} (framed : Framed native inside program) :
    program.Stays transformer (within inside) := by
  induction framed with
  | ret value => exact .ret value
  | throw what => exact .throw what
  | perform operation => exact .perform (plain operation)
  | openSocket isV6 => exact .perform (opens isV6)
  | transmitRaw other flag payload => exact transmits other flag payload
  | disconnect => exact disconnects _
  | departs => exact departs _
  | bind _ _ firstIh nextIh => exact .bind firstIh nextIh
  | attempt _ ih => exact .attempt ih
  | locked _ ih => exact locks ih

end Framed

end OpenDTP.Client
