import OpenDTP.Client.Sequential

/-! Steps by execution: a label and the decisions of the environment determine the next client, so
a script of them can be run. -/

namespace OpenDTP.Client
open Common Protocol Effects

/-- What the environment answers at each operation of one step. -/
abbrev Weather := (β : Type) → Op β → Answer

/-- Everything succeeds. -/
def fair : Weather := fun _ _ => {}

/-- The operations before and after the first occurrence of one. -/
def takeFirst (operation : Outstanding) :
    List Outstanding → Option (List Outstanding × List Outstanding)
  | [] => none
  | head :: tail =>
    if head = operation then some ([], tail)
    else
      match takeFirst operation tail with
      | none => none
      | some (before, rest) => some (head :: before, rest)

theorem takeFirst_eq {operation : Outstanding} {operations before rest : List Outstanding}
    (taken : takeFirst operation operations = some (before, rest)) :
    operations = before ++ operation :: rest := by
  induction operations generalizing before with
  | nil => cases taken
  | cons head tail ih =>
    unfold takeFirst at taken
    split at taken
    · next same =>
      cases taken
      rw [same]
      rfl
    · split at taken
      · cases taken
      · next first last found =>
        cases taken
        rw [ih found]
        rfl

section

variable (rules : Rules) (weather : Weather)

def advance (c : Client) : Label → Option Client
  | .call id call =>
    if c.waits id = .outside then
      match (publicCall rules.native call).run (semantics rules.policy (.app id)) (weather _) c with
      | some (_, after) => some after
      | none => none
    else none
  | .connectSync id host port password timeoutMs =>
    if c.waits id = .outside then
      match (publicCall rules.native (.connect host port password timeoutMs)).run
        (semantics rules.policy (.app id)) (weather _) c with
      | some (outcome, after) => some (entering id outcome after)
      | none => none
    else none
  | .awaits id =>
    if c.waits id = .checking then
      match awaitConnection.run (semantics rules.policy (.app id)) (weather _) c with
      | some (.ok result, after) => some (awaited id result after)
      | _ => none
    else none
  | .handles operation =>
    match takeFirst operation c.operations, operation.completion with
    | some (before, rest), some completion =>
      if c.ioThread = .running ∧ c.stopped = false then
        match (handler rules.native operation.kind completion).run (semantics rules.policy .io)
          (weather _) (dequeued before rest c) with
        | some (outcome, after) => some (resting outcome after)
        | none => none
      else none
    | _, _ => none
  | .completes operation completion =>
    match takeFirst operation c.operations with
    | some (before, rest) =>
      if operation.completion = none ∧ completion.ec ≠ .operationAborted ∧
          (operation.kind = .receive → completion.ec ≠ .success) then
        some (completed before operation rest completion c)
      else none
    | none => none
  | .arrives operation sender data =>
    match takeFirst operation c.operations with
    | some (before, rest) =>
      if operation.completion = none ∧ operation.kind = .receive ∧ data.length ≤ 1024 then
        some (filled sender data
          (completed before operation rest { bytesTransferred := data.length } c))
      else none
    | none => none
  | .leaves =>
    if c.ioThread = .running ∧ c.runReturns = true then
      some { c with ioThread := .exited, stopped := true }
    else none

theorem advance_step {c after : Client} {label : Label}
    (advanced : advance rules weather c label = some after) : Step rules c label after := by
  cases label with
  | call id call =>
    simp only [advance] at advanced
    split at advanced
    · next free =>
      split at advanced
      · next outcome final ran =>
        cases advanced
        exact .call free (Program.run_exec _ _ ran)
      · cases advanced
    · cases advanced
  | connectSync id host port password timeoutMs =>
    simp only [advance] at advanced
    split at advanced
    · next free =>
      split at advanced
      · next outcome final ran =>
        cases advanced
        exact .connectSync free (Program.run_exec _ _ ran)
      · cases advanced
    · cases advanced
  | awaits id =>
    simp only [advance] at advanced
    split at advanced
    · next checking =>
      split at advanced
      · next result final ran =>
        cases advanced
        exact .awaits checking (Program.run_exec _ _ ran)
      · cases advanced
    · cases advanced
  | handles operation =>
    simp only [advance] at advanced
    split at advanced
    · next before rest completion taken queued =>
      split at advanced
      · next ready =>
        split at advanced
        · next outcome final ran =>
          cases advanced
          exact .handles (takeFirst_eq taken) queued ready.1 ready.2 (Program.run_exec _ _ ran)
        · cases advanced
      · cases advanced
    · cases advanced
  | completes operation completion =>
    simp only [advance] at advanced
    split at advanced
    · next before rest taken =>
      split at advanced
      · next possible =>
        cases advanced
        exact .completes (takeFirst_eq taken) possible.1 possible.2.1 possible.2.2
      · cases advanced
    · cases advanced
  | arrives operation sender data =>
    simp only [advance] at advanced
    split at advanced
    · next before rest taken =>
      split at advanced
      · next possible =>
        cases advanced
        exact .arrives (takeFirst_eq taken) possible.1 possible.2.1 possible.2.2
      · cases advanced
    · cases advanced
  | leaves =>
    simp only [advance] at advanced
    split at advanced
    · next ready =>
      cases advanced
      exact .leaves ready.1 ready.2
    · cases advanced

end

/-- A script that can be run to its end gives a run with what is checked of it. -/
theorem replay_checked (rules : Rules) (first : Client) (script : List (Weather × Label))
    (check : List (Transition Client Label) → Client → Bool)
    (passes : (play (fun c (entry : Weather × Label) => advance rules entry.1 c entry.2) Prod.snd []
      first script).any (fun result => check result.1 result.2) = true) :
    ∃ transitions last, Effects.Run (Step rules) first transitions last ∧
      check transitions last = true :=
  play_checked (fun _ entry _ advanced => advance_step rules entry.1 advanced) script check passes

/-! A little-endian host, callbacks that neither call nor throw, and a client without hooks. -/

def sampleRules : Rules where
  native := .little
  policy := { startupThrows := false, throws := fun _ => false }
  nests := fun _ _ => False

theorem sampleRules_plain : sampleRules.Plain := fun _ _ nested => nested

def sampleClient : Client := fresh 1234567 [] (fun _ => false)

/-- A client with all hooks assigned. -/
def attentive : Client := fresh 1234567 [] (fun _ => true)

def sampleServer : Endpoint := ⟨[192, 0, 2, 1], 54006⟩

/-- A handshake that times out: the timer fires and its handler ends the session. -/
def timeoutScript : List (Weather × Label) :=
  [(fair, .call 0 (.connect "master" 54006 [] 1000)),
    (fair, .completes ⟨.connectTimeout, 1, none⟩ {}),
    (fair, .handles ⟨.connectTimeout, 1, some {}⟩)]

/-- A server that challenges with an empty salt and acknowledges the answer. -/
def handshakeScript : List (Weather × Label) :=
  let challenge := packetOf .little .challenge MessageFlag.none 0 []
  let acknowledgement := packetOf .little .keepAlive MessageFlag.none 1 []
  [(fair, .call 0 (.connect "master" 54006 [0x70] 1000)),
    (fair, .completes ⟨.resolve, 1, none⟩ { endpoints := [sampleServer] }),
    (fair, .handles ⟨.resolve, 1, some { endpoints := [sampleServer] }⟩),
    (fair, .arrives ⟨.receive, 1, none⟩ sampleServer challenge),
    (fair, .handles ⟨.receive, 1, some { bytesTransferred := 18 }⟩),
    (fair, .arrives ⟨.receive, 1, none⟩ sampleServer acknowledgement),
    (fair, .handles ⟨.receive, 1, some { bytesTransferred := 18 }⟩)]

end OpenDTP.Client
