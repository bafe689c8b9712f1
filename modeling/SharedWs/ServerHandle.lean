import SharedWs.InteractionPrograms
import SharedWs.ServerTypes

/-!
# Calls through a `ManagedWsServerHandle`

`dispatch` and `wait_for_status` of `ws/server/handle.rs`, with one call for
each access to what the handle shares with the server. The handle keeps that
state alive, so the status channel is never closed under a waiting caller; the
branch for it is translated all the same.
-/
namespace ServerHandle

open InteractionPrograms ServerTypes WsTypes

/-- What waiting for a status change under the timeout ends with. -/
inductive ChangeArm where
  | changed
  | closed
  | elapsed
  deriving DecidableEq

inductive HandleOp (Command : Type) where
  | readTerminal
  | statusSnapshot
  | borrowAndUpdate
  | changed (timeout : Duration)
  | send (command : Command)

def HandleOp.Res {Command : Type} : HandleOp Command → Type
  | .readTerminal => Option ManagedWsServerTerminalError
  | .statusSnapshot => ManagedWsServerStatus
  | .borrowAndUpdate => ManagedWsServerStatus
  | .changed _ => ChangeArm
  | .send _ => Except Unit Nat

def handleSignature (Command : Type) : Signature where
  Op := HandleOp Command
  Res := HandleOp.Res

abbrev HandleEvent (Command : Type) := Event (handleSignature Command)

inductive HandleCall (Command : Type) where
  | dispatch (command : Command)
  | waitForStatus (expected : ManagedWsServerStatus) (timeout : Duration)
  deriving DecidableEq

inductive HandleResult where
  | dispatched (result : Except ManagedWsServerDispatchError Nat)
  | waited (result : Except ManagedWsServerStatusError Unit)

abbrev HandleStep (Command α : Type) := Prog (handleSignature Command) α

variable {Command : Type}

def access (op : HandleOp Command) : HandleStep Command op.Res :=
  Prog.call (S := handleSignature Command) op .ret

def dispatch (command : Command) :
    HandleStep Command (Except ManagedWsServerDispatchError Nat) := do
  match ← access .readTerminal with
  | some error => pure (.error (.terminated error))
  | none =>
    match ← access .statusSnapshot with
    | .shuttingDown | .stopped => pure (.error .stopped)
    | .terminal =>
      match ← access .readTerminal with
      | some error => pure (.error (.terminated error))
      | none => pure (.error .stopped)
    | .starting | .retrying | .listening =>
      match ← access (.send command) with
      | .ok delivered => pure (.ok delivered)
      -- nobody is subscribed
      | .error () => pure (.ok 0)

/-- One turn of the loop of `wait_for_status`: a result, or another turn. -/
def waitTurn (expected : ManagedWsServerStatus) (timeout : Duration) :
    HandleStep Command (Option (Except ManagedWsServerStatusError Unit)) := do
  let current : ManagedWsServerStatus ← access .borrowAndUpdate
  if current = expected then
    pure (some (.ok ()))
  else if current.isFinal then
    pure (some (.error (.settled expected current)))
  else
    match ← access (.changed timeout) with
    | .changed => pure none
    | .closed => pure (some (.error (.settled expected current)))
    | .elapsed =>
      let last ← access .statusSnapshot
      pure (some (.error (.timeout expected last timeout)))

/-- A call in progress is at its start or at the top of its loop. -/
def runCall : HandleCall Command → HandleStep Command (HandleCall Command ⊕ HandleResult)
  | .dispatch command => do
    let result ← dispatch command
    pure (.inr (.dispatched result))
  | .waitForStatus expected timeout => do
    match ← waitTurn expected timeout with
    | none => pure (.inl (.waitForStatus expected timeout))
    | some result => pure (.inr (.waited result))

end ServerHandle
