import SharedWs.InteractionMonitors
import SharedWs.ServerTask

/-!
# A proof outline for the server task

As for the managed loops: an assertion at each junction of `run_server`, and
for each stretch between two junctions one proof that it leads from the one to
the other. The way through the text of the task is taken here once.
-/
namespace ServerOutline

open InteractionPrograms InteractionMonitors InteractionMonitors.Monitor ServerTask ServerTypes

variable {M : Type}

abbrev ServerMonitor (M : Type) := Monitor (serverSignature.showing ServerVars) M

/-- An assertion about the variables of the task and the summary of its calls. -/
abbrev Assertion (M : Type) := ServerVars → M → Prop

structure Junctions (M : Type) where
  /-- At the top of each loop. -/
  standing : ServerHead → Assertion M
  /-- No shutdown was requested, and there is no listener. -/
  binding : Assertion M
  /-- The bind succeeded; the failures are not forgotten yet. -/
  bound : Assertion M
  /-- `Listening` has been announced. -/
  listening : Assertion M
  /-- The listener is of no use any more, but still held. -/
  losing : String → Assertion M
  /-- The failure that `retryAfter` has to count. -/
  failed : String → Assertion M
  /-- `Retrying` has been announced. -/
  retrying : Assertion M
  /-- Shutdown was requested while the listener is held. -/
  closing : Assertion M
  /-- Shutdown was requested, and there is no listener. -/
  leaving : Assertion M
  /-- The cause of the end is known and not stored yet. -/
  doomed : ManagedWsServerTerminalError → Assertion M
  stored : Assertion M
  terminal : Assertion M
  /-- A socket was accepted; what has been taken for it so far. -/
  incoming : Assertion M
  acquired : Assertion M
  identified : UInt64 → Assertion M
  subscribed : UInt64 → Receiver → Assertion M
  /-- The drain has taken too long. -/
  overdue : Assertion M
  /-- No connection task is left. -/
  emptied : Assertion M
  done : Assertion M

/-- The assertion that an answer selects. -/
def either (yes no : Assertion M) : Bool → Assertion M
  | true => yes
  | false => no

def orFail {α : Type} (good : α → Assertion M) (bad : String → Assertion M) :
    Except String α → Assertion M
  | .ok a => good a
  | .error error => bad error

namespace Junctions
variable (j : Junctions M)

def afterAccept (localAddr : SocketAddr) (accepted : UInt64) : AcceptArm → Assertion M
  | .shutdown => j.closing
  | .joined _ => j.standing (.accepting localAddr accepted)
  | .incoming (.error error) =>
    if isTransientAcceptError error then j.standing (.accepting localAddr accepted)
    else j.losing error.text
  | .incoming (.ok _) => j.incoming

def afterBackoff (retry : WsServerRetryPolicy) : BackoffArm → Assertion M
  | .shutdown => j.leaving
  | .elapsed => fun vars =>
    j.standing .lifecycle { vars with backoff := retry.nextBackoff vars.backoff }

def afterDrain : DrainArm → Assertion M
  | .joined _ => j.standing .draining
  | .empty => j.emptied
  | .elapsed => j.overdue

def afterJoin (thenStop : Bool) : Option Nat → Assertion M
  | some _ => j.standing (.aborting thenStop)
  | none => if thenStop then j.emptied else j.done

variable {j}

theorem afterAccept_error {localAddr : SocketAddr} {accepted : UInt64} {error : IoError}
    {vars : ServerVars} {m : M} (standing : j.standing (.accepting localAddr accepted) vars m)
    (losing : j.losing error.text vars m) :
    j.afterAccept localAddr accepted (.incoming (.error error)) vars m := by
  rw [afterAccept]
  split
  · exact standing
  · exact losing

end Junctions

structure Outline (mon : ServerMonitor M) (config : WsServerConfig) (retry : WsServerRetryPolicy)
    (faults : ServerFaults) (j : Junctions M) : Prop where
  poll : ∀ {vars m}, j.standing .lifecycle vars m →
    mon.ensures (either j.leaving j.binding) (ask .readShutdown : ServerProc Bool) vars m
  bind : ∀ {vars m}, j.binding vars m →
    mon.ensures (orFail (fun () => j.bound) j.failed)
      (ask (.bindListener config.bindAddr config.backlog) : ServerProc (Except String Unit)) vars m
  announce : ∀ {vars m}, j.bound vars m →
    mon.ensures (fun _ => j.listening) (setStatus .listening)
      (ServerVars.mk retry.initialBackoff 0 .accept) m
  locate : ∀ {vars m}, j.listening vars m →
    mon.ensures (orFail (fun addr => j.standing (.accepting addr 0)) j.losing)
      (ask .localAddr : ServerProc (Except String SocketAddr)) vars m
  lose : ∀ {failure vars m}, j.losing failure vars m →
    mon.ensures (fun _ => j.failed failure) (ask .dropListener) vars m
  exhaust : ∀ {failure vars m}, j.failed failure vars m → ∀ counted : ServerVars,
    counted = { vars with consecutiveFailures := vars.consecutiveFailures + 1 } →
    retry.isExhausted counted.consecutiveFailures = true →
    j.doomed (exhaustion config counted failure) counted m
  again : ∀ {failure vars m}, j.failed failure vars m → ∀ counted : ServerVars,
    counted = { vars with consecutiveFailures := vars.consecutiveFailures + 1 } →
    ¬ retry.isExhausted counted.consecutiveFailures = true →
    mon.ensures (fun _ => j.retrying) (setStatus .retrying) counted m
  wait : ∀ {vars m}, j.retrying vars m →
    mon.ensures (j.afterBackoff retry) (ask (.backoffSelect vars.backoff) : ServerProc BackoffArm)
      vars m
  fault : ∀ {localAddr accepted vars m}, j.standing (.accepting localAddr accepted) vars m →
    faultDue faults accepted = true →
    mon.ensures (fun _ => j.doomed (injectedFault accepted)) (ask .dropListener) vars m
  accept : ∀ {localAddr accepted vars m}, j.standing (.accepting localAddr accepted) vars m →
    mon.ensures (j.afterAccept localAddr accepted) (ask .acceptSelect : ServerProc AcceptArm) vars m
  acquire : ∀ {vars m}, j.incoming vars m → ∀ localAddr accepted,
    mon.ensures (either j.acquired (j.standing (.accepting localAddr accepted)))
      (ask (.tryAcquire config.maxConnections) : ServerProc Bool) vars m
  identify : ∀ {vars m}, j.acquired vars m →
    mon.ensures j.identified (ask .nextConnectionId : ServerProc UInt64) vars m
  subscribe : ∀ {id vars m}, j.identified id vars m →
    mon.ensures (j.subscribed id) (ask .subscribe : ServerProc Receiver) vars m
  spawn : ∀ {id receiver vars m}, j.subscribed id receiver vars m →
    ∀ localAddr peerAddr accepted,
      mon.ensures (fun _ => j.standing (.accepting localAddr accepted))
        (ask (.spawn ⟨id, peerAddr, localAddr⟩ receiver)) vars m
  close : ∀ {vars m}, j.closing vars m →
    mon.ensures (fun _ => j.leaving) (ask .dropListener) vars m
  leave : ∀ {vars m}, j.leaving vars m →
    mon.ensures (fun _ => j.standing .draining) (setStatus .shuttingDown) vars m
  store : ∀ {error vars m}, j.doomed error vars m →
    mon.ensures (fun _ => j.stored) (ask (.storeTerminal error)) vars m
  tell : ∀ {vars m}, j.stored vars m →
    mon.ensures (fun _ => j.terminal) (ask (.publish .terminal)) vars m
  abort : ∀ {vars m}, j.terminal vars m →
    mon.ensures (fun _ => j.standing (.aborting false)) (ask .abortAll) vars m
  drain : ∀ {vars m}, j.standing .draining vars m →
    mon.ensures j.afterDrain (ask (.drainNext config.shutdownTimeout) : ServerProc DrainArm) vars m
  giveUp : ∀ {vars m}, j.overdue vars m →
    mon.ensures (fun _ => j.standing (.aborting true)) (ask .abortAll) vars m
  join : ∀ {thenStop vars m}, j.standing (.aborting thenStop) vars m →
    mon.ensures (j.afterJoin thenStop) (ask .joinNext : ServerProc (Option Nat)) vars m
  stop : ∀ {vars m}, j.emptied vars m → mon.ensures (fun _ => j.done) (setStatus .stopped) vars m

theorem setStatus_quiet (status : ManagedWsServerStatus) :
    Proc.Quiet (fun _ => True) (setStatus status) := by
  have asked (op : ServerOp) : Proc.Quiet (L := ServerVars) (fun _ => True) (ask op) :=
    fun _ => ⟨⟨rfl, trivial⟩, fun _ => rfl⟩
  exact Proc.Quiet.bind (asked .readTerminal) fun _ => Proc.Quiet.ite (Proc.Quiet.pure ()) (asked _)

namespace Outline
variable {mon : ServerMonitor M} {config : WsServerConfig} {retry : WsServerRetryPolicy}
variable {faults : ServerFaults} {j : Junctions M} (o : Outline mon config retry faults j)
variable {vars : ServerVars} {m : M}
include o

theorem terminate {error : ManagedWsServerTerminalError} (doomed : j.doomed error vars m) :
    mon.ensures (Due j.standing fun _ => j.done) (ServerTask.terminate error) vars m := by
  apply mon.ensures_bind.mpr
  refine mon.ensures_seq (o.store doomed) fun _ _ _ stored => ?_
  refine mon.ensures_mono (fun _ _ _ terminal => ?_) (o.tell stored)
  exact mon.ensures_seq (o.abort terminal) fun _ _ _ aborting => aborting

theorem shutDown (leaving : j.leaving vars m) :
    mon.ensures (Due j.standing fun _ => j.done) ServerTask.shutDown vars m :=
  mon.ensures_seq (o.leave leaving) fun _ _ _ draining => draining

theorem stops (emptied : j.emptied vars m) :
    mon.ensures (Due j.standing fun _ => j.done) ServerTask.stop vars m :=
  mon.ensures_seq (o.stop emptied) fun _ _ _ done => done

theorem retryAfter {failure : String} (failed : j.failed failure vars m) :
    mon.ensures (Due j.standing fun _ => j.done) (ServerTask.retryAfter config retry failure)
      vars m := by
  apply mon.ensures_bind.mpr
  apply mon.ensures_modify.mpr
  apply mon.ensures_bind.mpr
  apply mon.ensures_get.mpr
  apply mon.ensures_ite
  · exact fun exhausted => o.terminate (o.exhaust failed _ rfl exhausted)
  · intro left
    have announced := mon.ensures_frame (setStatus_quiet .retrying) (o.again failed _ rfl left)
    refine mon.ensures_seq announced ?_
    rintro _ vars' m' ⟨rfl, retrying⟩
    refine mon.ensures_seq (o.wait retrying) fun arm vars' m' next => ?_
    cases arm with
    | shutdown => exact o.shutDown next
    | elapsed => exact next

theorem lifecycleTurn (standing : j.standing .lifecycle vars m) :
    mon.ensures (Due j.standing fun _ => j.done) (ServerTask.lifecycleTurn config retry)
      vars m := by
  refine mon.ensures_seq (o.poll standing) fun requested vars m next => ?_
  cases requested with
  | true => exact o.shutDown next
  | false =>
    refine mon.ensures_seq (o.bind next) fun result vars m next => ?_
    cases result with
    | error error => exact o.retryAfter next
    | ok =>
      apply mon.ensures_bind.mpr
      apply mon.ensures_set.mpr
      refine mon.ensures_seq (o.announce next) fun _ vars m listening => ?_
      refine mon.ensures_seq (o.locate listening) fun result vars m next => ?_
      cases result with
      | ok localAddr => exact next
      | error error => exact mon.ensures_seq (o.lose next) fun _ _ _ failed => o.retryAfter failed

theorem admitConnection (incoming : j.incoming vars m) (localAddr peerAddr : SocketAddr)
    (accepted : UInt64) :
    mon.ensures (fun _ => j.standing (.accepting localAddr accepted))
      (ServerTask.admitConnection config localAddr peerAddr) vars m := by
  refine mon.ensures_seq (o.acquire incoming localAddr accepted) fun acquired vars m next => ?_
  cases acquired with
  | false => exact next
  | true =>
    refine mon.ensures_seq (o.identify next) fun id vars m identified => ?_
    refine mon.ensures_seq (o.subscribe identified) fun receiver vars m subscribed => ?_
    exact o.spawn subscribed localAddr peerAddr accepted

theorem acceptTurn {localAddr : SocketAddr} {accepted : UInt64}
    (standing : j.standing (.accepting localAddr accepted) vars m) :
    mon.ensures (Due j.standing fun _ => j.done)
      (ServerTask.acceptTurn config retry faults localAddr accepted) vars m := by
  apply mon.ensures_ite
  · intro due
    exact mon.ensures_seq (o.fault standing due) fun _ _ _ doomed => o.terminate doomed
  · intro _
    refine mon.ensures_seq (o.accept standing) fun arm vars m next => ?_
    rcases arm with _ | task | error | peerAddr
    · exact mon.ensures_seq (o.close next) fun _ _ _ leaving => o.shutDown leaving
    · exact next
    · apply mon.ensures_ite
      · intro transient
        rw [Junctions.afterAccept, if_pos transient] at next
        exact next
      · intro fatal
        rw [Junctions.afterAccept, if_neg fatal] at next
        exact mon.ensures_seq (o.lose next) fun _ _ _ failed => o.retryAfter failed
    · exact mon.ensures_seq (o.admitConnection next localAddr peerAddr (accepted + 1))
        fun _ _ _ standing => standing

theorem drainTurn (standing : j.standing .draining vars m) :
    mon.ensures (Due j.standing fun _ => j.done) (ServerTask.drainTurn config) vars m := by
  refine mon.ensures_seq (o.drain standing) fun arm vars m next => ?_
  cases arm with
  | joined task => exact next
  | empty => exact o.stops next
  | elapsed => exact mon.ensures_seq (o.giveUp next) fun _ _ _ aborting => aborting

theorem abortTurn {thenStop : Bool} (standing : j.standing (.aborting thenStop) vars m) :
    mon.ensures (Due j.standing fun _ => j.done) (ServerTask.abortTurn thenStop) vars m := by
  refine mon.ensures_seq (o.join standing) fun task vars m next => ?_
  cases task with
  | some task => exact next
  | none =>
    cases thenStop with
    | true => exact o.stops next
    | false => exact next

/-- An outline is sound: every turn leads from its head to the next. -/
theorem turns (head : ServerHead) (vars : ServerVars) (m : M) (standing : j.standing head vars m) :
    mon.ensures (Due j.standing fun _ => j.done) (runServer config retry faults head) vars m := by
  cases head with
  | lifecycle => exact o.lifecycleTurn standing
  | accepting localAddr accepted => exact o.acceptTurn standing
  | draining => exact o.drainTurn standing
  | aborting thenStop => exact o.abortTurn standing

/-- One call of a task that owes the outline. -/
theorem fires {p q : Prog (serverSignature.showing ServerVars)
      ((ServerHead × ServerVars) ⊕ (Unit × ServerVars))} {e : ServerEvent}
    (fires : Fires (Proc.turn (runServer config retry faults)) p e q)
    (owed : mon.wp (Owes (fun c m => j.standing c.1 c.2 m) fun r m => j.done r.2 m) p m)
    (relied : mon.rely m e) :
    mon.safe m e ∧
      mon.wp (Owes (fun c m => j.standing c.1 c.2 m) fun r m => j.done r.2 m) q (mon.step m e) :=
  mon.fires_wp (fun c m standing => mon.turn_wp (o.turns c.1 c.2 m standing)) fires owed relied

end Outline
end ServerOutline
