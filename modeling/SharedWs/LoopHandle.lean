import SharedWs.HookedLoop

/-!
# The handle of a managed loop

`ManagedWsLoopHandle` owns the join handle of the loop task in an `Option`.
Whoever takes it out has to see to the task: dropping a join handle detaches the
task and leaves it running. The handle is run here next to a task that may do
anything, also never finish. A task that panics is left out; it would be over, and
the handle does not tell it from one that has returned.
-/
namespace LoopHandle

open InteractionPrograms InteractionMonitors WsFrames WsTypes ManagedOps ManagedLoop HookedLoop

/-- The right to wait for the loop task or to stop it. -/
structure JoinHandle where

/-- What the two functions below use of the handle. -/
structure ManagedWsLoopHandle where
  loopHandle : Option JoinHandle

/-- How `tokio::time::timeout` around a join handle ends. The source looks no further: the join
error of a task that has panicked counts as joined, and the answer is `Ok`. -/
inductive JoinOutcome where
  | joined
  | elapsed
  deriving DecidableEq

inductive HandleOp where
  /-- `cmd_tx.send(ManagedWsCommand::Shutdown)`; the error is its text. -/
  | sendShutdown
  | joinWithin (timeout : Duration)
  | abort
  /-- A join handle is dropped. -/
  | detach

@[reducible] def HandleOp.Res : HandleOp → Type
  | .sendShutdown => Except String Unit
  | .joinWithin _ => JoinOutcome
  | .abort | .detach => Unit

def handleSignature : Signature := ⟨HandleOp, HandleOp.Res⟩

abbrev Handling := Proc handleSignature ManagedWsLoopHandle

abbrev HandleEvent := Event (handleSignature.showing ManagedWsLoopHandle)

def request (op : HandleOp) : Handling op.Res := Proc.call (S := handleSignature) op

/-- `self.loop_handle.take()`. -/
def takeLoopHandle : Handling (Option JoinHandle) := do
  let handle ← get
  set { handle with loopHandle := none }
  pure handle.loopHandle

def drop : Handling Unit := do
  let _ ← request .sendShutdown
  match ← takeLoopHandle with
  | none => pure ()
  | some _ =>
    request .abort
    request .detach

def asMillis (d : Duration) : Nat := d / 1000000

/-- The handle is consumed, so every way out drops it. The timeout owns the join
handle: it has used it up when the task is joined and drops it when it elapses. -/
def shutdownWithTimeout (timeout : Duration) : Handling (Except String Unit) := do
  match ← request .sendShutdown with
  | .error err =>
    drop
    pure (.error ("failed to enqueue websocket shutdown: " ++ err))
  | .ok () =>
    match ← takeLoopHandle with
    | none =>
      drop
      pure (.ok ())
    | some _ =>
      match ← request (.joinWithin timeout) with
      | .joined =>
        drop
        pure (.ok ())
      | .elapsed =>
        request .detach
        drop
        pure (.error
          ("websocket loop did not stop within " ++ toString (asMillis timeout) ++ " ms"))

/-- The ways to consume a handle. -/
inductive Way where
  | dropped
  | shutdown (timeout : Duration)

def consume : Way → Handling (Except String Unit)
  | .dropped => do
    drop
    pure (.ok ())
  | .shutdown timeout => shutdownWithTimeout timeout

section Custody
variable {S : Signature.{0}} {C R : Type}

/-- The loop task, whether it was stopped and still has its receiver, and what
the owner of the handle has left to do. -/
structure Owned (S : Signature.{0}) (C R : Type) where
  task : Prog S (C ⊕ R)
  aborted : Bool
  receiving : Bool
  owner : Prog (handleSignature.showing ManagedWsLoopHandle)
    (Except String Unit × ManagedWsLoopHandle)

namespace Owned

/-- A task that has just been spawned, with a handle that is consumed this way. -/
def spawned (task : Prog S (C ⊕ R)) (way : Way) : Owned S C R :=
  ⟨task, false, true, consume way ⟨some ⟨⟩⟩⟩

def Finished (s : Owned S C R) : Prop := ∃ r, s.task = .ret (.inr r)

/-- The task makes no further step. -/
def Over (s : Owned S C R) : Prop := s.aborted = true ∨ s.Finished

/-- The handle has been consumed and its owner goes on without it. -/
def Gone (s : Owned S C R) : Prop := ∃ result, s.owner = .ret result

/-- What tokio answers. A send fails if the receiver is gone, a join comes back
when the task is over, and the timeout may elapse at any time. -/
def Grants (s : Owned S C R) : (op : HandleOp) → op.Res → Prop
  | .sendShutdown, .ok () => s.receiving = true
  | .sendShutdown, .error _ => s.receiving = false
  | .joinWithin _, .joined => s.Over
  | .joinWithin _, .elapsed => True
  | .abort, () | .detach, () => True

def after (s : Owned S C R) : HandleOp → Owned S C R
  | .abort => { s with aborted := true }
  | .sendShutdown | .joinWithin _ | .detach => s

end Owned

variable (body : C → Prog S (C ⊕ R))

/-- The task and the owner of its handle, in any interleaving. -/
inductive Custody : Owned S C R → List HandleEvent → Owned S C R → Prop
  | here (s : Owned S C R) : Custody s [] s
  | task {s s' : Owned S C R} {e : Event S} {q : Prog S (C ⊕ R)} {t : List HandleEvent}
      (live : s.aborted = false) (fires : Fires body s.task e q)
      (rest : Custody { s with task := q } t s') : Custody s t s'
  | hangsUp {s s' : Owned S C R} {t : List HandleEvent}
      (rest : Custody { s with receiving := false } t s') : Custody s t s'
  | owner {s s' : Owned S C R} {l : ManagedWsLoopHandle} {op : HandleOp} {ans : op.Res}
      {next : op.Res → Prog (handleSignature.showing ManagedWsLoopHandle)
        (Except String Unit × ManagedWsLoopHandle)} {t : List HandleEvent}
      (calls : s.owner = .call (l, op) next) (granted : s.Grants op ans)
      (rest : Custody { s.after op with owner := next ans } t s') :
      Custody s (⟨(l, op), ans⟩ :: t) s'

/-- The wait for the task was given up. -/
def Elapses : HandleEvent → Prop
  | ⟨(_, .joinWithin _), .elapsed⟩ => True
  | _ => False

/-- What the owner has done, seen from its calls alone. -/
structure Record where
  stopped : Bool
  joined : Bool
  elapsed : Bool

def Record.after (m : Record) : HandleEvent → Record
  | ⟨(_, .joinWithin _), .joined⟩ => { m with joined := true }
  | ⟨(_, .joinWithin _), .elapsed⟩ => { m with elapsed := true }
  | ⟨(_, .abort), _⟩ => { m with stopped := true }
  | _ => m

def record : Monitor (handleSignature.showing ManagedWsLoopHandle) Record where
  step := Record.after
  rely := fun _ _ => True
  safe := fun _ _ => True

/-- A handle that is gone has stopped its task, waited for it or given up on it,
and it never did two of these. -/
structure Settled (m : Record) : Prop where
  done : m.stopped = true ∨ m.joined = true ∨ m.elapsed = true
  once : m.stopped = true → m.elapsed = false

theorem request_then (op : HandleOp) {α : Type} {f : op.Res → Handling α}
    {post : α → ManagedWsLoopHandle → Record → Prop} {l : ManagedWsLoopHandle} {m : Record}
    (rest : ∀ ans, record.ensures post (f ans) l (m.after ⟨(l, op), ans⟩)) :
    record.ensures post (request op >>= f) l m :=
  record.ensures_bind.mpr fun ans _ => ⟨trivial, rest ans⟩

theorem take_then {α : Type} {f : Option JoinHandle → Handling α}
    {post : α → ManagedWsLoopHandle → Record → Prop} {l : ManagedWsLoopHandle} {m : Record}
    (rest : record.ensures post (f l.loopHandle) ⟨none⟩ m) :
    record.ensures post (takeLoopHandle >>= f) l m :=
  rest

/-- Dropping the handle stops the task if the join handle is still in it. -/
theorem drop_settles {l : ManagedWsLoopHandle} {m : Record}
    (settled : Settled { m with stopped := m.stopped || l.loopHandle.isSome })
    (result : Except String Unit) :
    record.ensures (fun _ _ m => Settled m) (do drop; pure result) l m := by
  refine record.ensures_bind.mpr (request_then _ fun sent => ?_)
  refine take_then ?_
  cases here : l.loopHandle with
  | none =>
    rw [here, Option.isSome_none, Bool.or_false] at settled
    exact settled
  | some joinHandle =>
    rw [here, Option.isSome_some, Bool.or_true] at settled
    refine request_then .abort fun _ => ?_
    exact fun _ _ => ⟨trivial, settled⟩

theorem consume_settles (way : Way) :
    record.ensures (fun _ _ m => Settled m) (consume way) ⟨some ⟨⟩⟩ ⟨false, false, false⟩ := by
  cases way with
  | dropped => exact drop_settles ⟨Or.inl rfl, fun _ => rfl⟩ _
  | shutdown timeout =>
    refine request_then .sendShutdown fun sent => ?_
    cases sent with
    | error err => exact drop_settles ⟨Or.inl rfl, fun _ => rfl⟩ _
    | ok _ =>
      refine take_then (request_then (.joinWithin timeout) fun outcome => ?_)
      cases outcome with
      | joined => exact drop_settles ⟨Or.inr (Or.inl rfl), fun _ => rfl⟩ _
      | elapsed =>
        refine request_then .detach fun _ => drop_settles ⟨Or.inr (Or.inr rfl), ?_⟩ _
        intro (kept : false = true)
        cases kept

/-- The record is right about the task, and the rest of the owner's code settles it. -/
structure Kept (s : Owned S C R) (m : Record) : Prop where
  stopped : s.aborted = m.stopped
  joined : m.joined = true → s.Over
  settles : record.wp (fun _ m => Settled m) s.owner m

variable {body}

/-- A task that is over stays over. -/
theorem over_stays {s : Owned S C R} {e : Event S} {q : Prog S (C ⊕ R)}
    (live : s.aborted = false) (fires : Fires body s.task e q) : ¬ s.Over := by
  rintro (aborted | ⟨r, finished⟩)
  · cases live.symm.trans aborted
  · rw [finished] at fires
    exact not_fires_result fires

/-- While its owner waits the task runs on. -/
theorem Custody.along {s s' : Owned S C R} {q : Prog S (C ⊕ R)} {u : List (Event S)}
    {t : List HandleEvent} (reaches : Reaches body s.task u q) (live : s.aborted = false)
    (rest : Custody body { s with task := q } t s') : Custody body s t s' := by
  generalize start : s.task = p at reaches
  induction reaches generalizing s with
  | here =>
    subst start
    exact rest
  | step first _ ih =>
    subst start
    exact .task live first (ih live rest rfl)

theorem Kept.calls {s : Owned S C R} {m : Record} (kept : Kept s m) {l : ManagedWsLoopHandle}
    {op : HandleOp} {ans : op.Res}
    {next : op.Res → Prog (handleSignature.showing ManagedWsLoopHandle)
      (Except String Unit × ManagedWsLoopHandle)}
    (calls : s.owner = .call (l, op) next) (granted : s.Grants op ans) :
    Kept { s.after op with owner := next ans } (m.after ⟨(l, op), ans⟩) := by
  have settles := kept.settles
  rw [calls] at settles
  have rest := (settles ans trivial).2
  match op, ans with
  | .sendShutdown, _ => exact ⟨kept.stopped, kept.joined, rest⟩
  | .joinWithin _, .joined => exact ⟨kept.stopped, fun _ => granted, rest⟩
  | .joinWithin _, .elapsed => exact ⟨kept.stopped, kept.joined, rest⟩
  | .abort, () => exact ⟨rfl, fun _ => Or.inl rfl, rest⟩
  | .detach, () => exact ⟨kept.stopped, kept.joined, rest⟩

theorem Custody.kept {s s' : Owned S C R} {t : List HandleEvent} (run : Custody body s t s')
    {m : Record} (kept : Kept s m) : Kept s' (record.run m t) := by
  induction run generalizing m with
  | here => exact kept
  | task live fires _ ih =>
    refine ih ⟨kept.stopped, fun joined => ?_, kept.settles⟩
    exact absurd (kept.joined joined) (over_stays live fires)
  | hangsUp _ ih => exact ih ⟨kept.stopped, kept.joined, kept.settles⟩
  | owner calls granted _ ih => exact ih (kept.calls calls granted)

theorem record_elapsed (t : List HandleEvent) (m : Record) :
    (record.run m t).elapsed = true ↔ m.elapsed = true ∨ ∃ e ∈ t, Elapses e := by
  induction t generalizing m with
  | nil => simp
  | cons e t ih =>
    have one : (m.after e).elapsed = true ↔ m.elapsed = true ∨ Elapses e := by
      rw [Record.after.eq_def]
      split <;> simp_all [Elapses]
    rw [Monitor.run_cons, ih]
    change (m.after e).elapsed = true ∨ _ ↔ _
    simp only [one, List.mem_cons, exists_eq_or_imp, or_assoc]

/-- When the handle is gone the loop task is over, except that a shutdown whose
timeout has elapsed leaves a task that has not finished on its own running. -/
theorem over_when_gone_iff (task : Prog S (C ⊕ R)) (way : Way) {t : List HandleEvent}
    {s : Owned S C R} (run : Custody body (.spawned task way) t s) (gone : s.Gone) :
    s.Over ↔ (∀ e ∈ t, ¬ Elapses e) ∨ s.Finished := by
  have start : Kept (.spawned task way : Owned S C R) ⟨false, false, false⟩ :=
    ⟨rfl, nofun, consume_settles way⟩
  have kept := run.kept start
  obtain ⟨result, returned⟩ := gone
  have settled : Settled (record.run ⟨false, false, false⟩ t) := by
    have settles := kept.settles
    rwa [returned] at settles
  have elapsed := record_elapsed t ⟨false, false, false⟩
  constructor
  · rintro (aborted | finished)
    · refine Or.inl fun e listed elapses => ?_
      have gaveUp := elapsed.mpr (Or.inr ⟨e, listed, elapses⟩)
      cases (settled.once (kept.stopped.symm.trans aborted)).symm.trans gaveUp
    · exact Or.inr finished
  · rintro (waited | finished)
    · rcases settled.done with stopped | joined | gaveUp
      · exact Or.inl (kept.stopped.trans stopped)
      · exact kept.joined joined
      · rcases elapsed.mp gaveUp with impossible | ⟨e, listed, elapses⟩
        · cases impossible
        · exact absurd elapses (waited e listed)
    · exact Or.inr finished

end Custody

abbrev Client :=
  Owned ((managedSignature bareEndpoint).showing (Locals bareEndpoint))
    (Head × Locals bareEndpoint) (Unit × Locals bareEndpoint)

def plainLoop : Head → Managed bareEndpoint Flow := managedLoop "ws://peer" .plain

def newLoop (way : Way) : Client := .spawned (.ret (.inl (.connect, Locals.initial))) way

theorem dropped_loop_over :
    ∃ (t : List HandleEvent) (s : Client),
      Custody (Proc.turn plainLoop) (newLoop .dropped) t s ∧ s.Gone ∧ s.Over := by
  have run : Custody (Proc.turn plainLoop) (newLoop .dropped) _ _ :=
    @Custody.owner _ _ _ _ _ _ _ .sendShutdown (.ok ()) _ _ rfl rfl
      (@Custody.owner _ _ _ _ _ _ _ .abort () _ _ rfl trivial
      (@Custody.owner _ _ _ _ _ _ _ .detach () _ _ rfl trivial (.here _)))
  refine ⟨_, _, run, ⟨_, rfl⟩, ?_⟩
  refine (over_when_gone_iff _ _ run ⟨_, rfl⟩).mpr (Or.inl ?_)
  simp [Elapses]

/-- The loop has stored its status and called `connect`, which never comes back. -/
theorem timed_out_loop_runs :
    ∃ (t : List HandleEvent) (s : Client),
      Custody (Proc.turn plainLoop) (newLoop (.shutdown (1000000 : Nat))) t s ∧ s.Gone ∧
        ¬ s.Over := by
  have run : Custody (Proc.turn plainLoop) (newLoop (.shutdown (1000000 : Nat))) _ _ :=
    .along (trial_run plainLoop (fun _ => bareAnswer) 1) rfl
      (@Custody.owner _ _ _ _ _ _ _ .sendShutdown (.ok ()) _ _ rfl rfl
      (@Custody.owner _ _ _ _ _ _ _ (.joinWithin (1000000 : Nat)) .elapsed _ _ rfl trivial
      (@Custody.owner _ _ _ _ _ _ _ .detach () _ _ rfl trivial
      (@Custody.owner _ _ _ _ _ _ _ .sendShutdown (.ok ()) _ _ rfl rfl (.here _)))))
  refine ⟨_, _, run, ⟨_, rfl⟩, ?_⟩
  rintro (aborted | ⟨r, finished⟩)
  · cases aborted
  · cases finished

end LoopHandle
