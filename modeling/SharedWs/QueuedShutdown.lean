import SharedWs.InteractionChannels
import SharedWs.ReconnectCourse

/-!
# A shutdown that waits in the command channel

The loops together with `cmd_rx`. A wait with a delay polls the channel and its
timer in one `select!`, which takes the branches in an arbitrary order: when the
channel answers it, a shutdown that is already in front ends the loop. When the
timer answers it, or when there is no delay and nothing is polled, the loop
connects again.
-/
namespace QueuedShutdown

open InteractionPrograms InteractionMonitors InteractionProgress InteractionChannels WsFrames
open WsTypes ManagedOps ManagedLoop HookedLoop LoopOutline ManagedBlocks ClientLifecycle
open ClientObligations
open ReconnectCourse (Course course courseOf courseOf_snoc course_run moves_of_permitted)

variable {E : Endpoint}

/-- `none` inside is the closed channel. -/
def received : ManagedEvent E → Option (Option (ManagedWsCommand E.Subscription))
  | ⟨(_, .select), ⟨_, .command command⟩⟩ => some command
  | ⟨(_, .selectWithPing), ⟨_, some (.command command)⟩⟩ => some command
  | ⟨(_, .waitSelect _), ⟨_, some command⟩⟩ => some command
  | _ => none

/-- The select of a reconnect wait was answered by its timer. -/
def delayElapsed : ManagedEvent E → Bool
  | ⟨(_, .waitSelect _), ⟨_, none⟩⟩ => true
  | _ => false

def cmdRx : Inlet ((managedSignature E).showing (Locals E)) (ManagedWsCommand E.Subscription) :=
  ⟨received⟩

abbrev Client (E : Endpoint) :=
  Fed ((managedSignature E).showing (Locals E)) (Head × Locals E) (Unit × Locals E)
    (ManagedWsCommand E.Subscription)

/-- A loop that starts with this channel. -/
def spawned (channel : Channel (ManagedWsCommand E.Subscription)) : Client E :=
  ⟨.ret (.inl (.connect, Locals.initial)), channel⟩

abbrev ClientRun (loop : Head → Managed E Flow) :=
  Feeds cmdRx (Proc.turn loop) (α := ManagedWsCommand E.Subscription)

/-- The loop has returned with this call, and neither it nor any later one is a `connect`. -/
structure Stops (loop : Head → Managed E Flow) (e : ManagedEvent E) (s : Client E) : Prop where
  returned : Returned s.task
  never : ∀ t s', ClientRun loop s t s' → ∀ d ∈ e :: t, ¬ Connects d

/-- Once nothing stands between the loop and the next `connect`, it receives nothing before it. -/
theorem resumed_idle {m : Course E} (resumes : m.Resumes) {s : List (ManagedEvent E)}
    (safe : course.Along course.safe m s) (pause : ∀ e ∈ s, ¬ Connects e) :
    course.run m s = m ∧ ∀ e ∈ s, received e = none ∧ delayElapsed e = false ∧ ¬ Halts e := by
  induction s with
  | nil => exact ⟨rfl, List.forall_mem_nil _⟩
  | cons e s ih =>
    obtain ⟨paused, rest⟩ := List.forall_mem_cons.mp pause
    have fits := safe.1.fits
    have moves := moves_of_permitted safe.1
    have tail : course.Along course.safe (m.after e) s := safe.2
    change course.run (m.after e) s = m ∧ _
    generalize m.after e = m' at moves tail
    cases moves with
    | connect _ connects => exact absurd connects paused
    | judge => exact resumes.elim
    | classify leaving =>
      cases m with
      | attempted => exact resumes.elim
      | doomed => exact resumes.elim
      | _ => exact leaving.elim
    | ask => exact resumes.elim
    | delay => exact resumes.elim
    | tell => exact resumes.elim
    | wait nonzero => exact absurd resumes nonzero
    | idle idle _ _ =>
      obtain ⟨same, none⟩ := ih tail rest
      refine ⟨same, List.forall_mem_cons.mpr ⟨?_, none⟩⟩
      obtain ⟨⟨l, op⟩, ans⟩ := e
      cases op with
      | select =>
        obtain rfl : m = .attempted := fits
        exact resumes.elim
      | selectWithPing =>
        obtain rfl : m = .attempted := fits
        exact resumes.elim
      | waitSelect delay => exact idle.elim
      | _ => exact ⟨rfl, rfl, id⟩

section Wait
variable {url : String} {kind : LoopKind} {t : List (ManagedEvent E)} {q : Task E}
variable {l : Locals E} {delay : Duration} {time : Instant}

/-- What the loop knows when a wait has been entered. -/
structure Waiting (delay : Duration) (t : List (ManagedEvent E)) : Prop where
  retry : Retrying (lifeOf t)
  entered : (lifeOf t).entered = some delay
  agreed : courseOf t = .told (some delay)

theorem waiting_after (run : Run (hookedLoop (hooksOf kind) url)
      (t ++ [event l (.enterWait delay) time ()]) q) :
    Waiting delay (t ++ [event l (.enterWait delay) time ()]) ∧
      (lifeOf t).offer = some delay := by
  have permitted : Permitted (lifeOf t) (.enterWait delay) := permitted_along run rfl
  obtain ⟨_, tells, _, offer⟩ := permitted.fits
  have told : courseOf t = .told (some delay) :=
    (course.along_append.mp (course_run run).1).2.1.fits
  refine ⟨⟨?_, ?_, ?_⟩, offer⟩
  · rw [lifeOf_snoc]
    exact ⟨tells, permitted.halted⟩
  · rw [lifeOf_snoc]
    rfl
  · rw [courseOf_snoc, told]
    rfl

/-- From a point where the loop only has to connect there is a run to the next
`connect` that receives nothing. -/
theorem connects_when_resumed (run : Run (hookedLoop (hooksOf kind) url) t q)
    (retry : Retrying (lifeOf t)) (resumes : (courseOf t).Resumes)
    (c : Channel (ManagedWsCommand E.Subscription)) :
    ∃ more e s, ClientRun (hookedLoop (hooksOf kind) url) ⟨q, c⟩ (more ++ [e]) s ∧
      Connects e := by
  have leads := leads_of_pending (retrying url kind) run retry
  rcases leads.run_avoiding (fun _ => False) fun e => ⟨e.ans, id⟩ with
    ⟨_, _, _, _, never⟩ | ⟨more, e, r, rest, early, arrives, _⟩
  · exact never.elim
  have safe := (course_run (run.trans rest)).1
  rw [← List.append_assoc] at safe
  obtain ⟨before, last, _⟩ := course.along_append.mp safe
  have stretch : course.Along course.safe (courseOf t) more := (course.along_append.mp before).2
  obtain ⟨still, idle⟩ := resumed_idle resumes stretch fun d listed connects =>
    (early d listed).2 (Or.inl connects)
  have here : (courseOf (t ++ more)) = courseOf t := by
    rw [courseOf, List.foldl_append]
    exact still
  have connects : Connects e := by
    rcases arrives with connects | halts
    · exact connects
    · -- a wait that is answered here would have to be entered again
      obtain ⟨⟨l, op⟩, ans⟩ := e
      cases op with
      | waitSelect delay =>
        obtain ⟨told, nonzero⟩ := last.fits
        change courseOf (t ++ more) = _ at told
        rw [here] at told
        rw [told] at resumes
        exact absurd resumes nonzero
      | _ => exact halts.elim
  have unreceived : received e = none := by
    obtain ⟨⟨l, op⟩, ans⟩ := e
    cases op with
    | connect url buffers => rfl
    | _ => exact connects.elim
  refine ⟨more, e, _, feeds_of_idle rest (fun d listed => ?_) c, connects⟩
  rcases List.mem_append.mp listed with listed | listed
  · exact (idle d listed).1
  · rw [List.mem_singleton.mp listed]
    exact unreceived

/-- With a delay the channel and the timer are polled next. -/
theorem polls_with_delay (run : Run (hookedLoop (hooksOf kind) url) t q)
    (waiting : Waiting delay t) (nonzero : delay ≠ 0) {e : ManagedEvent E} {r : Task E}
    (fires : Fires (Proc.turn (hookedLoop (hooksOf kind) url)) q e r) :
    e.op.2 = .waitSelect delay :=
  (permitted_along (run.snoc fires) rfl).polls delay waiting.entered nonzero

/-- A shutdown in front of the channel is what such a poll gives unless the timer
answers it, and it ends the loop. -/
theorem returns_with_delay (run : Run (hookedLoop (hooksOf kind) url) t q)
    (waiting : Waiting delay t) (nonzero : delay ≠ 0) {e : ManagedEvent E} {r : Task E}
    (fires : Fires (Proc.turn (hookedLoop (hooksOf kind) url)) q e r)
    {front : Option (ManagedWsCommand E.Subscription)} (shutdown : isShutdown front = true)
    {c : Channel (ManagedWsCommand E.Subscription)} (ready : c.next = some front)
    (admits : cmdRx.Admits c e) (answered : delayElapsed e = false) :
    Returned r ∧ ¬ Connects e := by
  have polls := polls_with_delay run waiting nonzero fires
  obtain ⟨⟨l, op⟩, time, answer⟩ := e
  change op = .waitSelect delay at polls
  subst polls
  refine ⟨returned_of_halted (run.snoc fires) ?_, id⟩
  rw [lifeOf_snoc]
  cases answer with
  | none => cases answered
  | some command =>
    have same : command = front := Option.some.inj ((admits command rfl).symm.trans ready)
    change ((lifeOf t).halted || isShutdown command) = true
    rw [same, shutdown, Bool.or_true]

/-- A loop that does not poll, or whose poll is answered by the timer, can connect again. -/
theorem connects_after (run : Run (hookedLoop (hooksOf kind) url) t q) (waiting : Waiting delay t)
    {e : ManagedEvent E} {r : Task E}
    (fires : Fires (Proc.turn (hookedLoop (hooksOf kind) url)) q e r)
    (passes : delay = 0 ∨ delayElapsed e = true) (same : ¬ Connects e)
    (c : Channel (ManagedWsCommand E.Subscription)) :
    ∃ more d s, ClientRun (hookedLoop (hooksOf kind) url) ⟨r, c⟩ (more ++ [d]) s ∧
      Connects d := by
  have whole := run.snoc fires
  have resumed : ¬ Halts e ∧ (courseOf (t ++ [e])).Resumes := by
    rw [courseOf_snoc, waiting.agreed]
    rcases passes with rfl | elapsed
    · have safe := (course.along_append.mp (course_run whole).1).2
      change course.Along course.safe (courseOf t) [e] at safe
      rw [waiting.agreed] at safe
      have resumes : (Course.told (some 0) : Course E).Resumes := rfl
      obtain ⟨still, idle⟩ := resumed_idle resumes safe fun d listed connects =>
        same (List.mem_singleton.mp listed ▸ connects)
      change (Course.told (some 0)).after e = _ at still
      rw [still]
      exact ⟨(idle e List.mem_cons_self).2.2, resumes⟩
    · obtain ⟨⟨l, op⟩, time, answer⟩ := e
      cases op with
      | waitSelect delay =>
        cases answer with
        | none => exact ⟨id, trivial⟩
        | some command => cases elapsed
      | _ => cases elapsed
  have permitted : Permitted (lifeOf t) e.op.2 := permitted_along whole rfl
  have other : ¬ (Connects e ∨ Halts e) := not_or.mpr ⟨same, resumed.1⟩
  have kept := ((retrying url kind).keeps (lifeOf t) e permitted waiting.retry other).2.1
  refine connects_when_resumed whole ?_ resumed.2 c
  rw [lifeOf_snoc]
  exact kept

/-- Without a delay the next call is no poll. -/
theorem idle_without_delay (run : Run (hookedLoop (hooksOf kind) url) t q)
    (waiting : Waiting 0 t) {e : ManagedEvent E} {r : Task E}
    (fires : Fires (Proc.turn (hookedLoop (hooksOf kind) url)) q e r) :
    received e = none ∧ delayElapsed e = false := by
  by_cases connects : Connects e
  · obtain ⟨⟨l, op⟩, ans⟩ := e
    cases op with
    | connect url buffers => exact ⟨rfl, rfl⟩
    | _ => exact connects.elim
  · have safe := (course.along_append.mp (course_run (run.snoc fires)).1).2
    change course.Along course.safe (courseOf t) _ at safe
    rw [waiting.agreed] at safe
    obtain ⟨_, idle⟩ := resumed_idle (m := .told (some 0)) rfl safe fun d listed wrong =>
      connects (List.mem_singleton.mp listed ▸ wrong)
    obtain ⟨unreceived, unelapsed, _⟩ := idle e List.mem_cons_self
    exact ⟨unreceived, unelapsed⟩

/-- The next call need not be answered by the timer. -/
theorem answerable {s : Client E} (run : Run (hookedLoop (hooksOf kind) url) t s.task)
    (waiting : Waiting delay t) {front : Option (ManagedWsCommand E.Subscription)}
    (ready : s.channel.next = some front) :
    ∃ e s', ClientRun (hookedLoop (hooksOf kind) url) s [e] s' ∧ delayElapsed e = false := by
  have leads := leads_of_pending (retrying url kind) run waiting.retry
  cases leads with
  | arrived never => exact never.elim
  | step live _ _ =>
    obtain ⟨⟨⟨l, op⟩, ans⟩, r, fires⟩ := live
    by_cases zero : delay = 0
    · subst zero
      obtain ⟨unreceived, unelapsed⟩ := idle_without_delay run waiting fires
      exact ⟨_, _, .call fires (.of_idle unreceived _) (.here _), unelapsed⟩
    · have polls : op = .waitSelect delay := polls_with_delay run waiting zero fires
      subst polls
      obtain ⟨r', fires'⟩ := fires.answered ⟨0, some front⟩
      refine ⟨_, _, .call fires' (fun received taken => ?_) (.here _), rfl⟩
      rw [← Option.some.inj taken]
      exact ready

end Wait

/-- When a shutdown is in front while the loop is in a wait, the channel can
answer the next call, and with this call the loop stops if and only if neither
the classification nor the strategy has asked for a delay of zero and the
channel, not the timer, has answered the select of the wait. -/
theorem queued_shutdown_stops_iff (url : String) (kind : LoopKind)
    {channel : Channel (ManagedWsCommand E.Subscription)} {t : List (ManagedEvent E)}
    {l : Locals E} {delay : Duration} {time : Instant} {s : Client E}
    (run : ClientRun (managedLoop url kind) (spawned channel)
      (t ++ [event l (.enterWait delay) time ()]) s)
    (queued : s.channel.next = some none ∨ s.channel.next = some (some .shutdown)) :
    (∃ e s', ClientRun (managedLoop url kind) s [e] s' ∧ delayElapsed e = false) ∧
      ∀ e s', ClientRun (managedLoop url kind) s [e] s' →
        (Stops (managedLoop url kind) e s' ↔
          (lifeOf t).offer ≠ some 0 ∧ delayElapsed e = false) := by
  rw [managedLoop_eq] at run ⊢
  have reached := run.reaches
  obtain ⟨waiting, offer⟩ := waiting_after reached
  obtain ⟨front, shutdown, ready⟩ :
      ∃ front, isShutdown front = true ∧ s.channel.next = some front := by
    rcases queued with ready | ready
    · exact ⟨none, rfl, ready⟩
    · exact ⟨some .shutdown, rfl, ready⟩
  refine ⟨answerable reached waiting ready, fun e s' next => ?_⟩
  obtain ⟨r, c, still, fires, admits, rest⟩ := next.uncons
  have task : s'.task = r := rest.still.1
  rw [offer]
  constructor
  · intro stops
    have same : ¬ Connects e := stops.never [] s' (.here s') e List.mem_cons_self
    have polled : ¬ (delay = 0 ∨ delayElapsed e = true) := by
      intro passes
      obtain ⟨more, d, s'', again, connects⟩ :=
        connects_after reached waiting fires passes same s'.channel
      rw [← task] at again
      have listed : d ∈ e :: (more ++ [d]) := by simp
      exact stops.never _ s'' again d listed connects
    obtain ⟨nonzero, answered⟩ := not_or.mp polled
    exact ⟨fun zero => nonzero (Option.some.inj zero), Bool.eq_false_iff.mpr answered⟩
  · rintro ⟨nonzero, answered⟩
    have positive : delay ≠ 0 := fun zero => nonzero (by rw [zero])
    obtain ⟨returned, same⟩ := returns_with_delay reached waiting positive fires shutdown
      (still.still.2 front ready) admits answered
    rw [← task] at returned
    refine ⟨returned, fun more s'' later d listed => ?_⟩
    cases more with
    | nil =>
      rw [List.mem_singleton.mp listed]
      exact same
    | cons d more =>
      obtain ⟨_, _, _, impossible, _, _⟩ := later.uncons
      obtain ⟨l, returned⟩ := returned
      rw [returned] at impossible
      exact absurd impossible not_fires_result

/-- Every `connect` is refused, every disconnect is classified as `action`, and
a wait that is polled is answered with `answer`. -/
def refusing (action : WsDisconnectAction) (answer : Option (Option (ManagedWsCommand Unit))) :
    Nat → (op : Op bareEndpoint) → op.Ans
  | _, .connect _ _ => .error (.timeout "connect")
  | _, .handler (.classifyDisconnect _) => action
  | _, .waitSelect _ => answer
  | _, op => bareAnswer op

theorem shutdown_stops_backoff :
    Stops (managedLoop "ws://peer" .plain)
      (event Locals.initial (.waitSelect (1 : Nat)) 8 (some (some .shutdown)))
      ⟨(trial (managedLoop "ws://peer" .plain)
        (refusing .backoffReconnect (some (some .shutdown))) 9).2, ⟨[], false⟩⟩ := by
  let loop : Head → Managed bareEndpoint Flow := managedLoop "ws://peer" .plain
  let script := refusing .backoffReconnect (some (some .shutdown))
  have cut : (trial loop script 8).1 = (trial loop script 7).1 ++
      [event Locals.initial (.enterWait (1 : Nat)) 7 ()] := rfl
  have idle : ∀ e ∈ (trial loop script 8).1, cmdRx.takes e = none := by decide
  have run := feeds_of_idle (trial_run loop script 8) idle ⟨[.shutdown], false⟩
  rw [cut] at run
  have stops := (queued_shutdown_stops_iff "ws://peer" .plain run (Or.inr rfl)).2
  refine (stops _ _ (.call (.call _ _ _) ?_ (.here _))).mpr (by decide)
  intro received taken
  rw [← Option.some.inj taken]
  rfl

/-- The loop is in a wait of this length with a shutdown in front, and gets to a `connect`. -/
def Outrun (delay : Duration) : Prop :=
  ∃ (t : List (ManagedEvent bareEndpoint)) (time : Instant) (s : Client bareEndpoint),
    ClientRun (managedLoop "ws://peer" .plain) (spawned ⟨[.shutdown], false⟩)
      (t ++ [event Locals.initial (.enterWait delay) time ()]) s ∧
    s.channel.next = some (some .shutdown) ∧
    ∃ more e s', ClientRun (managedLoop "ws://peer" .plain) s (more ++ [e]) s' ∧ Connects e

theorem outrun_of_trial {script : Nat → (op : Op bareEndpoint) → op.Ans} {n : Nat}
    {t u : List (ManagedEvent bareEndpoint)} {e : ManagedEvent bareEndpoint} {delay : Duration}
    {time : Instant}
    (trace : (trial (managedLoop "ws://peer" .plain) script n).1 =
      t ++ [event Locals.initial (.enterWait delay) time ()] ++ (u ++ [e]))
    (idle : ∀ d ∈ (trial (managedLoop "ws://peer" .plain) script n).1, received d = none)
    (connects : Connects e) : Outrun delay := by
  have run := trial_run (managedLoop "ws://peer" .plain) script n
  rw [trace] at run idle
  obtain ⟨q, first, second⟩ := run.split
  obtain ⟨early, late⟩ := List.forall_mem_append.mp idle
  let channel : Channel (ManagedWsCommand Unit) := ⟨[.shutdown], false⟩
  exact ⟨t, time, ⟨q, channel⟩, feeds_of_idle first early channel, rfl, u, e, _,
    feeds_of_idle second late channel, connects⟩

/-- Without a delay nothing is polled, and with one the timer may answer first. -/
theorem shutdown_outrun : Outrun 0 ∧ Outrun 1 := by
  let loop : Head → Managed bareEndpoint Flow := managedLoop "ws://peer" .plain
  constructor
  · let script := refusing .immediateReconnect none
    exact outrun_of_trial (t := (trial loop script 5).1) (u := [_]) (n := 8) rfl (by decide)
      trivial
  · let script := refusing .backoffReconnect none
    exact outrun_of_trial (t := (trial loop script 7).1) (u := [_, _]) (n := 11) rfl (by decide)
      trivial

end QueuedShutdown
