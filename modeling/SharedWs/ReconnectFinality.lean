import SharedWs.ReconnectCourse

/-!
# What a decision about the next attempt leads to

A decision is made by the classification alone or by the strategy after it.
Against a reconnect it ends the loop without another `connect`; for one there is
always a way to the next `connect`, and only a shutdown in the wait can prevent
it. The action that a handler chose for a server error has no part in this.
-/
namespace ReconnectFinality

open InteractionPrograms InteractionMonitors InteractionProgress WsFrames WsTypes ManagedOps
open ManagedLoop HookedLoop LoopOutline ClientObligations ReconnectCourse

variable {E : Endpoint}

/-- What an answer decides about the next attempt. -/
def verdict : ManagedEvent E → Option Bool
  | ⟨(_, .handler (.classifyDisconnect _)), ⟨_, .abort⟩⟩ => some false
  | ⟨(_, .handler (.classifyDisconnect _)), ⟨_, .immediateReconnect⟩⟩ => some true
  | ⟨(_, .reconnect .shouldRetry), ⟨_, retry⟩⟩ => some retry
  | _ => none

/-- The loop returns, and nobody is dialled on the way. -/
def EndsWithoutConnect (loop : Head → Managed E Flow) (q : Task E) : Prop :=
  Leads (Proc.turn loop) (fun e => ¬ Connects e) (fun _ => False) Returned q

section Obligations
variable (url : String) (kind : LoopKind)

abbrev CourseObligation (via goal : ManagedEvent E → Prop) (final : Task E → Prop)
    (pending : Course E → Prop) : Prop :=
  Obligation course (Proc.turn (hookedLoop (hooksOf kind) url))
    (fun c m => courseJunctions.inv c.1 c.2 m) (fun r m => courseJunctions.done r.2 m)
    via goal final pending fun _ => 0

theorem course_answers (m : Course E) (op : Locals E × Op E) : ∃ ans, course.rely m ⟨op, ans⟩ :=
  ⟨⟨0, bareAnswer op.2⟩, trivial⟩

/-- An obligation that is taken up and met inside one turn. -/
theorem obligation_of_moves {via goal : ManagedEvent E → Prop} {final : Task E → Prop}
    {pending : Course E → Prop}
    (keeps : ∀ m e m', Moves m e m' → pending m → ¬ goal e → via e ∧ pending m')
    (heads : ∀ c l m, courseJunctions.inv c l m → ¬ pending m)
    (ending : ∀ l m, m.Over → pending m → final (.ret (.inr ((), l)))) :
    CourseObligation url kind via goal final pending where
  answers := course_answers
  keeps := by
    intro m e permitted due missed
    obtain ⟨through, due'⟩ := keeps m e _ (moves_of_permitted permitted) due missed
    exact ⟨through, due', Nat.le_refl 0⟩
  headway := fun c m _ _ inv _ due _ _ => absurd due (heads c.1 c.2 m inv)
  ending := fun r m ended due => ending r.2 m ended due

theorem idle_stays {e : ManagedEvent E} (idle : Idle e.op.2) :
    ¬ Connects e ∧ verdict e = none ∧ notice e = none := by
  obtain ⟨⟨l, op⟩, ans⟩ := e
  cases op with
  | handler call => cases call <;> first | exact idle.elim | exact ⟨id, rfl, rfl⟩
  | reconnect call => cases call <;> first | exact idle.elim | exact ⟨id, rfl, rfl⟩
  | connect | waitSelect => exact idle.elim
  | _ => exact ⟨id, rfl, rfl⟩

/-- The decision was against a reconnect. -/
def Refused (m : Course E) : Prop := m = .settled none ∨ m = .told none

theorem Refused.inside {m : Course E} (refused : Refused m) :
    ¬ m.Resumes ∧ ¬ m.Leaving ∧ m ≠ .fresh := by
  rcases refused with rfl | rfl
  · exact ⟨id, id, nofun⟩
  · exact ⟨id, id, nofun⟩

theorem refusing : CourseObligation (E := E) url kind (fun e => ¬ Connects e) (fun _ => False)
    Returned Refused := by
  apply obligation_of_moves
  · intro m e m' moves refused _
    obtain ⟨stays, decided, started⟩ := refused.inside
    cases moves with
    | connect resumes => exact absurd resumes (not_or.mpr ⟨started, stays⟩)
    | classify leaving => exact absurd leaving decided
    | tell delay l cause time message =>
      have none : delay = none := by simpa [Refused] using refused
      exact ⟨id, Or.inr (congrArg Course.told none)⟩
    | idle idle => exact ⟨(idle_stays idle).1, refused⟩
    | judge | ask | delay | wait => simp [Refused] at refused
  · intro head l m inv refused
    obtain ⟨stays, decided, started⟩ := refused.inside
    cases head with
    | connect => exact absurd inv (not_or.mpr ⟨started, stays⟩)
    | session => exact decided (Trying.leaving (l := l) inv)
  · exact fun l _ _ _ => ⟨l, rfl⟩

/-- The decision was for a reconnect, and the handler does not know yet. -/
def Promised (m : Course E) : Prop := m = .granted ∨ ∃ delay, m = .settled (some delay)

theorem announcing : CourseObligation (E := E) url kind (fun e => ¬ Connects e)
    (fun e => ∃ message, notice e = some (true, message)) (fun _ => False) Promised := by
  have inside : ∀ m : Course E, Promised m → ¬ m.Resumes ∧ ¬ m.Leaving ∧ m ≠ .fresh ∧ ¬ m.Over := by
    rintro m (rfl | ⟨delay, rfl⟩)
    · exact ⟨id, id, nofun, id⟩
    · exact ⟨id, id, nofun, id⟩
  apply obligation_of_moves
  · intro m e m' moves promised missed
    obtain ⟨stays, decided, started, _⟩ := inside m promised
    cases moves with
    | connect resumes => exact absurd resumes (not_or.mpr ⟨started, stays⟩)
    | classify leaving => exact absurd leaving decided
    | delay l time delay => exact ⟨id, Or.inr ⟨delay, rfl⟩⟩
    | tell delay l cause time message =>
      obtain ⟨d, rfl⟩ : ∃ d, delay = some d := by simpa [Promised] using promised
      exact absurd ⟨message, rfl⟩ missed
    | idle idle => exact ⟨(idle_stays idle).1, promised⟩
    | judge | ask | wait => simp [Promised] at promised
  · intro head l m inv promised
    obtain ⟨stays, decided, started, _⟩ := inside m promised
    cases head with
    | connect => exact absurd inv (not_or.mpr ⟨started, stays⟩)
    | session => exact decided (Trying.leaving (l := l) inv)
  · exact fun _ m ended promised => (inside m promised).2.2.2 ended

/-- The session ends, and nothing is decided yet. -/
def Undecided (m : Course E) : Prop := m = .doomed ∨ m = .asked

theorem deciding : CourseObligation (E := E) url kind (fun e => ¬ Connects e)
    (fun e => (verdict e).isSome = true) (fun _ => False) Undecided := by
  apply obligation_of_moves
  · intro m e m' moves undecided missed
    cases moves with
    | connect resumes => rcases undecided with rfl | rfl <;> simp [Course.Resumes] at resumes
    | classify leaving l cause time action =>
      cases action with
      | abort => exact absurd rfl missed
      | immediateReconnect => exact absurd rfl missed
      | backoffReconnect => exact ⟨id, Or.inr rfl⟩
    | ask l time retry => exact absurd rfl missed
    | idle idle => exact ⟨(idle_stays idle).1, undecided⟩
    | judge | delay | tell | wait => simp [Undecided] at undecided
  · intro head l m inv undecided
    cases head with
    | connect =>
      rcases undecided with rfl | rfl <;>
        simp [Junctions.inv, courseJunctions, Course.Resumes] at inv
    | session => rcases undecided with rfl | rfl <;> cases inv
  · rintro l m ended (rfl | rfl)
    · exact ended
    · exact ended

end Obligations

section Runs
variable {url : String} {kind : LoopKind} {t : List (ManagedEvent E)} {q : Task E}

theorem leads_of_course {via goal : ManagedEvent E → Prop} {final : Task E → Prop}
    {pending : Course E → Prop} (obligation : CourseObligation url kind via goal final pending)
    (run : Run (hookedLoop (hooksOf kind) url) t q) (due : pending (courseOf t)) :
    Leads (Proc.turn (hookedLoop (hooksOf kind) url)) via goal final q :=
  (obligation.leads course (turn_starts url kind)
    (fun c m inv => course.turn_wp ((course_outline url kind).turns c.1 c.2 m inv))
    (course_run run).2 due).leads course fun _ _ => trivial

theorem halts_avoidable (e : ManagedEvent E) : ∃ ans, ¬ Halts (⟨e.op, ans⟩ : ManagedEvent E) := by
  obtain ⟨⟨l, op⟩, _⟩ := e
  refine ⟨⟨0, bareAnswer op⟩, ?_⟩
  cases op <;> exact id

/-- A promised reconnect can happen. -/
theorem connect_of_promised (run : Run (hookedLoop (hooksOf kind) url) t q)
    (promised : Promised (courseOf t)) :
    ∃ more e r, Reaches (Proc.turn (hookedLoop (hooksOf kind) url)) q (more ++ [e]) r ∧
      (∀ d ∈ more, ¬ Connects d) ∧ Connects e := by
  rcases (leads_of_course (announcing url kind) run promised).run with
    ⟨_, _, _, _, never⟩ | ⟨s, notified, p, first, early, message, announced⟩
  · exact never.elim
  · have run' : Run (hookedLoop (hooksOf kind) url) (t ++ s ++ [notified]) p := by
      rw [List.append_assoc]
      exact run.trans first
    have retries := (bound_after run' rfl).retries message announced
    rcases retries.run_avoiding Halts halts_avoidable with
      ⟨_, _, _, _, never⟩ | ⟨u, e, r, second, late, reached, going⟩
    · exact never.elim
    · refine ⟨s ++ [notified] ++ u, e, r, ?_, ?_, reached.resolve_right going⟩
      · rw [List.append_assoc]
        exact first.trans second
      · intro d listed
        rcases List.mem_append.mp listed with listed | listed
        · rcases List.mem_append.mp listed with listed | listed
          · exact early d listed
          · rw [List.mem_singleton.mp listed]
            intro connects
            obtain ⟨⟨l, op⟩, ans⟩ := notified
            cases op with
            | connect url buffers => cases announced
            | _ => exact connects
        · exact fun connects => (late d listed).2 (Or.inl connects)

/-- A run from here on makes no `connect`. -/
theorem ends_stay_down (ends : EndsWithoutConnect (hookedLoop (hooksOf kind) url) q)
    {more : List (ManagedEvent E)} {r : Task E}
    (reaches : Reaches (Proc.turn (hookedLoop (hooksOf kind) url)) q more r) :
    ∀ e ∈ more, ¬ Connects e := by
  refine ends.along (fun p e q returned fires => ?_) reaches
  obtain ⟨l, rfl⟩ := returned
  exact not_fires_result fires

theorem after_verdict {m : Course E} {d : ManagedEvent E} {retry : Bool}
    (decided : verdict d = some retry) :
    if retry then Promised (m.after d) else Refused (m.after d) := by
  rw [verdict.eq_def] at decided
  split at decided
  · obtain rfl := Option.some.inj decided
    exact Or.inl rfl
  · obtain rfl := Option.some.inj decided
    exact Or.inr ⟨0, rfl⟩
  · obtain rfl := Option.some.inj decided
    rename_i retry
    cases retry with
    | false => exact Or.inl rfl
    | true => exact Or.inl rfl
  · cases decided

/-- The loop ends here without another `connect` exactly if that was decided. -/
theorem ends_iff {d : ManagedEvent E} {retry : Bool}
    (run : Run (hookedLoop (hooksOf kind) url) (t ++ [d]) q) (decided : verdict d = some retry) :
    EndsWithoutConnect (hookedLoop (hooksOf kind) url) q ↔ retry = false := by
  have course := after_verdict (m := courseOf t) decided
  rw [← courseOf_snoc] at course
  cases retry with
  | false => exact ⟨fun _ => rfl, fun _ => leads_of_course (refusing url kind) run course⟩
  | true =>
    refine ⟨fun ends => ?_, nofun⟩
    obtain ⟨more, e, r, reaches, _, connects⟩ := connect_of_promised run course
    have none := ends_stay_down ends reaches
    exact absurd connects (none e (List.mem_append_right more (List.mem_singleton_self e)))

end Runs

/-- What follows a server error that the handler called fatal. -/
structure FatalAftermath (loop : Head → Managed E Flow) (q : Task E) : Prop where
  /-- A decision about the next attempt is made, and nobody is dialled before it. -/
  decides : Leads (Proc.turn loop) (fun e => ¬ Connects e) (fun e => (verdict e).isSome = true)
    (fun _ => False) q
  /-- The decision alone says whether the error is final. -/
  final : ∀ mid d r retry, Reaches (Proc.turn loop) q (mid ++ [d]) r → verdict d = some retry →
    (EndsWithoutConnect loop r ↔ retry = false)

/-- A fatal server error is final exactly if the classification of the resulting
cause is `Abort`, or `BackoffReconnect` with a strategy that does not retry. -/
theorem fatal_error_final_iff (url : String) (kind : LoopKind) {t : List (ManagedEvent E)}
    {q : Task E} {l : Locals E} {code : Option Int32} {message : String} {data : Option E.Value}
    {time : Instant}
    (run : Run (managedLoop url kind)
      (t ++ [event l (.handler (.handleServerError code message data)) time .fatal]) q) :
    FatalAftermath (managedLoop url kind) q := by
  rw [managedLoop_eq] at run ⊢
  constructor
  · refine leads_of_course (deciding url kind) run (Or.inl ?_)
    rw [courseOf_snoc]
    rfl
  · intro mid d r retry reaches decided
    have whole := run.trans reaches
    rw [← List.append_assoc] at whole
    exact ends_iff whole decided

/-- The peer sends one frame, which is a server error, and the handler answers `judgement`;
every disconnect is classified as `action`. -/
def serverErrorThen (judgement : WsErrorAction) (action : WsDisconnectAction) :
    Nat → (op : Op bareEndpoint) → op.Ans
  | _, .select => .frame (some (.ok (.ping ⟨#[]⟩)))
  | _, .handler (.parseFrame _) => .ok (.serverError none "down" none)
  | _, .handler (.handleServerError _ _ _) => judgement
  | _, .handler (.classifyDisconnect _) => action
  | _, op => bareAnswer op

theorem fatal_then_abort_ends :
    EndsWithoutConnect (managedLoop "ws://peer" .plain)
      (trial (managedLoop "ws://peer" .plain) (serverErrorThen .fatal .abort) 16).2 := by
  let loop : Head → Managed bareEndpoint Flow := managedLoop "ws://peer" .plain
  let script := serverErrorThen .fatal .abort
  have cut : (trial loop script 14).1 = (trial loop script 13).1 ++
      [event ⟨false, true, []⟩ (.handler (.handleServerError none "down" none)) 13 .fatal] := rfl
  have run := trial_run loop script 14
  rw [cut] at run
  let answers (i : Nat) (op : Locals bareEndpoint × Op bareEndpoint) : Stamped op.2.Ans :=
    ⟨i, script i op.2⟩
  have rest : Reaches (Proc.turn loop) (trial loop script 14).2 ([_] ++ [_]) _ :=
    play_reaches answers 2 14 _
  exact ((fatal_error_final_iff "ws://peer" .plain run).final _ _ _ false rest rfl).mpr rfl

/-- The handler calls the error fatal and classifies the disconnect as `ImmediateReconnect`. -/
theorem fatal_error_reconnects :
    ∃ (before mid : List (ManagedEvent bareEndpoint)) (e : ManagedEvent bareEndpoint)
      (q : Task bareEndpoint),
      Run (managedLoop "ws://peer" .plain) (before ++
        event ⟨false, true, []⟩ (.handler (.handleServerError none "down" none)) 13 .fatal ::
        (mid ++ [e])) q ∧ Connects e := by
  let loop : Head → Managed bareEndpoint Flow := managedLoop "ws://peer" .plain
  let script := serverErrorThen .fatal .immediateReconnect
  exact ⟨(trial loop script 13).1, (trial loop script 19).1.drop 14,
    event ⟨true, true, []⟩ (.connect "ws://peer" .default) 19 (.ok ()), _,
    trial_run loop script 20, trivial⟩

end ReconnectFinality
