import SharedWs.InteractionMonitors

/-!
# What a task is bound to do

A turn is a finite tree of calls, so an obligation that survives every other
call is met before its turn ends, whatever the answers are. Only obligations
that are carried from one turn into the next need a measure, and it has to go
down once per turn.
-/
namespace InteractionProgress

open InteractionPrograms InteractionMonitors InteractionMonitors.Monitor

universe u

section Leads
variable {S : Signature.{u}} {C R : Type u} (body : C → Prog S (C ⊕ R))

/-- After finitely many calls of the kind `via` the task makes a call of the
kind `goal` or stands where `final` holds, whatever the answers are. -/
inductive Leads (via goal : Event S → Prop) (final : Prog S (C ⊕ R) → Prop) :
    Prog S (C ⊕ R) → Prop
  | arrived {p : Prog S (C ⊕ R)} (there : final p) : Leads via goal final p
  | step {p : Prog S (C ⊕ R)} (live : ∃ e q, Fires body p e q)
      (kind : ∀ e q, Fires body p e q → ¬ goal e → via e)
      (next : ∀ e q, Fires body p e q → ¬ goal e → Leads via goal final q) :
      Leads via goal final p

variable {body} {via goal : Event S → Prop} {final : Prog S (C ⊕ R) → Prop}

/-- There is a run that gets there, also without answers that can be avoided. -/
theorem Leads.run_avoiding {p : Prog S (C ⊕ R)} (leads : Leads body via goal final p)
    (bad : Event S → Prop) (avoidable : ∀ e : Event S, ∃ ans, ¬ bad ⟨e.op, ans⟩) :
    (∃ t q, Reaches body p t q ∧ (∀ e ∈ t, via e) ∧ final q) ∨
      ∃ t e q, Reaches body p (t ++ [e]) q ∧ (∀ d ∈ t, via d ∧ ¬ goal d) ∧ goal e ∧ ¬ bad e := by
  induction leads with
  | arrived there => exact Or.inl ⟨[], _, .here _, List.forall_mem_nil _, there⟩
  | step live kind _ ih =>
    obtain ⟨first, _, fired⟩ := live
    obtain ⟨ans, good⟩ := avoidable first
    obtain ⟨q, fires⟩ := fired.answered ans
    by_cases reached : goal ⟨first.op, ans⟩
    · exact Or.inr ⟨[], _, q, .step fires (.here q), List.forall_mem_nil _, reached, good⟩
    · have through : via ⟨first.op, ans⟩ := kind _ q fires reached
      rcases ih _ q fires reached with ⟨t, r, run, all, there⟩ | ⟨t, d, r, run, all, there⟩
      · exact Or.inl ⟨_ :: t, r, .step fires run, List.forall_mem_cons.mpr ⟨through, all⟩, there⟩
      · have all' := List.forall_mem_cons.mpr ⟨⟨through, reached⟩, all⟩
        exact Or.inr ⟨_ :: t, d, r, .step fires run, all', there⟩

theorem Leads.run {p : Prog S (C ⊕ R)} (leads : Leads body via goal final p) :
    (∃ t q, Reaches body p t q ∧ (∀ e ∈ t, via e) ∧ final q) ∨
      ∃ t e q, Reaches body p (t ++ [e]) q ∧ (∀ d ∈ t, via d) ∧ goal e := by
  rcases leads.run_avoiding (fun _ => False) fun e => ⟨e.ans, id⟩ with
    there | ⟨t, e, q, run, all, reached, _⟩
  · exact Or.inl there
  · exact Or.inr ⟨t, e, q, run, fun d listed => (all d listed).1, reached⟩

/-- A task that can only get to its end makes only such calls on the way. -/
theorem Leads.along {p q : Prog S (C ⊕ R)} {t : List (Event S)}
    (leads : Leads body via (fun _ => False) final p)
    (stuck : ∀ p e q, final p → ¬ Fires body p e q) (run : Reaches body p t q) :
    ∀ e ∈ t, via e := by
  induction run with
  | here => exact List.forall_mem_nil _
  | step first _ ih =>
    cases leads with
    | arrived there => exact absurd first (stuck _ _ _ there)
    | step live kind next =>
      exact List.forall_mem_cons.mpr ⟨kind _ _ first id, ih (next _ _ first id)⟩

end Leads

section Rule
variable {S : Signature.{u}} {C R M : Type u} {body : C → Prog S (C ⊕ R)} (mon : Monitor S M)
variable {inv : C → M → Prop} {post : R → M → Prop}

variable (body) in
/-- The same among parties that answer as the monitor relies on. -/
inductive LeadsFrom (via goal : Event S → Prop) (final : Prog S (C ⊕ R) → Prop) :
    M → Prog S (C ⊕ R) → Prop
  | arrived {m : M} {p : Prog S (C ⊕ R)} (there : final p) : LeadsFrom via goal final m p
  | step {m : M} {p : Prog S (C ⊕ R)} (live : ∃ e q, Fires body p e q ∧ mon.rely m e)
      (kind : ∀ e q, Fires body p e q → mon.rely m e → ¬ goal e → via e)
      (next : ∀ e q, Fires body p e q → mon.rely m e → ¬ goal e →
        LeadsFrom via goal final (mon.step m e) q) : LeadsFrom via goal final m p

/-- An obligation recorded in the summary of a monitor. Every other call keeps
it, the stage goes down when a turn starts with it, and the loop cannot return
with it unless that is where it leads. -/
structure Obligation (body : C → Prog S (C ⊕ R)) (inv : C → M → Prop) (post : R → M → Prop)
    (via goal : Event S → Prop) (final : Prog S (C ⊕ R) → Prop) (pending : M → Prop)
    (stage : M → Nat) : Prop where
  answers : ∀ m op, ∃ ans, mon.rely m ⟨op, ans⟩
  keeps : ∀ m e, mon.safe m e → pending m → ¬ goal e →
    via e ∧ pending (mon.step m e) ∧ stage (mon.step m e) ≤ stage m
  headway : ∀ c m e q, inv c m → mon.safe m e → pending m → Fires body (.ret (.inl c)) e q →
    ¬ goal e → stage (mon.step m e) < stage m
  ending : ∀ r m, post r m → pending m → final (.ret (.inr r))

variable {via goal : Event S → Prop} {final : Prog S (C ⊕ R) → Prop} {pending : M → Prop}
variable {stage : M → Nat}

theorem LeadsFrom.leads {m : M} {p : Prog S (C ⊕ R)}
    (leads : LeadsFrom body mon via goal final m p) (anything : ∀ m e, mon.rely m e) :
    Leads body via goal final p := by
  induction leads with
  | arrived there => exact .arrived there
  | step live kind _ ih =>
    obtain ⟨e, q, fires, _⟩ := live
    exact .step ⟨e, q, fires⟩ (fun e q fires => kind e q fires (anything _ e))
      fun e q fires => ih e q fires (anything _ e)

theorem LeadsFrom.mono {via' goal' : Event S → Prop} {m : M} {p : Prog S (C ⊕ R)}
    (wider : ∀ e, via e → via' e) (also : ∀ e, goal e → goal' e)
    (leads : LeadsFrom body mon via goal final m p) : LeadsFrom body mon via' goal' final m p := by
  induction leads with
  | arrived there => exact .arrived there
  | step live kind _ ih =>
    refine .step live (fun e q fires relied other => ?_) fun e q fires relied other => ?_
    · exact wider e (kind e q fires relied fun reached => other (also e reached))
    · exact ih e q fires relied fun reached => other (also e reached)

/-- A run that does not reach the goal stays on the way to it. -/
theorem LeadsFrom.through {m : M} {p q : Prog S (C ⊕ R)} {t : List (Event S)}
    (leads : LeadsFrom body mon via goal final m p) (endless : ∀ p, ¬ final p)
    (run : Reaches body p t q) (relied : mon.Along mon.rely m t) (missed : ∀ e ∈ t, ¬ goal e) :
    ∀ e ∈ t, via e := by
  induction run generalizing m with
  | here => exact List.forall_mem_nil _
  | @step p q r e t first _ ih =>
    cases leads with
    | arrived there => exact absurd there (endless _)
    | step live kind next =>
      have other : ¬ goal e := missed e List.mem_cons_self
      refine List.forall_mem_cons.mpr ⟨kind e q first relied.1 other, ?_⟩
      exact ih (next e q first relied.1 other) relied.2 fun d listed =>
        missed d (List.mem_cons_of_mem e listed)

/-- There is a run that gets there with such answers. -/
theorem LeadsFrom.run {m : M} {p : Prog S (C ⊕ R)}
    (leads : LeadsFrom body mon via goal final m p) (endless : ∀ p, ¬ final p) :
    ∃ t e q, Reaches body p (t ++ [e]) q ∧ mon.Along mon.rely m (t ++ [e]) ∧ goal e := by
  induction leads with
  | arrived there => exact absurd there (endless _)
  | step live _ _ ih =>
    obtain ⟨e, q, fires, relied⟩ := live
    by_cases reached : goal e
    · exact ⟨[], e, q, .step fires (.here q), ⟨relied, trivial⟩, reached⟩
    · obtain ⟨t, d, r, run, along, there⟩ := ih e q fires relied reached
      exact ⟨e :: t, d, r, .step fires run, ⟨relied, along⟩, there⟩

theorem Obligation.leads (o : Obligation mon body inv post via goal final pending stage)
    (starts : ∀ c, ∃ op next, body c = .call op next)
    (turns : ∀ c m, inv c m → mon.wp (Owes inv post) (body c) m) {q : Prog S (C ⊕ R)} {m : M}
    (owed : mon.wp (Owes inv post) q m) (due : pending m) :
    LeadsFrom body mon via goal final m q := by
  -- the outer induction is on the stage, the inner one on the rest of the turn
  have bounded : ∀ n q m, stage m ≤ n → mon.wp (Owes inv post) q m → pending m →
      LeadsFrom body mon via goal final m q := by
    intro n
    induction n using Nat.strongRecOn with
    | ind n outer =>
      intro q
      induction q with
      | ret r =>
        intro m low owed due
        cases r with
        | inr r => exact .arrived (o.ending r m owed due)
        | inl c =>
          obtain ⟨op, next, turn⟩ := starts c
          obtain ⟨ans, relied⟩ := o.answers m op
          refine .step ⟨⟨op, ans⟩, next ans, .head (turn ▸ .call op next ans), relied⟩ ?_ ?_
          · intro e q fires relied missed
            obtain ⟨safe, _⟩ := mon.fires_wp turns fires owed relied
            exact (o.keeps m e safe due missed).1
          · intro e q fires relied missed
            obtain ⟨safe, owed'⟩ := mon.fires_wp turns fires owed relied
            have lower := o.headway c m e q owed safe due fires missed
            exact outer _ (Nat.lt_of_lt_of_le lower low) q _ (Nat.le_refl _) owed'
              (o.keeps m e safe due missed).2.1
      | call op next inner =>
        intro m low owed due
        obtain ⟨ans, relied⟩ := o.answers m op
        refine .step ⟨⟨op, ans⟩, next ans, .call op next ans, relied⟩ ?_ ?_
        · rintro _ _ ⟨⟩ relied missed
          exact (o.keeps m _ (owed _ relied).1 due missed).1
        · rintro _ _ ⟨⟩ relied missed
          obtain ⟨safe, owed'⟩ := owed _ relied
          obtain ⟨_, due', low'⟩ := o.keeps m _ safe due missed
          exact inner _ _ (Nat.le_trans low' low) owed' due'
  exact bounded (stage m) q m (Nat.le_refl _) owed due

end Rule
end InteractionProgress
