import Mathlib.Tactic.Basic
import SharedWs.InteractionPrograms

/-!
# Two loops that agree once some calls are erased

An erasure says which calls of a trace are seen and as what, and which answers
are admitted at all. A loop covers another one when its seen calls are the
calls of the other loop, step by step, with the hidden calls in between. The
traces of the second loop are then exactly the erased admitted traces of the
first, and both return at the same point.
-/
namespace InteractionErasure

open InteractionPrograms

universe u

structure Erasure (S : Signature.{u}) where
  image : Event S → Option (Event S)
  admits : Event S → Prop
  /-- Some answer to every operation is admitted. -/
  answered : ∀ op, ∃ ans, admits ⟨op, ans⟩
  /-- Where an operation is seen, every answer to what it is seen as is possible. -/
  full : ∀ op ans seen, image ⟨op, ans⟩ = some seen →
    ∀ a, ∃ ans', admits ⟨op, ans'⟩ ∧ image ⟨op, ans'⟩ = some ⟨seen.op, a⟩

variable {S : Signature.{u}} {C R : Type u}

/-- The program on the left does what the one on the right does, between
admitted hidden calls; it makes no call at all once the right one has returned. -/
def Covers (er : Erasure S) (body : C → Prog S (C ⊕ R)) :
    Prog S (C ⊕ R) → Prog S (C ⊕ R) → Prop
  | .ret r, q => q = .ret r
  | .call op next, q => (∀ r, q ≠ .ret (.inr r)) ∧ ∀ ans, er.admits ⟨op, ans⟩ →
      match er.image ⟨op, ans⟩ with
      | none => Covers er body (next ans) q
      | some seen => ∃ q', Fires body q seen q' ∧ Covers er body (next ans) q'

section Runs
variable {er : Erasure S} {left right : C → Prog S (C ⊕ R)}

theorem covers_returned {p q : Prog S (C ⊕ R)} (covers : Covers er right p q) (r : R) :
    p = .ret (.inr r) ↔ q = .ret (.inr r) := by
  cases p with
  | ret result =>
    have same : q = .ret result := covers
    rw [same]
  | call op next =>
    constructor
    · intro returned
      cases returned
    · intro returned
      exact absurd returned (covers.1 r)

/-- One call on the left: hidden, or the same call on the right. -/
theorem covers_fires (turns : ∀ c, Covers er right (left c) (.ret (.inl c)))
    {p p' q : Prog S (C ⊕ R)} {e : Event S} (fires : Fires left p e p')
    (covers : Covers er right p q) (admitted : er.admits e) :
    (er.image e = none ∧ Covers er right p' q) ∨
      ∃ seen q', er.image e = some seen ∧ Fires right q seen q' ∧ Covers er right p' q' := by
  induction fires generalizing q with
  | call op next ans =>
    have step := covers.2 ans admitted
    cases image : er.image ⟨op, ans⟩ with
    | none =>
      rw [image] at step
      exact Or.inl ⟨rfl, step⟩
    | some seen =>
      rw [image] at step
      obtain ⟨q', fires, covers'⟩ := step
      exact Or.inr ⟨seen, q', rfl, fires, covers'⟩
  | @head c _ _ _ ih =>
    have same : q = .ret (.inl c) := covers
    rw [same]
    exact ih (turns c) admitted

/-- The erased trace of an admitted run on the left is a run on the right. -/
theorem covers_reaches (turns : ∀ c, Covers er right (left c) (.ret (.inl c)))
    {p p' q : Prog S (C ⊕ R)} {t : List (Event S)} (run : Reaches left p t p')
    (covers : Covers er right p q) (admitted : ∀ e ∈ t, er.admits e) :
    ∃ q', Reaches right q (t.filterMap er.image) q' ∧ Covers er right p' q' := by
  induction run generalizing q with
  | here p => exact ⟨q, .here q, covers⟩
  | @step _ _ _ e t first rest ih =>
    have later : ∀ d ∈ t, er.admits d := fun d listed => admitted d (List.mem_cons_of_mem e listed)
    have now := covers_fires turns first covers (admitted e List.mem_cons_self)
    rcases now with ⟨hidden, covers'⟩ | ⟨seen, q', image, fires, covers'⟩
    · rw [List.filterMap_cons_none hidden]
      exact ih covers' later
    · obtain ⟨q'', run', covers''⟩ := ih covers' later
      rw [List.filterMap_cons_some image]
      exact ⟨q'', .step fires run', covers''⟩

/-- A call that can be seen is answered as the right side was. -/
theorem covers_seen {op : S.Op} {next : S.Res op → Prog S (C ⊕ R)} {q q' : Prog S (C ⊕ R)}
    {e : Event S} (covers : Covers er right (.call op next) q) {ans : S.Res op} {seen : Event S}
    (admitted : er.admits ⟨op, ans⟩) (image : er.image ⟨op, ans⟩ = some seen)
    (fires : Fires right q e q') :
    ∃ ans', er.admits ⟨op, ans'⟩ ∧ er.image ⟨op, ans'⟩ = some e ∧
      Covers er right (next ans') q' := by
  obtain ⟨eop, a⟩ := e
  have sample := covers.2 ans admitted
  rw [image] at sample
  obtain ⟨_, other, _⟩ := sample
  have same : seen.op = eop := other.same_op fires
  subst same
  obtain ⟨ans', admitted', image'⟩ := er.full op ans seen image a
  have step := covers.2 ans' admitted'
  rw [image'] at step
  obtain ⟨q'', fires', covers'⟩ := step
  rw [fires.deterministic fires']
  exact ⟨ans', admitted', image', covers'⟩

/-- The first call of a turn can be seen, so a turn is never hidden as a whole. -/
def Prompt (er : Erasure S) (p : Prog S (C ⊕ R)) : Prop :=
  ∃ op next ans seen, p = .call op next ∧ er.admits ⟨op, ans⟩ ∧ er.image ⟨op, ans⟩ = some seen

/-- One call on the right: hidden calls and then that call on the left. -/
theorem covers_answers (turns : ∀ c, Covers er right (left c) (.ret (.inl c)))
    (prompt : ∀ c, Prompt er (left c)) {p q q' : Prog S (C ⊕ R)} {e : Event S}
    (covers : Covers er right p q) (fires : Fires right q e q') :
    ∃ t p', Reaches left p t p' ∧ (∀ d ∈ t, er.admits d) ∧ t.filterMap er.image = [e] ∧
      Covers er right p' q' := by
  induction p with
  | ret result =>
    have same : q = .ret result := covers
    subst same
    cases result with
    | inr r => exact absurd fires not_fires_result
    | inl c =>
      obtain ⟨op, next, ans, seen, turn, admitted, image⟩ := prompt c
      have covers := turns c
      rw [turn] at covers
      obtain ⟨ans', admitted', image', covers'⟩ := covers_seen covers admitted image fires
      have first : Fires left (.ret (.inl c)) ⟨op, ans'⟩ (next ans') :=
        .head (turn ▸ .call op next ans')
      refine ⟨[⟨op, ans'⟩], next ans', .step first (.here _), ?_, ?_, covers'⟩
      · simpa using admitted'
      · simp [image']
  | call op next ih =>
    by_cases visible : ∃ ans seen, er.admits ⟨op, ans⟩ ∧ er.image ⟨op, ans⟩ = some seen
    · obtain ⟨ans, seen, admitted, image⟩ := visible
      obtain ⟨ans', admitted', image', covers'⟩ := covers_seen covers admitted image fires
      refine ⟨[⟨op, ans'⟩], next ans', .step (.call op next ans') (.here _), ?_, ?_, covers'⟩
      · simpa using admitted'
      · simp [image']
    · -- every admitted answer is hidden: take one and go on inside the turn
      obtain ⟨ans, admitted⟩ := er.answered op
      have hidden : er.image ⟨op, ans⟩ = none := by
        cases image : er.image ⟨op, ans⟩ with
        | none => rfl
        | some seen => exact absurd ⟨ans, seen, admitted, image⟩ visible
      have step := covers.2 ans admitted
      rw [hidden] at step
      obtain ⟨t, p', run, admits, erased, covers'⟩ := ih ans step
      refine ⟨⟨op, ans⟩ :: t, p', .step (.call op next ans) run, ?_, ?_, covers'⟩
      · exact List.forall_mem_cons.mpr ⟨admitted, admits⟩
      · rw [List.filterMap_cons_none hidden, erased]

/-- Every run on the right is the erased trace of an admitted run on the left. -/
theorem covers_follows (turns : ∀ c, Covers er right (left c) (.ret (.inl c)))
    (prompt : ∀ c, Prompt er (left c)) {p q q' : Prog S (C ⊕ R)} {t' : List (Event S)}
    (covers : Covers er right p q) (run : Reaches right q t' q') :
    ∃ t p', Reaches left p t p' ∧ (∀ d ∈ t, er.admits d) ∧ t.filterMap er.image = t' ∧
      Covers er right p' q' := by
  induction run generalizing p with
  | here q => exact ⟨[], p, .here p, fun _ listed => absurd listed List.not_mem_nil, rfl, covers⟩
  | step first _ ih =>
    obtain ⟨s, p', reach, admits, erased, covers'⟩ := covers_answers turns prompt covers first
    obtain ⟨t, p'', reach', admits', erased', covers''⟩ := ih covers'
    refine ⟨s ++ t, p'', reach.trans reach', ?_, ?_, covers''⟩
    · intro d listed
      rcases List.mem_append.mp listed with early | late
      · exact admits d early
      · exact admits' d late
    · rw [List.filterMap_append, erased, erased']
      rfl

end Runs

section Turns
variable {er : Erasure S} {right : C → Prog S (C ⊕ R)} {α : Type u}

/-- The same stretch of seen calls on both sides. -/
theorem covers_same {seen : S.Op → Prop} {expected : α → Prop} {p : Prog S α}
    (sees : ∀ op ans, seen op → er.image ⟨op, ans⟩ = some ⟨op, ans⟩)
    (obeys : p.Obeys seen expected) {f g : α → Prog S (C ⊕ R)}
    (rest : ∀ a, expected a → Covers er right (f a) (g a)) :
    Covers er right (p >>= f) (p >>= g) := by
  induction p with
  | ret a => exact rest a obeys
  | call op next ih =>
    refine ⟨fun r => nofun, fun ans _ => ?_⟩
    rw [sees op ans obeys.1]
    exact ⟨next ans >>= g, .call op _ ans, ih ans (obeys.2 ans)⟩

/-- A stretch of hidden calls on the left. -/
theorem covers_hidden {hidden : S.Op → Prop} {expected : α → Prop} {p : Prog S α}
    (hides : ∀ op ans, hidden op → er.image ⟨op, ans⟩ = none)
    (obeys : p.Obeys hidden expected) {f : α → Prog S (C ⊕ R)} {q : Prog S (C ⊕ R)}
    (live : ∀ r, q ≠ .ret (.inr r)) (rest : ∀ a, expected a → Covers er right (f a) q) :
    Covers er right (p >>= f) q := by
  induction p with
  | ret a => exact rest a obeys
  | call op next ih =>
    refine ⟨live, fun ans _ => ?_⟩
    rw [hides op ans obeys.1]
    exact ih ans (obeys.2 ans)

/-- Standing at a head is the same as having started its turn. -/
theorem covers_head {c : C} (starts : ∀ r, right c ≠ .ret r) {p : Prog S (C ⊕ R)}
    (covers : Covers er right p (right c)) : Covers er right p (.ret (.inl c)) := by
  induction p with
  | ret r => exact absurd covers (starts r)
  | call op next ih =>
    refine ⟨fun r => nofun, fun ans admitted => ?_⟩
    have step := covers.2 ans admitted
    cases image : er.image ⟨op, ans⟩ with
    | none =>
      rw [image] at step
      exact ih ans step
    | some seen =>
      rw [image] at step
      obtain ⟨q', fires, covers'⟩ := step
      exact ⟨q', .head fires, covers'⟩

end Turns
section Variables
variable {L : Type u} {α β : Type u}

/-- The process only calls allowed operations. -/
def Calls (allowed : S.Op → Prop) (x : Proc S L α) : Prop :=
  ∀ l, (x l).Obeys (fun c : L × S.Op => allowed c.2) fun _ => True

theorem calls_of_quiet {allowed : S.Op → Prop} {x : Proc S L α} (quiet : Proc.Quiet allowed x) :
    Calls allowed x := by
  intro l
  have obeys := quiet l
  generalize x l = p at obeys ⊢
  induction p with
  | ret a => trivial
  | call op next ih => exact ⟨obeys.1.2, fun ans => ih ans (obeys.2 ans)⟩

theorem Calls.bind {allowed : S.Op → Prop} {x : Proc S L α} {f : α → Proc S L β}
    (first : Calls allowed x) (rest : ∀ a, Calls allowed (f a)) : Calls allowed (x >>= f) :=
  fun l => Prog.Obeys.bind (first l) fun r _ => rest r.1 r.2

theorem calls_modify {allowed : S.Op → Prop} (f : L → L) :
    Calls allowed (modify f : Proc S L PUnit) := fun _ => trivial

/-- How a turn hands its result to the loop. -/
def endTurn (r : (C ⊕ R) × L) : Prog (S.showing L) ((C × L) ⊕ (R × L)) :=
  match r.1 with
  | .inl c => .ret (.inl (c, r.2))
  | .inr result => .ret (.inr (result, r.2))

variable (er : Erasure (S.showing L)) (body : C → Proc S L (C ⊕ R))

/-- The rest of a turn on the left covers the rest of a turn on the right. -/
def Agrees (x y : Proc S L (C ⊕ R)) : Prop :=
  ∀ l, Covers er (Proc.turn body) (x l >>= endTurn) (y l >>= endTurn)

variable {er body}

theorem agrees_pure (flow : C ⊕ R) : Agrees er body (pure flow) (pure flow) := by
  intro l
  cases flow with
  | inl c => rfl
  | inr r => rfl

theorem agrees_same {seen : S.Op → Prop}
    (sees : ∀ l op ans, seen op → er.image ⟨(l, op), ans⟩ = some ⟨(l, op), ans⟩)
    {x : Proc S L α} (calls : Calls seen x) {f g : α → Proc S L (C ⊕ R)}
    (rest : ∀ a, Agrees er body (f a) (g a)) : Agrees er body (x >>= f) (x >>= g) := by
  intro l
  change Covers er _ ((x l >>= fun r => f r.1 r.2) >>= endTurn)
    ((x l >>= fun r => g r.1 r.2) >>= endTurn)
  rw [bind_assoc, bind_assoc]
  refine covers_same ?_ (calls l) fun r _ => rest r.1 r.2
  rintro ⟨l', op⟩ ans permitted
  exact sees l' op ans permitted

theorem agrees_hidden {hidden : S.Op → Prop}
    (hides : ∀ l op ans, hidden op → er.image ⟨(l, op), ans⟩ = none)
    {x : Proc S L α} (quiet : Proc.Quiet hidden x) {f : α → Proc S L (C ⊕ R)}
    {y : Proc S L (C ⊕ R)} (live : ∀ l r, y l >>= endTurn ≠ .ret (.inr r))
    (rest : ∀ a, Agrees er body (f a) y) : Agrees er body (x >>= f) y := by
  intro l
  change Covers er _ ((x l >>= fun r => f r.1 r.2) >>= endTurn) _
  rw [bind_assoc]
  refine covers_hidden ?_ (quiet l) (live l) ?_
  · rintro ⟨l', op⟩ ans permitted
    exact hides l' op ans permitted.2
  · rintro ⟨a, l'⟩ same
    cases same
    exact rest a l'

end Variables
end InteractionErasure
