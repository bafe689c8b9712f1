import SharedWs.InteractionPrograms

/-!
# Monitors: what holds at every call of every run

A monitor watches a trace and keeps a summary of it. `rely` is what is taken
for granted about the answers, `safe` is what has to hold at each call given
the summary of everything before it. `wp` computes the condition under which
one program is safe and ends as required; the loop rule then needs one
condition for each head of the loop and covers every run, finished or not.
-/
namespace InteractionMonitors

open InteractionPrograms

universe u

structure Monitor (S : Signature.{u}) (M : Type u) where
  step : M → Event S → M
  rely : M → Event S → Prop
  safe : M → Event S → Prop

namespace Monitor
variable {S : Signature.{u}} {M : Type u} (mon : Monitor S M)

/-- The summary after a trace. -/
def run (m : M) (t : List (Event S)) : M := t.foldl mon.step m

@[simp] theorem run_nil (m : M) : mon.run m [] = m := rfl

@[simp] theorem run_cons (m : M) (e : Event S) (t : List (Event S)) :
    mon.run m (e :: t) = mon.run (mon.step m e) t := rfl

@[simp] theorem run_append (m : M) (s t : List (Event S)) :
    mon.run m (s ++ t) = mon.run (mon.run m s) t := List.foldl_append

/-- A condition on each call, read against the summary of the calls before it. -/
def Along (holds : M → Event S → Prop) : M → List (Event S) → Prop
  | _, [] => True
  | m, e :: t => holds m e ∧ Along holds (mon.step m e) t

theorem along_append {holds : M → Event S → Prop} {m : M} {s t : List (Event S)} :
    mon.Along holds m (s ++ t) ↔
      mon.Along holds m s ∧ mon.Along holds (mon.run m s) t := by
  induction s generalizing m with
  | nil => simp [Along]
  | cons e s ih => simp only [List.cons_append, Along, ih, run_cons, and_assoc]

/-- `Along` speaks about every way to cut the trace at one of its calls. -/
theorem along_iff {holds : M → Event S → Prop} {m : M} {t : List (Event S)} :
    mon.Along holds m t ↔
      ∀ before e after, t = before ++ e :: after → holds (mon.run m before) e := by
  constructor
  · rintro h before e after rfl
    exact (mon.along_append.mp h).2.1
  · intro h
    induction t generalizing m with
    | nil => trivial
    | cons e t ih =>
      refine ⟨h [] e t rfl, ih fun before d after cut => ?_⟩
      subst cut
      exact h (e :: before) d after rfl

/-- The program is safe from summary `m` and hands its result to `post`. -/
def wp {α : Type u} (post : α → M → Prop) : Prog S α → M → Prop
  | .ret a, m => post a m
  | .call op next, m =>
      ∀ ans, mon.rely m ⟨op, ans⟩ →
        mon.safe m ⟨op, ans⟩ ∧ wp post (next ans) (mon.step m ⟨op, ans⟩)

variable {α β : Type u}

theorem wp_bind {p : Prog S α} {f : α → Prog S β} {post : β → M → Prop} {m : M} :
    mon.wp post (p >>= f) m ↔ mon.wp (fun a m' => mon.wp post (f a) m') p m := by
  induction p generalizing m with
  | ret a => exact Iff.rfl
  | call op next ih =>
    simp only [Prog.call_bind, wp]
    exact forall_congr' fun ans => imp_congr_right fun _ => and_congr_right fun _ => ih ans

theorem wp_mono {first second : α → M → Prop} (weaker : ∀ a m, first a m → second a m)
    {p : Prog S α} {m : M} (h : mon.wp first p m) : mon.wp second p m := by
  induction p generalizing m with
  | ret a => exact weaker a m h
  | call op next ih => exact fun ans relied => ⟨(h ans relied).1, ih ans (h ans relied).2⟩

/-- A program of allowed calls keeps every summary property that these calls keep. -/
theorem wp_of_obeys {allowed : S.Op → Prop} {expected : α → Prop} (keep : M → Prop)
    (kept : ∀ m op ans, allowed op → keep m → mon.rely m ⟨op, ans⟩ →
      mon.safe m ⟨op, ans⟩ ∧ keep (mon.step m ⟨op, ans⟩))
    {p : Prog S α} (obeys : p.Obeys allowed expected) {m : M} (start : keep m) :
    mon.wp (fun a m' => expected a ∧ keep m') p m := by
  induction p generalizing m with
  | ret a => exact ⟨obeys, start⟩
  | call op next ih =>
    intro ans relied
    obtain ⟨safe, keep'⟩ := kept m op ans obeys.1 start relied
    exact ⟨safe, ih ans (obeys.2 ans) keep'⟩

/-- What is known of the result holds besides any postcondition. -/
theorem wp_and_obeys {allowed : S.Op → Prop} {expected : α → Prop} {post : α → M → Prop}
    {p : Prog S α} (obeys : p.Obeys allowed expected) {m : M} (h : mon.wp post p m) :
    mon.wp (fun a m' => expected a ∧ post a m') p m := by
  induction p generalizing m with
  | ret a => exact ⟨obeys, h⟩
  | call op next ih =>
    intro ans relied
    exact ⟨(h ans relied).1, ih ans (obeys.2 ans) (h ans relied).2⟩

section History
variable (rely safe : List (Event S) → Event S → Prop)

/-- The monitor whose summary is the whole trace so far. -/
def history : Monitor S (List (Event S)) where
  step := fun t e => t ++ [e]
  rely := rely
  safe := safe

theorem history_run (s t : List (Event S)) : (history rely safe).run s t = s ++ t := by
  induction t generalizing s with
  | nil => exact (List.append_nil s).symm
  | cons e t ih =>
    rw [run_cons, ih]
    exact List.append_assoc s [e] t

theorem history_along {holds : List (Event S) → Event S → Prop} {t : List (Event S)} :
    (history rely safe).Along holds [] t ↔
      ∀ before e after, t = before ++ e :: after → holds before e := by
  rw [along_iff]
  simp only [history_run, List.nil_append]

/-- Induction over a trace whose calls all satisfy `holds` against the calls before them. -/
@[elab_as_elim]
theorem history_induction {holds : List (Event S) → Event S → Prop} {P : List (Event S) → Prop}
    (t : List (Event S)) (nil : P [])
    (snoc : ∀ t e, (∀ before d after, t = before ++ d :: after → holds before d) → holds t e →
      P t → P (t ++ [e]))
    (all : ∀ before e after, t = before ++ e :: after → holds before e) :
    P t := by
  suffices further : ∀ s, (∀ before e after, s ++ t = before ++ e :: after → holds before e) →
      P s → P (s ++ t) from further [] all nil
  clear all
  induction t with
  | nil =>
    intro s _ start
    rw [List.append_nil]
    exact start
  | cons e t ih =>
    intro s all start
    have early : ∀ before d after, s = before ++ d :: after → holds before d := by
      intro before d after cut
      apply all before d (after ++ e :: t)
      rw [cut, List.append_assoc, List.cons_append]
    have next := snoc s e early (all s e t rfl) start
    rw [List.append_cons] at all ⊢
    exact ih (s ++ [e]) all next

end History

section Loop
variable {C R : Type u} {body : C → Prog S (C ⊕ R)}
variable {inv : C → M → Prop} {post : R → M → Prop}

/-- What a task owes at the end of a turn: the invariant of the head it
continues at, or the postcondition of the loop. -/
def Owes (inv : C → M → Prop) (post : R → M → Prop) : C ⊕ R → M → Prop
  | .inl c, m => inv c m
  | .inr r, m => post r m

theorem fires_wp (turn : ∀ c m, inv c m → mon.wp (Owes inv post) (body c) m)
    {p q : Prog S (C ⊕ R)} {e : Event S} (fires : Fires body p e q) {m : M}
    (h : mon.wp (Owes inv post) p m) (relied : mon.rely m e) :
    mon.safe m e ∧ mon.wp (Owes inv post) q (mon.step m e) := by
  induction fires with
  | call op next ans => exact h ans relied
  | head _ ih => exact ih (turn _ _ h) relied

/-- The loop rule. Every call of every run is safe, and at every point the rest
of the current turn still owes the invariant or the postcondition. -/
theorem reaches_wp (turn : ∀ c m, inv c m → mon.wp (Owes inv post) (body c) m)
    {p q : Prog S (C ⊕ R)} {t : List (Event S)} (run : Reaches body p t q) {m : M}
    (h : mon.wp (Owes inv post) p m) (relied : mon.Along mon.rely m t) :
    mon.Along mon.safe m t ∧ mon.wp (Owes inv post) q (mon.run m t) := by
  induction run generalizing m with
  | here => exact ⟨trivial, h⟩
  | step first _ ih =>
    obtain ⟨safe, h'⟩ := mon.fires_wp turn first h relied.1
    obtain ⟨safe', rest⟩ := ih h' relied.2
    exact ⟨⟨safe, safe'⟩, rest⟩

end Loop

section Variables
variable {L : Type u} (mon : Monitor (S.showing L) M)

/-- The process is safe from variables `l` and summary `m` and ends in `post`. -/
def ensures (post : α → L → M → Prop) (x : Proc S L α) (l : L) (m : M) : Prop :=
  mon.wp (fun r m' => post r.1 r.2 m') (x l) m

@[simp] theorem ensures_pure {post : α → L → M → Prop} {a : α} {l : L} {m : M} :
    mon.ensures post (pure a : Proc S L α) l m ↔ post a l m := Iff.rfl

@[simp] theorem ensures_bind {post : β → L → M → Prop} {x : Proc S L α}
    {f : α → Proc S L β} {l : L} {m : M} :
    mon.ensures post (x >>= f) l m ↔
      mon.ensures (fun a l' m' => mon.ensures post (f a) l' m') x l m :=
  mon.wp_bind

@[simp] theorem ensures_get {post : L → L → M → Prop} {l : L} {m : M} :
    mon.ensures post (get : Proc S L L) l m ↔ post l l m := Iff.rfl

@[simp] theorem ensures_set {post : PUnit → L → M → Prop} {l l' : L} {m : M} :
    mon.ensures post (set l' : Proc S L PUnit) l m ↔ post ⟨⟩ l' m := Iff.rfl

@[simp] theorem ensures_modify {post : PUnit → L → M → Prop} {f : L → L} {l : L} {m : M} :
    mon.ensures post (modify f : Proc S L PUnit) l m ↔ post ⟨⟩ (f l) m := Iff.rfl

theorem ensures_ite {c : Prop} [Decidable c] {post : α → L → M → Prop} {x y : Proc S L α} {l : L}
    {m : M} (yes : c → mon.ensures post x l m) (no : ¬ c → mon.ensures post y l m) :
    mon.ensures post (if c then x else y) l m := by
  split
  · rename_i holds
    exact yes holds
  · rename_i fails
    exact no fails

theorem ensures_mono {first second : α → L → M → Prop}
    (weaker : ∀ a l m, first a l m → second a l m) {x : Proc S L α} {l : L} {m : M}
    (h : mon.ensures first x l m) : mon.ensures second x l m := by
  refine mon.wp_mono (p := x l) ?_ h
  rintro ⟨a, l'⟩ m' h'
  exact weaker a l' m' h'

/-- Sequencing through an assertion between the two parts. -/
theorem ensures_seq {mid : α → L → M → Prop} {post : β → L → M → Prop} {x : Proc S L α}
    {f : α → Proc S L β} {l : L} {m : M} (first : mon.ensures mid x l m)
    (rest : ∀ a l' m', mid a l' m' → mon.ensures post (f a) l' m') :
    mon.ensures post (x >>= f) l m :=
  mon.ensures_bind.mpr (mon.ensures_mono rest first)

theorem ensures_of_quiet {allowed : S.Op → Prop} {x : Proc S L α} (quiet : Proc.Quiet allowed x)
    (keep : M → Prop) {l : L}
    (kept : ∀ m op ans, allowed op → keep m → mon.rely m ⟨(l, op), ans⟩ →
      mon.safe m ⟨(l, op), ans⟩ ∧ keep (mon.step m ⟨(l, op), ans⟩))
    {m : M} (start : keep m) : mon.ensures (fun _ l' m' => l' = l ∧ keep m') x l m := by
  refine mon.wp_of_obeys keep ?_ (quiet l) start
  rintro m ⟨l', op⟩ ans ⟨same, permitted⟩ keeps relied
  subst same
  exact kept m op ans permitted keeps relied

/-- Frame rule: a quiet process ends with the variables it started with. -/
theorem ensures_frame {allowed : S.Op → Prop} {x : Proc S L α} (quiet : Proc.Quiet allowed x)
    {post : α → L → M → Prop} {l : L} {m : M} (h : mon.ensures post x l m) :
    mon.ensures (fun a l' m' => l' = l ∧ post a l' m') x l m :=
  mon.wp_and_obeys (quiet l) h

variable {C R : Type u} {body : C → Proc S L (C ⊕ R)}
variable {inv : C → L → M → Prop} {post : R → L → M → Prop}

/-- What a turn over variables owes. -/
def Due (inv : C → L → M → Prop) (post : R → L → M → Prop) : C ⊕ R → L → M → Prop
  | .inl c, l, m => inv c l m
  | .inr r, l, m => post r l m

@[simp] theorem due_inl {c : C} {l : L} {m : M} :
    Due inv post (.inl c) l m ↔ inv c l m := Iff.rfl

@[simp] theorem due_inr {r : R} {l : L} {m : M} :
    Due inv post (.inr r) l m ↔ post r l m := Iff.rfl

theorem turn_wp {c : C} {l : L} {m : M} (h : mon.ensures (Due inv post) (body c) l m) :
    mon.wp (Owes (fun c m => inv c.1 c.2 m) (fun r m => post r.1 r.2 m))
      (Proc.turn body (c, l)) m := by
  refine mon.wp_bind.mpr (mon.wp_mono ?_ h)
  rintro ⟨flow, l'⟩ m' owed
  cases flow with
  | inl c' => exact owed
  | inr r => exact owed

/-- The loop rule over variables, from the start of a turn. -/
theorem loop_rule (turns : ∀ c l m, inv c l m → mon.ensures (Due inv post) (body c) l m)
    {c : C} {l : L} {m : M} (start : inv c l m) {t : List (Event (S.showing L))}
    {q : Prog (S.showing L) ((C × L) ⊕ (R × L))}
    (run : Reaches (Proc.turn body) (.ret (.inl (c, l))) t q)
    (relied : mon.Along mon.rely m t) :
    mon.Along mon.safe m t ∧
      mon.wp (Owes (fun c m => inv c.1 c.2 m) (fun r m => post r.1 r.2 m)) q
        (mon.run m t) :=
  mon.reaches_wp (fun c m h => mon.turn_wp (turns c.1 c.2 m h)) run start relied

end Variables
end Monitor
end InteractionMonitors
