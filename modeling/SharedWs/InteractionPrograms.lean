import Mathlib.Logic.Basic

/-!
# Programs that call operations and wait for the answers

A program either returns or calls one operation and goes on with whatever
answer comes back. Nothing is assumed about who answers: a remote party, a
clock, a callback supplied by a user. A run therefore records calls together
with their answers, and a statement about every run is a statement about every
behaviour of all those parties at once.

Long-lived tasks are loops. A loop is given by its heads and by the program of
one turn, which either names the head to continue at or leaves the loop.
Every finite stretch of such a task is a `Reaches` derivation, so unfinished
runs are covered and no bound on the number of turns is needed.
-/
namespace InteractionPrograms

universe u

/-- Operations with the type of their answers. -/
structure Signature where
  Op : Type u
  Res : Op → Type u

inductive Prog (S : Signature.{u}) (α : Type u) : Type u where
  | ret (a : α)
  | call (op : S.Op) (next : S.Res op → Prog S α)

namespace Prog
variable {S : Signature.{u}} {α β γ : Type u}

def bind : Prog S α → (α → Prog S β) → Prog S β
  | .ret a, f => f a
  | .call op next, f => .call op fun ans => (next ans).bind f

instance : Monad (Prog S) where
  pure := .ret
  bind := bind

@[simp] theorem pure_eq (a : α) : (pure a : Prog S α) = .ret a := rfl

@[simp] theorem ret_bind (a : α) (f : α → Prog S β) : (Prog.ret a >>= f) = f a := rfl

@[simp] theorem call_bind (op : S.Op) (next : S.Res op → Prog S α) (f : α → Prog S β) :
    (Prog.call op next >>= f) = .call op fun ans => next ans >>= f := rfl

theorem bind_ret (p : Prog S α) : (p >>= Prog.ret) = p := by
  induction p with
  | ret a => rfl
  | call op next ih =>
    rw [call_bind]
    congr 1
    funext ans
    exact ih ans

theorem bind_assoc (p : Prog S α) (f : α → Prog S β) (g : β → Prog S γ) :
    (p >>= f >>= g) = p >>= fun a => f a >>= g := by
  induction p with
  | ret a => rfl
  | call op next ih =>
    simp only [call_bind]
    congr 1
    funext ans
    exact ih ans

instance : LawfulMonad (Prog S) :=
  LawfulMonad.mk' (Prog S) (fun p => bind_ret p) (fun _ _ => rfl) bind_assoc

/-- Every call of the program is allowed and every value it returns is expected. -/
def Obeys (allowed : S.Op → Prop) (expected : α → Prop) : Prog S α → Prop
  | .ret a => expected a
  | .call op next => allowed op ∧ ∀ ans, (next ans).Obeys allowed expected

theorem Obeys.bind {allowed : S.Op → Prop} {expected : α → Prop} {result : β → Prop}
    {p : Prog S α} {f : α → Prog S β} (first : p.Obeys allowed expected)
    (rest : ∀ a, expected a → (f a).Obeys allowed result) :
    (p >>= f).Obeys allowed result := by
  induction p with
  | ret a => exact rest a first
  | call op next ih => exact ⟨first.1, fun ans => ih ans (first.2 ans)⟩

theorem Obeys.mono {first second : S.Op → Prop} {expected result : α → Prop} {p : Prog S α}
    (obeys : p.Obeys first expected) (calls : ∀ op, first op → second op)
    (returns : ∀ a, expected a → result a) : p.Obeys second result := by
  induction p with
  | ret a => exact returns a obeys
  | call op next ih => exact ⟨calls op obeys.1, fun ans => ih ans (obeys.2 ans)⟩

theorem Obeys.calls {allowed : S.Op → Prop} {expected : α → Prop} {p : Prog S α}
    (obeys : p.Obeys allowed expected) : p.Obeys allowed fun _ => True :=
  obeys.mono (fun _ permitted => permitted) fun _ _ => trivial

end Prog

/-- One call of a run with the answer it got. -/
structure Event (S : Signature.{u}) where
  op : S.Op
  ans : S.Res op

/-- What the last event of a trace adds to a projection of it. -/
theorem filterMap_snoc {α β : Type u} (f : α → Option β) (t : List α) (e : α) :
    (t ++ [e]).filterMap f = t.filterMap f ++ (f e).toList := by
  rw [List.filterMap_append]
  cases found : f e <;> simp [found]

section Loop
variable {S : Signature.{u}} {C R : Type u} (body : C → Prog S (C ⊕ R))

/-- A task is somewhere inside one turn of its loop. Returning a head starts
the turn of that head; returning a result ends the task. -/
inductive Fires : Prog S (C ⊕ R) → Event S → Prog S (C ⊕ R) → Prop
  | call (op : S.Op) (next : S.Res op → Prog S (C ⊕ R)) (ans : S.Res op) :
      Fires (.call op next) ⟨op, ans⟩ (next ans)
  | head {c : C} {e : Event S} {q : Prog S (C ⊕ R)} (turn : Fires (body c) e q) :
      Fires (.ret (.inl c)) e q

/-- The trace leads the task from its first program to its second one. -/
inductive Reaches : Prog S (C ⊕ R) → List (Event S) → Prog S (C ⊕ R) → Prop
  | here (p : Prog S (C ⊕ R)) : Reaches p [] p
  | step {p q r : Prog S (C ⊕ R)} {e : Event S} {t : List (Event S)}
      (first : Fires body p e q) (rest : Reaches q t r) : Reaches p (e :: t) r

variable {body}

theorem Reaches.trans {p q r : Prog S (C ⊕ R)} {s t : List (Event S)}
    (before : Reaches body p s q) (after : Reaches body q t r) :
    Reaches body p (s ++ t) r := by
  induction before with
  | here => exact after
  | step first _ ih => exact .step first (ih after)

theorem Reaches.snoc {p q r : Prog S (C ⊕ R)} {e : Event S} {t : List (Event S)}
    (before : Reaches body p t q) (last : Fires body q e r) :
    Reaches body p (t ++ [e]) r :=
  before.trans (.step last (.here r))

theorem Reaches.split {p r : Prog S (C ⊕ R)} {s t : List (Event S)}
    (run : Reaches body p (s ++ t) r) :
    ∃ q, Reaches body p s q ∧ Reaches body q t r := by
  induction s generalizing p with
  | nil => exact ⟨p, .here p, run⟩
  | cons e s ih =>
    cases run with
    | step first rest =>
      obtain ⟨q, before, after⟩ := ih rest
      exact ⟨q, .step first before, after⟩

theorem Fires.deterministic {p q r : Prog S (C ⊕ R)} {e : Event S}
    (first : Fires body p e q) (second : Fires body p e r) : q = r := by
  induction first with
  | call op next ans => cases second; rfl
  | head _ ih => cases second with | head turn => exact ih turn

theorem not_fires_result {r : R} {e : Event S} {q : Prog S (C ⊕ R)} :
    ¬ Fires body (.ret (.inr r)) e q := by
  rintro ⟨⟩

/-- The operation about to be called does not depend on its answer. -/
theorem Fires.same_op {p q r : Prog S (C ⊕ R)} {d e : Event S}
    (first : Fires body p d q) (second : Fires body p e r) : d.op = e.op := by
  induction first with
  | call op next ans => cases second; rfl
  | head _ ih => cases second with | head turn => exact ih turn

/-- A task takes every answer to its call. -/
theorem Fires.answered {p q : Prog S (C ⊕ R)} {e : Event S} (fires : Fires body p e q)
    (ans : S.Res e.op) : ∃ r, Fires body p ⟨e.op, ans⟩ r := by
  induction fires with
  | call op next _ => exact ⟨next ans, .call op next ans⟩
  | head _ ih =>
    obtain ⟨r, turn⟩ := ih ans
    exact ⟨r, .head turn⟩

variable (body) in
/-- Run the task against computed answers: `n` calls, the first of them numbered `i`. -/
def play (answer : Nat → (op : S.Op) → S.Res op) :
    Nat → Nat → Prog S (C ⊕ R) → List (Event S) × Prog S (C ⊕ R)
  | 0, _, p => ([], p)
  | n + 1, i, .call op next =>
    let rest := play answer n (i + 1) (next (answer i op))
    (⟨op, answer i op⟩ :: rest.1, rest.2)
  | n + 1, i, .ret (.inl c) =>
    match body c with
    | .call op next =>
      let rest := play answer n (i + 1) (next (answer i op))
      (⟨op, answer i op⟩ :: rest.1, rest.2)
    | .ret _ => ([], .ret (.inl c))
  | _ + 1, _, .ret (.inr r) => ([], .ret (.inr r))

theorem play_reaches (answer : Nat → (op : S.Op) → S.Res op) (n i : Nat)
    (p : Prog S (C ⊕ R)) :
    Reaches body p (play body answer n i p).1 (play body answer n i p).2 := by
  induction n generalizing i p with
  | zero => exact .here p
  | succ n ih =>
    match p with
    | .call op next => exact .step (.call op next (answer i op)) (ih (i + 1) _)
    | .ret (.inr r) => exact .here _
    | .ret (.inl c) =>
      unfold play
      cases turn : body c with
      | ret _ => exact .here _
      | call op next =>
        have first : Fires body (.ret (.inl c)) ⟨op, answer i op⟩ (next (answer i op)) :=
          .head (turn ▸ .call op next (answer i op))
        exact .step first (ih (i + 1) _)

/-- Every answer of such a run is a computed one. -/
theorem play_answers (answer : Nat → (op : S.Op) → S.Res op) (n i : Nat) (p : Prog S (C ⊕ R)) :
    ∀ e ∈ (play body answer n i p).1, ∃ j, e.ans = answer j e.op := by
  induction n generalizing i p with
  | zero => exact List.forall_mem_nil _
  | succ n ih =>
    match p with
    | .call op next => exact List.forall_mem_cons.mpr ⟨⟨i, rfl⟩, ih (i + 1) _⟩
    | .ret (.inr r) => exact List.forall_mem_nil _
    | .ret (.inl c) =>
      unfold play
      cases body c with
      | ret _ => exact List.forall_mem_nil _
      | call op next => exact List.forall_mem_cons.mpr ⟨⟨i, rfl⟩, ih (i + 1) _⟩

end Loop

/-- Programs with variables. Each call also shows the variables as they stand
at that call, so a trace determines what the task holds at every point. -/
def Signature.showing (S : Signature.{u}) (L : Type u) : Signature.{u} where
  Op := L × S.Op
  Res := fun c => S.Res c.2

abbrev Proc (S : Signature.{u}) (L : Type u) := StateT L (Prog (S.showing L))

namespace Proc
variable {S : Signature.{u}} {L C R : Type u} {α β : Type u}

def call (op : S.Op) : Proc S L (S.Res op) :=
  fun l => Prog.call (S := S.showing L) (l, op) fun ans => .ret (ans, l)

/-- One turn of a loop over variables, as a turn over heads that carry them. -/
def turn (body : C → Proc S L (C ⊕ R)) (c : C × L) :
    Prog (S.showing L) ((C × L) ⊕ (R × L)) := do
  let (flow, l) ← body c.1 c.2
  match flow with
  | .inl c' => .ret (.inl (c', l))
  | .inr r => .ret (.inr (r, l))

/-- The process only calls allowed operations and gives the variables back unchanged. -/
def Quiet (allowed : S.Op → Prop) (x : Proc S L α) : Prop :=
  ∀ l, (x l).Obeys (fun c : L × S.Op => c.1 = l ∧ allowed c.2) (fun r => r.2 = l)

theorem Quiet.pure {allowed : S.Op → Prop} (a : α) : Quiet allowed (pure a : Proc S L α) :=
  fun _ => rfl

theorem Quiet.get {allowed : S.Op → Prop} : Quiet allowed (get : Proc S L L) := fun _ => rfl

theorem Quiet.mono {first second : S.Op → Prop} {x : Proc S L α} (quiet : Quiet first x)
    (weaker : ∀ op, first op → second op) : Quiet second x :=
  fun l => (quiet l).mono (fun c allowed => ⟨allowed.1, weaker c.2 allowed.2⟩) fun _ same => same

theorem Quiet.bind {allowed : S.Op → Prop} {x : Proc S L α} {f : α → Proc S L β}
    (first : Quiet allowed x) (rest : ∀ a, Quiet allowed (f a)) :
    Quiet allowed (x >>= f) := by
  intro l
  refine Prog.Obeys.bind (first l) ?_
  rintro ⟨a, l'⟩ same
  subst same
  exact rest a l'

theorem Quiet.ite {allowed : S.Op → Prop} {c : Prop} [Decidable c] {x y : Proc S L α}
    (yes : Quiet allowed x) (no : Quiet allowed y) : Quiet allowed (if c then x else y) := by
  split
  · exact yes
  · exact no

end Proc
end InteractionPrograms
