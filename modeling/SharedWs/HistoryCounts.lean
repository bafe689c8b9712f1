import Mathlib.Data.List.Induction
import Mathlib.Data.List.TakeWhile

/-!
# Counting in a history since it was last reset

A history is a list of entries, oldest first. Some of its entries forget what
came before them; of the later ones, those that matter are counted.
-/
namespace HistoryCounts

variable {α : Type} {resets counts : α → Bool}

/-- The entries that count and come after the last one that resets. -/
def countSince (resets counts : α → Bool) (history : List α) : Nat :=
  (history.reverse.takeWhile fun entry => !resets entry).countP counts

@[simp] theorem countSince_nil : countSince resets counts [] = 0 := rfl

theorem countSince_snoc (history : List α) (entry : α) :
    countSince resets counts (history ++ [entry]) =
      if resets entry then 0
      else countSince resets counts history + if counts entry then 1 else 0 := by
  unfold countSince
  rw [List.reverse_append, List.reverse_singleton, List.singleton_append, List.takeWhile_cons]
  by_cases resetting : resets entry = true
  · simp [resetting]
  · simp [resetting, List.countP_cons]

/-- A counter is right when it starts at zero and each entry moves it as it
should. -/
theorem counter_eq_countSince {σ : Type} {step : σ → α → σ} {counter : σ → Nat}
    (moves : ∀ s entry, counter (step s entry) =
      if resets entry then 0 else counter s + if counts entry then 1 else 0)
    {start : σ} (zero : counter start = 0) (history : List α) :
    counter (history.foldl step start) = countSince resets counts history := by
  induction history using List.reverseRecOn with
  | nil => exact zero
  | append_singleton history entry ih =>
    rw [List.foldl_append, List.foldl_cons, List.foldl_nil, moves, ih, countSince_snoc]

/-- The entries after the last one that resets, oldest first. -/
def entriesSince (resets : α → Bool) (history : List α) : List α :=
  (history.reverse.takeWhile fun entry => !resets entry).reverse

@[simp] theorem entriesSince_nil : entriesSince resets [] = [] := rfl

theorem entriesSince_snoc (history : List α) (entry : α) :
    entriesSince resets (history ++ [entry]) =
      if resets entry then [] else entriesSince resets history ++ [entry] := by
  unfold entriesSince
  rw [List.reverse_append, List.reverse_singleton, List.singleton_append, List.takeWhile_cons]
  by_cases resetting : resets entry = true
  · simp [resetting]
  · simp [resetting]

/-- Without resets every entry counts. -/
@[simp] theorem entriesSince_never (history : List α) :
    entriesSince (fun _ => false) history = history := by
  have all : history.reverse.takeWhile (fun _ => !false) = history.reverse :=
    List.takeWhile_eq_self_iff.mpr (by simp)
  rw [entriesSince, all, List.reverse_reverse]

/-- A field that a reset puts back to its first value and every other entry moves has been moved
by the entries since the last reset alone. A step of the state may fail. -/
theorem field_eq_foldl_since {σ β : Type} {step : σ → α → Option σ} {field : σ → β}
    {move : β → α → β} {first : β} {start s : σ} {history : List α}
    (run : history.foldlM step start = some s)
    (moves : ∀ s entry s', step s entry = some s' →
      field s' = if resets entry then first else move (field s) entry)
    (begins : field start = first) :
    field s = (entriesSince resets history).foldl move first := by
  induction history using List.reverseRecOn generalizing s with
  | nil =>
    obtain rfl : start = s := by simpa using run
    exact begins
  | append_singleton history entry ih =>
    rw [List.foldlM_append] at run
    obtain ⟨middle, before, last⟩ := Option.bind_eq_some_iff.mp run
    have stepped : step middle entry = some s := by simpa using last
    rw [moves middle entry s stepped, ih before, entriesSince_snoc]
    by_cases resetting : resets entry = true
    · simp [resetting]
    · simp [resetting]

theorem foldl_elim {β γ : Type} (take : α → Option β) (put : γ → β → γ) (entries : List α)
    (held : γ) :
    entries.foldl (fun held entry => (take entry).elim held (put held)) held =
      (entries.filterMap take).foldl put held := by
  induction entries generalizing held with
  | nil => rfl
  | cons entry entries ih =>
    rw [List.foldl_cons, ih]
    cases taken : take entry with
    | none => rw [List.filterMap_cons_none taken, Option.elim_none]
    | some item => rw [List.filterMap_cons_some taken, List.foldl_cons, Option.elim_some]

/-- A field that collects what some entries carry has collected what the entries since the last
reset carry, in their order. -/
theorem field_eq_collected_since {σ β γ : Type} {step : σ → α → Option σ} {field : σ → γ}
    {take : α → Option β} {put : γ → β → γ} {first : γ} {start s : σ} {history : List α}
    (run : history.foldlM step start = some s)
    (moves : ∀ s entry s', step s entry = some s' →
      field s' = if resets entry then first else (take entry).elim (field s) (put (field s)))
    (begins : field start = first) :
    field s = ((entriesSince resets history).filterMap take).foldl put first := by
  rw [← foldl_elim]
  exact field_eq_foldl_since run moves begins

end HistoryCounts
