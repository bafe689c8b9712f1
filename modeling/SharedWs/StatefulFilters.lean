import Mathlib.Data.List.Basic

/-!
# Filters whose predicate remembers

A predicate with memory is asked once for each item of a list, from the front, and the items it
answers `true` for are kept in their order. In place, such a filter is made of swaps; a swap with
a place that does not exist gives `none`.
-/
namespace StatefulFilters

variable {σ α : Type}

/-- The items that are kept, and the memory after the last question. -/
def filterWith (ask : σ → α → Bool × σ) : σ → List α → List α × σ
  | memory, [] => ([], memory)
  | memory, item :: rest =>
    let verdict := ask memory item
    let others := filterWith ask verdict.2 rest
    (if verdict.1 then item :: others.1 else others.1, others.2)

section Filter
variable {ask : σ → α → Bool × σ}

theorem filterWith_snoc (memory : σ) (items : List α) (item : α) :
    filterWith ask memory (items ++ [item]) =
      (if (ask (filterWith ask memory items).2 item).1 then
          (filterWith ask memory items).1 ++ [item]
        else (filterWith ask memory items).1,
        (ask (filterWith ask memory items).2 item).2) := by
  induction items generalizing memory with
  | nil => rfl
  | cons first rest ih =>
    simp only [List.cons_append, filterWith, ih]
    by_cases keeps : (ask memory first).1 = true
    · by_cases last : (ask (filterWith ask (ask memory first).2 rest).2 item).1 = true
      · simp [keeps, last]
      · simp [keeps, last]
    · simp [keeps]

theorem filterWith_sublist (memory : σ) (items : List α) :
    (filterWith ask memory items).1.Sublist items := by
  induction items generalizing memory with
  | nil => exact List.Sublist.refl []
  | cons item rest ih =>
    by_cases keeps : (ask memory item).1 = true
    · simpa [filterWith, keeps] using ih (ask memory item).2
    · simpa [filterWith, keeps] using (ih (ask memory item).2).cons item

end Filter

/-- Without memory it is the filter of the library. -/
theorem filterWith_plain (keeps : α → Bool) (memory : σ) (items : List α) :
    filterWith (fun memory item => (keeps item, memory)) memory items =
      (items.filter keeps, memory) := by
  induction items with
  | nil => rfl
  | cons item rest ih =>
    by_cases kept : keeps item = true
    · simp [filterWith, ih, kept]
    · simp [filterWith, ih, kept]

/-- The predicate that also writes down what it is asked about. -/
def recording (ask : σ → α → Bool × σ) (memory : σ × List α) (item : α) :
    Bool × (σ × List α) :=
  ((ask memory.1 item).1, (ask memory.1 item).2, memory.2 ++ [item])

/-- It is asked about every item once, in their order. -/
theorem filterWith_recording (ask : σ → α → Bool × σ) (memory : σ) (log items : List α) :
    filterWith (recording ask) (memory, log) items =
      ((filterWith ask memory items).1, (filterWith ask memory items).2, log ++ items) := by
  induction items generalizing memory log with
  | nil => simp [filterWith]
  | cons item rest ih => simp [filterWith, recording, ih]

/-- Exchange the items at two places. -/
def swap (items : List α) (i j : Nat) : Option (List α) := do
  let first ← items[i]?
  let second ← items[j]?
  pure ((items.set i second).set j first)

theorem swap_apart (front middle back : List α) (first second : α) :
    swap (front ++ first :: (middle ++ second :: back)) front.length
        (front.length + (middle.length + 1)) =
      some (front ++ second :: (middle ++ first :: back)) := by
  have left : (front ++ first :: (middle ++ second :: back))[front.length]? = some first := by
    simp
  have right : (front ++ first :: (middle ++ second :: back))[front.length +
      (middle.length + 1)]? = some second := by
    rw [List.getElem?_append_right (Nat.le_add_right _ _), Nat.add_sub_cancel_left]
    simp
  simp only [swap, left, right, Option.bind_eq_bind, Option.bind_some, Option.pure_def,
    Option.some.injEq]
  rw [List.set_append_right _ _ (Nat.le_refl _), Nat.sub_self, List.set_cons_zero,
    List.set_append_right _ _ (Nat.le_add_right _ _), Nat.add_sub_cancel_left,
    List.set_cons_succ, List.set_append_right _ _ (Nat.le_refl _), Nat.sub_self,
    List.set_cons_zero]

end StatefulFilters
