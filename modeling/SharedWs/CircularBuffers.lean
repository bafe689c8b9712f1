import Mathlib.Data.List.Induction
import SharedWs.StatefulFilters

/-!
# The fixed-capacity ring

`CircularBuffer` of `core/circular_buffer.rs`, as the health monitor uses it: items are pushed at
the back, and a full ring gives up its front first. The ring is compared with the list of all
items pushed: it holds the last of them, as many as fit.

`retain` works in place. It moves each item that stays over the first one that goes, and cuts off
the end when it has seen all of them.
-/
namespace CircularBuffers

open StatefulFilters

/-- The deque of the source is a list, front first. -/
structure CircularBuffer (α : Type) where
  buffer : List α
  capacity : Nat
  bounded : buffer.length ≤ capacity

variable {α : Type}

namespace CircularBuffer

def new (capacity : Nat) : CircularBuffer α where
  buffer := []
  capacity := capacity
  bounded := Nat.zero_le capacity

def len (ring : CircularBuffer α) : Nat :=
  ring.buffer.length

/-- A ring without capacity stores nothing. -/
def push (ring : CircularBuffer α) (item : α) : CircularBuffer α :=
  if empty : ring.capacity = 0 then ring
  else if full : ring.buffer.length = ring.capacity then
    { ring with
      buffer := ring.buffer.tail ++ [item]
      bounded := by
        simp only [List.length_append, List.length_tail, List.length_singleton]
        omega }
  else
    { ring with
      buffer := ring.buffer ++ [item]
      bounded := by
        have fits := ring.bounded
        simp only [List.length_append, List.length_singleton]
        omega }

def clear (ring : CircularBuffer α) : CircularBuffer α :=
  { ring with
    buffer := []
    bounded := Nat.zero_le ring.capacity }

def popFront (ring : CircularBuffer α) : Option α × CircularBuffer α :=
  (ring.buffer.head?,
    { ring with
      buffer := ring.buffer.tail
      bounded := by
        have fits := ring.bounded
        simp only [List.length_tail]
        omega })

end CircularBuffer

open CircularBuffer

/-- The last `n` items of a list, or all when there are fewer. -/
def lastItems (n : Nat) (items : List α) : List α :=
  items.drop (items.length - n)

theorem length_lastItems (n : Nat) (items : List α) :
    (lastItems n items).length = min n items.length := by
  simp only [lastItems, List.length_drop]
  omega

/-- Only the last `n` items matter for what is kept after one more. -/
theorem lastItems_snoc (n : Nat) (items : List α) (item : α) :
    lastItems n (lastItems n items ++ [item]) = lastItems n (items ++ [item]) := by
  have kept : lastItems n items ++ [item] = (items ++ [item]).drop (items.length - n) :=
    (List.drop_append_of_le_length (Nat.sub_le items.length n)).symm
  rw [kept]
  simp only [lastItems, List.drop_drop, List.length_drop, List.length_append,
    List.length_singleton]
  congr 1
  omega

@[simp] theorem push_capacity (ring : CircularBuffer α) (item : α) :
    (ring.push item).capacity = ring.capacity := by
  unfold push
  split
  · rfl
  · split <;> rfl

/-- A cleared ring is a new one. -/
theorem clear_eq {ring : CircularBuffer α} {capacity : Nat} (size : ring.capacity = capacity) :
    ring.clear = new capacity := by
  subst size
  rfl

/-- Pushing appends and keeps what fits. -/
theorem push_buffer (ring : CircularBuffer α) (item : α) :
    (ring.push item).buffer = lastItems ring.capacity (ring.buffer ++ [item]) := by
  have fits := ring.bounded
  unfold push lastItems
  by_cases empty : ring.capacity = 0
  · have none : ring.buffer = [] := List.eq_nil_of_length_eq_zero (by omega)
    simp [empty, none]
  by_cases full : ring.buffer.length = ring.capacity
  · have one : ring.capacity + 1 - ring.capacity = 1 := by omega
    have some_item : 1 ≤ ring.buffer.length := by omega
    simp only [empty, full, ↓reduceDIte, List.length_append, List.length_singleton]
    rw [one, List.drop_append_of_le_length some_item, List.drop_one]
  · have room : ring.buffer.length + 1 - ring.capacity = 0 := by omega
    simp [empty, full, room]

/-- The ring holds the last items pushed since it was created. -/
theorem foldl_push (capacity : Nat) (items : List α) :
    (items.foldl push (new capacity)).buffer = lastItems capacity items ∧
      (items.foldl push (new capacity)).capacity = capacity := by
  induction items using List.reverseRecOn with
  | nil => simp [new, lastItems]
  | append_singleton items item ih =>
    obtain ⟨held, size⟩ := ih
    rw [List.foldl_append, List.foldl_cons, List.foldl_nil]
    constructor
    · rw [push_buffer, held, size, lastItems_snoc]
    · rw [push_capacity, size]

section Retain
variable {σ : Type}

/-- The deque, the counter `del` and what the closure has captured. -/
structure Retaining (σ α : Type) where
  buffer : List α
  del : Nat
  captured : σ

/-- One turn of the `for` loop; an index out of range and `i - del` below zero give `none`. -/
def retainTurn (f : σ → α → Bool × σ) (state : Retaining σ α) (i : Nat) :
    Option (Retaining σ α) := do
  let item ← state.buffer[i]?
  let (keep, captured) := f state.captured item
  if !keep then
    pure { state with del := state.del + 1, captured := captured }
  else if 0 < state.del then
    if state.del ≤ i then
      let buffer ← swap state.buffer (i - state.del) i
      pure { state with buffer := buffer, captured := captured }
    else none
  else
    pure { state with captured := captured }

/-- `retain` on the deque. -/
def retainDeque (f : σ → α → Bool × σ) (buffer : List α) (captured : σ) :
    Option (List α × σ) := do
  let len := buffer.length
  let state ← (List.range len).foldlM (retainTurn f) ⟨buffer, 0, captured⟩
  if 0 < state.del then
    if state.del ≤ len then
      pure (state.buffer.take (len - state.del), state.captured)
    else none
  else
    pure (state.buffer, state.captured)

variable {f : σ → α → Bool × σ} {captured : σ} {seen rest dropped : List α}

/-- After `seen`: the items that stay are in front and in order, behind them as many others as
were dropped, in some order, and the rest is untouched. -/
structure Scanned (f : σ → α → Bool × σ) (captured : σ) (seen rest dropped : List α)
    (state : Retaining σ α) : Prop where
  buffer : state.buffer = (filterWith f captured seen).1 ++ (dropped ++ rest)
  del : state.del = dropped.length
  count : (filterWith f captured seen).1.length + dropped.length = seen.length
  captured : state.captured = (filterWith f captured seen).2

theorem Scanned.read {state : Retaining σ α} {item : α}
    (scanned : Scanned f captured seen (item :: rest) dropped state) :
    state.buffer[seen.length]? = some item := by
  have count := scanned.count
  have beyond : (filterWith f captured seen).1.length ≤ seen.length := by omega
  have place : seen.length - (filterWith f captured seen).1.length = dropped.length := by omega
  rw [scanned.buffer, List.getElem?_append_right beyond, place]
  simp

/-- An item that goes joins the dropped ones where it stands. -/
theorem Scanned.drops {state : Retaining σ α} {item : α}
    (scanned : Scanned f captured seen (item :: rest) dropped state)
    (goes : (f state.captured item).1 = false) :
    ∃ next, retainTurn f state seen.length = some next ∧
      Scanned f captured (seen ++ [item]) rest (dropped ++ [item]) next := by
  refine ⟨⟨state.buffer, state.del + 1, (f state.captured item).2⟩, ?_, ?_⟩
  · simp [retainTurn, scanned.read, goes]
  · rw [scanned.captured] at goes
    have kept : filterWith f captured (seen ++ [item]) =
        ((filterWith f captured seen).1, (f state.captured item).2) := by
      rw [filterWith_snoc, goes, scanned.captured]
      rfl
    have count := scanned.count
    constructor
    · rw [kept, scanned.buffer]
      simp
    · simp [scanned.del]
    · simp only [kept, List.length_append, List.length_singleton]
      omega
    · rw [kept]

/-- An item that stays changes places with the first of the dropped ones. -/
theorem Scanned.keeps {state : Retaining σ α} {item : α}
    (scanned : Scanned f captured seen (item :: rest) dropped state)
    (stays : (f state.captured item).1 = true) :
    ∃ next others, retainTurn f state seen.length = some next ∧
      Scanned f captured (seen ++ [item]) rest others next := by
  have stays' : (f (filterWith f captured seen).2 item).1 = true := by
    rw [← scanned.captured]
    exact stays
  have kept : filterWith f captured (seen ++ [item]) =
      ((filterWith f captured seen).1 ++ [item], (f state.captured item).2) := by
    rw [filterWith_snoc, stays', scanned.captured]
    rfl
  have count := scanned.count
  cases dropped with
  | nil =>
    have none : state.del = 0 := scanned.del
    refine ⟨⟨state.buffer, state.del, (f state.captured item).2⟩, [], ?_, ?_⟩
    · simp [retainTurn, scanned.read, stays, none]
    · constructor
      · rw [kept, scanned.buffer]
        simp
      · exact none
      · simp only [kept, List.length_append, List.length_singleton, List.length_nil] at count ⊢
        omega
      · rw [kept]
  | cons first others =>
    have del : state.del = others.length + 1 := scanned.del
    have length : seen.length = (filterWith f captured seen).1.length + (others.length + 1) :=
      count.symm
    have room : state.del ≤ seen.length := by omega
    have place : seen.length - state.del = (filterWith f captured seen).1.length := by omega
    have swapped : swap state.buffer (seen.length - state.del) seen.length =
        some ((filterWith f captured seen).1 ++ item :: (others ++ first :: rest)) := by
      rw [place, scanned.buffer, length]
      exact swap_apart _ others rest first item
    refine ⟨⟨(filterWith f captured seen).1 ++ item :: (others ++ first :: rest), state.del,
      (f state.captured item).2⟩, others ++ [first], ?_, ?_⟩
    · have some_dropped : 0 < state.del := by omega
      simp [retainTurn, scanned.read, stays, some_dropped, room, swapped]
    · constructor
      · rw [kept]
        simp
      · simp [del]
      · simp only [kept, List.length_append, List.length_singleton]
        omega
      · rw [kept]

/-- The rest of the loop, from any turn on. -/
theorem scanned_run {state : Retaining σ α}
    (scanned : Scanned f captured seen rest dropped state) :
    ∃ final others, (List.range' seen.length rest.length).foldlM (retainTurn f) state = some final ∧
      Scanned f captured (seen ++ rest) [] others final := by
  induction rest generalizing seen dropped state with
  | nil =>
    refine ⟨state, dropped, rfl, ?_⟩
    rw [List.append_nil]
    exact scanned
  | cons item rest ih =>
    have turn : ∃ next others, retainTurn f state seen.length = some next ∧
        Scanned f captured (seen ++ [item]) rest others next := by
      by_cases stays : (f state.captured item).1 = true
      · exact scanned.keeps stays
      · obtain ⟨next, turned, after⟩ := scanned.drops (Bool.eq_false_iff.mpr stays)
        exact ⟨next, _, turned, after⟩
    obtain ⟨next, others, turned, after⟩ := turn
    obtain ⟨final, last, ran, complete⟩ := ih after
    refine ⟨final, last, ?_, ?_⟩
    · rw [List.length_append, List.length_singleton] at ran
      rw [List.length_cons, List.range'_succ, List.foldlM_cons, turned]
      exact ran
    · rw [List.append_assoc] at complete
      exact complete

/-- The swaps and the cut are a filter. No index is out of range, and the predicate is asked
as a walk over the deque asks it. -/
theorem retainDeque_eq (f : σ → α → Bool × σ) (buffer : List α) (captured : σ) :
    retainDeque f buffer captured = some (filterWith f captured buffer) := by
  have start : Scanned f captured [] buffer [] ⟨buffer, 0, captured⟩ := ⟨rfl, rfl, rfl, rfl⟩
  obtain ⟨final, others, ran, complete⟩ := scanned_run start
  have loop : (List.range buffer.length).foldlM (retainTurn f) ⟨buffer, 0, captured⟩ =
      some final := by
    rw [List.range_eq_range']
    exact ran
  have contents := complete.buffer
  have del := complete.del
  have count := complete.count
  rw [List.nil_append] at contents count
  rw [List.append_nil] at contents
  simp only [retainDeque, loop, Option.bind_eq_bind, Option.bind_some]
  by_cases gone : 0 < final.del
  · have enough : final.del ≤ buffer.length := by omega
    have cut : buffer.length - final.del = (filterWith f captured buffer).1.length := by omega
    rw [if_pos gone, if_pos enough, cut, contents, List.take_left, complete.captured]
    rfl
  · have none : others = [] := List.eq_nil_of_length_eq_zero (by omega)
    rw [if_neg gone, contents, none, List.append_nil, complete.captured]
    rfl

theorem length_retained {buffer kept : List α} {captured last : σ}
    (ran : retainDeque f buffer captured = some (kept, last)) : kept.length ≤ buffer.length := by
  rw [retainDeque_eq] at ran
  have shorter : (filterWith f captured buffer).1.length ≤ buffer.length :=
    (filterWith_sublist captured buffer).length_le
  rw [Option.some.inj ran] at shorter
  exact shorter

def CircularBuffer.retain (ring : CircularBuffer α) (f : σ → α → Bool × σ) (captured : σ) :
    Option (CircularBuffer α × σ) :=
  match ran : retainDeque f ring.buffer captured with
  | none => none
  | some (buffer, captured) => some
      ({ ring with
          buffer := buffer
          bounded := Nat.le_trans (length_retained ran) ring.bounded }, captured)

theorem retain_eq (ring : CircularBuffer α) (f : σ → α → Bool × σ) (captured : σ) :
    ∃ next : CircularBuffer α,
      ring.retain f captured = some (next, (filterWith f captured ring.buffer).2) ∧
      next.buffer = (filterWith f captured ring.buffer).1 ∧ next.capacity = ring.capacity := by
  have ran := retainDeque_eq f ring.buffer captured
  unfold CircularBuffer.retain
  split
  · rename_i stuck
    rw [ran] at stuck
    cases stuck
  · rename_i buffer last done
    rw [ran] at done
    have same : filterWith f captured ring.buffer = (buffer, last) := Option.some.inj done
    rw [same]
    exact ⟨_, rfl, rfl, rfl⟩

end Retain

end CircularBuffers
