import SharedWs.CircularBuffers

/-!
# The ring refines a list

A sequence of operations is run twice: on the ring of `core/circular_buffer.rs`, and on a plain
list that appends, drops from the front what does not fit, and filters. The answers, the contents
and what the closures have captured are the same at every point. A closure of `retain` may keep
a memory of its own; all of them share one here, so that one may also read what another has left.
-/
namespace RingRefinement

open CircularBuffers StatefulFilters

variable {σ α : Type}

inductive Operation (σ α : Type) where
  | push (item : α)
  | popFront
  | retain (f : σ → α → Bool × σ)
  | clear

inductive Answer (α : Type) where
  | done
  | popped (item : Option α)
  deriving DecidableEq

/-- One operation on the ring; `none` is a panic. -/
def perform (ring : CircularBuffer α) (captured : σ) :
    Operation σ α → Option (Answer α × CircularBuffer α × σ)
  | .push item => some (.done, ring.push item, captured)
  | .popFront => some (.popped ring.popFront.1, ring.popFront.2, captured)
  | .retain f => (ring.retain f captured).map fun next => (.done, next.1, next.2)
  | .clear => some (.done, ring.clear, captured)

def runRing (ring : CircularBuffer α) (captured : σ) :
    List (Operation σ α) → Option (List (Answer α) × CircularBuffer α × σ)
  | [] => some ([], ring, captured)
  | operation :: rest => do
    let (answer, next, captured) ← perform ring captured operation
    let (answers, last, captured) ← runRing next captured rest
    pure (answer :: answers, last, captured)

def listStep (capacity : Nat) (items : List α) (captured : σ) :
    Operation σ α → Answer α × List α × σ
  | .push item => (.done, lastItems capacity (items ++ [item]), captured)
  | .popFront => (.popped items.head?, items.tail, captured)
  | .retain f => (.done, filterWith f captured items)
  | .clear => (.done, [], captured)

def runList (capacity : Nat) (items : List α) (captured : σ) :
    List (Operation σ α) → List (Answer α) × List α × σ
  | [] => ([], items, captured)
  | operation :: rest =>
    let next := listStep capacity items captured operation
    let later := runList capacity next.2.1 next.2.2 rest
    (next.1 :: later.1, later.2)

theorem perform_refines (ring : CircularBuffer α) (captured : σ) (operation : Operation σ α) :
    ∃ next : CircularBuffer α,
      perform ring captured operation =
        some ((listStep ring.capacity ring.buffer captured operation).1, next,
          (listStep ring.capacity ring.buffer captured operation).2.2) ∧
      next.buffer = (listStep ring.capacity ring.buffer captured operation).2.1 ∧
      next.capacity = ring.capacity := by
  cases operation with
  | push item => exact ⟨ring.push item, rfl, push_buffer ring item, push_capacity ring item⟩
  | popFront => exact ⟨ring.popFront.2, rfl, rfl, rfl⟩
  | clear => exact ⟨ring.clear, rfl, rfl, rfl⟩
  | retain f =>
    obtain ⟨next, ran, contents, size⟩ := retain_eq ring f captured
    refine ⟨next, ?_, contents, size⟩
    simp [perform, ran, listStep]

theorem run_refines (operations : List (Operation σ α)) (ring : CircularBuffer α) (captured : σ) :
    ∃ last : CircularBuffer α,
      runRing ring captured operations =
        some ((runList ring.capacity ring.buffer captured operations).1, last,
          (runList ring.capacity ring.buffer captured operations).2.2) ∧
      last.buffer = (runList ring.capacity ring.buffer captured operations).2.1 ∧
      last.capacity = ring.capacity := by
  induction operations generalizing ring captured with
  | nil => exact ⟨ring, rfl, rfl, rfl⟩
  | cons operation rest ih =>
    obtain ⟨next, performed, contents, size⟩ := perform_refines ring captured operation
    obtain ⟨last, ran, kept, same⟩ :=
      ih next (listStep ring.capacity ring.buffer captured operation).2.2
    rw [size, contents] at ran kept
    refine ⟨last, ?_, kept, same.trans size⟩
    simp [runRing, performed, ran, runList]

/-- `retain` is a filter: it asks the predicate about each item once, in order, and keeps those
that it is told to keep. -/
structure RetainsInOrder (ring : CircularBuffer α) : Prop where
  asks : ∀ {σ : Type} (f : σ → α → Bool × σ) (captured : σ) (log : List α), ∃ next,
    ring.retain (recording f) (captured, log) =
        some (next, (filterWith f captured ring.buffer).2, log ++ ring.buffer) ∧
      next.buffer = (filterWith f captured ring.buffer).1 ∧ next.buffer.Sublist ring.buffer
  filters : ∀ keeps : α → Bool, ∃ next,
    ring.retain (fun _ item => (keeps item, ())) () = some (next, ()) ∧
      next.buffer = ring.buffer.filter keeps

theorem retains_in_order (ring : CircularBuffer α) : RetainsInOrder ring := by
  constructor
  · intro σ f captured log
    obtain ⟨next, ran, contents, _⟩ := retain_eq ring (recording f) (captured, log)
    rw [filterWith_recording] at ran contents
    refine ⟨next, ran, contents, ?_⟩
    rw [contents]
    exact filterWith_sublist captured ring.buffer
  · intro keeps
    obtain ⟨next, ran, contents, _⟩ := retain_eq ring (fun _ item => (keeps item, ())) ()
    rw [filterWith_plain] at contents
    exact ⟨next, ran, contents⟩

/-- For every capacity, zero included, and every sequence of operations: nothing panics, the ring
answers and holds what the list does, within its capacity, and its `retain` is a filter. -/
theorem ring_refines_list (capacity : Nat) (operations : List (Operation σ α)) (captured : σ) :
    ∃ ring : CircularBuffer α,
      runRing (.new capacity) captured operations =
        some ((runList capacity [] captured operations).1, ring,
          (runList capacity [] captured operations).2.2) ∧
      ring.buffer = (runList capacity [] captured operations).2.1 ∧
      ring.len ≤ capacity ∧ RetainsInOrder ring := by
  obtain ⟨ring, ran, contents, size⟩ := run_refines operations (.new capacity) captured
  refine ⟨ring, ran, contents, ?_, retains_in_order ring⟩
  have fits := ring.bounded
  rw [size] at fits
  exact fits

/-- Five items are pushed into a ring of four, and a closure that counts its questions answers
every second one with no. -/
example : (runRing (.new 4) 0 [.push 1, .push 2, .push 3, .push 4, .push 5,
      .retain fun asked _ => (asked % 2 == 0, asked + 1), .popFront]).map
        (fun result => (result.1.getLast?, result.2.1.buffer, result.2.2)) =
    some (some (.popped (some 2)), [4], 4) := by
  decide

end RingRefinement
