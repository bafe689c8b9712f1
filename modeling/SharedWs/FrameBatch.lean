import Mathlib.Data.List.FinRange
import SharedWs.HistoryCounts
import SharedWs.ServerTypes

/-!
# The inline frame batch

`WsServerFrameBatch` of `ws/server/types.rs` is an array of slots and a length. A drain sets the
length back to zero first and takes the frames out of their slots one by one, as its iterator is
advanced. An iterator that is dropped early leaves frames in slots that later pushes may or may
not overwrite.

The batch is compared with a queue of bounded length: what was left behind is never seen again.
-/
namespace FrameBatch

open HistoryCounts ServerTypes WsFrames

abbrev Slots := Vector (Option WsFrame) wsServerFrameBatchCapacity

abbrev Slot := Fin wsServerFrameBatchCapacity

/-- The iterator borrows the slots and still has to visit the rest of the indices. -/
structure FrameDrain where
  frames : Slots
  rest : List Slot
  distinct : rest.Nodup

/-- `self.frames[..len].iter_mut().filter_map(Option::take)`, with the length of the batch set to
zero. -/
def startDrain (batch : WsServerFrameBatch) : FrameDrain where
  frames := batch.frames
  rest := (List.finRange wsServerFrameBatchCapacity).take batch.len
  distinct := (List.nodup_finRange _).sublist (List.take_sublist _ _)

/-- `Iterator::next`: the first filled slot is emptied and its frame is yielded. -/
def FrameDrain.next : FrameDrain → Option WsFrame × FrameDrain
  | ⟨frames, [], distinct⟩ => (none, ⟨frames, [], distinct⟩)
  | ⟨frames, slot :: rest, distinct⟩ =>
    match frames[slot] with
    | some frame => (some frame, ⟨frames.set slot none, rest, distinct.of_cons⟩)
    | none => FrameDrain.next ⟨frames, rest, distinct.of_cons⟩
termination_by drain => drain.rest.length

/-- The answers of a number of calls of `next`, and the iterator after them. -/
def FrameDrain.advance (drain : FrameDrain) : Nat → List (Option WsFrame) × FrameDrain
  | 0 => ([], drain)
  | calls + 1 =>
    let (answer, drain) := drain.next
    let (answers, drain) := drain.advance calls
    (answer :: answers, drain)

/-- A drain whose iterator is dropped after a number of calls. -/
def drainFor (batch : WsServerFrameBatch) (calls : Nat) :
    List (Option WsFrame) × WsServerFrameBatch :=
  let (answers, drain) := (startDrain batch).advance calls
  (answers, ⟨drain.frames, 0, Nat.zero_le _⟩)

/-- The frames the iterator has still to yield. -/
def FrameDrain.remaining (drain : FrameDrain) : List WsFrame :=
  drain.rest.filterMap fun slot => drain.frames[slot]

theorem remaining_startDrain (batch : WsServerFrameBatch) :
    (startDrain batch).remaining = batch.drain := by
  have slots : batch.frames.toList =
      (List.finRange wsServerFrameBatchCapacity).map fun slot => batch.frames[slot] := by
    apply List.ext_getElem
    · simp
    · intro index _ _
      simp
  rw [WsServerFrameBatch.drain, slots, ← List.map_take, List.filterMap_map]
  rfl

/-- Emptying a slot that is not visited any more changes nothing to come. -/
theorem remaining_set {frames : Slots} {slot : Slot} {rest : List Slot} (distinct : rest.Nodup)
    (visited : slot ∉ rest) :
    (FrameDrain.mk (frames.set slot none) rest distinct).remaining =
      (FrameDrain.mk frames rest distinct).remaining := by
  apply List.filterMap_congr
  intro other member
  have differs : slot ≠ other := fun same => visited (same ▸ member)
  have places : (slot : Nat) ≠ other := fun same => differs (Fin.ext same)
  simp [places]

/-- One call yields the first of the remaining frames. -/
theorem next_spec (drain : FrameDrain) :
    drain.next.1 = drain.remaining.head? ∧ drain.next.2.remaining = drain.remaining.tail := by
  obtain ⟨frames, rest, distinct⟩ := drain
  induction rest with
  | nil => simp [FrameDrain.next, FrameDrain.remaining]
  | cons slot rest ih =>
    have visited := (List.nodup_cons.mp distinct).1
    rw [FrameDrain.next]
    cases filled : frames[slot] with
    | some frame =>
      have first : (FrameDrain.mk frames (slot :: rest) distinct).remaining =
          frame :: (FrameDrain.mk frames rest distinct.of_cons).remaining :=
        List.filterMap_cons_some filled
      rw [first]
      exact ⟨rfl, remaining_set distinct.of_cons visited⟩
    | none =>
      have skipped : (FrameDrain.mk frames (slot :: rest) distinct).remaining =
          (FrameDrain.mk frames rest distinct.of_cons).remaining :=
        List.filterMap_cons_none filled
      rw [skipped]
      exact ih distinct.of_cons

/-- The answers are the remaining frames in order, and nothing after the last. -/
theorem advance_answers (drain : FrameDrain) (calls : Nat) :
    (drain.advance calls).1 = (List.range calls).map fun call => drain.remaining[call]? := by
  induction calls generalizing drain with
  | zero => rfl
  | succ calls ih =>
    obtain ⟨answer, left⟩ := next_spec drain
    rw [List.range_succ_eq_map, List.map_cons, List.map_map]
    simp only [FrameDrain.advance, ih, answer, left, List.head?_eq_getElem?]
    congr 1
    apply List.map_congr_left
    intro call _
    simp

theorem drainFor_answers (batch : WsServerFrameBatch) (calls : Nat) :
    (drainFor batch calls).1 = (List.range calls).map fun call => batch.drain[call]? := by
  rw [← remaining_startDrain, ← advance_answers]
  rfl

/-- Every slot below the length is filled. -/
def Filled (batch : WsServerFrameBatch) : Prop :=
  batch.drain.length = batch.len

theorem push_room {batch : WsServerFrameBatch} (room : batch.len < wsServerFrameBatchCapacity)
    (frame : WsFrame) :
    (batch.push frame).1 = .ok () ∧ (batch.push frame).2.len = batch.len + 1 ∧
      (batch.push frame).2.drain = batch.drain ++ [frame] := by
  have fits : batch.len < batch.frames.toList.length := by simpa using room
  have slots : (batch.frames.toList.set batch.len (some frame)).take (batch.len + 1) =
      batch.frames.toList.take batch.len ++ [some frame] := by
    rw [List.take_succ_eq_append_getElem (by simpa using room), List.take_set_of_le (Nat.le_refl _)]
    simp
  rw [WsServerFrameBatch.push, dif_pos room]
  refine ⟨rfl, rfl, ?_⟩
  simp only [WsServerFrameBatch.drain, Vector.toList_set, slots, List.filterMap_append]
  rfl

theorem push_full {batch : WsServerFrameBatch} (full : ¬ batch.len < wsServerFrameBatchCapacity)
    (frame : WsFrame) : batch.push frame = (.error frame, batch) := by
  rw [WsServerFrameBatch.push, dif_neg full]

/-- A batch collected from an iterator holds its first frames. -/
theorem fromIter_drain (frames : List WsFrame) (batch : WsServerFrameBatch) :
    (batch.fromIter frames).drain =
      batch.drain ++ frames.take (wsServerFrameBatchCapacity - batch.len) := by
  induction frames generalizing batch with
  | nil => simp [WsServerFrameBatch.fromIter]
  | cons frame frames ih =>
    rw [WsServerFrameBatch.fromIter]
    by_cases room : batch.len < wsServerFrameBatchCapacity
    · obtain ⟨accepted, longer, held⟩ := push_room room frame
      obtain ⟨space, counted⟩ : ∃ space, wsServerFrameBatchCapacity - batch.len = space + 1 ∧
          wsServerFrameBatchCapacity - (batch.len + 1) = space :=
        ⟨wsServerFrameBatchCapacity - (batch.len + 1), by omega, rfl⟩
      generalize batch.push frame = pushed at accepted longer held
      obtain ⟨result, next⟩ := pushed
      simp only at accepted longer held
      subst accepted
      simp only [ih, longer, held, counted, List.take_succ_cons, List.append_assoc,
        List.singleton_append]
    · have none : wsServerFrameBatchCapacity - batch.len = 0 := by omega
      simp [push_full room, none]

inductive Operation where
  | push (frame : WsFrame)
  | drain (calls : Nat)

inductive Answer where
  | pushed (result : Except WsFrame Unit)
  | drained (frames : List (Option WsFrame))

def perform (batch : WsServerFrameBatch) : Operation → Answer × WsServerFrameBatch
  | .push frame =>
    let (result, batch) := batch.push frame
    (.pushed result, batch)
  | .drain calls =>
    let (frames, batch) := drainFor batch calls
    (.drained frames, batch)

/-- What has been done to a batch, with the answers, and the batch itself. -/
structure Course where
  history : List (Operation × Answer)
  batch : WsServerFrameBatch

def Course.extend (course : Course) (operation : Operation) : Course :=
  let (answer, batch) := perform course.batch operation
  ⟨course.history ++ [(operation, answer)], batch⟩

/-- A new batch after a sequence of operations. -/
def courseOf (operations : List Operation) : Course :=
  operations.foldl Course.extend ⟨[], .new⟩

def startsDrain : Operation × Answer → Bool
  | (.drain _, _) => true
  | (.push _, _) => false

/-- The frame that a push put into the batch. -/
def acceptedFrame : Operation × Answer → Option WsFrame
  | (.push frame, .pushed (.ok ())) => some frame
  | _ => none

/-- The frames accepted since the last drain started, in the order of the pushes. -/
def accepted (history : List (Operation × Answer)) : List WsFrame :=
  (entriesSince startsDrain history).filterMap acceptedFrame

theorem accepted_snoc (history : List (Operation × Answer)) (entry : Operation × Answer) :
    accepted (history ++ [entry]) =
      if startsDrain entry then [] else accepted history ++ (acceptedFrame entry).toList := by
  rw [accepted, entriesSince_snoc]
  by_cases starts : startsDrain entry = true
  · simp [starts]
  · cases taken : acceptedFrame entry with
    | none => simp [starts, accepted, taken]
    | some frame => simp [starts, accepted, taken]

/-- A batch holds what was accepted since the last drain started. -/
structure Holds (course : Course) : Prop where
  filled : Filled course.batch
  held : course.batch.drain = accepted course.history

theorem holds_extend {course : Course} (holds : Holds course) (operation : Operation) :
    Holds (course.extend operation) := by
  cases operation with
  | push frame =>
    by_cases room : course.batch.len < wsServerFrameBatchCapacity
    · obtain ⟨taken, longer, held⟩ := push_room room frame
      constructor
      · change (course.batch.push frame).2.drain.length = (course.batch.push frame).2.len
        rw [held, longer, List.length_append, holds.filled, List.length_singleton]
      · change (course.batch.push frame).2.drain =
          accepted (course.history ++ [(.push frame, .pushed (course.batch.push frame).1)])
        rw [accepted_snoc, held, taken, holds.held]
        rfl
    · have refused := push_full room frame
      constructor
      · change (course.batch.push frame).2.drain.length = (course.batch.push frame).2.len
        rw [refused]
        exact holds.filled
      · change (course.batch.push frame).2.drain =
          accepted (course.history ++ [(.push frame, .pushed (course.batch.push frame).1)])
        rw [accepted_snoc, refused, holds.held]
        exact (List.append_nil _).symm
  | drain calls =>
    -- The length is zero already, so no slot counts, whatever the iterator left in it.
    constructor
    · rfl
    · change [] = accepted (course.history ++ [(.drain calls, .drained _)])
      rw [accepted_snoc]
      rfl

theorem holds_courseOf (operations : List Operation) : Holds (courseOf operations) := by
  induction operations using List.reverseRecOn with
  | nil => exact ⟨rfl, rfl⟩
  | append_singleton operations operation ih =>
    rw [courseOf, List.foldl_append]
    exact holds_extend ih operation

/-- The frames among the answers of a number of calls are the first ones. -/
theorem filterMap_answers (frames : List WsFrame) (calls : Nat) :
    ((List.range calls).map fun call => frames[call]?).filterMap id = frames.take calls := by
  induction calls generalizing frames with
  | zero => simp
  | succ calls ih =>
    rw [List.range_succ_eq_map, List.map_cons, List.map_map]
    cases frames with
    | nil => simp
    | cons frame frames =>
      have later : ((fun call => (frame :: frames)[call]?) ∘ Nat.succ) =
          fun call => frames[call]? := by
        funext call
        simp
      rw [later, List.getElem?_cons_zero, List.take_succ_cons, ← ih]
      rfl

/-- After any sequence of pushes and drains, abandoned ones included, let `frames` be those accepted
since the last drain started. A push gives its frame back exactly when there are as many of them as
the batch has slots. The answers of a drain are these frames in order and then nothing, so that one
run to its end yields exactly them, and nothing that an earlier drain left behind. -/
theorem batch_is_bounded_queue (operations : List Operation) :
    let batch := (courseOf operations).batch
    let frames := accepted (courseOf operations).history
    (∀ frame, (batch.push frame).1 =
      if frames.length = wsServerFrameBatchCapacity then .error frame else .ok ()) ∧
    (∀ calls, (drainFor batch calls).1 = (List.range calls).map fun call => frames[call]?) ∧
    (∀ calls, none ∈ (drainFor batch calls).1 →
      (drainFor batch calls).1.filterMap id = frames) ∧
    batch.drain = frames := by
  intro batch frames
  have filled : batch.drain.length = batch.len := (holds_courseOf operations).filled
  have held : batch.drain = frames := (holds_courseOf operations).held
  have answers (calls : Nat) : (drainFor batch calls).1 =
      (List.range calls).map fun call => frames[call]? := by
    rw [drainFor_answers, held]
  refine ⟨?_, answers, ?_, held⟩
  · intro frame
    have count : frames.length = batch.len := by rw [← filled, held]
    have bounded := batch.bounded
    by_cases room : batch.len < wsServerFrameBatchCapacity
    · have below : frames.length ≠ wsServerFrameBatchCapacity := by omega
      rw [(push_room room frame).1, if_neg below]
    · have full : frames.length = wsServerFrameBatchCapacity := by omega
      rw [push_full room frame, if_pos full]
  · intro calls ended
    rw [answers] at ended ⊢
    obtain ⟨call, early, exhausted⟩ := List.mem_map.mp ended
    have past := List.getElem?_eq_none_iff.mp exhausted
    have order := List.mem_range.mp early
    rw [filterMap_answers, List.take_of_length_le (by omega)]

end FrameBatch
