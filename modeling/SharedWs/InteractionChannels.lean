import SharedWs.InteractionPrograms

/-!
# A task that reads from a channel

The channel is an unbounded queue together with a mark that no sender is left.
Its senders and the task move in any order. The answers that the task gets are
no longer arbitrary: what a call receives is what the queue has in front. A call
that waits for the channel and for something else may have either answer.
-/
namespace InteractionChannels

open InteractionPrograms

universe u

structure Channel (α : Type u) where
  queue : List α
  closed : Bool

namespace Channel
variable {α : Type u}

/-- What a receive gives at once. `some none` is a closed and empty channel,
`none` means that it would have to wait. -/
def next : Channel α → Option (Option α)
  | ⟨a :: _, _⟩ => some (some a)
  | ⟨[], true⟩ => some none
  | ⟨[], false⟩ => none

def pop (c : Channel α) : Channel α := { c with queue := c.queue.tail }

/-- What is received leaves the front of the queue. -/
theorem queue_of_next {c : Channel α} {received : Option α} (ready : c.next = some received) :
    c.queue = received.toList ++ c.pop.queue := by
  obtain ⟨queue, closed⟩ := c
  cases queue with
  | cons a rest =>
    cases ready
    rfl
  | nil =>
    cases closed with
    | true =>
      cases ready
      rfl
    | false => cases ready

/-- The moves of the senders. -/
inductive Grows : Channel α → Channel α → Prop
  | send (c : Channel α) (a : α) (alive : c.closed = false) :
      Grows c { c with queue := c.queue ++ [a] }
  | close (c : Channel α) : Grows c { c with closed := true }

/-- Nothing overtakes what is in front. -/
theorem Grows.next {c d : Channel α} (grows : c.Grows d) {received : Option α}
    (ready : c.next = some received) : d.next = some received := by
  obtain ⟨queue, closed⟩ := c
  cases grows with
  | send a alive =>
    cases queue with
    | cons b rest => exact ready
    | nil =>
      change closed = false at alive
      subst alive
      cases ready
  | close =>
    cases queue with
    | cons b rest => exact ready
    | nil =>
      cases closed with
      | true => exact ready
      | false => cases ready

end Channel

/-- How the calls of a task use the channel. -/
structure Inlet (S : Signature.{u}) (α : Type u) where
  /-- What the call received. -/
  takes : Event S → Option (Option α)

/-- A task and its channel. -/
structure Fed (S : Signature.{u}) (C R α : Type u) where
  task : Prog S (C ⊕ R)
  channel : Channel α

section Feeds
variable {S : Signature.{u}} {C R α : Type u} (inlet : Inlet S α) (body : C → Prog S (C ⊕ R))

/-- The channel has to give what the call received. -/
def Inlet.Admits (channel : Channel α) (e : Event S) : Prop :=
  ∀ received, inlet.takes e = some received → channel.next = some received

def Inlet.left (channel : Channel α) (e : Event S) : Channel α :=
  if (inlet.takes e).isSome then channel.pop else channel

/-- Runs of both together, with the calls of the task as the trace. -/
inductive Feeds : Fed S C R α → List (Event S) → Fed S C R α → Prop
  | here (s : Fed S C R α) : Feeds s [] s
  | outside {p : Prog S (C ⊕ R)} {c d : Channel α} {t : List (Event S)} {s : Fed S C R α}
      (grows : c.Grows d) (rest : Feeds ⟨p, d⟩ t s) : Feeds ⟨p, c⟩ t s
  | call {p q : Prog S (C ⊕ R)} {c : Channel α} {e : Event S} {t : List (Event S)}
      {s : Fed S C R α} (fires : Fires body p e q) (admits : inlet.Admits c e)
      (rest : Feeds ⟨q, inlet.left c e⟩ t s) : Feeds ⟨p, c⟩ (e :: t) s

variable {inlet body}

theorem Feeds.reaches {s s' : Fed S C R α} {t : List (Event S)} (run : Feeds inlet body s t s') :
    Reaches body s.task t s'.task := by
  induction run with
  | here => exact .here _
  | outside _ _ ih => exact ih
  | call fires _ _ ih => exact .step fires ih

/-- Up to the next call only the senders move. -/
theorem Feeds.still {s s' : Fed S C R α} (run : Feeds inlet body s [] s') :
    s'.task = s.task ∧
      ∀ received, s.channel.next = some received → s'.channel.next = some received := by
  generalize none : ([] : List (Event S)) = t at run
  induction run with
  | here => exact ⟨rfl, fun _ ready => ready⟩
  | outside grows _ ih =>
    obtain ⟨task, kept⟩ := ih none
    exact ⟨task, fun received ready => kept received (grows.next ready)⟩
  | call => cases none

/-- The next call of a run, and the channel it was made with. -/
theorem Feeds.uncons {s s' : Fed S C R α} {e : Event S} {t : List (Event S)}
    (run : Feeds inlet body s (e :: t) s') :
    ∃ q c, Feeds inlet body s [] ⟨s.task, c⟩ ∧ Fires body s.task e q ∧ inlet.Admits c e ∧
      Feeds inlet body ⟨q, inlet.left c e⟩ t s' := by
  generalize whole : e :: t = v at run
  induction run with
  | here => cases whole
  | outside grows _ ih =>
    obtain ⟨q, c, still, fires, admits, rest⟩ := ih whole
    exact ⟨q, c, .outside grows still, fires, admits, rest⟩
  | call fires admits rest =>
    obtain ⟨rfl, rfl⟩ := List.cons.inj whole
    exact ⟨_, _, .here _, fires, admits, rest⟩

theorem Inlet.Admits.of_idle {e : Event S} (idle : inlet.takes e = none) (c : Channel α) :
    inlet.Admits c e := by
  intro received taken
  rw [idle] at taken
  cases taken

theorem Inlet.left_idle {e : Event S} (idle : inlet.takes e = none) (c : Channel α) :
    inlet.left c e = c := by
  simp [Inlet.left, idle]

/-- A run that leaves the channel alone is possible whatever is in it. -/
theorem feeds_of_idle {p q : Prog S (C ⊕ R)} {t : List (Event S)} (run : Reaches body p t q)
    (idle : ∀ e ∈ t, inlet.takes e = none) (c : Channel α) :
    Feeds inlet body ⟨p, c⟩ t ⟨q, c⟩ := by
  induction run with
  | here => exact .here _
  | @step p q r e t first _ ih =>
    obtain ⟨here, later⟩ := List.forall_mem_cons.mp idle
    refine .call first (.of_idle here c) ?_
    rw [Inlet.left_idle here]
    exact ih later

variable (inlet body)

/-- What the calls of a trace have received. -/
def Inlet.taken (t : List (Event S)) : List α := t.filterMap fun e => (inlet.takes e).join

/-- The same runs, with what was sent during them. -/
inductive Carries : Fed S C R α → List α → List (Event S) → Fed S C R α → Prop
  | here (s : Fed S C R α) : Carries s [] [] s
  | send {p : Prog S (C ⊕ R)} {c : Channel α} {a : α} {sent : List α} {t : List (Event S)}
      {s : Fed S C R α} (alive : c.closed = false)
      (rest : Carries ⟨p, { c with queue := c.queue ++ [a] }⟩ sent t s) :
      Carries ⟨p, c⟩ (a :: sent) t s
  | close {p : Prog S (C ⊕ R)} {c : Channel α} {sent : List α} {t : List (Event S)}
      {s : Fed S C R α} (rest : Carries ⟨p, { c with closed := true }⟩ sent t s) :
      Carries ⟨p, c⟩ sent t s
  | call {p q : Prog S (C ⊕ R)} {c : Channel α} {e : Event S} {sent : List α}
      {t : List (Event S)} {s : Fed S C R α} (fires : Fires body p e q)
      (admits : inlet.Admits c e) (rest : Carries ⟨q, inlet.left c e⟩ sent t s) :
      Carries ⟨p, c⟩ sent (e :: t) s

variable {inlet body}

theorem Carries.feeds {s s' : Fed S C R α} {sent : List α} {t : List (Event S)}
    (run : Carries inlet body s sent t s') : Feeds inlet body s t s' := by
  induction run with
  | here s => exact .here s
  | send alive _ ih => exact .outside (.send _ _ alive) ih
  | close _ ih => exact .outside (.close _) ih
  | call fires admits _ ih => exact .call fires admits ih

/-- A call takes what it received out of the queue, and nothing else. -/
theorem Inlet.Admits.queue {c : Channel α} {e : Event S} (admits : inlet.Admits c e) :
    c.queue = (inlet.takes e).join.toList ++ (inlet.left c e).queue := by
  cases takes : inlet.takes e with
  | none => simp [Inlet.left, takes]
  | some received =>
    have ready := admits received takes
    simpa [Inlet.left, takes] using Channel.queue_of_next ready

theorem Inlet.taken_cons (e : Event S) (t : List (Event S)) :
    inlet.taken (e :: t) = (inlet.takes e).join.toList ++ inlet.taken t := by
  rw [Inlet.taken, List.filterMap_cons]
  cases (inlet.takes e).join with
  | none => rfl
  | some a => rfl

/-- The channel neither loses, nor repeats, nor reorders. -/
theorem Carries.conserves {s s' : Fed S C R α} {sent : List α} {t : List (Event S)}
    (run : Carries inlet body s sent t s') :
    s.channel.queue ++ sent = inlet.taken t ++ s'.channel.queue := by
  induction run with
  | here s => exact List.append_nil _
  | send _ _ ih => rw [← ih, List.append_assoc, List.singleton_append]
  | close _ ih => exact ih
  | @call p q c e sent t s fires admits rest ih =>
    change c.queue ++ sent = _
    rw [Inlet.taken_cons, admits.queue, List.append_assoc, List.append_assoc]
    exact congrArg _ ih

/-- A run that does not find the channel closed is possible if the queue begins with what it
takes. -/
theorem carries_of_stocked {p q : Prog S (C ⊕ R)} {t : List (Event S)} (run : Reaches body p t q)
    (ready : ∀ e ∈ t, (inlet.takes e).isSome = (inlet.takes e).join.isSome) (rest : List α)
    (closed : Bool) :
    Carries inlet body ⟨p, ⟨inlet.taken t ++ rest, closed⟩⟩ [] t ⟨q, ⟨rest, closed⟩⟩ := by
  induction run with
  | here => exact .here _
  | @step p q r e t first _ ih =>
    obtain ⟨open', later⟩ := List.forall_mem_cons.mp ready
    rw [Inlet.taken_cons]
    cases takes : inlet.takes e with
    | none =>
      refine .call first (.of_idle takes _) ?_
      rw [Inlet.left_idle takes]
      exact ih later
    | some received =>
      cases received with
      | none => simp [takes] at open'
      | some a =>
        refine .call first (fun received taken => ?_) ?_
        · rw [takes] at taken
          cases taken
          rfl
        · simpa [Inlet.left, takes, Channel.pop] using ih later

end Feeds
end InteractionChannels
