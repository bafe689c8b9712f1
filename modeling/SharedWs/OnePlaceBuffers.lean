import SharedWs.HistoryCounts

/-!
# A buffer of one place

Some entries of a history take an item, others give one away. If an item is taken only with an
empty hand, and only the item in hand is given away, then between two resets the items taken are
those given away, in the same order, and the one in hand.
-/
namespace OnePlaceBuffers

open HistoryCounts

section Buffers
variable {ε α : Type} (takes gives : ε → Option α)

/-- The item in hand after an entry. -/
def handAfter (hand : Option α) (e : ε) : Option α :=
  if (gives e).isSome then none else (takes e).or hand

def inHand (history : List ε) : Option α := history.foldl (handAfter takes gives) none

/-- The entry respects the hand. -/
structure Orderly (hand : Option α) (e : ε) : Prop where
  taking : ∀ item, takes e = some item → hand = none
  giving : ∀ item, gives e = some item → hand = some item ∧ takes e = none

variable {takes gives}

theorem inHand_snoc (history : List ε) (e : ε) :
    inHand takes gives (history ++ [e]) =
      handAfter takes gives (inHand takes gives history) e := by
  simp [inHand]

/-- Nothing is lost or made up by one entry. -/
theorem hand_moves {hand : Option α} {e : ε} (orderly : Orderly takes gives hand e) :
    hand.toList ++ (takes e).toList =
      (gives e).toList ++ (handAfter takes gives hand e).toList := by
  unfold handAfter
  cases given : gives e with
  | some item =>
    obtain ⟨rfl, untaken⟩ := orderly.giving item given
    rw [untaken]
    rfl
  | none =>
    cases taken : takes e with
    | some item =>
      obtain rfl := orderly.taking item taken
      rfl
    | none => simp

/-- The same for the entries since the last reset, which finds the hand empty. -/
theorem conserved {resets : ε → Bool} {history : List ε}
    (orderly : ∀ before e after, history = before ++ e :: after →
      Orderly takes gives (inHand takes gives before) e)
    (fresh : ∀ before e after, history = before ++ e :: after → resets e = true →
      inHand takes gives before = none ∧ takes e = none) :
    (entriesSince resets history).filterMap takes =
      (entriesSince resets history).filterMap gives ++ (inHand takes gives history).toList := by
  induction history using List.reverseRecOn with
  | nil => rfl
  | append_singleton history e ih =>
    have earlier : ∀ before d after, history = before ++ d :: after →
        history ++ [e] = before ++ d :: (after ++ [e]) := by
      rintro before d after rfl
      rw [List.append_assoc, List.cons_append]
    have so_far := ih (fun before d after cut => orderly _ _ _ (earlier before d after cut))
      (fun before d after cut => fresh _ _ _ (earlier before d after cut))
    rw [entriesSince_snoc, inHand_snoc]
    by_cases resetting : resets e = true
    · obtain ⟨empty, untaken⟩ := fresh history e [] rfl resetting
      have still : handAfter takes gives none e = none := by
        simp [handAfter, untaken]
      rw [if_pos resetting, empty, still]
      rfl
    · have moved := hand_moves (orderly history e [] rfl)
      rw [if_neg resetting, List.filterMap_append, List.filterMap_append, so_far,
        List.append_assoc, List.append_assoc]
      have single : ∀ f : ε → Option α, [e].filterMap f = (f e).toList := by
        intro f
        cases found : f e <;> simp [found]
      rw [single, single, moved]

end Buffers
end OnePlaceBuffers
