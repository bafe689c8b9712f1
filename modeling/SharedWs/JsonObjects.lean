import Mathlib.Data.List.Forall2
import Mathlib.Data.List.Induction
import Mathlib.Data.String.Basic
import SharedWs.JsonText

/-!
# Objects of JSON as maps

A document keeps the members of an object as they were written. Its value is a
map: the order does not matter, and of several members with one key the last
one counts. `canonical` is the document of that map with its keys in order, as
a library builds it that keeps objects in a sorted tree.
-/
namespace JsonObjects

open JsonText

variable {Num : Type}

/-- The member that counts for a key. -/
def latest (key : String) (members : List (String × Json Num)) : Option (Json Num) :=
  members.reverse.lookup key

/-- Two documents denote the same value. -/
inductive Same : Json Num → Json Num → Prop
  | null : Same .null .null
  | bool (b : Bool) : Same (.bool b) (.bool b)
  | number (n : Num) : Same (.number n) (.number n)
  | string (s : String) : Same (.string s) (.string s)
  | array {vs ws : List (Json Num)} (each : List.Forall₂ Same vs ws) : Same (.array vs) (.array ws)
  | object {members others : List (String × Json Num)}
      (each : ∀ key, Option.Rel Same (latest key members) (latest key others)) :
      Same (.object members) (.object others)

/-- Insertion into an ordered list of members, in the place of an equal key. -/
def insertMember (key : String) (v : Json Num) :
    List (String × Json Num) → List (String × Json Num)
  | [] => [(key, v)]
  | (other, w) :: rest =>
    if key < other then (key, v) :: (other, w) :: rest
    else if key = other then (key, v) :: rest
    else (other, w) :: insertMember key v rest

mutual

def canonical : Json Num → Json Num
  | .array vs => .array (canonicalElements vs)
  | .object members => .object (canonicalMembers [] members)
  | .null => .null
  | .bool b => .bool b
  | .number n => .number n
  | .string s => .string s

def canonicalElements : List (Json Num) → List (Json Num)
  | [] => []
  | v :: vs => canonical v :: canonicalElements vs

/-- The members are inserted one after the other. -/
def canonicalMembers (done : List (String × Json Num)) :
    List (String × Json Num) → List (String × Json Num)
  | [] => done
  | (key, v) :: members => canonicalMembers (insertMember key (canonical v) done) members

end

theorem canonicalElements_eq (vs : List (Json Num)) :
    canonicalElements vs = vs.map canonical := by
  induction vs with
  | nil => rw [canonicalElements, List.map_nil]
  | cons v vs ih => rw [canonicalElements, ih, List.map_cons]

theorem canonicalMembers_snoc (members : List (String × Json Num)) (key : String) (v : Json Num)
    (done : List (String × Json Num)) :
    canonicalMembers done (members ++ [(key, v)]) =
      insertMember key (canonical v) (canonicalMembers done members) := by
  induction members generalizing done with
  | nil => simp only [List.nil_append, canonicalMembers]
  | cons m members ih =>
    obtain ⟨other, w⟩ := m
    rw [List.cons_append, canonicalMembers, canonicalMembers, ih]

theorem isContainer_canonical (v : Json Num) : (canonical v).isContainer = v.isContainer := by
  cases v <;> rw [canonical] <;> rfl

theorem canonical_of_not_container {v : Json Num} (other : v.isContainer = false) :
    canonical v = v := by
  cases v with
  | array vs => cases other
  | object members => cases other
  | _ => rw [canonical]

/-- Keys in order. -/
def Ordered (members : List (String × Json Num)) : Prop :=
  members.Pairwise fun first second => first.1 < second.1

theorem mem_insertMember {key : String} {v : Json Num} {members : List (String × Json Num)}
    {m : String × Json Num} (listed : m ∈ insertMember key v members) :
    m = (key, v) ∨ m ∈ members := by
  induction members with
  | nil => exact Or.inl (List.mem_singleton.mp listed)
  | cons other rest ih =>
    obtain ⟨other, w⟩ := other
    unfold insertMember at listed
    split_ifs at listed with less equal
    · simpa using listed
    · simp only [List.mem_cons] at listed ⊢
      tauto
    · simp only [List.mem_cons] at listed ⊢
      tauto

theorem ordered_insertMember {members : List (String × Json Num)} (ordered : Ordered members)
    (key : String) (v : Json Num) : Ordered (insertMember key v members) := by
  induction members with
  | nil => exact List.pairwise_singleton _ _
  | cons other rest ih =>
    obtain ⟨other, w⟩ := other
    obtain ⟨below, tail⟩ := List.pairwise_cons.mp ordered
    unfold insertMember
    split_ifs with less equal
    · refine List.pairwise_cons.mpr ⟨?_, ordered⟩
      intro m listed
      rcases List.mem_cons.mp listed with rfl | later
      · exact less
      · exact lt_trans less (below m later)
    · subst equal
      exact List.pairwise_cons.mpr ⟨below, tail⟩
    · refine List.pairwise_cons.mpr ⟨?_, ih tail⟩
      intro m listed
      rcases mem_insertMember listed with rfl | old
      · exact lt_of_le_of_ne (not_lt.mp less) (Ne.symm equal)
      · exact below m old

theorem ordered_canonicalMembers (members : List (String × Json Num)) :
    Ordered (canonicalMembers [] members) := by
  induction members using List.reverseRecOn with
  | nil =>
    rw [canonicalMembers]
    exact List.Pairwise.nil
  | append_singleton members m ih =>
    obtain ⟨key, v⟩ := m
    rw [canonicalMembers_snoc]
    exact ordered_insertMember ih key (canonical v)

theorem lookup_member (key other : String) (v : Json Num) (rest : List (String × Json Num)) :
    ((other, v) :: rest).lookup key = if key = other then some v else rest.lookup key := by
  by_cases same : key = other
  · simp [same]
  · simp [List.lookup_cons, same, beq_false_of_ne same]

theorem lookup_insertMember (members : List (String × Json Num)) (key other : String)
    (v : Json Num) :
    (insertMember key v members).lookup other =
      if other = key then some v else members.lookup other := by
  induction members with
  | nil => rw [insertMember, lookup_member]
  | cons m rest ih =>
    obtain ⟨head, w⟩ := m
    rw [insertMember]
    by_cases less : key < head
    · rw [if_pos less, lookup_member]
    · rw [if_neg less]
      by_cases equal : key = head
      · subst equal
        rw [if_pos rfl, lookup_member, lookup_member]
        by_cases same : other = key
        · rw [if_pos same, if_pos same]
        · rw [if_neg same, if_neg same, if_neg same]
      · rw [if_neg equal, lookup_member, lookup_member, ih]
        by_cases same : other = key
        · subst same
          rw [if_neg equal, if_pos rfl, if_pos rfl]
        · rw [if_neg same, if_neg same]

theorem latest_snoc (members : List (String × Json Num)) (key other : String) (v : Json Num) :
    latest key (members ++ [(other, v)]) = if key = other then some v else latest key members := by
  rw [latest, List.reverse_append]
  exact lookup_member key other v members.reverse

/-- The canonical object has the members that count, and no others. -/
theorem lookup_canonicalMembers (members : List (String × Json Num)) (key : String) :
    (canonicalMembers [] members).lookup key = (latest key members).map canonical := by
  induction members using List.reverseRecOn with
  | nil =>
    rw [canonicalMembers]
    rfl
  | append_singleton members m ih =>
    obtain ⟨other, v⟩ := m
    rw [canonicalMembers_snoc, lookup_insertMember, latest_snoc, ih]
    by_cases same : key = other
    · simp [same]
    · simp [same]

theorem lookup_eq_none {members : List (String × Json Num)} {key : String}
    (absent : ∀ m ∈ members, m.1 ≠ key) : members.lookup key = none := by
  induction members with
  | nil => rfl
  | cons m rest ih =>
    obtain ⟨other, v⟩ := m
    rw [lookup_member, if_neg (Ne.symm (absent (other, v) List.mem_cons_self))]
    exact ih fun m listed => absent m (List.mem_cons_of_mem _ listed)

/-- With distinct keys it does not matter which member counts. -/
theorem latest_of_ordered {members : List (String × Json Num)} (ordered : Ordered members)
    (key : String) : latest key members = members.lookup key := by
  induction members with
  | nil => rfl
  | cons m rest ih =>
    obtain ⟨other, v⟩ := m
    obtain ⟨below, tail⟩ := List.pairwise_cons.mp ordered
    have first : latest key ((other, v) :: rest) =
        (latest key rest).or (if key = other then some v else none) := by
      rw [latest, List.reverse_cons, List.lookup_append, lookup_member]
      rfl
    rw [first, ih tail, lookup_member]
    by_cases same : key = other
    · subst same
      have absent : rest.lookup key = none := by
        apply lookup_eq_none
        intro m listed equal
        have less : key < m.1 := below m listed
        rw [equal] at less
        exact lt_irrefl key less
      simp [absent]
    · simp [same]

theorem mem_of_latest {members : List (String × Json Num)} {key : String} {v : Json Num}
    (found : latest key members = some v) : ∃ m ∈ members, m.2 = v := by
  induction members using List.reverseRecOn with
  | nil => cases found
  | append_singleton members m ih =>
    obtain ⟨other, w⟩ := m
    rw [latest_snoc] at found
    by_cases same : key = other
    · rw [if_pos same] at found
      exact ⟨(other, w), by simp, Option.some.inj found⟩
    · rw [if_neg same] at found
      obtain ⟨m, listed, equal⟩ := ih found
      exact ⟨m, List.mem_append_left _ listed, equal⟩

/-- Putting a document in order does not change its value. -/
theorem same_canonical (v : Json Num) : Same (canonical v) v := by
  induction v using Json.induct with
  | null => rw [canonical]; exact .null
  | bool b => rw [canonical]; exact .bool b
  | number n => rw [canonical]; exact .number n
  | string s => rw [canonical]; exact .string s
  | array vs each =>
    rw [canonical, canonicalElements_eq]
    refine .array (List.forall₂_map_left_iff.mpr ?_)
    exact List.forall₂_same.mpr each
  | object members each =>
    rw [canonical]
    refine .object fun key => ?_
    rw [latest_of_ordered (ordered_canonicalMembers members), lookup_canonicalMembers]
    cases found : latest key members with
    | none => exact .none
    | some v =>
      obtain ⟨m, listed, rfl⟩ := mem_of_latest found
      exact .some (each m listed)

/-- Members that come in order are appended. -/
theorem insertMember_append {members : List (String × Json Num)} {key : String}
    (above : ∀ m ∈ members, m.1 < key) (v : Json Num) :
    insertMember key v members = members ++ [(key, v)] := by
  induction members with
  | nil => rfl
  | cons m rest ih =>
    obtain ⟨other, w⟩ := m
    have less : other < key := above (other, w) List.mem_cons_self
    rw [insertMember, if_neg (not_lt_of_gt less), if_neg (ne_of_gt less),
      ih fun m listed => above m (List.mem_cons_of_mem _ listed), List.cons_append]

theorem canonicalMembers_ordered {members : List (String × Json Num)}
    (ordered : Ordered members) (each : ∀ m ∈ members, canonical m.2 = m.2) :
    canonicalMembers [] members = members := by
  induction members using List.reverseRecOn with
  | nil => rw [canonicalMembers]
  | append_singleton members m ih =>
    obtain ⟨key, v⟩ := m
    obtain ⟨before, -, below⟩ := List.pairwise_append.mp ordered
    have value : canonical v = v := each (key, v) (by simp)
    rw [canonicalMembers_snoc, ih before fun m listed => each m (List.mem_append_left _ listed),
      value]
    exact insertMember_append (fun m listed => below m listed (key, v) (by simp)) v

theorem mem_canonicalMembers {members : List (String × Json Num)} {m : String × Json Num}
    (listed : m ∈ canonicalMembers [] members) : ∃ w ∈ members, m.2 = canonical w.2 := by
  induction members using List.reverseRecOn with
  | nil =>
    rw [canonicalMembers] at listed
    cases listed
  | append_singleton members last ih =>
    obtain ⟨key, v⟩ := last
    rw [canonicalMembers_snoc] at listed
    rcases mem_insertMember listed with rfl | old
    · exact ⟨(key, v), by simp, rfl⟩
    · obtain ⟨w, early, equal⟩ := ih old
      exact ⟨w, List.mem_append_left _ early, equal⟩

theorem canonical_idem (v : Json Num) : canonical (canonical v) = canonical v := by
  induction v using Json.induct with
  | array vs each =>
    rw [canonical, canonical, canonicalElements_eq, canonicalElements_eq, List.map_map]
    congr 1
    exact List.map_congr_left each
  | object members each =>
    rw [canonical, canonical]
    congr 1
    apply canonicalMembers_ordered (ordered_canonicalMembers members)
    intro m listed
    obtain ⟨w, early, equal⟩ := mem_canonicalMembers listed
    rw [equal]
    exact each w early
  | null => rw [canonical, canonical]
  | bool b => rw [canonical, canonical]
  | number n => rw [canonical, canonical]
  | string s => rw [canonical, canonical]

end JsonObjects
