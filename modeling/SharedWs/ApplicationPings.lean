import Mathlib.Data.List.Induction
import Mathlib.Order.Bounds.Defs
import SharedWs.PingStrategies

/-!
# The application strategy over whole histories

`WsApplicationPingPong` keeps a map from keys to send times and, beside it, the
oldest of these times. Every sequence of calls is considered, with arbitrary
answers of the two closures and arbitrary readings of the clock. Two questions
are asked after each of them: whether the cached time is still the least one of
the map, and which pings a pong can still be matched with.
-/
namespace ApplicationPings

open WsFrames WsTypes PingStrategies

/-- The pending pings, by key. -/
abbrev Pending := AList fun _ : String => Instant

/-- The send times a map holds. -/
def sendTimes (pending : Pending) : Set Instant :=
  {sent | ∃ key, pending.lookup key = some sent}

theorem lookup_eq_some_iff {pending : Pending} {key : String} {sent : Instant} :
    pending.lookup key = some sent ↔ (⟨key, sent⟩ : Sigma fun _ : String => Instant) ∈
      pending.entries :=
  AList.mem_lookup_iff

theorem mem_sendTimes {pending : Pending} {sent : Instant} :
    sent ∈ sendTimes pending ↔ sent ∈ pending.entries.map fun entry => entry.2 := by
  constructor
  · rintro ⟨key, found⟩
    exact List.mem_map_of_mem (f := fun entry => entry.2) (lookup_eq_some_iff.mp found)
  · intro member
    obtain ⟨entry, held, same⟩ := List.mem_map.mp member
    subst same
    exact ⟨entry.1, lookup_eq_some_iff.mpr held⟩

theorem oldest_eq_some_iff {pending : Pending} {time : Instant} :
    WsApplicationPingPong.oldest pending = some time ↔ IsLeast (sendTimes pending) time := by
  have minimum : WsApplicationPingPong.oldest pending = some time ↔
      time ∈ pending.entries.map (fun entry => entry.2) ∧
        ∀ sent ∈ pending.entries.map (fun entry => entry.2), time ≤ sent :=
    List.min?_eq_some_iff
  rw [minimum]
  constructor
  · rintro ⟨member, least⟩
    exact ⟨mem_sendTimes.mpr member, fun sent held => least sent (mem_sendTimes.mp held)⟩
  · rintro ⟨member, least⟩
    exact ⟨mem_sendTimes.mp member, fun sent held => least (mem_sendTimes.mpr held)⟩

theorem oldest_eq_none_iff {pending : Pending} :
    WsApplicationPingPong.oldest pending = none ↔ pending = ∅ := by
  have emptied : WsApplicationPingPong.oldest pending = none ↔ pending.entries = [] := by
    simp [WsApplicationPingPong.oldest]
  rw [emptied]
  constructor
  · intro entries
    exact AList.ext entries
  · intro none
    subst none
    rfl

/-- `retain` keeps the entries whose time passes the test, and no other. -/
theorem lookup_retain {pending : Pending} {keep : Instant → Bool} {key : String}
    {sent : Instant} :
    (WsApplicationPingPong.retain pending keep).lookup key = some sent ↔
      pending.lookup key = some sent ∧ keep sent = true := by
  rw [lookup_eq_some_iff, lookup_eq_some_iff]
  simp [WsApplicationPingPong.retain]

/-- The send times after an insertion: the new one and those of the other keys. -/
theorem mem_sendTimes_insert {pending : Pending} {key : String} {now sent : Instant} :
    sent ∈ sendTimes (pending.insert key now) ↔
      sent = now ∨ ∃ other, other ≠ key ∧ pending.lookup other = some sent := by
  constructor
  · rintro ⟨other, found⟩
    by_cases same : other = key
    · subst same
      rw [AList.lookup_insert] at found
      exact Or.inl (Option.some.inj found).symm
    · rw [AList.lookup_insert_ne same] at found
      exact Or.inr ⟨other, same, found⟩
  · rintro (rfl | ⟨other, different, found⟩)
    · exact ⟨key, AList.lookup_insert pending⟩
    · exact ⟨other, by rw [AList.lookup_insert_ne different]; exact found⟩

/-- The send times after a removal: those of the other keys. -/
theorem mem_sendTimes_erase {pending : Pending} {key : String} {sent : Instant} :
    sent ∈ sendTimes (pending.erase key) ↔
      ∃ other, other ≠ key ∧ pending.lookup other = some sent := by
  constructor
  · rintro ⟨other, found⟩
    by_cases same : other = key
    · subst same
      rw [AList.lookup_erase] at found
      cases found
    · rw [AList.lookup_erase_ne same] at found
      exact ⟨other, same, found⟩
  · rintro ⟨other, different, found⟩
    exact ⟨other, by rw [AList.lookup_erase_ne different]; exact found⟩

/-- The calls that change the strategy. `create_ping` reads the clock twice; its
first reading is in the ambient part. -/
inductive Call where
  | createPing (ambient : Ambient) (now : Instant)
  | handleInbound (ambient : Ambient) (now : Instant) (message : WsFrame)
  | reset

inductive Answer where
  | created (frame : Option WsFrame)
  | handled (result : WsPongResult)
  | done

def perform (p : WsApplicationPingPong) : Call → Answer × WsApplicationPingPong
  | .createPing ambient now => (.created (p.createPing ambient now).1, (p.createPing ambient now).2)
  | .handleInbound ambient now message =>
      (.handled (p.handleInbound ambient now message).1, (p.handleInbound ambient now message).2)
  | .reset => (.done, p.reset)

def run (p : WsApplicationPingPong) : List Call → WsApplicationPingPong
  | [] => p
  | call :: calls => run (perform p call).2 calls

/-- The calls of a run with what they answered, first call first. -/
def history (p : WsApplicationPingPong) : List Call → List (Call × Answer)
  | [] => []
  | call :: calls => (call, (perform p call).1) :: history (perform p call).2 calls

theorem run_append (p : WsApplicationPingPong) (before after : List Call) :
    run p (before ++ after) = run (run p before) after := by
  induction before generalizing p with
  | nil => rfl
  | cons call before ih => exact ih (perform p call).2

theorem history_append (p : WsApplicationPingPong) (before after : List Call) :
    history p (before ++ after) = history p before ++ history (run p before) after := by
  induction before generalizing p with
  | nil => rfl
  | cons call before ih =>
    simp only [List.cons_append, history, run]
    rw [ih]

/-- A strategy as it is handed to the loop, its cap already chosen. -/
def configured (interval timeout : Duration) (maxPending : Nat) : WsApplicationPingPong :=
  (WsApplicationPingPong.new interval timeout).withMaxPending maxPending

/-- The pings that are left when `create_ping` looks at its cap. -/
def cleaned (p : WsApplicationPingPong) (ambient : Ambient) : Pending :=
  (p.cleanupStale ambient.cleanupTime).pendingPings

/-- At the cap nothing is issued; the expired pings are gone all the same. -/
theorem createPing_full {p : WsApplicationPingPong} {ambient : Ambient} {now : Instant}
    (full : p.maxPending ≤ (cleaned p ambient).entries.length) :
    p.createPing ambient now = (none, p.cleanupStale ambient.cleanupTime) :=
  if_pos full

theorem createPing_room {p : WsApplicationPingPong} {ambient : Ambient} {now : Instant}
    (room : (cleaned p ambient).entries.length < p.maxPending) :
    p.createPing ambient now = (some (intoWsFrame ambient.createMessage.1),
      { p.cleanupStale ambient.cleanupTime with
        pendingPings := (cleaned p ambient).insert ambient.createMessage.2 now
      }.touchOldestOnInsert now) :=
  if_neg (not_le_of_gt room)

/-- What the cached time is for: it is the least send time of the map, absent
when the map is empty, so that `is_stale` speaks about the pending pings. -/
structure Cached (p : WsApplicationPingPong) : Prop where
  empty : p.oldestPending = none ↔ p.pendingPings = ∅
  least : ∀ time, p.oldestPending = some time ↔ IsLeast (sendTimes p.pendingPings) time
  stale : ∀ now, p.isStale now = true ↔
    ∃ key sent, p.pendingPings.lookup key = some sent ∧ p.timeout < now - sent

/-- The cache holds what a fresh search through the map would give. -/
def Exact (p : WsApplicationPingPong) : Prop :=
  p.oldestPending = WsApplicationPingPong.oldest p.pendingPings

theorem Exact.isStale {p : WsApplicationPingPong} (exact : Exact p) (now : Instant) :
    p.isStale now = true ↔
      ∃ key sent, p.pendingPings.lookup key = some sent ∧ p.timeout < now - sent := by
  unfold WsApplicationPingPong.isStale
  rw [exact]
  cases found : WsApplicationPingPong.oldest p.pendingPings with
  | none =>
    have emptied := oldest_eq_none_iff.mp found
    simp [emptied]
  | some time =>
    obtain ⟨⟨key, held⟩, least⟩ := oldest_eq_some_iff.mp found
    simp only [Option.map_some, Option.getD_some, decide_eq_true_eq]
    constructor
    · intro late
      exact ⟨key, time, held, late⟩
    · rintro ⟨other, sent, pending, late⟩
      have older : time ≤ sent := least ⟨other, pending⟩
      exact lt_of_lt_of_le late (Nat.sub_le_sub_left older now)

theorem cached_iff_exact {p : WsApplicationPingPong} : Cached p ↔ Exact p := by
  constructor
  · intro cached
    cases known : p.oldestPending with
    | none =>
      have emptied := cached.empty.mp known
      exact known.trans (oldest_eq_none_iff.mpr emptied).symm
    | some time =>
      have least := (cached.least time).mp known
      exact known.trans (oldest_eq_some_iff.mpr least).symm
  · intro exact
    constructor
    · rw [exact]
      exact oldest_eq_none_iff
    · intro time
      rw [exact]
      exact oldest_eq_some_iff
    · intro now
      exact exact.isStale now

/-- The call issues a ping under the key of the pending ping that alone is the
oldest one, at a later reading of the clock: the insertion overwrites its send
time, the cached time stays. -/
def Displaces (p : WsApplicationPingPong) : Call → Prop
  | .createPing ambient now =>
      (cleaned p ambient).entries.length < p.maxPending ∧
        ∃ sent, (cleaned p ambient).lookup ambient.createMessage.2 = some sent ∧ sent < now ∧
          ∀ other time, other ≠ ambient.createMessage.2 →
            (cleaned p ambient).lookup other = some time → sent < time
  | _ => False

/-- An insertion that takes the earlier of the two times as the new minimum is
right unless the overwritten time was the only least one. -/
theorem touched_isLeast_iff {pending : Pending} {key : String} {now : Instant} :
    IsLeast (sendTimes (pending.insert key now))
        (((WsApplicationPingPong.oldest pending).map fun old => min old now).getD now) ↔
      ¬ ∃ sent, pending.lookup key = some sent ∧ sent < now ∧
        ∀ other time, other ≠ key → pending.lookup other = some time → sent < time := by
  cases found : WsApplicationPingPong.oldest pending with
  | none =>
    have emptied := oldest_eq_none_iff.mp found
    subst emptied
    simp only [Option.map_none, Option.getD_none, AList.lookup_empty]
    constructor
    · rintro - ⟨sent, missing, -⟩
      cases missing
    · intro _
      refine ⟨mem_sendTimes_insert.mpr (Or.inl rfl), fun sent held => ?_⟩
      obtain rfl | ⟨other, -, missing⟩ := mem_sendTimes_insert.mp held
      · exact le_rfl
      · cases missing
  | some old =>
    obtain ⟨⟨holder, held⟩, least⟩ := oldest_eq_some_iff.mp found
    simp only [Option.map_some, Option.getD_some]
    constructor
    · rintro ⟨member, -⟩ ⟨sent, pendingAt, earlier, alone⟩
      have oldIsSent : old = sent := by
        by_cases same : holder = key
        · subst same
          exact Option.some.inj (held.symm.trans pendingAt)
        · have before : sent < old := alone holder old same held
          exact absurd (least ⟨key, pendingAt⟩) (not_le_of_gt before)
      subst oldIsSent
      rw [min_eq_left (le_of_lt earlier)] at member
      obtain fresh | ⟨other, different, same⟩ := mem_sendTimes_insert.mp member
      · exact absurd fresh (ne_of_lt earlier)
      · exact lt_irrefl old (alone other old different same)
    · intro kept
      constructor
      · by_cases late : now ≤ old
        · exact mem_sendTimes_insert.mpr (Or.inl (min_eq_right late))
        · have earlier : old < now := lt_of_not_ge late
          rw [min_eq_left (le_of_lt earlier)]
          by_cases same : holder = key
          · subst same
            -- the overwritten ping was the oldest: another one of its age is left
            by_contra lost
            refine kept ⟨old, held, earlier, fun other time different pendingAt => ?_⟩
            have bound : old ≤ time := least ⟨other, pendingAt⟩
            have unequal : old ≠ time := by
              rintro rfl
              exact lost (mem_sendTimes_insert.mpr (Or.inr ⟨other, different, pendingAt⟩))
            exact lt_of_le_of_ne bound unequal
          · exact mem_sendTimes_insert.mpr (Or.inr ⟨holder, same, held⟩)
      · intro sent member
        obtain rfl | ⟨other, -, pendingAt⟩ := mem_sendTimes_insert.mp member
        · exact min_le_right old sent
        · have bound : old ≤ sent := least ⟨other, pendingAt⟩
          exact le_trans (min_le_left old now) bound

theorem exact_cleanupStale (p : WsApplicationPingPong) (now : Instant) :
    Exact (p.cleanupStale now) := rfl

/-- `create_ping` starts from a fresh minimum and loses it only by displacing. -/
theorem exact_createPing (p : WsApplicationPingPong) (ambient : Ambient) (now : Instant) :
    Exact (p.createPing ambient now).2 ↔ ¬ Displaces p (.createPing ambient now) := by
  have cached := exact_cleanupStale p ambient.cleanupTime
  by_cases full : p.maxPending ≤ (cleaned p ambient).entries.length
  · rw [createPing_full full]
    constructor
    · rintro - ⟨room, -⟩
      exact absurd full (not_le_of_gt room)
    · intro _
      exact cached
  · have room := lt_of_not_ge full
    have touched : Exact (p.createPing ambient now).2 ↔
        IsLeast (sendTimes ((cleaned p ambient).insert ambient.createMessage.2 now))
          (((WsApplicationPingPong.oldest (cleaned p ambient)).map
            fun old => min old now).getD now) := by
      rw [createPing_room room, ← oldest_eq_some_iff]
      exact eq_comm
    rw [touched, touched_isLeast_iff]
    constructor
    · rintro kept ⟨-, displaced⟩
      exact kept displaced
    · rintro kept displaced
      exact kept ⟨room, displaced⟩

/-- A matched removal searches the map again only when it takes the cached time. -/
theorem exact_processApplication {p : WsApplicationPingPong} (exact : Exact p)
    (ambient : Ambient) (now : Instant) (payload : Bytes) :
    Exact (p.processApplication ambient now payload).2 := by
  unfold WsApplicationPingPong.processApplication
  cases ambient.parsePong payload with
  | none => exact exact
  | some key =>
    cases found : p.pendingPings.lookup key with
    | none => simpa only [found] using exact
    | some sentAt =>
      simp only [found]
      by_cases taken : p.oldestPending = some sentAt
      · rw [if_pos taken]
        rfl
      · rw [if_neg taken]
        change p.oldestPending = WsApplicationPingPong.oldest (p.pendingPings.erase key)
        cases known : p.oldestPending with
        | none =>
          have emptied := oldest_eq_none_iff.mp (exact.symm.trans known)
          rw [emptied] at found
          cases found
        | some old =>
          obtain ⟨⟨holder, held⟩, least⟩ := oldest_eq_some_iff.mp (exact.symm.trans known)
          have different : holder ≠ key := by
            rintro rfl
            rw [known, ← held, found] at taken
            exact taken rfl
          symm
          refine oldest_eq_some_iff.mpr ⟨mem_sendTimes_erase.mpr ⟨holder, different, held⟩, ?_⟩
          intro sent member
          obtain ⟨other, -, pendingAt⟩ := mem_sendTimes_erase.mp member
          exact least ⟨other, pendingAt⟩

/-- One call keeps an exact cache unless it displaces the oldest ping. -/
theorem exact_perform {p : WsApplicationPingPong} (exact : Exact p) (call : Call) :
    Exact (perform p call).2 ↔ ¬ Displaces p call := by
  cases call with
  | createPing ambient now => exact exact_createPing p ambient now
  | handleInbound ambient now message =>
    have kept : Exact (p.handleInbound ambient now message).2 := by
      cases message with
      | text text => exact exact_processApplication exact ambient now text.bytes
      | binary bytes => exact exact_processApplication exact ambient now bytes
      | ping payload => exact exact
      | pong payload => exact exact
      | close frame => exact exact
    exact ⟨fun _ => id, fun _ => kept⟩
  | reset => exact ⟨fun _ => id, fun _ => rfl⟩

/-- Along every sequence of calls the cached time is the least send time of the
map exactly as long as no call displaces the oldest ping. -/
theorem cached_along_iff (interval timeout : Duration) (maxPending : Nat) (calls : List Call) :
    (∀ before, before <+: calls → Cached (run (configured interval timeout maxPending) before)) ↔
      ∀ before call, before ++ [call] <+: calls →
        ¬ Displaces (run (configured interval timeout maxPending) before) call := by
  set p := configured interval timeout maxPending with pEq
  have step : ∀ before call, Exact (run p before) →
      (Exact (run p (before ++ [call])) ↔ ¬ Displaces (run p before) call) := by
    intro before call exact
    rw [run_append]
    exact exact_perform exact call
  constructor
  · intro cached before call within
    have here := cached_iff_exact.mp (cached before ((List.prefix_append _ _).trans within))
    exact (step before call here).mp (cached_iff_exact.mp (cached _ within))
  · intro kept before
    induction before using List.reverseRecOn with
    | nil =>
      intro _
      exact cached_iff_exact.mpr rfl
    | append_singleton before call ih =>
      intro within
      have here := cached_iff_exact.mp (ih ((List.prefix_append _ _).trans within))
      exact cached_iff_exact.mpr ((step before call here).mpr (kept before call within))

/-- A closure that always returns the same key, and nothing that is a pong. -/
def constantKey (cleanupTime : Instant) : Ambient where
  createMessage := (ByteArray.empty, "ping")
  parsePong := fun _ => none
  cleanupTime := cleanupTime

/-- Two pings under one key, five units apart: the first is overwritten, but its
time stays in the cache, and `is_stale` reports a ping that no longer exists. -/
theorem overwritten_ping_still_cached :
    let p := run (configured 1 10 10) [.createPing (constantKey 0) 0, .createPing (constantKey 5) 5]
    ¬ Cached p ∧ p.oldestPending = some 0 ∧ p.isStale 11 = true ∧
      ∀ key sent, p.pendingPings.lookup key = some sent → sent = 5 := by
  have cachedTime : (run (configured 1 10 10)
      [.createPing (constantKey 0) 0, .createPing (constantKey 5) 5]).oldestPending = some 0 := rfl
  have times : (run (configured 1 10 10)
      [.createPing (constantKey 0) 0, .createPing (constantKey 5) 5]).pendingPings.entries =
        [⟨"ping", 5⟩] := rfl
  have only : ∀ key sent, (run (configured 1 10 10)
      [.createPing (constantKey 0) 0, .createPing (constantKey 5) 5]).pendingPings.lookup key =
        some sent → sent = 5 := by
    intro key sent found
    have member := lookup_eq_some_iff.mp found
    rw [times] at member
    simp only [List.mem_singleton, Sigma.mk.injEq] at member
    exact eq_of_heq member.2
  refine ⟨fun cached => ?_, cachedTime, rfl, only⟩
  obtain ⟨⟨key, held⟩, -⟩ := (cached.least 0).mp cachedTime
  exact absurd (only key 0 held) (by decide)

/-- The payload of a frame that can carry an application pong. -/
def applicationPayload : WsFrame → Option Bytes
  | .text text => some text.bytes
  | .binary bytes => some bytes
  | _ => none

/-- A `create_ping` that issued a ping under this key, created at this time. -/
def Issues (key : String) (time : Instant) : Call × Answer → Prop
  | (.createPing ambient now, .created (some _)) => ambient.createMessage.2 = key ∧ now = time
  | _ => False

/-- A `handle_inbound` that took a frame for the pong of this key. -/
def Matches (key : String) : Call × Answer → Prop
  | (.handleInbound ambient _ message, .handled (.pongReceived (some _))) =>
      (applicationPayload message).bind ambient.parsePong = some key
  | _ => False

/-- A `create_ping` at which a ping of this age is above the timeout. -/
def Expires (timeout : Duration) (time : Instant) : Call × Answer → Prop
  | (.createPing ambient _, _) => timeout < ambient.cleanupTime - time
  | _ => False

def Resets : Call × Answer → Prop
  | (.reset, _) => True
  | _ => False

/-- The entry leaves a ping of this key and time as it is. -/
structure Spares (timeout : Duration) (key : String) (time : Instant) (entry : Call × Answer) :
    Prop where
  notIssued : ∀ other, ¬ Issues key other entry
  notReset : ¬ Resets entry
  notMatched : ¬ Matches key entry
  notExpired : ¬ Expires timeout time entry

/-- The latest ping of the key was created at this time; since then there was no
reset, no match of the key and no `create_ping` that found the ping too old. -/
def Live (timeout : Duration) (past : List (Call × Answer)) (key : String) (time : Instant) :
    Prop :=
  ∃ before issue after, past = before ++ issue :: after ∧ Issues key time issue ∧
    ∀ entry ∈ after, Spares timeout key time entry

theorem live_snoc {timeout : Duration} {past : List (Call × Answer)} {entry : Call × Answer}
    {key : String} {time : Instant} :
    Live timeout (past ++ [entry]) key time ↔
      Issues key time entry ∨ Live timeout past key time ∧ Spares timeout key time entry := by
  constructor
  · rintro ⟨before, issue, after, split, issued, spared⟩
    rcases List.eq_nil_or_concat after with rfl | ⟨after, last, rfl⟩
    · obtain ⟨-, rfl⟩ := List.append_inj' split rfl |>.imp id List.singleton_inj.mp
      exact Or.inl issued
    · rw [List.concat_eq_append, ← List.cons_append, ← List.append_assoc] at split
      obtain ⟨rfl, same⟩ := List.append_inj' split rfl
      obtain rfl := List.singleton_inj.mp same
      refine Or.inr ⟨⟨before, issue, after, rfl, issued, fun e member => ?_⟩, ?_⟩
      · exact spared e (by simp [member])
      · exact spared entry (by simp)
  · rintro (issued | ⟨⟨before, issue, after, rfl, issued, spared⟩, spares⟩)
    · exact ⟨past, entry, [], rfl, issued, List.forall_mem_nil _⟩
    · refine ⟨before, issue, after ++ [entry], by simp, issued, fun e member => ?_⟩
      rcases List.mem_append.mp member with inside | last
      · exact spared e inside
      · obtain rfl := List.mem_singleton.mp last
        exact spares

/-- After a match of the key a ping of this key is live only if it was issued
since. -/
theorem issued_of_live {timeout : Duration} {before between : List (Call × Answer)}
    {first : Call × Answer} {key : String} {time : Instant} (matched : Matches key first)
    (live : Live timeout (before ++ first :: between) key time) :
    ∃ entry ∈ between, Issues key time entry := by
  induction between using List.reverseRecOn with
  | nil =>
    rcases live_snoc.mp live with issued | ⟨-, spares⟩
    · obtain ⟨call, answer⟩ := first
      cases call with
      | createPing ambient now => exact False.elim matched
      | handleInbound ambient now message => exact False.elim issued
      | reset => exact False.elim issued
    · exact absurd matched spares.notMatched
  | append_singleton between entry ih =>
    rw [← List.cons_append, ← List.append_assoc] at live
    rcases live_snoc.mp live with issued | ⟨earlier, -⟩
    · exact ⟨entry, by simp, issued⟩
    · obtain ⟨found, member, issued⟩ := ih earlier
      exact ⟨found, by simp [member], issued⟩

theorem timeout_perform (p : WsApplicationPingPong) (call : Call) :
    (perform p call).2.timeout = p.timeout ∧ (perform p call).2.maxPending = p.maxPending := by
  cases call with
  | createPing ambient now =>
    by_cases full : p.maxPending ≤ (cleaned p ambient).entries.length
    · simp only [perform, createPing_full full]
      exact ⟨rfl, rfl⟩
    · simp only [perform, createPing_room (lt_of_not_ge full)]
      exact ⟨rfl, rfl⟩
  | handleInbound ambient now message =>
    have same : ∀ payload, (p.processApplication ambient now payload).2.timeout = p.timeout ∧
        (p.processApplication ambient now payload).2.maxPending = p.maxPending := by
      intro payload
      unfold WsApplicationPingPong.processApplication
      split
      · exact ⟨rfl, rfl⟩
      · split <;> exact ⟨rfl, rfl⟩
    cases message with
    | text text => exact same text.bytes
    | binary bytes => exact same bytes
    | ping payload => exact ⟨rfl, rfl⟩
    | pong payload => exact ⟨rfl, rfl⟩
    | close frame => exact ⟨rfl, rfl⟩
  | reset => exact ⟨rfl, rfl⟩

theorem timeout_run (p : WsApplicationPingPong) (calls : List Call) :
    (run p calls).timeout = p.timeout ∧ (run p calls).maxPending = p.maxPending := by
  induction calls generalizing p with
  | nil => exact ⟨rfl, rfl⟩
  | cons call calls ih =>
    have first := timeout_perform p call
    have rest := ih (perform p call).2
    exact ⟨rest.1.trans first.1, rest.2.trans first.2⟩

/-- The two ways through `process_application`. -/
theorem processApplication_cases (p : WsApplicationPingPong) (ambient : Ambient) (now : Instant)
    (payload : Bytes) :
    (∃ key sent, ambient.parsePong payload = some key ∧ p.pendingPings.lookup key = some sent ∧
        (p.processApplication ambient now payload).1 = .pongReceived (some (now - sent)) ∧
        (p.processApplication ambient now payload).2.pendingPings = p.pendingPings.erase key) ∨
      (∀ key sent, ambient.parsePong payload = some key →
          p.pendingPings.lookup key ≠ some sent) ∧
        p.processApplication ambient now payload = (.notPong, p) := by
  unfold WsApplicationPingPong.processApplication
  cases parsed : ambient.parsePong payload with
  | none => exact Or.inr ⟨nofun, rfl⟩
  | some key =>
    cases found : p.pendingPings.lookup key with
    | none =>
      refine Or.inr ⟨fun other sent same => ?_, by simp only [found]⟩
      obtain rfl := Option.some.inj same
      rw [found]
      exact nofun
    | some sent =>
      exact Or.inl ⟨key, sent, rfl, found, by simp only [found], by simp only [found]⟩

/-- The same for a whole frame: only a frame with an application payload can be
taken for a pong. -/
theorem handleInbound_cases (p : WsApplicationPingPong) (ambient : Ambient) (now : Instant)
    (message : WsFrame) :
    (∃ key sent, (applicationPayload message).bind ambient.parsePong = some key ∧
        p.pendingPings.lookup key = some sent ∧
        (p.handleInbound ambient now message).1 = .pongReceived (some (now - sent)) ∧
        (p.handleInbound ambient now message).2.pendingPings = p.pendingPings.erase key) ∨
      (∀ key sent, (applicationPayload message).bind ambient.parsePong = some key →
          p.pendingPings.lookup key ≠ some sent) ∧
        p.handleInbound ambient now message = (.notPong, p) := by
  cases message with
  | text text => exact processApplication_cases p ambient now text.bytes
  | binary bytes => exact processApplication_cases p ambient now bytes
  | ping payload => exact Or.inr ⟨nofun, rfl⟩
  | pong payload => exact Or.inr ⟨nofun, rfl⟩
  | close frame => exact Or.inr ⟨nofun, rfl⟩

/-- What one call does to the entry of one key: it is the ping just issued, or an
old one that the call spares. -/
theorem lookup_perform (p : WsApplicationPingPong) (call : Call) (key : String) (time : Instant) :
    (perform p call).2.pendingPings.lookup key = some time ↔
      Issues key time (call, (perform p call).1) ∨
        p.pendingPings.lookup key = some time ∧
          Spares p.timeout key time (call, (perform p call).1) := by
  cases call with
  | createPing ambient now =>
    have survives : (cleaned p ambient).lookup key = some time ↔
        p.pendingPings.lookup key = some time ∧ ¬ p.timeout < ambient.cleanupTime - time := by
      refine lookup_retain.trans ?_
      rw [decide_eq_true_eq, not_lt]
    by_cases full : p.maxPending ≤ (cleaned p ambient).entries.length
    · simp only [perform, createPing_full full]
      refine survives.trans ⟨fun held => Or.inr ⟨held.1, ?_⟩, ?_⟩
      · exact ⟨fun _ => id, id, id, held.2⟩
      · rintro (issued | ⟨held, spares⟩)
        · exact False.elim issued
        · exact ⟨held, spares.notExpired⟩
    · simp only [perform, createPing_room (lt_of_not_ge full)]
      change ((cleaned p ambient).insert ambient.createMessage.2 now).lookup key = some time ↔ _
      by_cases same : key = ambient.createMessage.2
      · subst same
        rw [AList.lookup_insert]
        constructor
        · intro latest
          exact Or.inl ⟨rfl, Option.some.inj latest⟩
        · rintro (issued | ⟨-, spares⟩)
          · exact congrArg some issued.2
          · exact absurd ⟨rfl, rfl⟩ (spares.notIssued now)
      · rw [AList.lookup_insert_ne same, survives]
        constructor
        · intro held
          exact Or.inr ⟨held.1, fun _ issued => same issued.1.symm, id, id, held.2⟩
        · rintro (issued | ⟨held, spares⟩)
          · exact absurd issued.1.symm same
          · exact ⟨held, spares.notExpired⟩
  | handleInbound ambient now message =>
    rcases handleInbound_cases p ambient now message with
      ⟨matched, sent, parsed, -, answered, erased⟩ | ⟨-, unchanged⟩
    · simp only [perform, answered, erased]
      by_cases same : key = matched
      · subst same
        rw [AList.lookup_erase]
        constructor
        · intro absent
          cases absent
        · rintro (issued | ⟨-, spares⟩)
          · exact False.elim issued
          · exact absurd parsed spares.notMatched
      · rw [AList.lookup_erase_ne same]
        constructor
        · intro held
          refine Or.inr ⟨held, fun _ => id, id, fun parsedHere => ?_, id⟩
          exact same (Option.some.inj (parsedHere.symm.trans parsed))
        · rintro (issued | ⟨held, -⟩)
          · exact False.elim issued
          · exact held
    · simp only [perform, unchanged]
      constructor
      · intro held
        exact Or.inr ⟨held, fun _ => id, id, id, id⟩
      · rintro (issued | ⟨held, -⟩)
        · exact False.elim issued
        · exact held
  | reset =>
    constructor
    · intro absent
      cases absent
    · rintro (issued | ⟨-, spares⟩)
      · exact False.elim issued
      · exact absurd trivial spares.notReset

/-- The map holds, for each key, its live ping. -/
theorem lookup_run_iff_live (interval timeout : Duration) (maxPending : Nat) (calls : List Call)
    (key : String) (time : Instant) :
    (run (configured interval timeout maxPending) calls).pendingPings.lookup key = some time ↔
      Live timeout (history (configured interval timeout maxPending) calls) key time := by
  induction calls using List.reverseRecOn with
  | nil =>
    constructor
    · intro absent
      cases absent
    · rintro ⟨before, issue, after, split, -⟩
      simp [history] at split
  | append_singleton calls call ih =>
    have sameTimeout := (timeout_run (configured interval timeout maxPending) calls).1
    rw [run_append, history_append]
    refine (lookup_perform _ call key time).trans ?_
    rw [ih, sameTimeout]
    exact live_snoc.symm

theorem length_perform (p : WsApplicationPingPong) (call : Call)
    (bounded : p.pendingPings.entries.length ≤ p.maxPending) :
    (perform p call).2.pendingPings.entries.length ≤ p.maxPending := by
  cases call with
  | createPing ambient now =>
    have fewer : (cleaned p ambient).entries.length ≤ p.pendingPings.entries.length :=
      List.length_filter_le _ _
    by_cases full : p.maxPending ≤ (cleaned p ambient).entries.length
    · simp only [perform, createPing_full full]
      exact le_trans fewer bounded
    · have room := lt_of_not_ge full
      simp only [perform, createPing_room room]
      have grown : ((cleaned p ambient).insert ambient.createMessage.2 now).entries.length ≤
          (cleaned p ambient).entries.length + 1 := by
        rw [AList.entries_insert, List.length_cons]
        have shorter := (List.kerase_sublist ambient.createMessage.2
          (cleaned p ambient).entries).length_le
        omega
      exact le_trans grown room
  | handleInbound ambient now message =>
    rcases handleInbound_cases p ambient now message with ⟨key, -, -, -, -, erased⟩ | ⟨-, unchanged⟩
    · simp only [perform, erased]
      have shorter := (List.kerase_sublist key p.pendingPings.entries).length_le
      exact le_trans shorter bounded
    · simp only [perform, unchanged]
      exact bounded
  | reset => exact Nat.zero_le _

theorem length_run (interval timeout : Duration) (maxPending : Nat) (calls : List Call) :
    (run (configured interval timeout maxPending) calls).pendingPings.entries.length ≤
      maxPending := by
  induction calls using List.reverseRecOn with
  | nil => exact Nat.zero_le _
  | append_singleton calls call ih =>
    have sameCap := (timeout_run (configured interval timeout maxPending) calls).2
    rw [run_append]
    have kept := length_perform (run (configured interval timeout maxPending) calls) call
      (by rw [sameCap]; exact ih)
    rw [sameCap] at kept
    exact kept

/-- An entry of a history is the call made there, answered in the state that the
earlier calls led to. -/
theorem history_split {p : WsApplicationPingPong} {calls : List Call}
    {before after : List (Call × Answer)} {entry : Call × Answer}
    (split : history p calls = before ++ entry :: after) :
    ∃ earlier, before = history p earlier ∧ entry.2 = (perform (run p earlier) entry.1).1 := by
  induction before generalizing p calls with
  | nil =>
    cases calls with
    | nil => cases split
    | cons call calls =>
      obtain ⟨rfl, -⟩ := List.cons.inj split
      exact ⟨[], rfl, rfl⟩
  | cons first before ih =>
    cases calls with
    | nil => cases split
    | cons call calls =>
      obtain ⟨rfl, rest⟩ := List.cons.inj split
      obtain ⟨earlier, rfl, answered⟩ := ih rest
      exact ⟨call :: earlier, rfl, answered⟩

/-- A match takes the live ping of its key. -/
theorem live_of_matches {interval timeout : Duration} {maxPending : Nat} {earlier : List Call}
    {entry : Call × Answer} {key : String}
    (answered : entry.2 =
      (perform (run (configured interval timeout maxPending) earlier) entry.1).1)
    (matched : Matches key entry) :
    ∃ time, Live timeout (history (configured interval timeout maxPending) earlier) key time := by
  obtain ⟨call, answer⟩ := entry
  cases call with
  | createPing ambient now => exact False.elim matched
  | reset => exact False.elim matched
  | handleInbound ambient now message =>
    rcases handleInbound_cases (run (configured interval timeout maxPending) earlier) ambient now
      message with ⟨found, sent, parsed, held, -, -⟩ | ⟨-, unchanged⟩
    · simp only [perform] at answered
      subst answered
      refine ⟨sent, (lookup_run_iff_live _ _ _ _ _ _).mp ?_⟩
      have same : found = key := by
        unfold Matches at matched
        split at matched
        · rename_i known
          obtain ⟨known, -⟩ := Prod.mk.inj known
          cases known
          exact Option.some.inj (parsed.symm.trans matched)
        · exact False.elim matched
      rw [← same]
      exact held
    · simp only [perform, unchanged] at answered
      subst answered
      exact False.elim matched

/-- The strategy matches pongs as its whole history says: never more pending
pings than the cap; a frame is a pong exactly when it parses to a key whose
latest ping is live, with the age of that ping as sample; any other frame leaves
the strategy alone; and two samples under one key come from two pings. -/
theorem pong_matching (interval timeout : Duration) (maxPending : Nat) (calls : List Call) :
    let p := run (configured interval timeout maxPending) calls
    let past := history (configured interval timeout maxPending) calls
    p.pendingPings.entries.length ≤ maxPending ∧
    (∀ ambient now message,
      (∀ rtt, (p.handleInbound ambient now message).1 = .pongReceived (some rtt) ↔
        ∃ key time, (applicationPayload message).bind ambient.parsePong = some key ∧
          Live timeout past key time ∧ rtt = now - time) ∧
      ((¬ ∃ key time, (applicationPayload message).bind ambient.parsePong = some key ∧
          Live timeout past key time) →
        p.handleInbound ambient now message = (.notPong, p))) ∧
    (∀ key before first between second after,
      past = before ++ first :: between ++ second :: after →
      Matches key first → Matches key second →
      ∃ entry ∈ between, ∃ time, Issues key time entry) := by
  intro p past
  have pendingIsLive : ∀ key time, p.pendingPings.lookup key = some time ↔
      Live timeout past key time := lookup_run_iff_live interval timeout maxPending calls
  refine ⟨length_run interval timeout maxPending calls, fun ambient now message => ?_, ?_⟩
  · rcases handleInbound_cases p ambient now message with
      ⟨key, sent, parsed, held, answered, -⟩ | ⟨nothing, unchanged⟩
    · constructor
      · intro rtt
        rw [answered]
        constructor
        · intro same
          injection same with same
          exact ⟨key, sent, parsed, (pendingIsLive key sent).mp held, (Option.some.inj same).symm⟩
        · rintro ⟨other, time, parsedOther, live, rfl⟩
          obtain rfl := Option.some.inj (parsed.symm.trans parsedOther)
          have time_eq := held.symm.trans ((pendingIsLive key time).mpr live)
          rw [Option.some.inj time_eq]
      · intro none
        exact absurd ⟨key, sent, parsed, (pendingIsLive key sent).mp held⟩ none
    · constructor
      · intro rtt
        rw [unchanged]
        constructor
        · intro same
          cases same
        · rintro ⟨key, time, parsed, live, -⟩
          exact absurd ((pendingIsLive key time).mpr live) (nothing key time parsed)
      · intro _
        exact unchanged
  · intro key before first between second after split matchedFirst matchedSecond
    obtain ⟨earlier, known, answered⟩ := history_split split
    obtain ⟨time, live⟩ := live_of_matches answered matchedSecond
    rw [← known] at live
    obtain ⟨entry, member, issued⟩ := issued_of_live matchedFirst live
    exact ⟨entry, member, time, issued⟩

end ApplicationPings
