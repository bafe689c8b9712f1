import SharedWs.PongTimeouts

/-!
# Measured round trips are real

`run_health_checked_managed_ws_loop` passes the round trips that its strategy measures to the health
monitor. Each of them is the time from the creation of a ping on the present connection to the
moment at which the strategy saw the answer. With `ProtocolPingPong` it is the last ping that was
created, also for a `Pong` that nobody asked for; with `WsApplicationPingPong` every ping is
measured at most once, since an answer uses it up.
-/
namespace RoundTrips

open InteractionPrograms InteractionMonitors InteractionMonitors.Monitor
open WsFrames WsTypes ManagedOps ManagedLoop HealthCheckedLoop HookedLoop LoopOutline ManagedBlocks
open ProtocolPing PingStrategies ApplicationPings HealthOutline PongTimeouts HistoryCounts

variable {E : Endpoint}

/-- The round trip that a call of the strategy measured. -/
def measuredBy : ManagedEvent E → Option Duration
  | ⟨(_, .ping (.handleInbound _)), ⟨_, .pongReceived rtt⟩⟩ => rtt
  | _ => none

/-- The summary is what the last call measured. -/
def meter (E : Endpoint) : ManagedMonitor E (Option Duration) where
  step := fun _ e => measuredBy e
  rely := fun _ _ => True
  safe := fun measured e => ∀ rtt, e.op.2 = .monitor (.recordRtt rtt) → measured = some rtt

theorem meter_silent : Keeps (meter E) (fun op => ∀ rtt, op ≠ .monitor (.recordRtt rtt))
    fun _ _ => True :=
  fun _ _ _ _ _ silent _ _ => ⟨fun rtt records => absurd records (silent rtt), trivial⟩

section Blocks
variable {l : Locals E} {m : Option Duration}

/-- A call that records nothing, and what comes after it. -/
theorem past (op : Op E) (silent : ∀ rtt, op ≠ .monitor (.recordRtt rtt)) {α : Type}
    {f : op.Ans → Managed E α} {post : α → Locals E → Option Duration → Prop}
    (rest : ∀ a l m, (meter E).ensures post (f a) l m) :
    (meter E).ensures post (ask op >>= f) l m :=
  (meter E).ensures_seq (meter_silent.ensures (quiet_ask silent) trivial)
    fun a l m _ => rest a l m

/-- Only the strategy measures, and what it measures is recorded at once. -/
theorem intercept_metered (frame : WsFrame) :
    (meter E).ensures (fun verdict _ => match verdict with
      | .leave _ => (held fun _ => True).idle
      | _ => (held fun _ => True).live) (pingIntercept frame) l m := by
  refine ensures_ask_then (meter E) (.ping (.handleInbound frame)) fun time result _ =>
    ⟨nofun, ?_⟩
  cases result with
  | notPong => trivial
  | invalidPong => exact past (.monitor (.recordInternalError _ _)) nofun fun _ _ _ => trivial
  | pongReceived rtt =>
    cases rtt with
    | none => trivial
    | some rtt =>
      refine ensures_ask_then (meter E) (.monitor (.recordRtt rtt)) fun _ _ _ => ⟨?_, trivial⟩
      rintro _ ⟨⟩
      rfl
  | reply reply =>
    refine past (.handler (.onOutboundFrame reply)) nofun fun _ l m => ?_
    refine past (.write .pong reply) nofun fun written l m => ?_
    cases written with
    | error error => exact past (.monitor (.recordInternalError _ _)) nofun fun _ _ _ => trivial
    | ok _ => exact past (.monitor .recordSent) nofun fun _ _ _ => trivial

end Blocks

theorem meter_books (url : String) : Books (meter E) url (held fun _ => True) := by
  have outside : Keeps (meter E) Outside fun _ _ => True := by
    refine meter_silent.mono ?_
    rintro op outside rtt rfl
    exact outside
  refine held_books outside (fun _ _ _ _ => trivial) (meter_silent.mono ?_)
    (select_held outside (meter_silent.mono ?_)) fun frame _ _ _ => intercept_metered frame
  · rintro op within rtt rfl
    exact within
  · rintro op listens rtt rfl
    exact listens

section Runs
variable {url : String} {t : List (ManagedEvent E)} {q : Task E}

/-- What is recorded was measured by the call before. -/
theorem measured_before (run : Run (runHealthCheckedManagedWsLoop url) t q)
    {before rest : List (ManagedEvent E)} {l : Locals E} {rtt : Duration} {time : Instant}
    (cut : t = before ++ event l (.monitor (.recordRtt rtt)) time () :: rest) :
    ∃ earlier l' frame seen, before =
      earlier ++ [event l' (.ping (.handleInbound frame)) seen (.pongReceived (some rtt))] := by
  have relied : (meter E).Along (meter E).rely none t :=
    ((meter E).along_iff).mpr fun _ _ _ _ => trivial
  have measured : (meter E).run none before = some rtt :=
    ((meter E).along_iff).mp ((meter_books url).run trivial run relied) before _ rest cut rtt rfl
  rcases List.eq_nil_or_concat before with rfl | ⟨earlier, e, rfl⟩
  · cases measured
  · rw [List.concat_eq_append, Monitor.run_append] at measured
    change measuredBy e = some rtt at measured
    unfold measuredBy at measured
    split at measured
    · cases measured
      exact ⟨earlier, _, _, _, List.concat_eq_append⟩
    · cases measured

end Runs

/-- The strategy forgets its ping, or makes another one. -/
def Repings (d : ManagedEvent E) : Prop := Renews d ∨ d.op.2 = .ping .createPing

section Protocol
variable {t : List (ManagedEvent E)} {p : ProtocolPingPong}

theorem not_repings (l : Locals E) (time : Instant) {call : PingCall} (val : call.Res)
    (kept : call ≠ .reset) (other : call ≠ .createPing) :
    ¬ Repings (event l (.ping call) time val) := by
  rintro (renews | creates)
  · cases call with
    | reset => exact kept rfl
    | _ => exact renews
  · exact other (Op.ping.inj creates)

theorem last_ping (l : Locals E) (time : Instant) {call : PingCall} {val : call.Res}
    (last : ∀ sent, p.lastPing = some sent → IssuedSince t sent Repings)
    (answered : val = (p.respond time call).1) (sent : Instant)
    (pinged : (p.respond time call).2.lastPing = some sent) :
    IssuedSince (t ++ [event l (.ping call) time val]) sent Repings := by
  cases call with
  | createPing =>
    subst answered
    cases pinged
    exact issued_now t l time _ Repings
  | handleInbound message =>
    have other := not_repings l time val nofun nofun
    cases message <;> exact (last sent pinged).snoc other
  | reset => cases pinged
  | isStale => exact (last sent pinged).snoc (not_repings l time val nofun nofun)
  | interval => exact (last sent pinged).snoc (not_repings l time val nofun nofun)

theorem protocol_last {first : ProtocolPingPong} (unused : first.lastPing = none)
    (guided : Guided (.protocol first) t) :
    ∃ p, strategyOf (.protocol first) t = .protocol p ∧
      ∀ sent, p.lastPing = some sent → IssuedSince t sent Repings := by
  induction t using List.reverseRecOn with
  | nil => exact ⟨first, rfl, by simp [unused]⟩
  | append_singleton t e ih =>
    obtain ⟨p, state, last⟩ := ih guided.first
    by_cases other : ∀ call, e.op.2 ≠ .ping call
    · refine ⟨p, (strategyOf_other _ other).trans state, fun sent pinged => ?_⟩
      refine (last sent pinged).snoc ?_
      rintro (renews | creates)
      · exact (not_answers_other other).2 renews
      · exact other _ creates
    · obtain ⟨⟨l, op⟩, time, val⟩ := e
      push Not at other
      obtain ⟨call, rfl⟩ := other
      refine ⟨(p.respond time call).2, ?_, last_ping l time last ?_⟩
      · rw [← event, strategyOf_ping, state]
        rfl
      · have answer := Guided.answer guided
        rwa [state] at answer

end Protocol

def issues : ManagedEvent E → Bool
  | ⟨(_, .ping .createPing), ⟨_, some _⟩⟩ => true
  | _ => false

/-- The pings issued on the present connection. -/
def pings (t : List (ManagedEvent E)) : Nat :=
  countSince (fun e => decide (Connects e)) issues t

/-- The round trips measured on the present connection. -/
def trips (t : List (ManagedEvent E)) : Nat :=
  countSince (fun e => decide (Connects e)) (fun e => (measuredBy e).isSome) t

theorem pings_snoc {t : List (ManagedEvent E)} {e : ManagedEvent E} (onward : ¬ Connects e) :
    pings (t ++ [e]) = pings t + (issues e).toNat := by
  rw [pings, countSince_snoc, decide_eq_false onward]
  cases issues e <;> rfl

theorem trips_snoc {t : List (ManagedEvent E)} {e : ManagedEvent E} (onward : ¬ Connects e) :
    trips (t ++ [e]) = trips t + (measuredBy e).isSome.toNat := by
  rw [trips, countSince_snoc, decide_eq_false onward]
  cases measuredBy e <;> rfl

theorem trips_connect {t : List (ManagedEvent E)} {e : ManagedEvent E} (connects : Connects e) :
    trips (t ++ [e]) = 0 := by
  rw [trips, countSince_snoc, decide_eq_true connects]
  rfl

/-- Every measured ping is used up: what was measured and what is pending was issued. -/
structure Spent (t : List (ManagedEvent E)) (p : WsApplicationPingPong) : Prop where
  idle : (renewal E).run false t = false → trips t = 0
  live : (renewal E).run false t = true → trips t + p.pendingPings.entries.length ≤ pings t

theorem length_erase {pending : Pending} {key : String} {sent : Instant}
    (found : pending.lookup key = some sent) :
    (pending.erase key).entries.length + 1 = pending.entries.length := by
  have listed : key ∈ pending := by
    rw [← AList.lookup_isSome, found]
    rfl
  obtain ⟨value, first, second, -, whole, erased⟩ := List.exists_of_kerase listed
  have left : (pending.erase key).entries = first ++ second := erased
  rw [left, whole]
  simp [Nat.add_assoc]

section Application
variable {t : List (ManagedEvent E)} {p : WsApplicationPingPong}

/-- A call of a connection. What it measures leaves the map, and what enters it is issued. -/
theorem Spent.next (spent : Spent t p) {p' : WsApplicationPingPong} {e : ManagedEvent E}
    (onward : ¬ Connects e)
    (same : (renewal E).run false (t ++ [e]) = (renewal E).run false t)
    (early : (renewal E).run false t = false → measuredBy e = none)
    (length : p'.pendingPings.entries.length + (measuredBy e).isSome.toNat ≤
      p.pendingPings.entries.length + (issues e).toNat) : Spent (t ++ [e]) p' := by
  constructor
  · intro idle
    rw [same] at idle
    rw [trips_snoc onward, spent.idle idle, early idle]
    rfl
  · intro live
    rw [same] at live
    have before := spent.live live
    rw [trips_snoc onward, pings_snoc onward]
    omega

theorem Spent.other (spent : Spent t p) {e : ManagedEvent E} (other : ∀ call, e.op.2 ≠ .ping call) :
    Spent (t ++ [e]) p := by
  by_cases connects : Connects e
  · have renewed : (renewal E).run false (t ++ [e]) = false := by
      rw [Monitor.run_append]
      obtain ⟨⟨l, op⟩, time, val⟩ := e
      cases op with
      | connect => rfl
      | _ => exact connects.elim
    constructor
    · exact fun _ => trips_connect connects
    · intro live
      rw [renewed] at live
      cases live
  · have same : (renewal E).run false (t ++ [e]) = (renewal E).run false t ∧
        issues e = false ∧ measuredBy e = none := by
      rw [Monitor.run_append]
      obtain ⟨⟨l, op⟩, time, val⟩ := e
      cases op with
      | connect => exact absurd trivial connects
      | ping call => exact absurd rfl (other call)
      | _ => exact ⟨rfl, rfl, rfl⟩
    obtain ⟨renewed, unissued, unmeasured⟩ := same
    refine spent.next connects renewed (fun _ => unmeasured) ?_
    rw [unissued, unmeasured]
    rfl

theorem length_create (p : WsApplicationPingPong) (ambient : Ambient) (now : Instant) :
    (p.createPing ambient now).2.pendingPings.entries.length ≤
      p.pendingPings.entries.length + (p.createPing ambient now).1.isSome.toNat := by
  have fewer : (cleaned p ambient).entries.length ≤ p.pendingPings.entries.length :=
    List.length_filter_le _ _
  by_cases full : p.maxPending ≤ (cleaned p ambient).entries.length
  · rw [createPing_full full]
    exact fewer
  · rw [createPing_room (not_le.mp full)]
    change ((cleaned p ambient).insert ambient.createMessage.2 now).entries.length ≤ _ + 1
    have shorter := (List.kerase_sublist ambient.createMessage.2
      (cleaned p ambient).entries).length_le
    rw [AList.entries_insert, List.length_cons]
    omega

theorem Spent.ping (spent : Spent t p) (ambient : Ambient) (l : Locals E) (time : Instant)
    {call : PingCall} {val : call.Res} (answered : val = (p.respond ambient time call).1)
    (renewed : ∀ frame, call = .handleInbound frame → (renewal E).run false t = true) :
    Spent (t ++ [event l (.ping call) time val]) (p.respond ambient time call).2 := by
  have onward : ¬ Connects (event l (.ping call) time val) := id
  subst answered
  cases call with
  | createPing =>
    refine spent.next onward (Monitor.run_append _ _ _ _) (fun _ => rfl) ?_
    have issued : issues (event l (.ping .createPing) time (p.createPing ambient time).1 :
        ManagedEvent E) = (p.createPing ambient time).1.isSome := by
      cases (p.createPing ambient time).1 <;> rfl
    change (p.createPing ambient time).2.pendingPings.entries.length + 0 ≤ _ + (issues (event l
      (.ping .createPing) time (p.createPing ambient time).1 : ManagedEvent E)).toNat
    rw [issued]
    exact length_create p ambient time
  | handleInbound message =>
    have live := renewed message rfl
    refine spent.next onward (Monitor.run_append _ _ _ _) (by rw [live]; exact nofun) ?_
    change (p.handleInbound ambient time message).2.pendingPings.entries.length +
      (measuredBy (event l (.ping (.handleInbound message)) time
        (p.handleInbound ambient time message).1)).isSome.toNat ≤ _
    rcases handleInbound_cases p ambient time message with
      ⟨key, sent, -, found, result, erased⟩ | ⟨-, unchanged⟩
    · rw [result, erased]
      exact (length_erase found).le
    · rw [unchanged]
      exact Nat.le_refl _
  | reset =>
    constructor
    · intro idle
      rw [Monitor.run_append] at idle
      cases idle
    · intro _
      rw [trips_snoc onward, pings_snoc onward]
      change trips t + 0 + 0 ≤ pings t + 0
      cases before : (renewal E).run false t with
      | false =>
        rw [spent.idle before]
        exact Nat.zero_le _
      | true => exact Nat.le_of_add_right_le (spent.live before)
  | isStale =>
    exact spent.next onward (Monitor.run_append _ _ _ _) (fun _ => rfl) (Nat.le_refl _)
  | interval =>
    exact spent.next onward (Monitor.run_append _ _ _ _) (fun _ => rfl) (Nat.le_refl _)

theorem application_spent {first : WsApplicationPingPong} {ambient : Nat → Ambient}
    (empty : first.pendingPings = ∅) (guided : Guided (.application first ambient) t)
    (given : ∀ before e rest, t = before ++ e :: rest → ∀ frame,
      e.op.2 = .ping (.handleInbound frame) → (renewal E).run false before = true) :
    ∃ p ambient', strategyOf (.application first ambient) t = .application p ambient' ∧
      Spent t p := by
  induction t using List.reverseRecOn with
  | nil =>
    refine ⟨first, ambient, rfl, fun _ => rfl, ?_⟩
    rw [empty]
    exact fun _ => Nat.le_refl 0
  | append_singleton t e ih =>
    have earlier : ∀ before d rest, t = before ++ d :: rest → ∀ frame,
        d.op.2 = .ping (.handleInbound frame) → (renewal E).run false before = true := by
      intro before d rest cut
      exact given before d (rest ++ [e]) (by rw [cut, List.append_assoc]; rfl)
    obtain ⟨p, ambient', state, spent⟩ := ih guided.first earlier
    by_cases other : ∀ call, e.op.2 ≠ .ping call
    · exact ⟨p, ambient', (strategyOf_other _ other).trans state, spent.other other⟩
    · obtain ⟨⟨l, op⟩, time, val⟩ := e
      push Not at other
      obtain ⟨call, rfl⟩ := other
      refine ⟨(p.respond (ambient' 0) time call).2, fun n => ambient' (n + 1), ?_,
        spent.ping (ambient' 0) l time ?_ ?_⟩
      · rw [← event, strategyOf_ping, state]
        rfl
      · have answer := Guided.answer guided
        rwa [state] at answer
      · rintro frame rfl
        exact given t _ [] rfl frame rfl

end Application

/-- The round trip `rtt` was measured at `time`, after the calls `before`, from a ping of the
present connection. -/
def Timed (before : List (ManagedEvent E)) (time : Instant) (rtt : Duration) : BuiltIn → Prop
  | .protocol _ => ∃ sent, rtt = time - sent ∧
    IssuedSince before sent fun d => Connects d ∨ d.op.2 = .ping .createPing
  | .serverDriven _ => False
  | .application _ _ =>
    (∃ sent, rtt = time - sent ∧ IssuedSince before sent Connects) ∧ trips before < pings before

/-- Whatever is recorded is what the strategy has just measured, and real. -/
def RoundTripsReal (strategy : BuiltIn) (t : List (ManagedEvent E)) : Prop :=
  ∀ before l rtt time rest, t = before ++ event l (.monitor (.recordRtt rtt)) time () :: rest →
    ∃ earlier l' frame seen, before =
        earlier ++ [event l' (.ping (.handleInbound frame)) seen (.pongReceived (some rtt))] ∧
      Timed earlier seen rtt strategy

section Real
variable {url : String} {t : List (ManagedEvent E)} {q : Task E}

theorem timed_at_frame (run : Run (runHealthCheckedManagedWsLoop url) t q) {strategy : BuiltIn}
    (unused : Unused strategy) (guided : Guided strategy t) {earlier rest : List (ManagedEvent E)}
    {l : Locals E} {frame : WsFrame} {seen : Instant} {rtt : Duration}
    (cut : t =
      earlier ++ event l (.ping (.handleInbound frame)) seen (.pongReceived (some rtt)) :: rest) :
    Timed earlier seen rtt strategy := by
  have renewed := renewed_at_call run cut trivial
  have whole := guided
  rw [cut] at whole
  have answer : WsPongResult.pongReceived (some rtt) =
      ((strategyOf strategy earlier).respond seen (.handleInbound frame)).1 := whole.answer
  have before : Guided strategy earlier := (Monitor.along_append _).mp whole |>.1
  cases strategy with
  | serverDriven s =>
    rw [serverDriven_stays] at answer
    cases frame <;> cases answer
  | protocol first =>
    obtain ⟨p, state, last⟩ := protocol_last unused before
    rw [state] at answer
    cases frame with
    | pong payload =>
      have measured : some rtt = p.lastPing.map fun sent => seen - sent :=
        WsPongResult.pongReceived.inj answer
      obtain ⟨sent, pinged, same⟩ := Option.map_eq_some_iff.mp measured.symm
      obtain ⟨start, l', ping, since, rfl, none⟩ := last sent pinged
      rw [List.append_cons] at renewed
      have connects := not_connects_since renewed fun d mem renews => none d mem (Or.inl renews)
      refine ⟨sent, same.symm, start, l', ping, since, rfl, ?_⟩
      rintro d mem (connected | created)
      · exact connects d mem connected
      · exact none d mem (Or.inr created)
    | _ => cases answer
  | application first ambient =>
    have given : ∀ before e rest, earlier = before ++ e :: rest → ∀ frame,
        e.op.2 = .ping (.handleInbound frame) → (renewal E).run false before = true := by
      intro before e after split other handed
      have parts : t = before ++ e :: (after ++ event l (.ping (.handleInbound frame)) seen
          (.pongReceived (some rtt)) :: rest) := by
        rw [cut, split, List.append_assoc]
        rfl
      refine renewed_at_call run parts ?_
      rw [handed]
      trivial
    obtain ⟨p, ambient', state, spent⟩ := application_spent unused.1 before given
    obtain ⟨p', ambient'', state', known⟩ := application_known unused.1 unused.2 before
    obtain ⟨rfl, -⟩ := BuiltIn.application.inj (state.symm.trans state')
    rw [state] at answer
    change _ = (p.handleInbound (ambient' 0) seen frame).1 at answer
    rcases handleInbound_cases p (ambient' 0) seen frame with
      ⟨key, sent, -, found, result, -⟩ | ⟨-, unchanged⟩
    · rw [result] at answer
      cases answer
      refine ⟨⟨sent, rfl, ?_⟩, ?_⟩
      · obtain ⟨start, l', ping, since, rfl, none⟩ := known.pending sent ⟨key, found⟩
        rw [List.append_cons] at renewed
        exact ⟨start, l', ping, since, rfl, not_connects_since renewed none⟩
      · have left := length_erase found
        have live := spent.live renewed
        omega
    · rw [unchanged] at answer
      cases answer

theorem round_trips_real (run : Run (runHealthCheckedManagedWsLoop url) t q) {strategy : BuiltIn}
    (unused : Unused strategy) (guided : Guided strategy t) : RoundTripsReal strategy t := by
  intro before l rtt time rest cut
  obtain ⟨earlier, l', frame, seen, rfl⟩ := measured_before run cut
  have whole : t = earlier ++ event l' (.ping (.handleInbound frame)) seen
      (.pongReceived (some rtt)) :: event l (.monitor (.recordRtt rtt)) time () :: rest := by
    rw [cut, List.append_assoc]
    rfl
  exact ⟨earlier, l', frame, seen, rfl, timed_at_frame run unused guided whole⟩

end Real

/-- The peer answers the first ping with the next frame. -/
def promptPeer : Nat → (op : Op bareEndpoint) → op.Ans
  | 16, .selectWithPing => none
  | _, .selectWithPing => some (.frame (some (.ok (.pong ByteArray.empty))))
  | _, .ping .createPing => some (.ping ByteArray.empty)
  | _, .ping (.handleInbound _) => .pongReceived (some (9 : Nat))
  | _, op => bareAnswer op

def promptRun : List (ManagedEvent bareEndpoint) × Task bareEndpoint :=
  trial ReconnectAccounting.bareLoop promptPeer 30

theorem prompt_guided : Guided (.protocol (.new 1 5)) promptRun.1 := by
  repeat' apply And.intro
  all_goals trivial

theorem prompt_peer_timed :
    promptRun.1.getLast? = some (event ⟨false, true, []⟩ (.monitor (.recordRtt (9 : Nat))) 29 ()) ∧
      RoundTripsReal (.protocol (.new 1 5)) promptRun.1 := by
  have unused : Unused (.protocol (.new 1 5)) := rfl
  exact ⟨rfl, round_trips_real (trial_run ReconnectAccounting.bareLoop promptPeer 30) unused
    prompt_guided⟩

end RoundTrips
