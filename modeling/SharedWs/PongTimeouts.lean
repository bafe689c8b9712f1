import SharedWs.ApplicationPings
import SharedWs.ControlFrames
import SharedWs.DeadPeer
import SharedWs.StaleWatch

/-!
# Pong timeouts are deserved

`run_health_checked_managed_ws_loop` gives a connection up as `PongTimeout` when its strategy says
that it is stale. With `ProtocolPingPong` this means that the last ping of this very connection is
older than the timeout and no `Pong` was read since; with `WsApplicationPingPong` that some ping of
the connection is older than the timeout; with `ServerDrivenProtocolPingPong` it never happens.
What ties the strategy to the connection is that the loop resets it after every `connect`, and
hands it every frame that it reads before it asks again.
-/
namespace PongTimeouts

open InteractionPrograms InteractionMonitors InteractionMonitors.Monitor
open WsFrames WsTypes ManagedOps ManagedLoop HealthCheckedLoop HookedLoop LoopOutline ManagedBlocks
open ProtocolPing PingStrategies ApplicationPings HealthOutline DisconnectCauses StaleWatch
open ControlFrames (Routing Stage)

variable {E : Endpoint}

section Strategy
variable {t : List (ManagedEvent E)} {e : ManagedEvent E}

/-- The strategy after the calls of `t`. -/
abbrev strategyOf (strategy : BuiltIn) (t : List (ManagedEvent E)) : BuiltIn :=
  (ControlFrames.routing.run (.start strategy) t).strategy

/-- The strategy gave the answers of the trace. -/
abbrev Guided (strategy : BuiltIn) (t : List (ManagedEvent E)) : Prop :=
  ControlFrames.routing.Along ControlFrames.routing.rely (.start strategy) t

theorem strategyOf_ping (strategy : BuiltIn) (l : Locals E) (call : PingCall) (time : Instant)
    (val : call.Res) : strategyOf strategy (t ++ [event l (.ping call) time val]) =
      ((strategyOf strategy t).respond time call).2 := by
  rw [strategyOf, Monitor.run_append]
  rfl

theorem strategyOf_other (strategy : BuiltIn) (other : ∀ call, e.op.2 ≠ .ping call) :
    strategyOf strategy (t ++ [e]) = strategyOf strategy t := by
  rw [strategyOf, Monitor.run_append]
  change (Routing.after _ e).strategy = _
  unfold Routing.after
  split
  · rfl
  · exact absurd rfl (other _)
  · rfl
  · rfl
  · rfl

theorem Guided.first {strategy : BuiltIn} (guided : Guided strategy (t ++ [e])) :
    Guided strategy t :=
  (ControlFrames.routing.along_append.mp guided).1

theorem Guided.answer {strategy : BuiltIn} {before rest : List (ManagedEvent E)} {l : Locals E}
    {call : PingCall} {time : Instant} {val : call.Res}
    (guided : Guided strategy (before ++ event l (.ping call) time val :: rest)) :
    val = ((strategyOf strategy before).respond time call).1 :=
  (ControlFrames.routing.along_append.mp guided).2.1

end Strategy

/-- A ping was issued at `sent`, and no call since then is one of those. -/
def IssuedSince (t : List (ManagedEvent E)) (sent : Instant) (those : ManagedEvent E → Prop) :
    Prop :=
  ∃ before l frame since, t = before ++ event l (.ping .createPing) sent (some frame) :: since ∧
    ∀ d ∈ since, ¬ those d

theorem IssuedSince.snoc {t : List (ManagedEvent E)} {sent : Instant}
    {those : ManagedEvent E → Prop} (issued : IssuedSince t sent those) {e : ManagedEvent E}
    (other : ¬ those e) : IssuedSince (t ++ [e]) sent those := by
  obtain ⟨before, l, frame, since, rfl, none⟩ := issued
  refine ⟨before, l, frame, since ++ [e], by simp, ?_⟩
  intro d mem
  rcases List.mem_append.mp mem with mem | mem
  · exact none d mem
  · rwa [List.mem_singleton.mp mem]

theorem issued_now (t : List (ManagedEvent E)) (l : Locals E) (time : Instant) (frame : WsFrame)
    (those : ManagedEvent E → Prop) :
    IssuedSince (t ++ [event l (.ping .createPing) time (some frame)]) time those :=
  ⟨t, l, frame, [], rfl, by simp⟩

def Renews : ManagedEvent E → Prop
  | ⟨(_, .ping .reset), _⟩ => True
  | _ => False

/-- The strategy is reset, pings again or is given a `Pong`. -/
def Answers : ManagedEvent E → Prop
  | ⟨(_, .ping .reset), _⟩ | ⟨(_, .ping .createPing), _⟩
  | ⟨(_, .ping (.handleInbound (.pong _))), _⟩ => True
  | _ => False

theorem not_answers_other {e : ManagedEvent E} (other : ∀ call, e.op.2 ≠ .ping call) :
    ¬ Answers e ∧ ¬ Renews e := by
  obtain ⟨⟨l, op⟩, ans⟩ := e
  cases op with
  | ping call => exact absurd rfl (other call)
  | _ => exact ⟨id, id⟩

/-- What the strategy remembers of the calls `t`. -/
structure ProtocolKnown (timeout : Duration) (t : List (ManagedEvent E)) (p : ProtocolPingPong) :
    Prop where
  timeout : p.timeout = timeout
  made : ∀ sent, p.lastPing = some sent → ∃ d ∈ t, d.ans.time = sent
  unanswered : ∀ sent, p.lastPing = some sent → (∀ pong, p.lastPong = some pong → pong < sent) →
    IssuedSince t sent Answers

section Protocol
variable {timeout : Duration} {t : List (ManagedEvent E)} {p : ProtocolPingPong}

theorem ProtocolKnown.idle (known : ProtocolKnown timeout t p) {e : ManagedEvent E}
    (other : ¬ Answers e) : ProtocolKnown timeout (t ++ [e]) p := by
  refine ⟨known.timeout, ?_, ?_⟩
  · intro sent last
    obtain ⟨d, mem, same⟩ := known.made sent last
    exact ⟨d, List.mem_append_left _ mem, same⟩
  · exact fun sent last older => (known.unanswered sent last older).snoc other

theorem ProtocolKnown.ping (known : ProtocolKnown timeout t p) (l : Locals E) (time : Instant)
    {call : PingCall} {val : call.Res} (answered : val = (p.respond time call).1)
    (clocked : Clocked (t ++ [event l (.ping call) time val])) :
    ProtocolKnown timeout (t ++ [event l (.ping call) time val]) (p.respond time call).2 := by
  cases call with
  | createPing =>
    subst answered
    refine ⟨known.timeout, ?_, ?_⟩
    · rintro sent ⟨⟩
      exact ⟨_, List.mem_append_right _ List.mem_cons_self, rfl⟩
    · rintro sent ⟨⟩ -
      exact issued_now t l time _ Answers
  | handleInbound message =>
    cases message with
    | pong payload =>
      refine ⟨known.timeout, ?_, ?_⟩
      · intro sent last
        obtain ⟨d, mem, same⟩ := known.made sent last
        exact ⟨d, List.mem_append_left _ mem, same⟩
      · -- the pong is not older than the ping
        intro sent last older
        obtain ⟨d, mem, same⟩ := known.made sent last
        have later : d.ans.time ≤ time := clocked.le mem
        rw [same] at later
        exact absurd (older time rfl) (not_lt_of_ge later)
    | _ => exact known.idle id
  | reset => exact ⟨known.timeout, nofun, nofun⟩
  | isStale => exact known.idle id
  | interval => exact known.idle id

theorem protocol_known {first : ProtocolPingPong} (unused : first.lastPing = none)
    (guided : Guided (.protocol first) t) (clocked : Clocked t) :
    ∃ p, strategyOf (.protocol first) t = .protocol p ∧ ProtocolKnown first.timeout t p := by
  induction t using List.reverseRecOn with
  | nil => exact ⟨first, rfl, rfl, by simp [unused], by simp [unused]⟩
  | append_singleton t e ih =>
    obtain ⟨p, state, known⟩ := ih guided.first clocked.first
    by_cases other : ∀ call, e.op.2 ≠ .ping call
    · refine ⟨p, (strategyOf_other _ other).trans state, known.idle (not_answers_other other).1⟩
    · obtain ⟨⟨l, op⟩, time, val⟩ := e
      push Not at other
      obtain ⟨call, rfl⟩ := other
      refine ⟨(p.respond time call).2, ?_, known.ping l time ?_ clocked⟩
      · rw [← event, strategyOf_ping, state]
        rfl
      · have answer := Guided.answer guided
        rwa [state] at answer

end Protocol

/-- Every time that the strategy holds is that of a ping issued since the last reset. -/
structure ApplicationKnown (timeout : Duration) (t : List (ManagedEvent E))
    (p : WsApplicationPingPong) : Prop where
  timeout : p.timeout = timeout
  pending : ∀ sent ∈ sendTimes p.pendingPings, IssuedSince t sent Renews
  oldest : ∀ sent, p.oldestPending = some sent → IssuedSince t sent Renews

section Application
variable {timeout : Duration} {t : List (ManagedEvent E)} {p : WsApplicationPingPong}

theorem ApplicationKnown.idle (known : ApplicationKnown timeout t p) {e : ManagedEvent E}
    (other : ¬ Renews e) : ApplicationKnown timeout (t ++ [e]) p :=
  ⟨known.timeout, fun sent held => (known.pending sent held).snoc other,
    fun sent cached => (known.oldest sent cached).snoc other⟩

/-- The oldest time of a map is one of its times. -/
theorem ApplicationKnown.refresh {pending : Pending} (issued : ∀ sent ∈ sendTimes pending,
      IssuedSince t sent Renews) {sent : Instant}
    (least : WsApplicationPingPong.oldest pending = some sent) : IssuedSince t sent Renews :=
  issued sent (oldest_eq_some_iff.mp least).1

theorem ApplicationKnown.cleanup (known : ApplicationKnown timeout t p) (now : Instant) :
    ApplicationKnown timeout t (p.cleanupStale now) := by
  have kept : ∀ sent ∈ sendTimes (p.cleanupStale now).pendingPings, IssuedSince t sent Renews := by
    rintro sent ⟨key, found⟩
    exact known.pending sent ⟨key, (lookup_retain.mp found).1⟩
  exact ⟨known.timeout, kept, fun sent least => ApplicationKnown.refresh kept least⟩

theorem ApplicationKnown.create (known : ApplicationKnown timeout t p) (ambient : Ambient)
    (l : Locals E) (time : Instant) :
    ApplicationKnown timeout
      (t ++ [event l (.ping .createPing) time (p.createPing ambient time).1])
      (p.createPing ambient time).2 := by
  have cleaned := known.cleanup ambient.cleanupTime
  by_cases full : p.maxPending ≤ (ApplicationPings.cleaned p ambient).entries.length
  · rw [createPing_full full]
    exact cleaned.idle id
  · rw [createPing_room (not_le.mp full)]
    have now := issued_now t l time (intoWsFrame ambient.createMessage.1) Renews
    have before := cleaned.idle
      (e := event l (.ping .createPing) time (some (intoWsFrame ambient.createMessage.1))) id
    refine ⟨known.timeout, ?_, ?_⟩
    · intro sent held
      rcases mem_sendTimes_insert.mp held with rfl | ⟨key, -, found⟩
      · exact now
      · exact before.pending sent ⟨key, found⟩
    · intro sent cached
      change some (((p.cleanupStale ambient.cleanupTime).oldestPending.map
        fun old => min old time).getD time) = some sent at cached
      cases old : (p.cleanupStale ambient.cleanupTime).oldestPending with
      | none =>
        rw [old] at cached
        obtain rfl : time = sent := Option.some.inj cached
        exact now
      | some first =>
        rw [old] at cached
        have least : min first time = sent := Option.some.inj cached
        rcases min_choice first time with early | late
        · rw [early] at least
          exact least ▸ before.oldest first old
        · rw [late] at least
          exact least ▸ now

theorem ApplicationKnown.process (known : ApplicationKnown timeout t p) (ambient : Ambient)
    (now : Instant) (payload : Bytes) :
    ApplicationKnown timeout t (p.processApplication ambient now payload).2 := by
  unfold WsApplicationPingPong.processApplication
  split
  · exact known
  · split
    · exact known
    · rename_i key _ _ sentAt _
      have kept : ∀ sent ∈ sendTimes (p.pendingPings.erase key), IssuedSince t sent Renews := by
        intro sent held
        obtain ⟨other, -, found⟩ := mem_sendTimes_erase.mp held
        exact known.pending sent ⟨other, found⟩
      refine ⟨known.timeout, kept, ?_⟩
      intro sent cached
      dsimp only at cached
      by_cases first : p.oldestPending = some sentAt
      · rw [if_pos first] at cached
        exact ApplicationKnown.refresh kept cached
      · rw [if_neg first] at cached
        exact known.oldest sent cached

theorem ApplicationKnown.inbound (known : ApplicationKnown timeout t p) (ambient : Ambient)
    (now : Instant) (message : WsFrame) :
    ApplicationKnown timeout t (p.handleInbound ambient now message).2 := by
  cases message with
  | text text => exact known.process ambient now text.bytes
  | binary bytes => exact known.process ambient now bytes
  | _ => exact known

theorem ApplicationKnown.ping (known : ApplicationKnown timeout t p) (ambient : Ambient)
    (l : Locals E) (time : Instant) {call : PingCall} {val : call.Res}
    (answered : val = (p.respond ambient time call).1) :
    ApplicationKnown timeout (t ++ [event l (.ping call) time val])
      (p.respond ambient time call).2 := by
  cases call with
  | createPing =>
    subst answered
    exact known.create ambient l time
  | handleInbound message => exact (known.inbound ambient time message).idle id
  | isStale => exact known.idle id
  | interval => exact known.idle id
  | reset =>
    refine ⟨known.timeout, ?_, nofun⟩
    rintro sent ⟨key, found⟩
    exact nomatch found

theorem application_known {first : WsApplicationPingPong} {ambient : Nat → Ambient}
    (empty : first.pendingPings = ∅) (unused : first.oldestPending = none)
    (guided : Guided (.application first ambient) t) :
    ∃ p ambient', strategyOf (.application first ambient) t = .application p ambient' ∧
      ApplicationKnown first.timeout t p := by
  induction t using List.reverseRecOn with
  | nil =>
    refine ⟨first, ambient, rfl, rfl, ?_, by simp [unused]⟩
    rintro sent ⟨key, found⟩
    rw [empty] at found
    exact nomatch found
  | append_singleton t e ih =>
    obtain ⟨p, ambient', state, known⟩ := ih guided.first
    by_cases other : ∀ call, e.op.2 ≠ .ping call
    · exact ⟨p, ambient', (strategyOf_other _ other).trans state,
        known.idle (not_answers_other other).2⟩
    · obtain ⟨⟨l, op⟩, time, val⟩ := e
      push Not at other
      obtain ⟨call, rfl⟩ := other
      refine ⟨(p.respond (ambient' 0) time call).2, fun n => ambient' (n + 1), ?_,
        known.ping (ambient' 0) l time ?_⟩
      · rw [← event, strategyOf_ping, state]
        rfl
      · have answer := Guided.answer guided
        rwa [state] at answer

end Application

def renewedAfter (renewed : Bool) : ManagedEvent E → Bool
  | ⟨(_, .connect _ _), _⟩ => false
  | ⟨(_, .ping .reset), _⟩ => true
  | _ => renewed

/-- A question that the strategy answers for the connection, or a frame of it. -/
def Consults : Op E → Prop
  | .ping .isStale | .ping (.handleInbound _) => True
  | _ => False

/-- The summary says whether the strategy was reset since the last `connect`. -/
def renewal (E : Endpoint) : ManagedMonitor E Bool where
  step := renewedAfter
  rely := fun _ _ => True
  safe := fun renewed e => Consults e.op.2 → renewed = true

def Renewed (renewed : Bool) : Prop := renewed = true

theorem renewal_outside : Keeps (renewal E) Outside fun _ _ => True := by
  intro l m op time val outside _ _
  refine ⟨fun consults => ?_, trivial⟩
  cases op with
  | ping call => cases call <;> trivial
  | _ => exact consults.elim

/-- Only `connect` makes the strategy one of an earlier connection. -/
theorem renewal_kept : Keeps (renewal E) (fun op => ∀ url buffers, op ≠ .connect url buffers)
    fun _ => Renewed := by
  rintro l _ op time val same rfl -
  refine ⟨fun _ => rfl, ?_⟩
  cases op with
  | connect url buffers => exact absurd rfl (same url buffers)
  | ping call => cases call <;> rfl
  | _ => rfl

theorem renewal_onward : Keeps (renewal E) Onward fun _ => Renewed := by
  refine renewal_kept.mono fun op onward => ?_
  rintro _ _ rfl
  exact onward

theorem renewal_books (url : String) : Books (renewal E) url (held Renewed) := by
  refine onward_books renewal_outside (fun _ _ _ _ => rfl) renewal_onward
    (select_held renewal_outside (renewal_kept.mono ?_))
  rintro op listens _ _ rfl
  exact listens

section Runs
variable {url : String} {t : List (ManagedEvent E)} {q : Task E}

theorem renewed_at_call (run : Run (runHealthCheckedManagedWsLoop url) t q)
    {before rest : List (ManagedEvent E)} {e : ManagedEvent E} (cut : t = before ++ e :: rest)
    (consults : Consults e.op.2) : (renewal E).run false before = true := by
  have relied : (renewal E).Along (renewal E).rely false t :=
    ((renewal E).along_iff).mpr fun _ _ _ _ => trivial
  have safe := (renewal_books url).run trivial run relied
  exact ((renewal E).along_iff).mp safe before e rest cut consults

/-- Where the strategy has been reset since the last `connect`, but not in `since`, there was no
`connect` in `since`. -/
theorem not_connects_since {before since : List (ManagedEvent E)} {m : Bool}
    (renewed : (renewal E).run m (before ++ since) = true) (none : ∀ d ∈ since, ¬ Renews d) :
    ∀ d ∈ since, ¬ Connects d := by
  induction since using List.reverseRecOn with
  | nil => simp
  | append_singleton since e ih =>
    rw [← List.append_assoc, Monitor.run_append] at renewed
    change renewedAfter ((renewal E).run m (before ++ since)) e = true at renewed
    have last : ¬ Connects e ∧ (renewal E).run m (before ++ since) = true := by
      have other := none e (by simp)
      obtain ⟨⟨l, op⟩, time, val⟩ := e
      cases op with
      | connect => cases renewed
      | ping call =>
        cases call with
        | reset => exact absurd trivial other
        | _ => exact ⟨id, renewed⟩
      | _ => exact ⟨id, renewed⟩
    intro d mem
    rcases List.mem_append.mp mem with mem | mem
    · exact ih last.2 (fun d mem => none d (by simp [mem])) d mem
    · rw [List.mem_singleton.mp mem]
      exact last.1

/-- While a frame is on its way to the strategy, nothing else is asked of it. -/
theorem handed_before_check {m : Routing} {frame : WsFrame} (arrived : m.stage = .arrived frame)
    {since : List (ManagedEvent E)} {l : Locals E} {time : Instant} {stale : Bool}
    (safe : ControlFrames.routing.Along ControlFrames.routing.safe m
      (since ++ [event l (.ping .isStale) time stale])) :
    ∃ d ∈ since, d.op.2 = .ping (.handleInbound frame) := by
  induction since generalizing m with
  | nil =>
    obtain ⟨⟨fits, -⟩, -⟩ := safe
    rw [arrived] at fits
    rcases fits with other | other | other <;> cases other
  | cons e since ih =>
    obtain ⟨⟨fits, -⟩, rest⟩ := safe
    rw [arrived] at fits
    by_cases handed : e.op.2 = .ping (.handleInbound frame)
    · exact ⟨e, List.mem_cons_self, handed⟩
    · have still : (m.after e).stage = .arrived frame := by
        obtain ⟨⟨l, op⟩, time, val⟩ := e
        rcases fits with rfl | rfl | same
        · exact arrived
        · exact arrived
        · exact absurd same handed
      obtain ⟨d, mem, same⟩ := ih still rest
      exact ⟨d, List.mem_cons_of_mem e mem, same⟩

theorem pong_of_reads {d : ManagedEvent E} (reads : DeadPeer.ReadsPong d) :
    ∃ l time payload,
      d = event l .selectWithPing time (some (.frame (some (.ok (.pong payload))))) := by
  unfold DeadPeer.ReadsPong at reads
  split at reads
  · exact ⟨_, _, _, rfl⟩
  · exact reads.elim

theorem answers_of_handed {d : ManagedEvent E} {payload : Bytes}
    (handed : d.op.2 = .ping (.handleInbound (.pong payload))) : Answers d := by
  obtain ⟨⟨l, op⟩, time, val⟩ := d
  obtain rfl : op = .ping (.handleInbound (.pong payload)) := handed
  trivial

theorem answers_of_renews {d : ManagedEvent E} (renews : Renews d) : Answers d := by
  unfold Renews at renews
  split at renews
  · trivial
  · exact renews.elim

theorem answers_of_create {d : ManagedEvent E} (create : d.op.2 = .ping .createPing) :
    Answers d := by
  obtain ⟨⟨l, op⟩, time, val⟩ := d
  obtain rfl : op = .ping .createPing := create
  trivial

/-- A `Pong` that was read since is a call of the strategy since. -/
theorem not_read_since (run : Run (runHealthCheckedManagedWsLoop url) t q) {strategy : BuiltIn}
    (guided : Guided strategy t) {before since rest : List (ManagedEvent E)} {l : Locals E}
    {time : Instant} {stale : Bool}
    (cut : t = before ++ since ++ event l (.ping .isStale) time stale :: rest)
    (none : ∀ d ∈ since, ¬ Answers d) : ∀ d ∈ since, ¬ DeadPeer.ReadsPong d := by
  intro d mem reads
  obtain ⟨early, late, rfl⟩ := List.append_of_mem mem
  have start : ControlFrames.At (E := E) .idle Locals.initial (.start strategy) := rfl
  have loop : (managedLoop url .healthChecked : Head → Managed E Flow) =
      hookedLoop healthHooks url := managedLoop_eq url .healthChecked
  change Run (managedLoop url .healthChecked) t q at run
  rw [loop] at run
  have safe := ((ControlFrames.route_outline url).run start run guided).1
  have parts : t = (before ++ early ++ [d]) ++
      ((late ++ [event l (.ping .isStale) time stale]) ++ rest) := by
    rw [cut]
    simp
  rw [parts] at safe
  have after := (Monitor.along_append _).mp (((Monitor.along_append _).mp safe).2)
  obtain ⟨l', time', payload, rfl⟩ := pong_of_reads reads
  have arrived : (ControlFrames.routing.run (.start strategy) (before ++ early ++
      [event l' .selectWithPing time' (some (.frame (some (.ok (.pong payload)))))])).stage =
      .arrived (.pong payload) := by
    rw [Monitor.run_append]
    rfl
  obtain ⟨d, later, handed⟩ := handed_before_check arrived after.1
  exact none d (by simp [later]) (answers_of_handed handed)

/-- The strategies as they are made. -/
def Unused : BuiltIn → Prop
  | .protocol p => p.lastPing = none
  | .serverDriven _ => True
  | .application p _ => p.pendingPings = ∅ ∧ p.oldestPending = none

/-- A new connection, a `Pong` from the peer or a new ping. -/
def Relieves (d : ManagedEvent E) : Prop :=
  Connects d ∨ DeadPeer.ReadsPong d ∨ d.op.2 = .ping .createPing

/-- After the calls `before`, at `time`, the peer of the connection has not answered in time. -/
def Overdue (before : List (ManagedEvent E)) (time : Instant) : BuiltIn → Prop
  | .protocol p => ∃ sent, IssuedSince before sent Relieves ∧ sent + p.timeout < time
  | .serverDriven _ => False
  | .application p _ => ∃ sent, IssuedSince before sent Connects ∧ sent + p.timeout < time

theorem never_invalid (strategy : BuiltIn) (now : Instant) (frame : WsFrame) :
    (strategy.respond now (.handleInbound frame)).1 ≠ .invalidPong := by
  cases strategy with
  | protocol p => cases frame <;> exact nofun
  | serverDriven s => cases frame <;> exact nofun
  | application p ambient =>
    have processed : ∀ payload,
        (p.processApplication (ambient 0) now payload).1 ≠ .invalidPong := by
      intro payload
      unfold WsApplicationPingPong.processApplication
      split
      · exact nofun
      · split <;> exact nofun
    cases frame with
    | text text => exact processed text.bytes
    | binary bytes => exact processed bytes
    | _ => exact nofun

theorem serverDriven_stays (s : ServerDrivenProtocolPingPong) (t : List (ManagedEvent E)) :
    strategyOf (.serverDriven s) t = .serverDriven s := by
  induction t using List.reverseRecOn with
  | nil => rfl
  | append_singleton t e ih =>
    by_cases other : ∀ call, e.op.2 ≠ .ping call
    · exact (strategyOf_other _ other).trans ih
    · obtain ⟨⟨l, op⟩, time, val⟩ := e
      push Not at other
      obtain ⟨call, rfl⟩ := other
      rw [← event, strategyOf_ping, ih]
      cases call <;> rfl

theorem pongReason {place : Place} {e : ManagedEvent E}
    (reason : reasonOf place e = some .pongTimeout) :
    (∃ l time, e = event l (.ping .isStale) time true) ∨
      ∃ l frame time, e = event l (.ping (.handleInbound frame)) time .invalidPong := by
  have arms : ∀ arm : Option (Arm E), armReason arm ≠ some .pongTimeout := by
    intro arm
    unfold armReason
    split <;> exact nofun
  unfold reasonOf at reason
  split at reason
  case h_8 => exact Or.inl ⟨_, _, rfl⟩
  case h_9 => exact Or.inr ⟨_, _, _, rfl⟩
  case h_11 => exact absurd reason (arms _)
  case h_12 => exact absurd reason (arms _)
  case h_5 => split at reason <;> exact nomatch reason
  all_goals exact nomatch reason

/-- Where the strategy finds the connection stale, it is overdue. -/
theorem overdue_at_check (run : Run (runHealthCheckedManagedWsLoop url) t q) (clocked : Clocked t)
    {strategy : BuiltIn} (unused : Unused strategy) (guided : Guided strategy t)
    {before rest : List (ManagedEvent E)} {l : Locals E} {time : Instant}
    (cut : t = before ++ event l (.ping .isStale) time true :: rest) :
    Overdue before time strategy := by
  have renewed := renewed_at_call run cut trivial
  have whole := guided
  rw [cut] at whole clocked
  have answer : true = ((strategyOf strategy before).respond time .isStale).1 := whole.answer
  have earlier : Guided strategy before := (Monitor.along_append _).mp whole |>.1
  cases strategy with
  | serverDriven s =>
    rw [serverDriven_stays] at answer
    cases answer
  | protocol first =>
    obtain ⟨p, state, known⟩ := protocol_known unused earlier clocked.first
    rw [state] at answer
    obtain ⟨sent, last, late, older⟩ := (p.isStale_iff time).mp answer.symm
    obtain ⟨start, l', frame, since, rfl, none⟩ := known.unanswered sent last older
    have parts : t = (start ++ [event l' (.ping .createPing) sent (some frame)]) ++ since ++
        event l (.ping .isStale) time true :: rest := by
      rw [cut]
      simp
    rw [List.append_cons] at renewed
    have connects := not_connects_since renewed fun d mem renews =>
      none d mem (answers_of_renews renews)
    have reads := not_read_since run guided parts none
    refine ⟨sent, ⟨start, l', frame, since, rfl, ?_⟩, ?_⟩
    · rintro d mem (connected | read | created)
      · exact connects d mem connected
      · exact reads d mem read
      · exact none d mem (answers_of_create created)
    · rw [known.timeout] at late
      exact Nat.add_lt_of_lt_sub' late
  | application first ambient =>
    obtain ⟨p, ambient', state, known⟩ := application_known unused.1 unused.2 earlier
    rw [state] at answer
    have stale : p.isStale time = true := answer.symm
    rw [WsApplicationPingPong.isStale] at stale
    cases cached : p.oldestPending with
    | none =>
      rw [cached] at stale
      cases stale
    | some sent =>
      rw [cached] at stale
      have late : p.timeout < time - sent := of_decide_eq_true stale
      obtain ⟨start, l', frame, since, rfl, none⟩ := known.oldest sent cached
      rw [List.append_cons] at renewed
      refine ⟨sent, ⟨start, l', frame, since, rfl, not_connects_since renewed none⟩, ?_⟩
      rw [known.timeout] at late
      exact Nat.add_lt_of_lt_sub' late

/-- What is overdue stays so. -/
theorem Overdue.later {before rest : List (ManagedEvent E)} {time now : Instant}
    {strategy : BuiltIn} (overdue : Overdue before time strategy) (le : time ≤ now)
    (unrelieved : ∀ d ∈ rest, ¬ Relieves d) : Overdue (before ++ rest) now strategy := by
  have extend : ∀ {sent : Instant} {those : ManagedEvent E → Prop},
      (∀ d, those d → Relieves d) → IssuedSince before sent those →
        IssuedSince (before ++ rest) sent those := by
    rintro sent those relieves ⟨start, l, frame, since, rfl, none⟩
    refine ⟨start, l, frame, since ++ rest, by simp, ?_⟩
    intro d mem held
    rcases List.mem_append.mp mem with mem | mem
    · exact none d mem held
    · exact unrelieved d mem (relieves d held)
  cases strategy with
  | serverDriven s => exact overdue
  | protocol p =>
    obtain ⟨sent, issued, late⟩ := overdue
    exact ⟨sent, extend (fun _ => id) issued, Nat.lt_of_lt_of_le late le⟩
  | application p ambient =>
    obtain ⟨sent, issued, late⟩ := overdue
    exact ⟨sent, extend (fun _ => Or.inl) issued, Nat.lt_of_lt_of_le late le⟩

theorem not_relieves_of_unused {d : ManagedEvent E}
    (unused : ¬ Connects d ∧ ¬ UsesConnection d.op.2) : ¬ Relieves d := by
  rintro (connects | reads | creates)
  · exact unused.1 connects
  · obtain ⟨l, time, payload, rfl⟩ := pong_of_reads reads
    exact unused.2 trivial
  · rw [creates] at unused
    exact unused.2 trivial

theorem not_relieves_check (l : Locals E) (time : Instant) (stale : Bool) :
    ¬ Relieves (event l (.ping .isStale) time stale) := by
  rintro (connects | reads | creates)
  · exact connects
  · exact reads
  · cases creates

/-- A connection is given up as `PongTimeout` only if its peer is overdue, whichever of the
built-in strategies is used. -/
theorem pong_timeout_deserved (run : Run (runHealthCheckedManagedWsLoop url) t q)
    (clocked : Clocked t) {strategy : BuiltIn} (unused : Unused strategy)
    (guided : Guided strategy t) {before rest : List (ManagedEvent E)} {l : Locals E}
    {time : Instant} {action : WsDisconnectAction}
    (cut : t =
      before ++ event l (.handler (.classifyDisconnect .pongTimeout)) time action :: rest) :
    Overdue before time strategy := by
  have permitted := permitted_run .healthChecked run
  have permits : ∀ first e second, before = first ++ e :: second →
      Permitted (blameOf first) e.op.2 := by
    intro first e second split
    exact permitted first e (second ++ event l (.handler (.classifyDisconnect .pongTimeout)) time
      action :: rest) (by rw [cut, split]; simp)
  obtain ⟨first, e, second, place, split, reason, idle⟩ :=
    reason_of_blame permits (permitted _ _ _ cut)
  have whole : t = first ++ e ::
      (second ++ event l (.handler (.classifyDisconnect .pongTimeout)) time action :: rest) := by
    rw [cut, split]
    simp
  rcases pongReason reason with ⟨l', checked, rfl⟩ | ⟨l', frame, handed, rfl⟩
  · have overdue := overdue_at_check run clocked unused guided whole
    rw [cut] at clocked
    have le : checked ≤ time := clocked.le (show event l' (.ping .isStale) checked true ∈ before by
      simp [split])
    rw [split]
    refine overdue.later le ?_
    intro d mem
    rcases List.mem_cons.mp mem with rfl | mem
    · exact not_relieves_check l' checked true
    · exact not_relieves_of_unused (idle d mem)
  · rw [whole] at guided
    exact absurd guided.answer.symm (never_invalid _ _ _)

end Runs

/-- The timer fires at once, and the peer is mute. -/
def mutePeer : Nat → (op : Op bareEndpoint) → op.Ans
  | _, .selectWithPing => none
  | _, .ping .createPing => some (.ping ByteArray.empty)
  | i, .ping .isStale => decide (20 < i)
  | _, op => bareAnswer op

def muteRun : List (ManagedEvent bareEndpoint) × Task bareEndpoint :=
  trial ReconnectAccounting.bareLoop mutePeer 30

theorem mute_guided : Guided (.protocol (.new 1 5)) muteRun.1 := by
  repeat' apply And.intro
  all_goals trivial

theorem mute_clocked : Clocked muteRun.1 := by
  unfold Clocked
  decide

theorem mute_peer_overdue :
    Overdue (muteRun.1.take 29) 29 (.protocol (.new 1 5)) := by
  have cut : muteRun.1 = muteRun.1.take 29 ++ event ⟨false, true, []⟩
      (.handler (.classifyDisconnect .pongTimeout)) 29 .backoffReconnect :: [] := rfl
  have unused : Unused (.protocol (.new 1 5)) := rfl
  exact pong_timeout_deserved (trial_run ReconnectAccounting.bareLoop mutePeer 30) mute_clocked
    unused mute_guided cut

end PongTimeouts
