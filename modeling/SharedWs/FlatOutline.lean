import SharedWs.ManagedBlocks

/-!
# Flat outlines

Many monitors of the managed loops look only at the attempts to connect, at the reset of the
strategy that follows a successful one, and at calls that their summary allows at any time. Their
outline has three assertions: one up to the answer of `connect`, one from there to the greeting of
a connection, and one for all the rest. What is left to show is how a single call of each kind
moves between them.
-/
namespace FlatOutline

open InteractionPrograms InteractionMonitors WsFrames WsTypes ManagedOps
open ManagedLoop HookedLoop LoopOutline ManagedBlocks

variable {E : Endpoint} {M : Type}

/-- Calls that neither open a connection nor reset the strategy. -/
def Onward : Op E → Prop
  | .connect _ _ | .reconnect .reset => False
  | _ => True

/-- What leads up to an attempt. -/
def Preparing : Op E → Prop
  | .storeStatus _ => True
  | op => HealthOp op

theorem onward_of_speaks (op : Op E) (speaks : Speaks op) : Onward op := by
  cases op <;> trivial

theorem onward_of_closes (op : Op E) (closes : Closes op) : Onward op := by
  cases op with
  | reconnect call => cases call <;> trivial
  | _ => trivial

theorem onward_of_pulses (op : Op E) (pulses : Pulses op) : Onward op := by
  cases op <;> trivial

theorem onward_of_selects (op : Op E) (selects : Selects op) : Onward op := by
  cases op <;> trivial

theorem onward_of_waits (op : Op E) (waits : Waits op) : Onward op := by
  cases op <;> trivial

theorem onward_of_health (op : Op E) (health : HealthOp op) : Onward op := by
  cases op <;> trivial

theorem onward_of_preparing (op : Op E) (preparing : Preparing op) : Onward op := by
  cases op <;> trivial

theorem preparing_of_health (op : Op E) (health : HealthOp op) : Preparing op := by
  cases op <;> trivial

def flatJunctions (first opened later : M → Prop) : Junctions E M where
  top := fun _ => first
  dialing := fun _ => first
  refused := fun _ _ => later
  opened := fun _ => opened
  fresh := fun _ => opened
  greeted := fun _ => later
  ready := fun _ => later
  replaying := fun _ => later
  broken := fun _ _ => later
  session := fun _ => later
  ticked := fun _ => later
  holding := fun _ _ => later
  reading := fun _ _ => later
  passed := fun _ _ => later
  parsed := fun _ _ => later
  judging := fun _ _ _ _ => later
  flushing := fun _ => later
  stopping := fun _ => later
  leaving := fun _ _ => later
  closing := fun _ _ => later
  down := fun _ _ => later
  done := fun _ => later

/-- What a monitor has to keep. -/
structure Flat (mon : ManagedMonitor E M) (url : String) (first opened later : M → Prop) :
    Prop where
  prepare : Keeps mon Preparing fun _ => first
  attempt : ∀ l m time result, first m → mon.rely m (event l (.connect url .default) time result) →
    mon.safe m (event l (.connect url .default) time result) ∧
      orElse (fun _ => opened) (fun _ _ => later) "connect" result l
        (mon.step m (event l (.connect url .default) time result))
  report : Keeps mon HealthOp fun _ => opened
  greet : ∀ l m, opened m → mon.ensures (fun _ _ => later) greeting l m
  onward : Keeps mon Onward fun _ => later
  again : ∀ m, later m → first m

theorem orElse_flat {later : M → Prop} {context : String} (result : Except WebSocketError Unit)
    (l : Locals E) (m : M) (holds : later m) :
    orElse (fun _ => later) (fun _ _ => later) context result l m :=
  orElse_of holds (fun _ => holds) context result

namespace Flat
variable {mon : ManagedMonitor E M} {url : String} {first opened later : M → Prop}
variable (flat : Flat mon url first opened later)
include flat

theorem hooks (kind : LoopKind) :
    HookOutline mon (hooksOf kind) (flatJunctions first opened later) := by
  have calm : Keeps mon HealthOp fun _ => later := flat.onward.mono onward_of_health
  have early : Keeps mon HealthOp fun _ => first := flat.prepare.mono preparing_of_health
  have all : Steady mon (flatJunctions first opened later) :=
    ⟨fun _ _ => id, early, fun _ => calm, flat.report, fun _ => calm, calm, fun _ => calm,
      fun _ _ _ => calm, fun _ => calm, fun _ => calm, early⟩
  exact all.hooks (hooksOf_silent kind)

section Blocks
variable {l : Locals E} {m : M}

/-- A block of other calls, whatever its result stands for. -/
theorem across {allowed : Op E → Prop} {α : Type} {x : Managed E α}
    (quiet : Proc.Quiet allowed x) (onward : ∀ op, allowed op → Onward op)
    {post : α → Locals E → M → Prop} (enough : ∀ a l m, later m → post a l m) (holds : later m) :
    mon.ensures post x l m :=
  (flat.onward.mono onward).into quiet enough holds

theorem one (op : Op E) (onward : Onward op) {post : op.Ans → Locals E → M → Prop}
    (enough : ∀ a l m, later m → post a l m) (holds : later m) :
    mon.ensures post (ask op) l m :=
  flat.onward.into (quiet_ask onward) enough holds

end Blocks

theorem outline (kind : LoopKind) :
    Outline mon (hooksOf kind) url (flatJunctions first opened later) where
  hooks := flat.hooks kind
  start := by
    intro l m holds
    have quiet : Proc.Quiet Preparing (storeStatus .connecting : Managed E Unit) :=
      quiet_ask trivial
    exact flat.prepare.ensures quiet holds
  dial := by
    intro l m holds
    exact ensures_of_ask mon (.connect url .default) fun time result relied =>
      flat.attempt l m time result holds relied
  refuse := flat.across (quiet_storeThenDecide _) onward_of_closes fun _ _ _ => id
  greet := fun holds => flat.greet _ _ holds
  auth := flat.across speaking_offerAuth onward_of_speaks orElse_flat
  mode := flat.one (.handler .sessionMode) trivial fun mode _ _ holds => by
    split <;> exact holds
  replay := flat.across speaking_replaySubscriptions onward_of_speaks orElse_flat
  fail := flat.across (quiet_decideThenStore _) onward_of_closes fun _ _ _ => id
  select := flat.across (quiet_sessionSelect _) onward_of_selects fun arm _ _ holds => by
    unfold afterSelect
    split <;> exact holds
  tick := flat.across (quiet_tick kind) onward_of_pulses
    fun verdict _ _ holds => by cases verdict <;> exact holds
  park := fun holds _ _ => holds
  apply := fun holds _ _ =>
    flat.across (speaking_applyCommand _) onward_of_speaks orElse_flat holds
  inbound := flat.one (.handler (.onInboundFrame _)) trivial fun _ _ _ => id
  intercept := flat.across (quiet_intercept kind _) onward_of_pulses
    fun verdict _ _ holds => by cases verdict <;> exact holds
  parse := flat.one (.handler (.parseFrame _)) trivial fun outcome _ _ holds => by
    split <;> exact holds
  judge := flat.one (.handler (.handleServerError _ _ _)) trivial fun action _ _ holds => by
    cases action <;> exact holds
  proceed := id
  authenticate := flat.across speaking_replaySubscriptions onward_of_speaks orElse_flat
  flush := by
    intro l m holds
    refine mon.ensures_mono orElse_flat (ensures_flush (fun _ _ _ => id) ?_ holds)
    intro command l m holds
    exact flat.across (speaking_applyCommand command) onward_of_speaks (fun _ _ _ => id) holds
  reply := flat.across (speaking_sendPayload .reply _) onward_of_speaks orElse_flat
  process := flat.one (.handler (.handleMessage _)) trivial fun result _ _ holds => by
    cases result <;> exact holds
  requested := id
  shutdown := id
  stop := flat.one (.storeStatus _) trivial fun _ _ _ => id
  finish := flat.one (.storeStatus _) trivial fun _ _ _ => id
  decide := flat.across (quiet_decideReconnect _)
    (fun op decides => onward_of_closes op (closes_of_decides op decides))
    fun _ _ _ => id
  abort := id
  wait := flat.across (quiet_wait _) onward_of_waits fun retry _ m holds => by
    split
    · exact flat.again m holds
    · exact holds

/-- Every call of every run of either loop is safe. -/
theorem safe_run {kind : LoopKind} {t : List (ManagedEvent E)} {q : Task E} {m : M}
    (run : Run (managedLoop url kind) t q) (start : first m)
    (relied : mon.Along mon.rely m t) : mon.Along mon.safe m t := by
  rw [managedLoop_eq] at run
  exact ((flat.outline kind).run start run relied).1

end Flat
end FlatOutline
