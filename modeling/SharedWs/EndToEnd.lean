import SharedWs.ConnectionWire
import SharedWs.FrameRouting
import SharedWs.MessageRouting

/-!
# From dispatch to `handle_message`

The managed server and the managed client are two ends of one system. A command that is dispatched
at the server is broadcast to its connections, turned into a frame, written, read by the loop of a
client, parsed and handed to the client's handler. Both ends run at their own pace, and the
connection between them delivers a prefix of what was written, in order. Then the messages that a
client gets on one connection are the commands dispatched since the server admitted it, from the
first one on, without a gap, a repetition or a change of order.
-/
namespace EndToEnd

open InteractionPrograms ManagedOps ManagedLoop HookedLoop WsFrames WsTypes
open ServerTypes ServerTask ServerSystem ConnectionTask ConnectionBudget
open ConnectionWire FrameRouting MessageRouting

variable {E : Endpoint} {Command : Type}

/-- What the two ends agree on: the frame of a command, always a text or binary frame, and the
message that it stands for. -/
structure Codec (Command : Type) (E : Endpoint) where
  encode : Command → WsFrame
  message : Command → E.Message
  data : ∀ command, IsData (encode command) = true

/-- The handler of the server sends the frame of every command. -/
def Codec.act (codec : Codec Command E) (command : Command) : WsServerEndpointAction :=
  .send (codec.encode command)

/-- The handler of the client understands the frames of commands and makes no message of a control
frame; its heartbeat, if there is one, leaves data to the handler. -/
def Understands (codec : Codec Command E) : ManagedEvent E → Prop
  | ⟨(_, .handler (.parseFrame frame)), ⟨_, outcome⟩⟩ =>
    (∀ command, frame = codec.encode command →
      outcome = .ok (.message (.process (codec.message command)))) ∧
    (IsData frame = false → ∀ message, outcome ≠ .ok (.message (.process message)))
  | ⟨(_, .ping (.handleInbound frame)), ⟨_, result⟩⟩ => IsData frame = true → result = .notPong
  | _ => True

/-- The message of a frame that the handler has parsed. -/
def processedOf : ManagedEvent E → Option E.Message
  | ⟨(_, .handler (.parseFrame _)), ⟨_, .ok (.message (.process message))⟩⟩ => some message
  | _ => none

def processed (t : List (ManagedEvent E)) : List E.Message := t.filterMap processedOf

section Client
variable {codec : Codec Command E} {e : ManagedEvent E}

theorem processed_of_none (unsettled : settledOf e = none) : processedOf e = none := by
  obtain ⟨⟨l, op⟩, time, val⟩ := e
  cases op with
  | handler call =>
    cases call with
    | parseFrame frame => exact nomatch unsettled
    | _ => rfl
  | _ => rfl

theorem processed_of_control {frame : WsFrame} (understands : Understands codec e)
    (settles : settledOf e = some frame) (control : IsData frame = false) :
    processedOf e = none := by
  obtain ⟨⟨l, op⟩, time, val⟩ := e
  cases op with
  | handler call =>
    cases call with
    | parseFrame read =>
      cases settles
      match val with
      | .ok (.message action) =>
        cases action with
        | process message => exact absurd rfl (understands.2 control message)
        | _ => rfl
      | .ok (.serverError code message data) => rfl
      | .error error => rfl
    | _ => rfl
  | _ => rfl

theorem processed_of_command {command : Command} (understands : Understands codec e)
    (settles : settledOf e = some (codec.encode command)) :
    processedOf e = some (codec.message command) := by
  obtain ⟨⟨l, op⟩, time, val⟩ := e
  cases op with
  | handler call =>
    cases call with
    | parseFrame read =>
      have same : read = codec.encode command := Option.some.inj settles
      have outcome := understands.1 command same
      change val = _ at outcome
      rw [outcome]
      rfl
    | _ => exact nomatch settles
  | ping call =>
    cases call with
    | handleInbound read =>
      -- The heartbeat does not keep the frame of a command.
      cases val with
      | notPong => exact nomatch settles
      | _ =>
        have same : read = codec.encode command := Option.some.inj settles
        have kept := understands (same ▸ codec.data command)
        exact nomatch kept
    | _ => exact nomatch settles
  | _ => exact nomatch settles

/-- The messages of a stretch of calls are those of the commands whose frames it settles. -/
theorem processed_eq {u : List (ManagedEvent E)} (understands : ∀ e ∈ u, Understands codec e)
    {commands : List Command} (sent : dataFrames (settled u) = commands.map codec.encode) :
    processed u = commands.map codec.message := by
  induction u generalizing commands with
  | nil =>
    have none_sent : commands = [] := by simpa [settled, dataFrames] using sent.symm
    rw [none_sent]
    rfl
  | cons e u ih =>
    have here := understands e List.mem_cons_self
    have later : ∀ e ∈ u, Understands codec e :=
      fun d mem => understands d (List.mem_cons_of_mem e mem)
    cases settles : settledOf e with
    | none =>
      rw [settled, List.filterMap_cons_none settles] at sent
      rw [processed, List.filterMap_cons_none (processed_of_none settles)]
      exact ih later sent
    | some frame =>
      rw [settled, List.filterMap_cons_some settles, dataFrames] at sent
      by_cases data : IsData frame = true
      · rw [List.filter_cons_of_pos data] at sent
        cases commands with
        | nil => cases sent
        | cons command commands =>
          obtain ⟨rfl, rest⟩ := List.cons_eq_cons.mp sent
          rw [processed, List.filterMap_cons_some (processed_of_command here settles)]
          exact congrArg (codec.message command :: ·) (ih later rest)
      · rw [List.filter_cons_of_neg data] at sent
        have control : IsData frame = false := by simpa using data
        rw [processed, List.filterMap_cons_none (processed_of_control here settles control)]
        exact ih later sent

theorem processed_part {u : List (ManagedEvent E)} (understands : ∀ e ∈ u, Understands codec e)
    {commands : List Command} (got : dataFrames (settled u) <+: commands.map codec.encode) :
    processed u <+: commands.map codec.message := by
  rw [List.prefix_iff_eq_take, ← List.map_take] at got
  rw [processed_eq understands got, List.map_take]
  exact List.take_prefix _ _

end Client

theorem broadcast_act (codec : Codec Command E) (commands : List Command) :
    broadcast codec.act commands = commands.map codec.encode := by
  have single : ∀ command, dataFrames (framesOf (codec.act command)) = [codec.encode command] :=
    fun command => List.filter_cons_of_pos (codec.data command)
  rw [broadcast, List.map_eq_flatMap]
  exact congrArg (commands.flatMap ·) (funext single)

theorem settled_reads {t : List (ManagedEvent E)}
    (fits : ∀ before e after, t = before ++ e :: after → Fits (inHand before) e.op.2) :
    settled (sinceConnect t) <+: reads (sinceConnect t) :=
  ⟨_, (settled_of_fits fits).symm⟩

/-- The loop at `q` after the calls `t`, on a connection to the connection `c` of the server. -/
structure Delivered (codec : Codec Command E) (t : List (ManagedEvent E)) (q : HookedLoop.Task E)
    (s : System Command) (c : Connection Command) : Prop where
  messages : processed (sinceConnect t) <+:
    (s.dispatched.drop c.receiver.since).map codec.message
  handled : ∀ before e d after, t = before ++ e :: d :: after → ∀ message,
    processedOf e = some message → d.op.2 = .handler (.handleMessage message)
  -- when nothing is under way any more, nothing is missing
  complete : c.fate = .running → c.task = .ret (.inl .serving) →
    s.shared.commands.log.length ≤ c.receiver.next →
    reads (sinceConnect t) = written c.trace → ∀ result, q = .ret result →
      processed (sinceConnect t) = (s.dispatched.drop c.receiver.since).map codec.message

section Ends
variable {config : WsServerConfig} {retry : WsServerRetryPolicy} {faults : ServerFaults}
variable {s : System Command} {c : Connection Command} {k : Nat}
variable {codec : Codec Command E} {url : String} {kind : LoopKind} {t : List (ManagedEvent E)}
variable {q : HookedLoop.Task E}

theorem produced_of_processed {e : ManagedEvent E} {message : E.Message}
    (made : processedOf e = some message) : producedOf e = some message := by
  unfold processedOf at made
  split at made
  · exact made
  · cases made

theorem handleMessage_of_handledBy {op : Op E} {message : E.Message}
    (handles : handledBy op = some message) : op = .handler (.handleMessage message) := by
  unfold handledBy at handles
  split at handles
  · cases handles
    rfl
  · cases handles

theorem handled_next (client : Run (managedLoop url kind) t q)
    {before after : List (ManagedEvent E)} {e d : ManagedEvent E}
    (cut : t = before ++ e :: d :: after) {message : E.Message}
    (made : processedOf e = some message) : d.op.2 = .handler (.handleMessage message) := by
  have next := (routing_calls client).1 (before ++ [e]) d after (by rw [cut]; simp)
  have way : onItsWay (before ++ [e]) = some message := by
    simp [onItsWay, produced_of_processed made]
  exact handleMessage_of_handledBy (next.trans way)

theorem commands_delivered (client : Run (managedLoop url kind) t q)
    (understands : ∀ e ∈ sinceConnect t, Understands codec e)
    (server : Reachable config retry faults s) (here : s.connections[k]? = some c)
    (relays : ∀ e ∈ c.trace, Relays codec.act e)
    (wire : reads (sinceConnect t) <+: written c.trace) : Delivered codec t q s c := by
  obtain ⟨fits, rest⟩ := hand_run client
  constructor
  · have sent := segment_sent server here relays
    have got := (dataFrames_mono ((settled_reads fits).trans wire)).trans sent
    rw [broadcast_act] at got
    exact processed_part understands got
  · exact fun _ _ _ _ cut _ made => handled_next client cut made
  · intro running waiting behind whole result returned
    have sent := segment_complete server here relays running waiting behind
    have inOrder := settled_of_fits fits
    rw [rest result returned, Option.toList_none, List.append_nil] at inOrder
    rw [← whole, inOrder, broadcast_act] at sent
    exact processed_eq understands sent

end Ends

/-- A command is one byte on the wire, and the message is its number again. -/
def byteCodec : Codec Nat bareEndpoint where
  encode := fun command => .binary ⟨#[command.toUInt8]⟩
  message := fun command => command.toUInt8.toNat
  data := fun _ => rfl

/-- What the codec makes of a frame. -/
def heard : WsFrame → WsMessageAction Nat
  | .binary ⟨#[byte]⟩ => .process byte.toNat
  | _ => .continue

/-- A client that reads these items of the stream and understands the codec. -/
def listener (inbox : Nat → Option (Except WebSocketError WsFrame)) :
    Nat → (op : Op bareEndpoint) → op.Ans
  | n, .select => .frame (inbox n)
  | _, .handler (.parseFrame frame) => .ok (.message (heard frame))
  | _, op => bareAnswer op

theorem listener_understands (loop : ManagedLoop.Head → Managed bareEndpoint Flow)
    (inbox : Nat → Option (Except WebSocketError WsFrame)) (n : Nat) :
    ∀ e ∈ (trial loop (listener inbox) n).1, Understands byteCodec e := by
  intro e listed
  obtain ⟨i, answered⟩ := play_answers _ n 0 _ e listed
  obtain ⟨⟨l, op⟩, ans⟩ := e
  obtain rfl : ans = ⟨i, listener inbox i op⟩ := answered
  cases op with
  | handler call =>
    cases call with
    | parseFrame frame =>
      constructor
      · rintro command rfl
        rfl
      · intro control message same
        cases frame with
        | text | binary => cases control
        | ping | pong | close => cases same
    | _ => trivial
  | ping call =>
    cases call with
    | handleInbound frame => exact fun _ => rfl
    | _ => trivial
  | _ => trivial

/-- A frame with the byte 7 and one with the byte 8. -/
def twoFrames : Nat → Option (Except WebSocketError WsFrame)
  | 10 => some (.ok (.binary ⟨#[7]⟩))
  | 14 => some (.ok (.binary ⟨#[8]⟩))
  | _ => none

def listenerRun : List (ManagedEvent bareEndpoint) × HookedLoop.Task bareEndpoint :=
  trial (managedLoop "ws://server" .plain) (listener twoFrames) 18

theorem commands_handled :
    ∃ s : System Nat, s.dispatched.drop ConnectionWire.toldClient.receiver.since = [7, 8] ∧
      processed (sinceConnect listenerRun.1) = [(7 : Nat), (8 : Nat)] ∧
      Delivered byteCodec listenerRun.1 listenerRun.2 s ConnectionWire.toldClient := by
  obtain ⟨s, reached, dispatched, attends⟩ :=
    CommandFanout.two_told fun command => .binary ⟨#[command.toUInt8]⟩
  have here : s.connections[0]? = some ConnectionWire.toldClient :=
    congrArg (·[0]?) attends.newest
  have recent : sinceConnect listenerRun.1 = listenerRun.1.drop 2 := rfl
  have understands : ∀ e ∈ sinceConnect listenerRun.1, Understands byteCodec e := by
    rw [recent]
    exact fun e listed => listener_understands _ twoFrames 18 e (List.mem_of_mem_drop listed)
  have wire : reads (sinceConnect listenerRun.1) <+: written ConnectionWire.toldClient.trace :=
    List.prefix_rfl
  exact ⟨s, dispatched, rfl, commands_delivered (trial_run _ _ 18) understands reached here
    ConnectionWire.toldClient_relays wire⟩

end EndToEnd
