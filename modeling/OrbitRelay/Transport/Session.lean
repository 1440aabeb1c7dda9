import OrbitRelay.Lib.Transition
import OrbitRelay.Transport.Tasks

/-! A whole WebSocket session: the coordinator and its child tasks interleaved, with a record of
the coordinator's exchanges. The ports answer in any way. -/
namespace OrbitRelay
open Pausing

abbrev WriterChannel := Channel TaskId WriterCommand

/-- The channel with the message, or `none` where the source returns `false`. -/
def WriterChannel.queueApplication (writer : WriterChannel) (codec : MessageCodec)
    (message : OutboundMessage) : Option WriterChannel :=
  writer.trySend (.application message codec)

/-- The answer to a response that is too long. -/
def oversizedResponse (response : QueryResponse) : QueryResponse :=
  .error response.requestId response.queryType
    ⟨.internal, "The query response exceeds the configured message limit.", false⟩

def WriterChannel.queueQueryResponse (writer : WriterChannel) (codec : MessageCodec)
    (version : Version) (response : QueryResponse) (maxMessageBytes : Nat) :
    Option WriterChannel :=
  let message := .queryResponse (.fromResponse version response)
  match codec.encodeOutbound message with
  | .error _ => none
  | .ok encoded =>
    if encoded.length ≤ maxMessageBytes then WriterChannel.queueApplication writer codec message
    else
      let fallbackMessage := .queryResponse (.fromResponse version (oversizedResponse response))
      match codec.encodeOutbound fallbackMessage with
      | .error _ => none
      | .ok encoded =>
        if encoded.length ≤ maxMessageBytes then
          WriterChannel.queueApplication writer codec fallbackMessage
        else none

/-- The message that answers a query: the response, or the fallback where that is too long. -/
def responseMessage (codec : MessageCodec) (version : Version) (response : QueryResponse)
    (maxMessageBytes : Nat) : Option OutboundMessage :=
  let message := .queryResponse (.fromResponse version response)
  match codec.encodeOutbound message with
  | .error _ => none
  | .ok encoded =>
    if encoded.length ≤ maxMessageBytes then some message
    else
      let fallbackMessage := .queryResponse (.fromResponse version (oversizedResponse response))
      match codec.encodeOutbound fallbackMessage with
      | .error _ => none
      | .ok encoded => if encoded.length ≤ maxMessageBytes then some fallbackMessage else none

theorem WriterChannel.queueQueryResponse_eq (writer : WriterChannel) (codec : MessageCodec)
    (version : Version) (response : QueryResponse) (maxMessageBytes : Nat) :
    WriterChannel.queueQueryResponse writer codec version response maxMessageBytes =
      (responseMessage codec version response maxMessageBytes).bind
        (WriterChannel.queueApplication writer codec) := by
  unfold WriterChannel.queueQueryResponse responseMessage
  dsimp only
  split
  · rfl
  · split
    · rfl
    · split
      · rfl
      · split <;> rfl

def WriterChannel.queueError (writer : WriterChannel) (codec : MessageCodec)
    (requestId : Option MessageId) (error : TransportError) : Option WriterChannel :=
  WriterChannel.queueApplication writer codec (.error (.fromTransportError requestId error))

/-- What decides a request that the world alone does not: the branch of a `select!`, the result
of a port, the order of a drained map. -/
inductive CoordinatorChoice
  | proceed
  | reader
  | event
  | heartbeat (negotiationElapsed activityElapsed : Bool)
  | negotiated (result : Except VersionNegotiationError Version)
  | resolved (result : Except IdentityError ActorBinding)
  | authorized (result : Except SubscriptionAuthorizationError Unit)
  | subscribed (result : Except EventSourceError TransportSubscriptionId)
  | elapsed
  | order (handles : List SubscriptionHandle)

namespace World

/-- The outcome of an attempt on the writer channel. -/
def attempt (w : World) : Option WriterChannel → Bool × World
  | some writer => (true, { w with writerChannel := writer })
  | none => (false, w)

def enqueue (w : World) : Enqueue → Bool × World
  | .application codec message =>
    w.attempt (WriterChannel.queueApplication w.writerChannel codec message)
  | .queryResponse codec version response maxMessageBytes =>
    w.attempt
      (WriterChannel.queueQueryResponse w.writerChannel codec version response maxMessageBytes)
  | .error codec requestId error =>
    w.attempt (WriterChannel.queueError w.writerChannel codec requestId error)
  | .writer command => w.attempt (w.writerChannel.trySend command)
  | .action job =>
    match w.actionQueue.trySend job with
    | some channel => (true, { w with actionQueue := channel })
    | none => (false, w)
  | .query job =>
    match w.queryQueue.trySend job with
    | some channel => (true, { w with queryQueue := channel })
    | none => (false, w)

/-- Only a join can wait. -/
def perform (w : World) : Effect → Option World
  | .closeSource _ => some w
  | .cancelPump handle =>
    some { w with pumps := w.pumps.modify handle.pump fun pump => { pump with cancelled := true } }
  | .join task => if w.Finished task then some w else none
  | .cancel => some { w with cancelled := true }
  | .dropSenders => some { w with sendersDropped := true }

/-- Answers a request of the coordinator; `none` while it has to wait. -/
def respond (w : World) : (request : CoordinatorRequest) → CoordinatorChoice →
    Option (request.Answer × World)
  | .select, .reader =>
    match w.readerChannel.recv with
    | some (event, channel) => some (.reader (some event), { w with readerChannel := channel })
    | none => if w.reader.senderDropped then some (.reader none, w) else none
  | .select, .event =>
    -- The coordinator keeps a sender of its own, so this channel never ends.
    match w.eventChannel.recv with
    | some (event, channel) => some (.event (some event), { w with eventChannel := channel })
    | none => none
  | .select, .heartbeat negotiationElapsed activityElapsed =>
    some (.heartbeat negotiationElapsed activityElapsed, w)
  | .enqueue item, .proceed => some (w.enqueue item)
  | .perform effect, .proceed => (w.perform effect).map fun w => ((), w)
  | .negotiate _, .negotiated result => some (result, w)
  | .resolve .., .resolved result => some (result, w)
  | .authorize .., .authorized result => some (result, w)
  | .subscribe _, .subscribed result => some (result, w)
  | .spawnPump id version codec, .proceed =>
    some (⟨w.pumps.length⟩,
      { w with pumps := w.pumps ++ [⟨id, version, codec, false, .polling⟩] })
  | .sendClose, .proceed =>
    if w.writerChannel.closed then some (false, w)
    else
      match w.writerChannel.trySend .close with
      | some channel => some (true, { w with writerChannel := channel })
      | none => none
  | .awaitWriter, .proceed => if w.Finished .writer then some (true, w) else none
  | .awaitWriter, .elapsed => if w.Finished .writer then none else some (false, w)
  | .drain handles, .order order => if order.isPerm handles then some (order, w) else none
  | _, _ => none

end World

abbrev CoordinatorProgram := Program CoordinatorRequest CoordinatorRequest.Answer Coordinator

/-- Where the coordinator is: in its loop, in the shutdown sequence, or at its end. -/
inductive CoordinatorTask
  | looping (program : CoordinatorProgram (LoopControl × Coordinator))
  | closing (program : CoordinatorProgram (Except WebSocketAdapterError Unit × Coordinator))
  | finished (result : Except WebSocketAdapterError Unit) (state : Coordinator)

namespace CoordinatorTask

/-- A turn that has ended goes on with the next turn or with the shutdown. -/
def afterTurn (settings : SessionSettings) :
    CoordinatorProgram (LoopControl × Coordinator) → CoordinatorTask
  | .done (.next, s) => looping (turn settings s)
  | .done (.stop, s) => closing (shutdown settings s)
  | program => looping program

def afterShutdown :
    CoordinatorProgram (Except WebSocketAdapterError Unit × Coordinator) → CoordinatorTask
  | .done (result, s) => finished result s
  | program => closing program

/-- A request the coordinator waits for, and how it goes on. -/
structure Pending where
  state : Coordinator
  request : CoordinatorRequest
  resume : request.Answer → CoordinatorTask

def pending (settings : SessionSettings) : CoordinatorTask → Option Pending
  | looping (.ask s q k) => some ⟨s, q, fun a => afterTurn settings (k a)⟩
  | closing (.ask s q k) => some ⟨s, q, fun a => afterShutdown (k a)⟩
  | _ => none

/-- The loop of `run_coordinator` is running. -/
def isLooping : CoordinatorTask → Bool
  | looping _ => true
  | closing _ | finished .. => false

end CoordinatorTask

/-- A session, with the record of the coordinator's exchanges that no step reads. -/
structure Session where
  coordinator : CoordinatorTask
  world : World
  trace : CoordinatorTrace

inductive SessionAction
  | coordinator (choice : CoordinatorChoice)
  | task (action : TaskAction)

namespace Session

def start (settings : SessionSettings) (id : ConnectionId) (metadata : Metadata) : Session where
  coordinator := .looping (turn settings (.start settings (.new id metadata)))
  world := .start settings
  trace := []

def step (settings : SessionSettings) (s : Session) : SessionAction → Option Session
  | .coordinator choice =>
    match s.coordinator.pending settings with
    | none => none
    | some p =>
      (s.world.respond p.request choice).map fun (answer, world) =>
        ⟨p.resume answer, world, s.trace ++ [⟨p.state, p.request, answer⟩]⟩
  | .task action =>
    (s.world.taskStep settings action).map fun world => { s with world := world }

/-- The runs of a session whose steps all satisfy `allowed`. A session whose configuration is
invalid does not start. -/
def system (settings : SessionSettings) (id : ConnectionId) (metadata : Metadata)
    (allowed : Session → SessionAction → Prop) : Transition.System Session where
  init s := settings.config.validate = .ok () ∧ s = start settings id metadata
  step s s' := ∃ action, allowed s action ∧ s.step settings action = some s'

/-- The session after a list of actions, all of them allowed. -/
def run (settings : SessionSettings) (allowed : Session → SessionAction → Prop)
    [∀ s action, Decidable (allowed s action)] (s : Session) : List SessionAction → Option Session
  | [] => some s
  | action :: rest =>
    if allowed s action then s.step settings action >>= fun s => run settings allowed s rest
    else none

theorem reachable_of_run {settings : SessionSettings} {id : ConnectionId} {metadata : Metadata}
    {allowed : Session → SessionAction → Prop} [∀ s action, Decidable (allowed s action)]
    {s s' : Session} (actions : List SessionAction)
    (h : (system settings id metadata allowed).Reachable s)
    (hrun : s.run settings allowed actions = some s') :
    (system settings id metadata allowed).Reachable s' := by
  induction actions generalizing s with
  | nil => exact Option.some.inj hrun ▸ h
  | cons action rest ih =>
    unfold run at hrun
    split at hrun
    case isTrue hallowed =>
      obtain ⟨next, hstep, hrest⟩ := Option.bind_eq_some_iff.mp hrun
      exact ih (h.step ⟨action, hallowed, hstep⟩) hrest
    case isFalse => cases hrun

/-- The steps of a run: the state before each of them, and the action. -/
abbrev Log := List (Session × SessionAction)

/-- The runs of a session with all their steps. -/
structure Run (settings : SessionSettings) (id : ConnectionId) (metadata : Metadata) (log : Log)
    (s : Session) : Prop where
  valid : settings.config.validate = .ok ()
  run : Transition.Run (step settings) (start settings id metadata) log s

theorem Run.reachable {settings : SessionSettings} {id : ConnectionId} {metadata : Metadata}
    {log : Log} {s : Session} (hrun : Run settings id metadata log s) :
    (system settings id metadata fun _ _ => True).Reachable s := by
  obtain ⟨hvalid, hrun⟩ := hrun
  induction hrun with
  | start => exact .init ⟨hvalid, rfl⟩
  | step _ hstep ih => exact ih.step ⟨_, trivial, hstep⟩

/-- Restricted runs are runs. -/
theorem reachable_of_allowed {settings : SessionSettings} {id : ConnectionId} {metadata : Metadata}
    {allowed : Session → SessionAction → Prop} {s : Session}
    (h : (system settings id metadata allowed).Reachable s) :
    (system settings id metadata fun _ _ => True).Reachable s := by
  induction h with
  | init hinit => exact .init hinit
  | step _ hstep ih =>
    obtain ⟨action, -, hstep⟩ := hstep
    exact ih.step ⟨action, trivial, hstep⟩

/-- Every state of a run is reachable, so that a restriction may take it for granted. -/
theorem reachable_along {settings : SessionSettings} {id : ConnectionId} {metadata : Metadata}
    {allowed : Session → SessionAction → Prop} {s : Session}
    (h : (system settings id metadata allowed).Reachable s) :
    (system settings id metadata fun s action => allowed s action ∧
      (system settings id metadata allowed).Reachable s).Reachable s := by
  induction h with
  | init hinit => exact .init hinit
  | step hreach hstep ih =>
    obtain ⟨action, hok, hstep⟩ := hstep
    exact ih.step ⟨action, ⟨hok, hreach⟩, hstep⟩

/-- An exchange of the coordinator. -/
theorem step_coordinator_eq_some {settings : SessionSettings} {s s' : Session}
    {choice : CoordinatorChoice} (h : s.step settings (.coordinator choice) = some s') :
    ∃ p a w, s.coordinator.pending settings = some p ∧
      s.world.respond p.request choice = some (a, w) ∧
      s' = ⟨p.resume a, w, s.trace ++ [⟨p.state, p.request, a⟩]⟩ := by
  simp only [step] at h
  split at h
  case h_1 => cases h
  case h_2 p hp =>
    obtain ⟨⟨a, w⟩, hrespond, rfl⟩ := Option.map_eq_some_iff.mp h
    exact ⟨p, a, w, hp, hrespond, rfl⟩

/-- The coordinator has paused with this state at this request, after these exchanges. -/
inductive Paused (settings : SessionSettings) (s : Session) :
    CoordinatorTrace → Coordinator → CoordinatorRequest → Prop
  | answered {before after : CoordinatorTrace} {e : CoordinatorExchange}
      (h : s.trace = before ++ e :: after) : Paused settings s before e.state e.request
  | waiting {p : CoordinatorTask.Pending} (h : s.coordinator.pending settings = some p) :
      Paused settings s s.trace p.state p.request

end Session

section Runs
variable {settings : SessionSettings} {id : ConnectionId} {metadata : Metadata}
  {allowed : Session → SessionAction → Prop}
  (c : Contract CoordinatorRequest CoordinatorRequest.Answer Coordinator)
  (atTurn atStop : CoordinatorTrace → Coordinator → Prop)

/-- What holds of the state at the end of a turn. -/
def TurnPost : LoopControl → CoordinatorTrace → Coordinator → Prop
  | .next => atTurn
  | .stop => atStop

/-- The coordinator keeps the contract from here on, as far as its present turn or the shutdown
reaches. -/
def CoordinatorTask.Keeps (h : CoordinatorTrace) : CoordinatorTask → Prop
  | looping program => c.Holds (fun h r => TurnPost atTurn atStop r.1 h r.2) h program
  | closing program => c.Holds (fun _ _ => True) h program
  | finished .. => True

variable {c atTurn atStop}

theorem CoordinatorTask.Keeps.afterTurn
    (hturn : ∀ h s, atTurn h s → (turn settings).wp c (TurnPost atTurn atStop) h s)
    (hstop : ∀ h s, atStop h s → (shutdown settings).wp c (fun _ _ _ => True) h s)
    {h : CoordinatorTrace} {program : CoordinatorProgram (LoopControl × Coordinator)}
    (hholds : c.Holds (fun h r => TurnPost atTurn atStop r.1 h r.2) h program) :
    (CoordinatorTask.afterTurn settings program).Keeps c atTurn atStop h := by
  cases program with
  | done r =>
    obtain ⟨control, s⟩ := r
    cases control with
    | next => exact hturn h s hholds
    | stop => exact hstop h s hholds
  | ask s q k => exact hholds

theorem CoordinatorTask.Keeps.afterShutdown {h : CoordinatorTrace}
    {program : CoordinatorProgram (Except WebSocketAdapterError Unit × Coordinator)}
    (hholds : c.Holds (fun _ _ => True) h program) :
    (CoordinatorTask.afterShutdown program).Keeps c atTurn atStop h := by
  cases program with
  | done r => trivial
  | ask s q k => exact hholds

/-- A pending request keeps the promise, and so does what follows an allowed answer. -/
theorem CoordinatorTask.Keeps.pending
    (hturn : ∀ h s, atTurn h s → (turn settings).wp c (TurnPost atTurn atStop) h s)
    (hstop : ∀ h s, atStop h s → (shutdown settings).wp c (fun _ _ _ => True) h s)
    {task : CoordinatorTask} {h : CoordinatorTrace} (hkeeps : task.Keeps c atTurn atStop h)
    {p : Pending} (hp : task.pending settings = some p) :
    c.guarantee h p.state p.request ∧ ∀ a, c.rely h p.state p.request a →
      (p.resume a).Keeps c atTurn atStop (h ++ [⟨p.state, p.request, a⟩]) := by
  cases task with
  | looping program =>
    cases program with
    | done r => cases hp
    | ask s q k =>
      cases hp
      exact ⟨hkeeps.1, fun a hrely => .afterTurn hturn hstop (hkeeps.2 a hrely)⟩
  | closing program =>
    cases program with
    | done r => cases hp
    | ask s q k =>
      cases hp
      exact ⟨hkeeps.1, fun a hrely => .afterShutdown (hkeeps.2 a hrely)⟩
  | finished result s => cases hp

/-- The coordinator keeps the contract for the rest of its present turn. -/
def CoordinatorTask.KeepsLoop
    (c : Contract CoordinatorRequest CoordinatorRequest.Answer Coordinator)
    (atTurn : CoordinatorTrace → Coordinator → Prop) (h : CoordinatorTrace) :
    CoordinatorTask → Prop
  | looping (.done _) => False
  | looping program => c.Holds (fun h r => TurnPost atTurn (fun _ _ => True) r.1 h r.2) h program
  | closing _ | finished .. => True

section KeepsLoop
variable (hturn : ∀ h s, atTurn h s →
  (OrbitRelay.turn settings).wp c (TurnPost atTurn fun _ _ => True) h s)
include hturn

theorem CoordinatorTask.KeepsLoop.turn {h : CoordinatorTrace} {s : Coordinator}
    (hs : atTurn h s) : (looping (OrbitRelay.turn settings s)).KeepsLoop c atTurn h :=
  hturn h s hs

theorem CoordinatorTask.KeepsLoop.afterTurn {h : CoordinatorTrace}
    {program : CoordinatorProgram (LoopControl × Coordinator)}
    (hholds : c.Holds (fun h r => TurnPost atTurn (fun _ _ => True) r.1 h r.2) h program) :
    (CoordinatorTask.afterTurn settings program).KeepsLoop c atTurn h := by
  cases program with
  | done r =>
    obtain ⟨control, s⟩ := r
    cases control with
    | next => exact .turn hturn hholds
    | stop =>
      show CoordinatorTask.KeepsLoop c atTurn h (.closing _)
      trivial
  | ask s q k => exact hholds

end KeepsLoop

theorem CoordinatorTask.KeepsLoop.afterShutdown {h : CoordinatorTrace}
    (program : CoordinatorProgram (Except WebSocketAdapterError Unit × Coordinator)) :
    (CoordinatorTask.afterShutdown program).KeepsLoop c atTurn h := by
  cases program <;> trivial

/-- The loop runs only after exchanges of the loop. -/
theorem CoordinatorTask.looping_of_resume {task : CoordinatorTask} {p : Pending}
    (hp : task.pending settings = some p) {a : p.request.Answer}
    (h : (p.resume a).isLooping = true) : task.isLooping = true := by
  cases task with
  | looping program => rfl
  | closing program =>
    cases program with
    | done r => cases hp
    | ask s q k =>
      cases hp
      change (CoordinatorTask.afterShutdown (k a)).isLooping = true at h
      cases hk : k a <;> rw [hk] at h <;> cases h
  | finished result s => cases hp

/-- What every exchange of the coordinator preserves holds in every run. -/
theorem Session.invariant_of_reachable {I : CoordinatorTrace → CoordinatorTask → Prop}
    (hstart : I [] (.looping (turn settings (.start settings (.new id metadata)))))
    (hnext : ∀ s choice p a w, allowed s (.coordinator choice) →
      s.coordinator.pending settings = some p → s.world.respond p.request choice = some (a, w) →
      I s.trace s.coordinator → I (s.trace ++ [⟨p.state, p.request, a⟩]) (p.resume a))
    {s : Session} (h : (Session.system settings id metadata allowed).Reachable s) :
    I s.trace s.coordinator := by
  refine h.invariant (I := fun s => I s.trace s.coordinator) (fun s hinit => ?_)
    fun s s' hinv hstep => ?_
  · rw [hinit.2]
    exact hstart
  · obtain ⟨action, hok, hstep⟩ := hstep
    cases action with
    | coordinator choice =>
      obtain ⟨p, a, w, hp, hrespond, rfl⟩ := Session.step_coordinator_eq_some hstep
      exact hnext s choice p a w hok hp hrespond hinv
    | task action =>
      obtain ⟨w, -, rfl⟩ := Option.map_eq_some_iff.mp hstep
      exact hinv

/-- In every run whose answers the contract allows, every pause keeps the promise, provided that
each turn and the shutdown do. -/
theorem Session.contract_of_reachable
    (hstart : atTurn [] (.start settings (.new id metadata)))
    (hturn : ∀ h s, atTurn h s → (turn settings).wp c (TurnPost atTurn atStop) h s)
    (hstop : ∀ h s, atStop h s → (shutdown settings).wp c (fun _ _ _ => True) h s)
    (hallowed : ∀ s choice p a w, allowed s (.coordinator choice) →
      s.coordinator.pending settings = some p → s.world.respond p.request choice = some (a, w) →
      c.rely s.trace p.state p.request a)
    {s : Session} (h : (Session.system settings id metadata allowed).Reachable s)
    {before : CoordinatorTrace} {state : Coordinator} {request : CoordinatorRequest}
    (hpaused : s.Paused settings before state request) : c.guarantee before state request := by
  have hkept : c.Kept s.trace ∧ s.coordinator.Keeps c atTurn atStop s.trace := by
    refine Session.invariant_of_reachable
      (I := fun h task => c.Kept h ∧ task.Keeps c atTurn atStop h)
      ⟨.nil, hturn _ _ hstart⟩ (fun s choice p a w hok hp hrespond hinv => ?_) h
    obtain ⟨hpromise, hkeeps⟩ := hinv.2.pending hturn hstop hp
    exact ⟨hinv.1.snoc hpromise a, hkeeps a (hallowed s choice p a w hok hp hrespond)⟩
  cases hpaused with
  | answered heq => exact hkept.1 _ _ _ heq
  | waiting hp => exact (hkept.2.pending hturn hstop hp).1

/-- The promise of the loop alone, which the shutdown need not keep. -/
theorem Session.loop_of_reachable
    (hstart : atTurn [] (.start settings (.new id metadata)))
    (hturn : ∀ h s, atTurn h s →
      (turn settings).wp c (TurnPost atTurn fun _ _ => True) h s)
    (hallowed : ∀ s choice p a w, allowed s (.coordinator choice) →
      s.coordinator.pending settings = some p → s.world.respond p.request choice = some (a, w) →
      c.rely s.trace p.state p.request a)
    {s : Session} (h : (Session.system settings id metadata allowed).Reachable s)
    (hloop : s.coordinator.isLooping = true) :
    ∃ p, s.coordinator.pending settings = some p ∧ c.guarantee s.trace p.state p.request := by
  have hkeeps : s.coordinator.KeepsLoop c atTurn s.trace := by
    refine Session.invariant_of_reachable (I := fun h task => task.KeepsLoop c atTurn h)
      (.turn hturn hstart) (fun s choice p a w hok hp hrespond hinv => ?_) h
    have hrely := hallowed s choice p a w hok hp hrespond
    cases htask : s.coordinator with
    | looping program =>
      rw [htask] at hp hinv
      cases program with
      | done r => cases hp
      | ask state q k =>
        cases hp
        exact .afterTurn hturn (hinv.2 a hrely)
    | closing program =>
      rw [htask] at hp
      cases program with
      | done r => cases hp
      | ask state q k =>
        cases hp
        exact .afterShutdown _
    | finished result state =>
      rw [htask] at hp
      cases hp
  cases htask : s.coordinator with
  | looping program =>
    rw [htask] at hkeeps
    cases program with
    | done r => exact hkeeps.elim
    | ask state q k => exact ⟨_, rfl, hkeeps.1⟩
  | _ =>
    rw [htask] at hloop
    cases hloop

end Runs

/-! A client whose frames the codec reads, for runs on fixed inputs. -/
section Sample

def utf8 (text : String) : List UInt8 := text.toList.flatMap String.utf8EncodeChar

/-- A hello that offers one version and the JSON codec. -/
def helloText (minor : String) : String :=
  "\x7b\"kind\":\"hello\",\"payload\":\x7b\"supported_versions\":[" ++
    "\x7b\"major\":0,\"minor\":" ++ minor ++ ",\"patch\":0\x7d],\"codecs\":[\"json\"]\x7d\x7d"

def sampleHello : String := helloText "1"

def sampleAuthenticate : String :=
  "\x7b\"kind\":\"authenticate\",\"payload\":\x7b\"request_id\":" ++
    "\"00000000-0000-0000-0000-000000000000\",\"credentials\":" ++
    "\x7b\"scheme\":\"token\",\"credential\":\"alice\"\x7d\x7d\x7d"

def sampleSubscribe : String :=
  "\x7b\"kind\":\"subscribe\",\"payload\":\x7b\"request_id\":" ++
    "\"00000000-0000-0000-0000-000000000000\",\"session_id\":" ++
    "\"00000000-0000-0000-0000-000000000000\",\"event_types\":[]\x7d\x7d"

def sampleClose : String :=
  "\x7b\"kind\":\"close\",\"payload\":\x7b\"reason\":null\x7d\x7d"

def sampleId (kind : IdKind) : DomainId kind := ⟨⟨⟨.replicate 16 0⟩⟩⟩

def sampleRequest : SubscriptionRequest := ⟨sampleId .message, sampleId .session, []⟩

def sampleBinding : ActorBinding := ⟨sampleId .actor, ⟨"token"⟩⟩

/-- The JSON codec at the four texts. -/
def sampleCodec : MessageCodec where
  name := "json"
  decodeInbound bytes :=
    if bytes = utf8 sampleHello then .ok (.hello ⟨[currentProtocolVersion], ["json"]⟩)
    else if bytes = utf8 sampleAuthenticate then
      .ok (.authenticate ⟨sampleId .message, ⟨"token", "alice"⟩⟩)
    else if bytes = utf8 sampleSubscribe then .ok (.subscribe sampleRequest)
    else if bytes = utf8 sampleClose then .ok (.close ⟨none⟩)
    else .error .invalidJson
  -- In none of the runs does the writer get as far as encoding a message.
  encodeOutbound _ := .error .encodeFailed

def sampleSettings (inboundCapacity outboundCapacity : Nat) : SessionSettings where
  config := ⟨⟨outboundCapacity, 1024, 1000, 1000⟩, inboundCapacity, 1, 1, 1, 3000, 1000⟩
  bootstrapCodec := sampleCodec
  codec := sampleCodec
  hasQueryExecutor := false

def sampleSystem (settings : SessionSettings) (allowed : Session → SessionAction → Prop) :
    Transition.System Session :=
  Session.system settings (sampleId .connection) ⟨[]⟩ allowed

/-- The reader passes a text of the client on, and the coordinator takes it. -/
def sampleText (text : String) : List SessionAction :=
  [.task (.reader (.next (some (.ok (.text (utf8 text)))))), .task (.reader .resume),
    .coordinator .reader]

/-- What a run can be seen to reach. -/
theorem exists_pending_of_run (settings : SessionSettings)
    (allowed : Session → SessionAction → Prop) [∀ s action, Decidable (allowed s action)]
    (actions : List SessionAction) (check : Session → CoordinatorTask.Pending → Bool)
    (hvalid : settings.config.validate = .ok ())
    (hrun : ((Session.start settings (sampleId .connection) ⟨[]⟩).run settings allowed actions).any
      (fun s => (s.coordinator.pending settings).any (check s)) = true) :
    ∃ s p, (sampleSystem settings allowed).Reachable s ∧
      s.coordinator.pending settings = some p ∧ check s p = true := by
  obtain ⟨s, hs, hany⟩ := (Option.any_eq_true _ _).mp hrun
  obtain ⟨p, hp, hcheck⟩ := (Option.any_eq_true _ _).mp hany
  exact ⟨s, p, Session.reachable_of_run actions (.init ⟨hvalid, rfl⟩) hs, hp, hcheck⟩

/-- The log and the end of a run. -/
def Session.logged (settings : SessionSettings) : Session.Log → Session → List SessionAction →
    Option (Session.Log × Session)
  | log, s, [] => some (log, s)
  | log, s, action :: rest =>
    s.step settings action >>= fun next => logged settings (log ++ [(s, action)]) next rest

theorem Session.run_of_logged {settings : SessionSettings} {start s : Session}
    (actions : List SessionAction) {log : Session.Log} {r : Session.Log × Session}
    (hrun : Transition.Run (step settings) start log s)
    (hlogged : logged settings log s actions = some r) :
    Transition.Run (step settings) start r.1 r.2 := by
  induction actions generalizing log s with
  | nil =>
    cases hlogged
    exact hrun
  | cons action rest ih =>
    obtain ⟨next, hstep, hrest⟩ := Option.bind_eq_some_iff.mp hlogged
    exact ih (hrun.step hstep) hrest

theorem exists_run_of_logged (settings : SessionSettings) (actions : List SessionAction)
    (check : Session.Log → Session → Bool) (hvalid : settings.config.validate = .ok ())
    (hlogged : (Session.logged settings [] (.start settings (sampleId .connection) ⟨[]⟩)
      actions).any (fun r => check r.1 r.2) = true) :
    ∃ log s, Session.Run settings (sampleId .connection) ⟨[]⟩ log s ∧ check log s = true := by
  obtain ⟨r, hr, hcheck⟩ := (Option.any_eq_true _ _).mp hlogged
  exact ⟨r.1, r.2, ⟨hvalid, Session.run_of_logged actions .start hr⟩, hcheck⟩

end Sample
end OrbitRelay
