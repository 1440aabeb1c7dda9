import OrbitRelay.Lib.Channel
import OrbitRelay.Lib.Program
import OrbitRelay.Transport.Message

/-! The coordinator, the single owner of one connection's transport state. It is a program that
pauses wherever the source awaits, touches a channel or calls a port. -/
namespace OrbitRelay
open Pausing

/-- Classified input emitted by the reader task. -/
inductive ReaderEvent
  | text (bytes : List UInt8)
  | nativePing (payload : List UInt8)
  | nativePong
  | closed
  | binary
  | oversized

/-- Commands accepted by the writer task. -/
inductive WriterCommand
  | application (message : OutboundMessage) (codec : MessageCodec)
  | nativePing (payload : List UInt8)
  | nativePong (payload : List UInt8)
  | close

/-- Results arriving from worker and pump tasks. -/
inductive CoordinatorEvent
  | actionCompleted (requestId : MessageId) (actionId : ActionId)
      (result : Except TransportExecutionError (List Event))
  | queryCompleted (response : QueryResponse)
  | subscriptionFinished (id : TransportSubscriptionId)
  | eventSourceFailed (id : TransportSubscriptionId) (error : TransportError)
      (fatal errorQueued : Bool)
  | slowConsumer (id : TransportSubscriptionId)
  | writerFailed (error : WebSocketAdapterError)
  | readerFailed (error : String)

structure ActionJob where
  requestId : MessageId
  action : Action

structure QueryJob where
  actor : QueryActorContext
  request : QueryRequest

/-- The tasks of a session. Pumps are named by the order in which they were spawned, and the
tasks of the query worker by their place in its set. -/
inductive TaskId
  | reader | writer | actionWorker | queryWorker
  | queryTask (index : Nat)
  | pump (index : Nat)
deriving DecidableEq

/-- The cancellation token and the task of one event pump. -/
structure SubscriptionHandle where
  pump : Nat
deriving DecidableEq

/-- What a session is started with. The ports other than the codecs answer requests. -/
structure SessionSettings where
  config : WebSocketAdapterConfig
  bootstrapCodec : MessageCodec
  codec : MessageCodec
  hasQueryExecutor : Bool

/-- The local variables of `run_coordinator`. -/
structure Coordinator where
  connection : TransportConnection
  activeCodec : MessageCodec
  negotiatedVersion : Option Version
  subscriptions : List (TransportSubscriptionId × SubscriptionHandle)
  fatalError : Option WebSocketAdapterError
  fatalErrorQueued : Bool
  gracefulClose : Bool

def Coordinator.start (settings : SessionSettings) (connection : TransportConnection) :
    Coordinator where
  connection := connection
  activeCodec := settings.bootstrapCodec
  negotiatedVersion := none
  subscriptions := []
  fatalError := none
  fatalErrorQueued := false
  gracefulClose := false

/-- The branch that the coordinator's `select!` takes. A heartbeat tells which deadlines have
passed. -/
inductive CoordinatorInput
  | reader (input : Option ReaderEvent)
  | event (event : Option CoordinatorEvent)
  | heartbeat (negotiationElapsed activityElapsed : Bool)

/-- An attempt to put something on a channel without waiting. -/
inductive Enqueue
  | application (codec : MessageCodec) (message : OutboundMessage)
  | queryResponse (codec : MessageCodec) (version : Version) (response : QueryResponse)
      (maxMessageBytes : Nat)
  | error (codec : MessageCodec) (requestId : Option MessageId) (error : TransportError)
  | writer (command : WriterCommand)
  | action (job : ActionJob)
  | query (job : QueryJob)

/-- What the coordinator does to its tasks and tokens, without a result. -/
inductive Effect
  | closeSource (id : TransportSubscriptionId)
  | cancelPump (handle : SubscriptionHandle)
  | join (task : TaskId)
  | cancel
  | dropSenders

/-- Where the coordinator pauses. -/
inductive CoordinatorRequest
  | select
  | enqueue (item : Enqueue)
  | perform (effect : Effect)
  | negotiate (supportedVersions : List Version)
  | resolve (connectionId : ConnectionId) (credentials : InboundCredentials)
  | authorize (binding : ActorBinding) (request : SubscriptionRequest)
  | subscribe (request : SubscriptionRequest)
  | spawnPump (id : TransportSubscriptionId) (version : Version) (codec : MessageCodec)
  | sendClose
  | awaitWriter
  | drain (handles : List SubscriptionHandle)

/-- What a request returns. -/
def CoordinatorRequest.Answer : CoordinatorRequest → Type
  | select => CoordinatorInput
  | enqueue _ | sendClose | awaitWriter => Bool
  | perform _ => Unit
  | negotiate _ => Except VersionNegotiationError Version
  | resolve .. => Except IdentityError ActorBinding
  | authorize .. => Except SubscriptionAuthorizationError Unit
  | subscribe _ => Except EventSourceError TransportSubscriptionId
  | spawnPump .. => SubscriptionHandle
  | drain _ => List SubscriptionHandle

abbrev CoordinatorM := Proc CoordinatorRequest CoordinatorRequest.Answer Coordinator

/-- Code that may return early with an error; the state stays as it was left. -/
abbrev HandlerM := ExceptT WebSocketAdapterError CoordinatorM

abbrev CoordinatorExchange := Exchange CoordinatorRequest CoordinatorRequest.Answer Coordinator

/-- The exchanges of the coordinator so far. -/
abbrev CoordinatorTrace := List CoordinatorExchange

section Requests

def ask (request : CoordinatorRequest) : CoordinatorM request.Answer := Proc.request request

def select : CoordinatorM CoordinatorInput := ask .select

def enqueue (item : Enqueue) : CoordinatorM Bool := ask (.enqueue item)

def perform (effect : Effect) : CoordinatorM Unit := ask (.perform effect)

def negotiate (supportedVersions : List Version) :
    CoordinatorM (Except VersionNegotiationError Version) :=
  ask (.negotiate supportedVersions)

def resolve (connectionId : ConnectionId) (credentials : InboundCredentials) :
    CoordinatorM (Except IdentityError ActorBinding) :=
  ask (.resolve connectionId credentials)

def authorize (binding : ActorBinding) (request : SubscriptionRequest) :
    CoordinatorM (Except SubscriptionAuthorizationError Unit) :=
  ask (.authorize binding request)

def subscribe (request : SubscriptionRequest) :
    CoordinatorM (Except EventSourceError TransportSubscriptionId) :=
  ask (.subscribe request)

def spawnPump (id : TransportSubscriptionId) (version : Version) (codec : MessageCodec) :
    CoordinatorM SubscriptionHandle :=
  ask (.spawnPump id version codec)

def sendClose : CoordinatorM Bool := ask .sendClose

def awaitWriter : CoordinatorM Bool := ask .awaitWriter

def drain (handles : List SubscriptionHandle) : CoordinatorM (List SubscriptionHandle) :=
  ask (.drain handles)

/-- `queue_application`, `queue_query_response` and `queue_error` with the writer's sender. -/
abbrev queueApplication (codec : MessageCodec) (message : OutboundMessage) : CoordinatorM Bool :=
  enqueue (.application codec message)

abbrev queueQueryResponse (codec : MessageCodec) (version : Version) (response : QueryResponse)
    (maxMessageBytes : Nat) : CoordinatorM Bool :=
  enqueue (.queryResponse codec version response maxMessageBytes)

abbrev queueError (codec : MessageCodec) (requestId : Option MessageId) (error : TransportError) :
    CoordinatorM Bool :=
  enqueue (.error codec requestId error)

/-- `handle.cancellation.cancel()` and `handle.task.await`. -/
def stopPump (handle : SubscriptionHandle) : CoordinatorM Unit := do
  perform (.cancelPump handle)
  perform (.join (.pump handle.pump))

end Requests

section Handlers

def orThrow {ε α : Type} (wrap : ε → WebSocketAdapterError) : Except ε α → HandlerM α
  | .ok a => pure a
  | .error e => throw (wrap e)

/-- A reply that must be queued: `if !queued { return Err(SlowConsumer) }`. -/
def required (queued : CoordinatorM Bool) : HandlerM Unit := do
  if ! (← queued) then throw (.transport .slowConsumer)

def ensureReady (connection : TransportConnection) : Except WebSocketAdapterError Unit :=
  match connection.state with
  | .ready => .ok ()
  | .authenticating => .error (.transport (.identity .authenticationRequired))
  | state =>
    .error (.transport (.connectionState (.operationNotAllowed "data_plane_message" state)))

def setConnection (connection : TransportConnection) : HandlerM Unit :=
  modify fun s => { s with connection := connection }

def handleHello (settings : SessionSettings) (hello : Hello) : HandlerM Unit := do
  if (← get).connection.state ≠ .negotiating then
    throw (.transport (.internal "duplicate or late hello"))
  if ! hello.codecs.any (· == "json") || (← get).activeCodec.name != "json" then
    throw (.transport (.codec (.unsupportedMessageType "codec")))
  let version ← orThrow (fun e => .transport (.version e))
    (← negotiate hello.supportedVersions)
  setConnection (← orThrow .connectionState (← get).connection.beginAuthentication)
  modify fun s => { s with negotiatedVersion := some version }
  required (queueApplication settings.bootstrapCodec (.helloAccepted ⟨version, "json"⟩))
  modify fun s => { s with activeCodec := settings.codec }

def handleAuthenticate (authenticate : Authenticate) : HandlerM Unit := do
  if (← get).connection.state ≠ .authenticating then
    throw (.transport (.connectionState
      (.operationNotAllowed "authenticate" (← get).connection.state)))
  match ← resolve (← get).connection.id authenticate.credentials with
  | .ok binding =>
    setConnection (← orThrow .connectionState ((← get).connection.bindIdentity binding))
    setConnection (← orThrow .transport (← get).connection.markReady)
  | .error e => throw (.transport (.identity e))

def handlePing (ping : PingMessage) : HandlerM Unit := do
  required (queueApplication (← get).activeCodec (.pong ⟨ping.nonce⟩))

def handleAction (envelope : MessageEnvelope Action) : HandlerM Unit := do
  orThrow (fun e => e) (ensureReady (← get).connection)
  orThrow (fun e => .transport (.identity e))
    (validateActionBinding (← get).connection.identity envelope.payload)
  if ! (← enqueue (.action ⟨envelope.messageId, envelope.payload⟩)) then
    throw (.transport (.execution (.unavailable "action queue is full")))

/-- The answer to a query that was not admitted. -/
def unavailableResponse (message : QueryMessage) : QueryResponse :=
  .error message.messageId message.messageType
    ⟨.unavailable, "The query service is temporarily unavailable.", true⟩

def handleQuery (settings : SessionSettings) (message : QueryMessage) : HandlerM Unit := do
  orThrow (fun e => e) (ensureReady (← get).connection)
  let limit := settings.config.transport.maxMessageBytes
  match (← get).negotiatedVersion with
  | none => throw (.transport (.version (.unsupportedVersion [queryProtocolVersion])))
  | some negotiated =>
    if negotiated ≠ queryProtocolVersion ∨ message.version ≠ queryProtocolVersion then
      required (queueError (← get).activeCodec (some message.messageId)
        (.version (.unsupportedVersion [queryProtocolVersion])))
    else
      match (← get).connection.identity with
      | none => throw (.transport (.identity .authenticationRequired))
      | some binding =>
        if ! settings.hasQueryExecutor then
          required (queueQueryResponse (← get).activeCodec negotiated
            (unavailableResponse message) limit)
        else if ! (← enqueue (.query ⟨.new binding.actorId, message.intoRequest⟩)) then
          required (queueQueryResponse (← get).activeCodec negotiated
            (unavailableResponse message) limit)

def handleSubscribe (request : SubscriptionRequest) : HandlerM Unit := do
  orThrow (fun e => e) (ensureReady (← get).connection)
  match (← get).connection.identity with
  | none => throw (.transport (.identity .authenticationRequired))
  | some binding =>
    orThrow (fun e => .transport (.subscriptionAuthorization e)) (← authorize binding request)
    let id ← orThrow (fun e => .transport (.eventSource e)) (← subscribe request)
    if (← get).subscriptions.any (·.1 == id) then
      throw (.transport (.internal "duplicate subscription identifier"))
    match (← get).negotiatedVersion with
    | none => throw (.transport (.version (.unsupportedVersion [])))
    | some version =>
      let codec := (← get).activeCodec
      if ! (← queueApplication codec (.subscriptionAccepted ⟨request.requestId, id⟩)) then
        perform (.closeSource id)
        throw (.transport .slowConsumer)
      let handle ← spawnPump id version codec
      modify fun s => { s with subscriptions := s.subscriptions ++ [(id, handle)] }

/-- The handle of a subscription, and the map without it. -/
def removeSubscription (id : TransportSubscriptionId) (s : Coordinator) :
    Option (SubscriptionHandle × Coordinator) :=
  (s.subscriptions.find? (·.1 == id)).map fun entry =>
    (entry.2, { s with subscriptions := s.subscriptions.filter (·.1 != id) })

def handleUnsubscribe (unsubscribe : Unsubscribe) : HandlerM Unit := do
  orThrow (fun e => e) (ensureReady (← get).connection)
  let id := unsubscribe.subscriptionId
  match removeSubscription id (← get) with
  | none =>
    required (queueError (← get).activeCodec (some unsubscribe.requestId)
      (.subscriptionAuthorization (.rejected "subscription does not exist")))
  | some (handle, s) =>
    set s
    stopPump handle
    required (queueApplication (← get).activeCodec
      (.subscriptionClosed ⟨some unsubscribe.requestId, id⟩))

def handleInbound (settings : SessionSettings) : InboundMessage → HandlerM Unit
  | .hello hello => handleHello settings hello
  | .authenticate authenticate => handleAuthenticate authenticate
  | .ping ping => handlePing ping
  | .close _ => pure ()
  | .action envelope => handleAction envelope
  | .query message => handleQuery settings message
  | .subscribe request => handleSubscribe request
  | .unsubscribe unsubscribe => handleUnsubscribe unsubscribe

end Handlers

section Rules
variable {c : Contract CoordinatorRequest CoordinatorRequest.Answer Coordinator}
  {h : CoordinatorTrace} {s : Coordinator}

theorem wp_ask (q : CoordinatorRequest)
    (post : q.Answer → CoordinatorTrace → Coordinator → Prop) :
    (ask q).wp c post h s ↔
      c.guarantee h s q ∧ ∀ a, c.rely h s q a → post a (h ++ [⟨s, q, a⟩]) s :=
  Proc.wp_request q post

@[simp] theorem wp_select (post : CoordinatorInput → CoordinatorTrace → Coordinator → Prop) :
    select.wp c post h s ↔ c.guarantee h s .select ∧
      ∀ a : CoordinatorInput, c.rely h s .select a → post a (h ++ [⟨s, .select, a⟩]) s :=
  wp_ask .select post

@[simp] theorem wp_enqueue (item : Enqueue) (post : Bool → CoordinatorTrace → Coordinator → Prop) :
    (enqueue item).wp c post h s ↔ c.guarantee h s (.enqueue item) ∧
      ∀ a : Bool, c.rely h s (.enqueue item) a → post a (h ++ [⟨s, .enqueue item, a⟩]) s :=
  wp_ask (.enqueue item) post

@[simp] theorem wp_perform (effect : Effect)
    (post : Unit → CoordinatorTrace → Coordinator → Prop) :
    (perform effect).wp c post h s ↔ c.guarantee h s (.perform effect) ∧
      ∀ a : Unit, c.rely h s (.perform effect) a → post a (h ++ [⟨s, .perform effect, a⟩]) s :=
  wp_ask (.perform effect) post

@[simp] theorem wp_stopPump (handle : SubscriptionHandle)
    (post : Unit → CoordinatorTrace → Coordinator → Prop) :
    (stopPump handle).wp c post h s ↔ (perform (.cancelPump handle)).wp c
      (fun _ h s => (perform (.join (.pump handle.pump))).wp c post h s) h s :=
  Iff.rfl

@[simp] theorem wp_negotiate (supportedVersions : List Version)
    (post : Except VersionNegotiationError Version → CoordinatorTrace → Coordinator → Prop) :
    (negotiate supportedVersions).wp c post h s ↔
      c.guarantee h s (.negotiate supportedVersions) ∧
      ∀ a : Except VersionNegotiationError Version, c.rely h s (.negotiate supportedVersions) a →
        post a (h ++ [⟨s, .negotiate supportedVersions, a⟩]) s :=
  wp_ask (.negotiate supportedVersions) post

@[simp] theorem wp_resolve (connectionId : ConnectionId) (credentials : InboundCredentials)
    (post : Except IdentityError ActorBinding → CoordinatorTrace → Coordinator → Prop) :
    (resolve connectionId credentials).wp c post h s ↔
      c.guarantee h s (.resolve connectionId credentials) ∧
      ∀ a : Except IdentityError ActorBinding, c.rely h s (.resolve connectionId credentials) a →
        post a (h ++ [⟨s, .resolve connectionId credentials, a⟩]) s :=
  wp_ask (.resolve connectionId credentials) post

@[simp] theorem wp_authorize (binding : ActorBinding) (request : SubscriptionRequest)
    (post : Except SubscriptionAuthorizationError Unit → CoordinatorTrace → Coordinator → Prop) :
    (authorize binding request).wp c post h s ↔
      c.guarantee h s (.authorize binding request) ∧
      ∀ a : Except SubscriptionAuthorizationError Unit, c.rely h s (.authorize binding request) a →
        post a (h ++ [⟨s, .authorize binding request, a⟩]) s :=
  wp_ask (.authorize binding request) post

@[simp] theorem wp_subscribe (request : SubscriptionRequest)
    (post : Except EventSourceError TransportSubscriptionId → CoordinatorTrace → Coordinator →
      Prop) :
    (subscribe request).wp c post h s ↔ c.guarantee h s (.subscribe request) ∧
      ∀ a : Except EventSourceError TransportSubscriptionId, c.rely h s (.subscribe request) a →
        post a (h ++ [⟨s, .subscribe request, a⟩]) s :=
  wp_ask (.subscribe request) post

@[simp] theorem wp_spawnPump (id : TransportSubscriptionId) (version : Version)
    (codec : MessageCodec) (post : SubscriptionHandle → CoordinatorTrace → Coordinator → Prop) :
    (spawnPump id version codec).wp c post h s ↔ c.guarantee h s (.spawnPump id version codec) ∧
      ∀ a : SubscriptionHandle, c.rely h s (.spawnPump id version codec) a →
        post a (h ++ [⟨s, .spawnPump id version codec, a⟩]) s :=
  wp_ask (.spawnPump id version codec) post

@[simp] theorem wp_sendClose (post : Bool → CoordinatorTrace → Coordinator → Prop) :
    sendClose.wp c post h s ↔ c.guarantee h s .sendClose ∧
      ∀ a : Bool, c.rely h s .sendClose a → post a (h ++ [⟨s, .sendClose, a⟩]) s :=
  wp_ask .sendClose post

@[simp] theorem wp_awaitWriter (post : Bool → CoordinatorTrace → Coordinator → Prop) :
    awaitWriter.wp c post h s ↔ c.guarantee h s .awaitWriter ∧
      ∀ a : Bool, c.rely h s .awaitWriter a → post a (h ++ [⟨s, .awaitWriter, a⟩]) s :=
  wp_ask .awaitWriter post

@[simp] theorem wp_drain (handles : List SubscriptionHandle)
    (post : List SubscriptionHandle → CoordinatorTrace → Coordinator → Prop) :
    (drain handles).wp c post h s ↔ c.guarantee h s (.drain handles) ∧
      ∀ a : List SubscriptionHandle, c.rely h s (.drain handles) a →
        post a (h ++ [⟨s, .drain handles, a⟩]) s :=
  wp_ask (.drain handles) post

@[simp] theorem wp_orThrow_ok {ε α : Type} (wrap : ε → WebSocketAdapterError) (a : α)
    (post : Except WebSocketAdapterError α → CoordinatorTrace → Coordinator → Prop) :
    (orThrow wrap (.ok a)).run.wp c post h s ↔ post (.ok a) h s :=
  Iff.rfl

@[simp] theorem wp_setConnection (connection : TransportConnection)
    (post : Except WebSocketAdapterError Unit → CoordinatorTrace → Coordinator → Prop) :
    (setConnection connection).run.wp c post h s ↔
      post (.ok ()) h { s with connection := connection } :=
  Iff.rfl

/-- What `required` makes of the answer to its enqueue. -/
def requiredResult (queued : Bool) : Except WebSocketAdapterError Unit :=
  if queued then .ok () else .error (.transport .slowConsumer)

@[simp] theorem wp_required (queued : CoordinatorM Bool)
    (post : Except WebSocketAdapterError Unit → CoordinatorTrace → Coordinator → Prop) :
    (required queued).run.wp c post h s ↔ queued.wp c (fun r => post (requiredResult r)) h s := by
  unfold required
  rw [Proc.wp_run_bind, Proc.wp_run_liftM]
  refine iff_of_eq (congrArg (fun after => queued.wp c after h s) ?_)
  funext r
  cases r <;> rfl

/-- Taking a subscription out touches nothing else. -/
theorem removeSubscription_eq_some {id : TransportSubscriptionId} {handle : SubscriptionHandle}
    {s' : Coordinator} (hremoved : removeSubscription id s = some (handle, s')) :
    ∃ rest, s' = { s with subscriptions := rest } := by
  obtain ⟨entry, -, heq⟩ := Option.map_eq_some_iff.mp hremoved
  cases heq
  exact ⟨_, rfl⟩

theorem ensureReady_eq_ok {connection : TransportConnection} :
    ensureReady connection = .ok () ↔ connection.state = .ready := by
  unfold ensureReady
  cases connection.state <;> simp

/-- The data-plane handlers start with `ensure_ready`: what follows it runs on a ready connection. -/
theorem wp_whenReady {α : Type} {next : HandlerM α}
    {post : Except WebSocketAdapterError α → CoordinatorTrace → Coordinator → Prop}
    (hunready : ∀ error, s.connection.state ≠ .ready → post (.error error) h s)
    (hnext : s.connection.state = .ready → next.run.wp c post h s) :
    (do
      orThrow (fun e => e) (ensureReady (← get).connection)
      next : HandlerM α).run.wp c post h s := by
  simp only [Proc.wp_run_bind, Proc.wp_run_get, Proc.afterResult_ok]
  cases hready : ensureReady s.connection with
  | error error =>
    refine hunready error fun hstate => ?_
    rw [ensureReady_eq_ok.mpr hstate] at hready
    cases hready
  | ok => exact hnext (ensureReady_eq_ok.mp hready)

end Rules

section Loop

/-- Whether the coordinator's loop goes round again. -/
inductive LoopControl
  | next
  | stop

/-- Sets the fatal error and breaks the loop. -/
def stopWith (error : WebSocketAdapterError) (queued : Bool) : CoordinatorM LoopControl := do
  modify fun s => { s with fatalError := some error, fatalErrorQueued := queued }
  return .stop

def stopGracefully : CoordinatorM LoopControl := do
  modify fun s => { s with gracefulClose := true }
  return .stop

/-- Breaks the loop when a message of the loop itself was not queued. -/
def orSlowConsumer (queued : Bool) : CoordinatorM LoopControl :=
  if queued then return .next else stopWith (.transport .slowConsumer) false

def WebSocketAdapterError.isFatal : WebSocketAdapterError → Bool
  | .connectionState (.invalidTransition ..) => true
  | .transport (.version _) => true
  | .frame _ => true
  | _ => false

/-- The transport error that reports an error of `handle_inbound`. -/
def WebSocketAdapterError.toTransportError : WebSocketAdapterError → TransportError
  | .transport error => error
  | .connectionState error => .connectionState error
  | error => .internal error.toString

/-- The transport error that reports the fatal error of the session. -/
def WebSocketAdapterError.toFinalError : WebSocketAdapterError → TransportError
  | .transport error => error
  | error => .internal error.toString

/-- The call of `handle_inbound`, with its error path. -/
def handleMessage (settings : SessionSettings) (message : InboundMessage) :
    CoordinatorM LoopControl := do
  match ← (handleInbound settings message).run with
  | .ok () => return .next
  | .error error =>
    let queued ← queueError (← get).activeCodec none error.toTransportError
    if error.isFatal || ! queued then stopWith error queued else return .next

def handleText (settings : SessionSettings) (bytes : List UInt8) : CoordinatorM LoopControl := do
  match (← get).activeCodec.decodeInbound bytes with
  | .error error =>
    orSlowConsumer (← queueError (← get).activeCodec none (.codec error))
  | .ok (.close _) => stopGracefully
  | .ok message => handleMessage settings message

def handleReaderEvent (settings : SessionSettings) : ReaderEvent → CoordinatorM LoopControl
  | .text bytes => handleText settings bytes
  | .nativePing payload => do
    orSlowConsumer (← enqueue (.writer (.nativePong payload)))
  | .nativePong => return .next
  | .closed => stopGracefully
  | .binary => do
    let queued ← queueError (← get).activeCodec none (.codec .invalidMessageShape)
    stopWith (.frame "binary WebSocket frames are not supported") queued
  | .oversized => do
    let queued ← queueError (← get).activeCodec none (.codec .invalidMessageShape)
    stopWith (.frame "WebSocket message exceeds max_message_bytes") queued

def handleCoordinatorEvent (settings : SessionSettings) :
    CoordinatorEvent → CoordinatorM LoopControl
  | .actionCompleted requestId actionId (.ok events) => do
    let acknowledgement := .actionAcknowledgement ⟨requestId, actionId, events.map (·.id)⟩
    orSlowConsumer (← queueApplication (← get).activeCodec acknowledgement)
  | .actionCompleted requestId _ (.error error) => do
    orSlowConsumer (← queueError (← get).activeCodec (some requestId) (.execution error))
  | .queryCompleted response => do
    let version := (← get).negotiatedVersion.getD queryProtocolVersion
    orSlowConsumer (← queueQueryResponse (← get).activeCodec version response
      settings.config.transport.maxMessageBytes)
  | .subscriptionFinished id => do
    match removeSubscription id (← get) with
    | none => return .next
    | some (handle, s) =>
      set s
      stopPump handle
      orSlowConsumer (← queueApplication (← get).activeCodec (.subscriptionClosed ⟨none, id⟩))
  | .eventSourceFailed id error fatal errorQueued => do
    if fatal then stopWith (.transport error) errorQueued
    else
      match removeSubscription id (← get) with
      | none => return .next
      | some (handle, s) =>
        set s
        stopPump handle
        return .next
  | .slowConsumer _ => do
    let queued ← queueError (← get).activeCodec none .slowConsumer
    stopWith (.transport .slowConsumer) queued
  | .writerFailed error => stopWith error false
  | .readerFailed error => stopWith (.task error) false

def handleHeartbeat (negotiationElapsed activityElapsed : Bool) : CoordinatorM LoopControl := do
  if (← get).connection.state == .negotiating && negotiationElapsed then
    stopWith (.frame "protocol negotiation timed out") false
  else if activityElapsed then stopWith (.frame "WebSocket heartbeat timed out") false
  else orSlowConsumer (← enqueue (.writer (.nativePing [])))

/-- One turn of the loop of `run_coordinator`. -/
def turn (settings : SessionSettings) : CoordinatorM LoopControl := do
  match ← select with
  | .reader none => stopGracefully
  | .reader (some input) => handleReaderEvent settings input
  | .event none => stopWith (.task "coordinator event channel closed") false
  | .event (some event) => handleCoordinatorEvent settings event
  | .heartbeat negotiationElapsed activityElapsed =>
    handleHeartbeat negotiationElapsed activityElapsed

/-- The connection after `begin_close` and `close`, whose errors are ignored. -/
def TransportConnection.shutDown (connection : TransportConnection) : TransportConnection :=
  let closing :=
    if connection.state ≠ .closed ∧ connection.state ≠ .closing then
      connection.beginClose.toOption.getD connection
    else connection
  if closing.state = .closing then closing.close.toOption.getD closing else closing

def joinPumps : List SubscriptionHandle → CoordinatorM Unit
  | [] => return ()
  | handle :: rest => do
    stopPump handle
    joinPumps rest

/-- Tells the client of a fatal error that no branch has queued. -/
def reportFatalError : CoordinatorM Unit := do
  let s ← get
  match s.gracefulClose, s.fatalError, s.fatalErrorQueued with
  | false, some error, false =>
    let _ ← queueError s.activeCodec none error.toFinalError
  | _, _, _ => pure ()

/-- Asks the writer to close, closes the connection, and waits a second for the writer. -/
def closeWriter : CoordinatorM Bool := do
  let writerCloseQueued ← sendClose
  modify fun s => { s with connection := s.connection.shutDown }
  if writerCloseQueued then awaitWriter else return false

def joinSubscriptions : CoordinatorM Unit := do
  let order ← drain ((← get).subscriptions.map (·.2))
  modify fun s => { s with subscriptions := [] }
  joinPumps order

def joinIf (running : Bool) (task : TaskId) : CoordinatorM Unit :=
  if running then perform (.join task) else return ()

/-- The end of `run_coordinator`, after its loop. -/
def shutdown (settings : SessionSettings) : CoordinatorM (Except WebSocketAdapterError Unit) := do
  reportFatalError
  let writerFinished ← closeWriter
  perform .cancel
  perform .dropSenders
  joinSubscriptions
  perform (.join .reader)
  perform (.join .actionWorker)
  joinIf settings.hasQueryExecutor .queryWorker
  joinIf (! writerFinished) .writer
  return (← get).fatalError.elim (.ok ()) .error

end Loop

section LoopRules
variable {c : Contract CoordinatorRequest CoordinatorRequest.Answer Coordinator}
  {h : CoordinatorTrace} {s : Coordinator}

@[simp] theorem wp_orSlowConsumer (queued : Bool)
    (post : LoopControl → CoordinatorTrace → Coordinator → Prop) :
    (orSlowConsumer queued).wp c post h s ↔ (queued = true → post .next h s) ∧
      (queued = false → (stopWith (.transport .slowConsumer) false).wp c post h s) := by
  cases queued <;> simp [orSlowConsumer]

end LoopRules

/-- The requests of the shutdown sequence. -/
def CoordinatorRequest.inShutdown : CoordinatorRequest → Bool
  | .enqueue (.error _ none _) | .perform _ | .sendClose | .awaitWriter | .drain _ => true
  | _ => false

def CoordinatorRequest.isSelect : CoordinatorRequest → Bool
  | .select => true
  | _ => false

/-- The invariant keeps the contract through the shutdown sequence. -/
structure CarriesShutdown (c : Contract CoordinatorRequest CoordinatorRequest.Answer Coordinator)
    (I : CoordinatorTrace → Coordinator → Prop) : Prop where
  promise : ∀ {h s q}, I h s → q.inShutdown = true → c.guarantee h s q
  exchange : ∀ {h s q}, I h s → q.inShutdown = true → ∀ a, I (h ++ [⟨s, q, a⟩]) s
  close : ∀ {h s}, I h s → I h { s with connection := s.connection.shutDown }
  drain : ∀ {h s}, I h s → I h { s with subscriptions := [] }

namespace CarriesShutdown
variable {c : Contract CoordinatorRequest CoordinatorRequest.Answer Coordinator}
  {I : CoordinatorTrace → Coordinator → Prop} {h : CoordinatorTrace} {s : Coordinator}

theorem perform (hI : CarriesShutdown c I) (hs : I h s) (effect : Effect)
    {post : Unit → CoordinatorTrace → Coordinator → Prop} (hpost : ∀ h, I h s → post () h s) :
    (perform effect).wp c post h s := by
  rw [wp_perform]
  exact ⟨hI.promise hs rfl, fun a _ => hpost _ (hI.exchange (q := .perform effect) hs rfl a)⟩

theorem joinPumps (hI : CarriesShutdown c I) (handles : List SubscriptionHandle) (hs : I h s)
    {post : Unit → CoordinatorTrace → Coordinator → Prop} (hpost : ∀ h, I h s → post () h s) :
    (joinPumps handles).wp c post h s := by
  induction handles generalizing h with
  | nil => exact hpost h hs
  | cons handle rest ih =>
    simp only [OrbitRelay.joinPumps, Proc.wp_bind, wp_stopPump]
    exact hI.perform hs _ fun h hs => hI.perform hs _ fun h hs => ih hs

theorem joinIf (hI : CarriesShutdown c I) (hs : I h s) (running : Bool) (task : TaskId)
    {post : Unit → CoordinatorTrace → Coordinator → Prop} (hpost : ∀ h, I h s → post () h s) :
    (joinIf running task).wp c post h s := by
  simp only [OrbitRelay.joinIf, Proc.wp_ite, Proc.wp_pure]
  exact ⟨fun _ => hI.perform hs _ hpost, fun _ => hpost _ hs⟩

theorem reportFatalError (hI : CarriesShutdown c I) (hs : I h s)
    {post : Unit → CoordinatorTrace → Coordinator → Prop} (hpost : ∀ h, I h s → post () h s) :
    reportFatalError.wp c post h s := by
  simp only [OrbitRelay.reportFatalError, Proc.wp_bind, Proc.wp_get]
  split
  · simp only [Proc.wp_bind, wp_enqueue]
    exact ⟨hI.promise hs rfl, fun queued _ => hpost _ (hI.exchange (q := .enqueue _) hs rfl queued)⟩
  · exact hpost h hs

theorem closeWriter (hI : CarriesShutdown c I) (hs : I h s)
    {post : Bool → CoordinatorTrace → Coordinator → Prop}
    (hpost : ∀ finished h s, I h s → post finished h s) : closeWriter.wp c post h s := by
  simp only [OrbitRelay.closeWriter, Proc.wp_bind, Proc.wp_modify, wp_sendClose, Proc.wp_ite,
    wp_awaitWriter, Proc.wp_pure]
  refine ⟨hI.promise hs rfl, fun closeQueued _ => ?_⟩
  have hs' := hI.close (hI.exchange hs (q := .sendClose) rfl closeQueued)
  refine ⟨fun _ => ⟨hI.promise hs' rfl, fun finished _ => ?_⟩, fun _ => hpost _ _ _ hs'⟩
  exact hpost _ _ _ (hI.exchange (q := .awaitWriter) hs' rfl finished)

theorem joinSubscriptions (hI : CarriesShutdown c I) (hs : I h s)
    {post : Unit → CoordinatorTrace → Coordinator → Prop} (hpost : ∀ h s, I h s → post () h s) :
    joinSubscriptions.wp c post h s := by
  simp only [OrbitRelay.joinSubscriptions, Proc.wp_bind, Proc.wp_get, Proc.wp_modify, wp_drain]
  refine ⟨hI.promise hs rfl, fun order _ => ?_⟩
  have hs' := hI.drain (hI.exchange (q := .drain (s.subscriptions.map (·.2))) hs rfl order)
  exact hI.joinPumps order hs' fun h hs => hpost h _ hs

theorem shutdown (hI : CarriesShutdown c I) (settings : SessionSettings) (hs : I h s) :
    (shutdown settings).wp c (fun _ _ _ => True) h s := by
  simp only [OrbitRelay.shutdown, Proc.wp_bind, Proc.wp_get, Proc.wp_pure]
  refine hI.reportFatalError hs fun h hs => hI.closeWriter hs fun finished h s hs => ?_
  refine hI.perform hs _ fun h hs => hI.perform hs _ fun h hs => ?_
  refine hI.joinSubscriptions hs fun h s hs => ?_
  refine hI.perform hs _ fun h hs => hI.perform hs _ fun h hs => ?_
  exact hI.joinIf hs _ _ fun h hs => hI.joinIf hs _ _ fun _ _ => trivial

end CarriesShutdown
end OrbitRelay
