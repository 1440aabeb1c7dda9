import OrbitRelay.Lib.Result
import OrbitRelay.Transport.Session

/-! Values without their diagnostic texts. What a client is told depends on no such text, and
the child tasks only pass the texts on. -/
namespace OrbitRelay

section Errors

def IdentityError.redact : IdentityError → IdentityError
  | credentialsRejected _ => credentialsRejected ""
  | resolverUnavailable _ => resolverUnavailable ""
  | resolutionFailed _ => resolutionFailed ""
  | error => error

def TransportExecutionError.redact : TransportExecutionError → TransportExecutionError
  | rejected _ => rejected ""
  | unavailable _ => unavailable ""
  | failed _ => failed ""

def EventSourceError.redact : EventSourceError → EventSourceError
  | unavailable _ => unavailable ""
  | failed _ => failed ""
  | error => error

def SubscriptionAuthorizationError.redact :
    SubscriptionAuthorizationError → SubscriptionAuthorizationError
  | rejected _ => rejected ""
  | unavailable _ => unavailable ""
  | failed _ => failed ""

def TransportError.redact : TransportError → TransportError
  | identity error => identity error.redact
  | execution error => execution error.redact
  | subscriptionAuthorization error => subscriptionAuthorization error.redact
  | eventSource error => eventSource error.redact
  | internal _ => internal ""
  | error => error

/-- The texts of frame errors are the coordinator's own. -/
def WebSocketAdapterError.redact : WebSocketAdapterError → WebSocketAdapterError
  | transport error => transport error.redact
  | task _ => task ""
  | error => error

@[simp] theorem IdentityError.redact_redact (e : IdentityError) : e.redact.redact = e.redact := by
  cases e <;> rfl

@[simp] theorem TransportExecutionError.redact_redact (e : TransportExecutionError) :
    e.redact.redact = e.redact := by
  cases e <;> rfl

@[simp] theorem EventSourceError.redact_redact (e : EventSourceError) :
    e.redact.redact = e.redact := by
  cases e <;> rfl

@[simp] theorem SubscriptionAuthorizationError.redact_redact (e : SubscriptionAuthorizationError) :
    e.redact.redact = e.redact := by
  cases e <;> rfl

@[simp] theorem TransportError.redact_redact (e : TransportError) : e.redact.redact = e.redact := by
  cases e <;> simp [redact]

@[simp] theorem WebSocketAdapterError.redact_redact (e : WebSocketAdapterError) :
    e.redact.redact = e.redact := by
  cases e <;> simp [redact]

/-- The stable code is chosen without the texts. -/
theorem TransportError.code_redact (e : TransportError) : e.redact.code = e.code := by
  cases e with
  | identity error | execution error | subscriptionAuthorization error | eventSource error =>
    cases error <;> rfl
  | _ => rfl

theorem TransportError.isRetryable_redact (e : TransportError) :
    e.redact.isRetryable = e.isRetryable := by
  cases e with
  | identity error | execution error | subscriptionAuthorization error | eventSource error =>
    cases error <;> rfl
  | _ => rfl

theorem ErrorMessage.fromTransportError_redact (requestId : Option MessageId)
    (error : TransportError) :
    fromTransportError requestId error.redact = fromTransportError requestId error := by
  simp only [fromTransportError, error.code_redact, error.isRetryable_redact]

theorem WebSocketAdapterError.isFatal_redact (e : WebSocketAdapterError) :
    e.redact.isFatal = e.isFatal := by
  cases e with
  | transport error => cases error <;> rfl
  | _ => rfl

/-- A wrapped error keeps its text inside the wrapper. -/
theorem WebSocketAdapterError.toTransportError_redact (e : WebSocketAdapterError) :
    e.redact.toTransportError.redact = e.toTransportError.redact := by
  cases e with
  | transport error => exact error.redact_redact
  | _ => rfl

theorem WebSocketAdapterError.toFinalError_redact (e : WebSocketAdapterError) :
    e.redact.toFinalError.redact = e.toFinalError.redact := by
  cases e with
  | transport error => exact error.redact_redact
  | _ => rfl

end Errors

section Tasks

def CoordinatorEvent.redact : CoordinatorEvent → CoordinatorEvent
  | actionCompleted requestId actionId result =>
    actionCompleted requestId actionId (result.mapError TransportExecutionError.redact)
  | eventSourceFailed id error fatal errorQueued =>
    eventSourceFailed id error.redact fatal errorQueued
  | writerFailed error => writerFailed error.redact
  | readerFailed _ => readerFailed ""
  | event => event

def Send.redact : Send → Send
  | reader input => reader input
  | event told => event told.redact

def PumpPhase.redact : PumpPhase → PumpPhase
  | telling event close => telling event.redact close
  | phase => phase

def Pump.redact (pump : Pump) : Pump := { pump with phase := pump.phase.redact }

def World.redact (w : World) : World :=
  { w with eventChannel := w.eventChannel.map CoordinatorEvent.redact,
           pumps := w.pumps.map Pump.redact }

def ReaderChoice.redact : ReaderChoice → ReaderChoice
  | next (some (.error _)) => next (some (.error ""))
  | choice => choice

def WriterChoice.redact : WriterChoice → WriterChoice
  | written (.failed _) => written (.failed "")
  | choice => choice

def ActionWorkerChoice.redact : ActionWorkerChoice → ActionWorkerChoice
  | executed result => executed (result.mapError TransportExecutionError.redact)
  | choice => choice

def PumpChoice.redact : PumpChoice → PumpChoice
  | next result messageId => next (result.mapError EventSourceError.redact) messageId
  | choice => choice

/-- A move of a task without the texts that its dependencies answered with. -/
def TaskAction.redact : TaskAction → TaskAction
  | reader choice => reader choice.redact
  | writer choice => writer choice.redact
  | actionWorker choice => actionWorker choice.redact
  | pump index choice => pump index choice.redact
  | action => action

@[simp] theorem TaskAction.task_redact (action : TaskAction) :
    action.redact.task = action.task := by
  cases action <;> rfl

@[simp] theorem CoordinatorEvent.redact_redact (e : CoordinatorEvent) :
    e.redact.redact = e.redact := by
  cases e <;> simp [redact, Except.mapError_mapError]

@[simp] theorem Send.redact_redact (send : Send) : send.redact.redact = send.redact := by
  cases send <;> simp [redact]

@[simp] theorem PumpPhase.redact_redact (phase : PumpPhase) :
    phase.redact.redact = phase.redact := by
  cases phase <;> simp [redact]

@[simp] theorem Pump.redact_redact (pump : Pump) : pump.redact.redact = pump.redact := by
  simp [redact]

@[simp] theorem World.redact_redact (w : World) : w.redact.redact = w.redact := by
  simp [redact, Channel.map_map, Function.comp_def]

/-- What a move leads to, without the texts. -/
def redactMove (moved : World × Option Send) : World × Option Send :=
  (moved.1.redact, moved.2.map Send.redact)

variable {settings : SessionSettings} {w : World}

theorem World.blocked_redact (w : World) (task : TaskId) :
    w.redact.Blocked task ↔ w.Blocked task :=
  or_congr Iff.rfl (Channel.parked_map _ _ _)

theorem World.deliver_redact (w : World) (task : TaskId) (send : Option Send) :
    w.redact.deliver task (send.map Send.redact) = (w.deliver task send).redact := by
  cases send with
  | none => rfl
  | some send =>
    cases send with
    | reader input => rfl
    | event told => simp only [Option.map_some, Send.redact, deliver, redact, Channel.send_map]

theorem readerMove_redact (cancelled : Bool) (maxMessageBytes : Nat) (phase : ReaderPhase)
    (choice : ReaderChoice) :
    (readerMove cancelled maxMessageBytes phase choice.redact).map
        (fun moved => (moved.1, moved.2.map Send.redact)) =
      (readerMove cancelled maxMessageBytes phase choice).map
        (fun moved => (moved.1, moved.2.map Send.redact)) := by
  unfold ReaderChoice.redact
  split
  · cases phase with
    | sent stop => cases stop <;> rfl
    | _ => rfl
  · rfl

/-- The workers and the writer look at no texts of the world. -/
def redactWorld (moved : World × Option Send) : World × Option Send := (moved.1.redact, moved.2)

theorem World.moveWriter_redact (choice : WriterChoice) :
    w.redact.moveWriter settings choice = (w.moveWriter settings choice).map redactWorld := by
  obtain ⟨_, _, writerChannel, _, _, cancelled, _, _, writer, _, _, _, _⟩ := w
  cases writer <;> cases choice <;> cases cancelled <;> try rfl
  case receiving.receive.false =>
    simp only [moveWriter, redact]
    cases writerChannel.recv <;> rfl
  case writing.written.false operation outcome =>
    cases outcome with
    | completed => cases operation <;> rfl
    | _ => rfl

theorem World.moveActionWorker_redact (choice : ActionWorkerChoice) :
    w.redact.moveActionWorker choice = (w.moveActionWorker choice).map redactWorld := by
  obtain ⟨_, _, _, actionQueue, _, cancelled, sendersDropped, _, _, actionWorker, _, _, _⟩ := w
  cases actionWorker <;> cases choice <;> cases cancelled <;> try rfl
  all_goals
    simp only [moveActionWorker, redact]
    cases actionQueue.recv with
    | none => cases sendersDropped <;> rfl
    | some received => rfl

theorem World.moveQueryTask_redact (index : Nat) (response : Option QueryResponse) :
    w.redact.moveQueryTask index response = (w.moveQueryTask index response).map redactWorld := by
  simp only [moveQueryTask, redact]
  cases w.queryTasks[index]? with
  | none => rfl
  | some task =>
    cases task with
    | running job =>
      dsimp only
      rw [apply_ite (Option.map redactWorld)]
      rfl
    | done response => rfl

theorem World.moveQueryWorker_redact (choice : QueryWorkerChoice) :
    w.redact.moveQueryWorker settings choice =
      (w.moveQueryWorker settings choice).map redactWorld := by
  obtain ⟨_, _, _, _, queryQueue, cancelled, sendersDropped, _, _, _, queryWorker, queryTasks, _⟩ :=
    w
  cases queryWorker <;> cases choice <;> try rfl
  case selecting.cancelled => cases cancelled <;> rfl
  case selecting.joined index =>
    simp only [moveQueryWorker, redact]
    rw [apply_ite (Option.map redactWorld)]
    refine congrArg (ite _ _) ?_
    cases queryTasks[index]? with
    | none => rfl
    | some task =>
      cases task with
      | running job => rfl
      | done response => cases response <;> rfl
  case selecting.receive =>
    simp only [moveQueryWorker, redact]
    rw [apply_ite (Option.map redactWorld)]
    refine congrArg (ite _ _) ?_
    cases queryQueue.recv with
    | none => cases sendersDropped <;> rfl
    | some received => rfl
  case draining.drained =>
    simp only [moveQueryWorker, redact]
    rw [apply_ite (Option.map redactWorld)]
    rfl

theorem World.sourceFailure_redact (pump : Pump) (error : EventSourceError) (queued : Bool) :
    (sourceFailure pump.redact error.redact queued).redact =
      (sourceFailure pump error queued).redact := by
  cases error <;> rfl

theorem Pump.redact_telling (pump : Pump) {told told' : CoordinatorEvent}
    (htold : told'.redact = told.redact) (close : Bool) :
    { pump with phase := .telling told' close }.redact =
      { pump with phase := .telling told close }.redact := by
  simp [redact, PumpPhase.redact, htold]

/-- The world with a pump replaced. -/
def World.setPump (w : World) (index : Nat) (pump : Pump) : World :=
  { w with pumps := w.pumps.set index pump }

theorem redactMove_setPump {pump pump' : Pump} {send send' : Option Send}
    (hpump : pump'.redact = pump.redact) (hsend : send'.map Send.redact = send.map Send.redact)
    (index : Nat) :
    redactMove (w.redact.setPump index pump', send') = redactMove (w.setPump index pump, send) := by
  simp [redactMove, World.redact, World.setPump, hpump, hsend, List.map_set, Channel.map_map,
    Function.comp_def]

/-- A pump tells the client what a failed source is to it, and its texts to the coordinator. -/
theorem World.movePump_redact (index : Nat) (pump : Pump) (choice : PumpChoice) :
    (w.redact.movePump index pump.redact choice.redact).map redactMove =
      (w.movePump index pump choice).map redactMove := by
  obtain ⟨id, version, codec, cancelled, phase⟩ := pump
  cases phase <;> cases choice <;> try rfl
  case polling.cancelled =>
    show Option.map redactMove (if w.cancelled = true ∨ cancelled = true then
        some (w.redact.setPump index ⟨id, version, codec, cancelled, .closing⟩, none) else none) =
      Option.map redactMove (if w.cancelled = true ∨ cancelled = true then
        some (w.setPump index ⟨id, version, codec, cancelled, .closing⟩, none) else none)
    split
    · exact congrArg some (redactMove_setPump rfl rfl index)
    · rfl
  case polling.next result messageId =>
    rcases result with error | (_ | event)
    · have htold : ErrorMessage.fromTransportError none (.eventSource error.redact) =
          .fromTransportError none (.eventSource error) :=
        ErrorMessage.fromTransportError_redact none (.eventSource error)
      have hpump (queued : Bool) :=
        Pump.redact_telling ⟨id, version, codec, cancelled, .polling⟩
          (sourceFailure_redact ⟨id, version, codec, cancelled, .polling⟩ error queued) true
      dsimp only [movePump, redact, Pump.redact, PumpPhase.redact, PumpChoice.redact,
        Except.mapError]
      rw [htold]
      cases w.writerChannel.trySend
          (.application (.error (.fromTransportError none (.eventSource error))) codec) with
      | none => exact congrArg some (redactMove_setPump (hpump false) rfl index)
      | some channel =>
        exact congrArg some (redactMove_setPump (w := { w with writerChannel := channel })
          (hpump true) rfl index)
    · exact congrArg some (redactMove_setPump rfl rfl index)
    · dsimp only [movePump, redact, Pump.redact, PumpPhase.redact, PumpChoice.redact,
        Except.mapError]
      cases w.writerChannel.trySend
          (.application (.event ⟨version, messageId, ⟨"event"⟩, event⟩) codec) with
      | none => exact congrArg some (redactMove_setPump rfl rfl index)
      | some channel =>
        have hworld := World.redact_redact { w with writerChannel := channel }
        exact congrArg some (Prod.ext hworld rfl)
  case telling.tell told close =>
    have hsend : (some (.event told.redact)).map Send.redact =
        (some (.event told)).map Send.redact := by
      simp [Send.redact]
    exact congrArg some (redactMove_setPump rfl hsend index)
  case reported.resume => exact congrArg some (redactMove_setPump rfl rfl index)
  case closing.closed => exact congrArg some (redactMove_setPump rfl rfl index)

theorem redactMove_redactWorld (moved : World × Option Send) :
    redactMove (redactWorld moved) = redactMove moved := by
  simp [redactMove, redactWorld]

theorem World.moveWriter_redact_choice (choice : WriterChoice) :
    (w.moveWriter settings choice.redact).map redactMove =
      (w.moveWriter settings choice).map redactMove := by
  unfold WriterChoice.redact
  split
  · unfold moveWriter
    cases w.writer <;> try rfl
    cases w.cancelled <;> rfl
  · rfl

theorem World.moveActionWorker_redact_choice (choice : ActionWorkerChoice) :
    (w.moveActionWorker choice.redact).map redactMove =
      (w.moveActionWorker choice).map redactMove := by
  unfold ActionWorkerChoice.redact
  split
  · unfold moveActionWorker
    cases w.actionWorker <;> try rfl
    simp [redactMove, Send.redact, CoordinatorEvent.redact, Except.mapError_mapError]
  · rfl

/-- Without the texts a move stays the same move. -/
theorem World.move_redact (settings : SessionSettings) (w : World) (action : TaskAction) :
    (w.redact.move settings action.redact).map redactMove =
      (w.move settings action).map redactMove := by
  cases action with
  | reader choice =>
    have hchoice := congrArg
      (Option.map fun moved : ReaderPhase × Option Send =>
        (({ w with reader := moved.1 } : World).redact, moved.2))
      (readerMove_redact w.cancelled settings.config.transport.maxMessageBytes w.reader choice)
    simp only [Option.map_map] at hchoice
    refine Eq.trans ?_ (hchoice.trans ?_)
    · simp only [TaskAction.redact, move, Option.map_map]
      refine congrFun (congrArg Option.map (funext fun moved => ?_)) _
      exact Prod.ext (World.redact_redact { w with reader := moved.1 }) rfl
    · simp only [move, Option.map_map]
      rfl
  | writer choice =>
    refine Eq.trans ?_ (moveWriter_redact_choice choice)
    show (w.redact.moveWriter settings choice.redact).map redactMove = _
    rw [moveWriter_redact, Option.map_map]
    exact congrFun (congrArg Option.map (funext redactMove_redactWorld)) _
  | actionWorker choice =>
    refine Eq.trans ?_ (moveActionWorker_redact_choice choice)
    show (w.redact.moveActionWorker choice.redact).map redactMove = _
    rw [moveActionWorker_redact, Option.map_map]
    exact congrFun (congrArg Option.map (funext redactMove_redactWorld)) _
  | queryWorker choice =>
    show (w.redact.moveQueryWorker settings choice).map redactMove = _
    rw [moveQueryWorker_redact, Option.map_map]
    exact congrFun (congrArg Option.map (funext redactMove_redactWorld)) _
  | queryTask index response =>
    show (w.redact.moveQueryTask index response).map redactMove = _
    rw [moveQueryTask_redact, Option.map_map]
    exact congrFun (congrArg Option.map (funext redactMove_redactWorld)) _
  | pump index choice =>
    have hindex : w.redact.pumps[index]? = w.pumps[index]?.map Pump.redact := List.getElem?_map
    simp only [move, TaskAction.redact, hindex]
    cases w.pumps[index]? with
    | none => rfl
    | some pump => exact movePump_redact index pump choice

theorem World.taskStep_redact (settings : SessionSettings) (action : TaskAction) :
    (w.redact.taskStep settings action.redact).map redact =
      (w.taskStep settings action).map redact := by
  have hdeliver (moved : World × Option Send) :
      (moved.1.deliver action.task moved.2).redact =
        (redactMove moved).1.deliver action.task (redactMove moved).2 :=
    (deliver_redact moved.1 action.task moved.2).symm
  unfold taskStep
  simp only [TaskAction.task_redact, blocked_redact]
  split
  · rfl
  · have hmove := congrArg (Option.map fun moved : World × Option Send =>
      moved.1.deliver action.task moved.2) (move_redact settings w action)
    simpa only [Option.map_map, Function.comp_def, hdeliver] using hmove

/-- Worlds that differ in texts only make the same moves. -/
theorem World.taskStep_alike (settings : SessionSettings) {w' : World} {action action' : TaskAction}
    (hw : w.redact = w'.redact) (haction : action.redact = action'.redact) :
    (w.taskStep settings action).map redact = (w'.taskStep settings action').map redact := by
  rw [← taskStep_redact settings action, hw, haction, taskStep_redact settings action']

end Tasks
section Requests

def CoordinatorInput.redact : CoordinatorInput → CoordinatorInput
  | event told => event (told.map CoordinatorEvent.redact)
  | input => input

def Enqueue.redact : Enqueue → Enqueue
  | error codec requestId failure => error codec requestId failure.redact
  | item => item

def CoordinatorRequest.redact : CoordinatorRequest → CoordinatorRequest
  | enqueue item => enqueue item.redact
  | request => request

def CoordinatorChoice.redact : CoordinatorChoice → CoordinatorChoice
  | resolved result => resolved (result.mapError IdentityError.redact)
  | authorized result => authorized (result.mapError SubscriptionAuthorizationError.redact)
  | subscribed result => subscribed (result.mapError EventSourceError.redact)
  | choice => choice

/-- The answers of all requests in one type. -/
inductive Reply
  | input (input : CoordinatorInput)
  | flag (done : Bool)
  | unit
  | version (result : Except VersionNegotiationError Version)
  | binding (result : Except IdentityError ActorBinding)
  | authorization (result : Except SubscriptionAuthorizationError Unit)
  | subscription (result : Except EventSourceError TransportSubscriptionId)
  | handle (handle : SubscriptionHandle)
  | order (handles : List SubscriptionHandle)

/-- An answer without its texts. -/
def CoordinatorRequest.reply : (request : CoordinatorRequest) → request.Answer → Reply
  | select, (answer : CoordinatorInput) => .input answer.redact
  | enqueue _, answer | sendClose, answer | awaitWriter, answer => .flag answer
  | perform _, _ => .unit
  | negotiate _, answer => .version answer
  | resolve .., (answer : Except IdentityError ActorBinding) =>
    .binding (answer.mapError IdentityError.redact)
  | authorize .., (answer : Except SubscriptionAuthorizationError Unit) =>
    .authorization (answer.mapError SubscriptionAuthorizationError.redact)
  | subscribe _, (answer : Except EventSourceError TransportSubscriptionId) =>
    .subscription (answer.mapError EventSourceError.redact)
  | spawnPump .., answer => .handle answer
  | drain _, answer => .order answer

@[simp] theorem CoordinatorInput.redact_redact (input : CoordinatorInput) :
    input.redact.redact = input.redact := by
  cases input <;> simp [redact, Function.comp_def]

@[simp] theorem Enqueue.redact_redact (item : Enqueue) : item.redact.redact = item.redact := by
  cases item <;> simp [redact]

variable {w : World}

theorem World.finished_redact (w : World) (task : TaskId) :
    w.redact.Finished task = w.Finished task := by
  cases task with
  | pump index =>
    simp only [Finished, redact, List.getElem?_map]
    cases w.pumps[index]? with
    | none => rfl
    | some pump =>
      obtain ⟨id, version, codec, cancelled, phase⟩ := pump
      cases phase <;> rfl
  | _ => rfl

theorem World.attempt_redact (w : World) (outcome : Option WriterChannel) :
    w.redact.attempt outcome = ((w.attempt outcome).1, (w.attempt outcome).2.redact) := by
  cases outcome <;> rfl

/-- The client is offered the same message whatever the texts of an error are. -/
theorem World.enqueue_redact (w : World) (item : Enqueue) :
    w.redact.enqueue item.redact = ((w.enqueue item).1, (w.enqueue item).2.redact) := by
  cases item with
  | error codec requestId error =>
    simp only [enqueue, Enqueue.redact, WriterChannel.queueError,
      ErrorMessage.fromTransportError_redact]
    exact attempt_redact w _
  | action job =>
    simp only [enqueue, Enqueue.redact, redact]
    cases w.actionQueue.trySend job <;> rfl
  | query job =>
    simp only [enqueue, Enqueue.redact, redact]
    cases w.queryQueue.trySend job <;> rfl
  | _ => exact attempt_redact w _

theorem World.perform_redact (w : World) (effect : Effect) :
    w.redact.perform effect = (w.perform effect).map redact := by
  cases effect with
  | cancelPump handle =>
    refine congrArg some ?_
    have hmodify : (w.pumps.map Pump.redact).modify handle.pump
          (fun pump => { pump with cancelled := true }) =
        (w.pumps.modify handle.pump fun pump => { pump with cancelled := true }).map
          Pump.redact := by
      refine List.ext_getElem? fun index => ?_
      simp only [List.getElem?_modify, List.getElem?_map, Option.map_eq_map, Option.map_map]
      split <;> rfl
    simp only [redact, hmodify]
  | join task =>
    simp only [perform, finished_redact]
    split <;> rfl
  | _ => rfl

/-- The answer and the world after it, without the texts. -/
def CoordinatorRequest.redactResponse (request : CoordinatorRequest)
    (response : request.Answer × World) : Reply × World :=
  (request.reply response.1, response.2.redact)

theorem World.respond_redact (request : CoordinatorRequest) (choice : CoordinatorChoice) :
    (w.redact.respond request.redact choice.redact).map request.redact.redactResponse =
      (w.respond request choice).map request.redactResponse := by
  have hsame (w : World) := World.redact_redact w
  cases request <;> cases choice <;> try rfl
  case select.reader =>
    simp only [respond, CoordinatorRequest.redact, CoordinatorChoice.redact]
    have hreader : w.redact.readerChannel = w.readerChannel := rfl
    have hdropped : w.redact.reader = w.reader := rfl
    rw [hreader, hdropped]
    cases w.readerChannel.recv with
    | none =>
      cases w.reader.senderDropped with
      | false => rfl
      | true => exact congrArg some (Prod.ext rfl (hsame w))
    | some received =>
      exact congrArg some (Prod.ext rfl (hsame { w with readerChannel := received.2 }))
  case select.event =>
    simp only [respond, CoordinatorRequest.redact, CoordinatorChoice.redact]
    have hevents : w.redact.eventChannel.recv =
        w.eventChannel.recv.map fun received =>
          (received.1.redact, received.2.map CoordinatorEvent.redact) :=
      Channel.recv_map _ _
    rw [hevents]
    cases w.eventChannel.recv with
    | none => rfl
    | some received =>
      refine congrArg some (Prod.ext ?_ (hsame { w with eventChannel := received.2 }))
      exact congrArg Reply.input (CoordinatorInput.redact_redact (.event (some received.1)))
  case select.heartbeat => exact congrArg some (Prod.ext rfl (hsame w))
  case enqueue.proceed item =>
    simp only [respond, CoordinatorRequest.redact, CoordinatorChoice.redact, enqueue_redact]
    exact congrArg some (Prod.ext rfl (hsame _))
  case perform.proceed effect =>
    simp only [respond, CoordinatorRequest.redact, CoordinatorChoice.redact, perform_redact,
      Option.map_map]
    cases w.perform effect with
    | none => rfl
    | some w => exact congrArg some (Prod.ext rfl (hsame w))
  case negotiate.negotiated => exact congrArg some (Prod.ext rfl (hsame w))
  case resolve.resolved connectionId credentials result =>
    refine congrArg some (Prod.ext (congrArg Reply.binding ?_) (hsame w))
    simp [Except.mapError_mapError]
  case authorize.authorized binding request result =>
    refine congrArg some (Prod.ext (congrArg Reply.authorization ?_) (hsame w))
    simp [Except.mapError_mapError]
  case subscribe.subscribed request result =>
    refine congrArg some (Prod.ext (congrArg Reply.subscription ?_) (hsame w))
    simp [Except.mapError_mapError]
  case spawnPump.proceed id version codec =>
    refine congrArg some (Prod.ext ?_ ?_)
    · have hlength : w.redact.pumps.length = w.pumps.length := List.length_map ..
      exact congrArg (fun pump => Reply.handle ⟨pump⟩) hlength
    · have hnew : Pump.redact ⟨id, version, codec, false, .polling⟩ =
          ⟨id, version, codec, false, .polling⟩ :=
        rfl
      simp [CoordinatorRequest.redactResponse, redact, Channel.map_map, Function.comp_def, hnew]
  case sendClose.proceed =>
    simp only [respond, CoordinatorRequest.redact, CoordinatorChoice.redact]
    have hwriter : w.redact.writerChannel = w.writerChannel := rfl
    rw [hwriter]
    cases w.writerChannel.closed with
    | true => exact congrArg some (Prod.ext rfl (hsame w))
    | false =>
      cases w.writerChannel.trySend .close with
      | none => rfl
      | some channel =>
        exact congrArg some (Prod.ext rfl (hsame { w with writerChannel := channel }))
  case awaitWriter.proceed =>
    simp only [respond, CoordinatorRequest.redact, CoordinatorChoice.redact, finished_redact]
    cases w.Finished .writer with
    | false => rfl
    | true => exact congrArg some (Prod.ext rfl (hsame w))
  case awaitWriter.elapsed =>
    simp only [respond, CoordinatorRequest.redact, CoordinatorChoice.redact, finished_redact]
    cases w.Finished .writer with
    | true => rfl
    | false => exact congrArg some (Prod.ext rfl (hsame w))
  case drain.order handles order =>
    simp only [respond, CoordinatorRequest.redact, CoordinatorChoice.redact]
    cases order.isPerm handles with
    | false => rfl
    | true => exact congrArg some (Prod.ext rfl (hsame w))

/-- Worlds that differ in texts only answer a request alike. -/
theorem World.respond_alike {w' : World} {request request' : CoordinatorRequest}
    {choice choice' : CoordinatorChoice} (hw : w.redact = w'.redact)
    (hrequest : request.redact = request'.redact) (hchoice : choice.redact = choice'.redact) :
    (w.respond request choice).map request.redactResponse =
      (w'.respond request' choice').map request'.redactResponse := by
  rw [← respond_redact request choice, hw, hrequest, hchoice, respond_redact request' choice']

/-- An action of a session without the texts that its dependencies answered with. -/
def SessionAction.redact : SessionAction → SessionAction
  | coordinator choice => coordinator choice.redact
  | task action => task action.redact

end Requests
end OrbitRelay
