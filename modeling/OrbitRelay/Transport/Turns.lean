import Mathlib.Data.List.Induction
import OrbitRelay.Transport.Flow

/-! The turns of the coordinator's loop: what each input makes it ask for, and the record of its
exchanges cut into turns. -/
namespace OrbitRelay
open Pausing

/-- What `handle_inbound` and its caller may ask for on a message. -/
def InboundMessage.asks : InboundMessage → CoordinatorRequest → Bool
  | _, .enqueue (.error ..) => true
  | .hello _, .negotiate _ | .hello _, .enqueue (.application _ (.helloAccepted _)) => true
  | .authenticate _, .resolve .. => true
  | .ping _, .enqueue (.application _ (.pong _)) => true
  | .action _, .enqueue (.action _) => true
  | .query _, .enqueue (.query _) | .query _, .enqueue (.queryResponse ..) => true
  | .subscribe _, .authorize .. | .subscribe _, .subscribe _ | .subscribe _, .spawnPump ..
  | .subscribe _, .perform (.closeSource _)
  | .subscribe _, .enqueue (.application _ (.subscriptionAccepted _)) => true
  | .unsubscribe _, .perform (.cancelPump _) | .unsubscribe _, .perform (.join (.pump _))
  | .unsubscribe _, .enqueue (.application _ (.subscriptionClosed _)) => true
  | _, _ => false

/-- The message may change the subscriptions. -/
def InboundMessage.subscribes : InboundMessage → Bool
  | .subscribe _ | .unsubscribe _ => true
  | _ => false

/-- What the coordinator asks for on a coordinator event. -/
def CoordinatorEvent.asks : CoordinatorEvent → CoordinatorRequest → Bool
  | _, .enqueue (.error ..) => true
  | .actionCompleted .., .enqueue (.application _ (.actionAcknowledgement _)) => true
  | .queryCompleted _, .enqueue (.queryResponse ..) => true
  | .subscriptionFinished _, .perform (.cancelPump _)
  | .subscriptionFinished _, .perform (.join (.pump _))
  | .subscriptionFinished _, .enqueue (.application _ (.subscriptionClosed _)) => true
  | .eventSourceFailed .., .perform (.cancelPump _)
  | .eventSourceFailed .., .perform (.join (.pump _)) => true
  | _, _ => false

def CoordinatorEvent.subscribes : CoordinatorEvent → Bool
  | .subscriptionFinished _ | .eventSourceFailed .. => true
  | _ => false

/-- The message of an input. -/
def CoordinatorInput.message? (codec : MessageCodec) : CoordinatorInput → Option InboundMessage
  | .reader (some (.text bytes)) => (codec.decodeInbound bytes).toOption
  | _ => none

def CoordinatorRequest.isError : CoordinatorRequest → Bool
  | .enqueue (.error ..) => true
  | _ => false

def CoordinatorRequest.isHeartbeat : CoordinatorRequest → Bool
  | .enqueue (.writer (.nativePing _)) | .enqueue (.writer (.nativePong _)) => true
  | _ => false

theorem message_eq_some {codec : MessageCodec} {input : CoordinatorInput}
    {message : InboundMessage} (h : input.message? codec = some message) :
    ∃ bytes, input = .reader (some (.text bytes)) ∧ codec.decodeInbound bytes = .ok message := by
  unfold CoordinatorInput.message? at h
  split at h
  · refine ⟨_, rfl, ?_⟩
    cases hdecoded : codec.decodeInbound _ with
    | error e =>
      rw [hdecoded] at h
      cases h
    | ok decoded =>
      rw [hdecoded] at h
      cases h
      rfl
  · cases h

/-- What an input makes the coordinator ask for. -/
def CoordinatorInput.asks (codec : MessageCodec) (input : CoordinatorInput)
    (request : CoordinatorRequest) : Bool :=
  request.isError ||
    match input with
    | .reader (some (.text _)) => (input.message? codec).any (·.asks request)
    | .reader (some (.nativePing _)) | .heartbeat .. => request.isHeartbeat
    | .event (some told) => told.asks request
    | .reader _ | .event none => false

/-- The input may change the subscriptions. -/
def CoordinatorInput.subscribes (codec : MessageCodec) (input : CoordinatorInput) : Bool :=
  (input.message? codec).any InboundMessage.subscribes ||
    match input with
    | .event (some told) => told.subscribes
    | _ => false

theorem of_both {b : Bool} {P : Prop} (htrue : b = true) (hfalse : b = false) : P := by
  rw [htrue] at hfalse
  cases hfalse

/-- A loop that has stopped does not go round again. -/
theorem of_stop {P : Prop} (h : LoopControl.stop = .next) : P := by cases h

section Messages
variable {settings : SessionSettings} {h : CoordinatorTrace} {s : Coordinator}

def SameSubscriptions (s s' : Coordinator) : Prop := s'.subscriptions = s.subscriptions

/-- Only requests of the message are asked for, and the subscriptions stay. -/
def asksOf (message : InboundMessage) (s : Coordinator) :
    Contract CoordinatorRequest CoordinatorRequest.Answer Coordinator :=
  .within fun s' q => message.asks q = true ∧
    (message.subscribes = false → SameSubscriptions s s')

theorem handleHello_asks (hello : Hello) :
    (handleHello settings hello).run.wp (asksOf (.hello hello) s)
      (fun _ _ => SameSubscriptions s) h s := by
  simp only [handleHello, Proc.wp_run_bind, Proc.wp_run_get, Proc.wp_run_throw,
    Proc.afterResult_ok, Proc.afterResult_error, Proc.wp_run_ite, Proc.wp_run_liftM, wp_negotiate]
  refine ⟨fun _ => rfl, fun _ => ⟨fun _ => rfl, fun _ => ⟨⟨rfl, fun _ => rfl⟩, fun answer _ => ?_⟩⟩⟩
  rcases answer with e | version
  · rfl
  simp only [wp_orThrow_ok, Proc.afterResult_ok, Proc.wp_run_bind, Proc.wp_run_get]
  cases s.connection.beginAuthentication with
  | error e => rfl
  | ok connection =>
    simp only [wp_orThrow_ok, Proc.afterResult_ok, Proc.wp_run_bind, wp_setConnection,
      Proc.wp_run_modify, wp_required, wp_enqueue]
    refine ⟨⟨rfl, fun _ => rfl⟩, fun queued _ => ?_⟩
    cases queued <;> rfl

theorem handleAuthenticate_asks (authenticate : Authenticate) :
    (handleAuthenticate authenticate).run.wp (asksOf (.authenticate authenticate) s)
      (fun _ _ => SameSubscriptions s) h s := by
  simp only [handleAuthenticate, Proc.wp_run_bind, Proc.wp_run_get, Proc.wp_run_throw,
    Proc.afterResult_ok, Proc.afterResult_error, Proc.wp_run_ite, Proc.wp_run_liftM, wp_resolve]
  refine ⟨fun _ => rfl, fun _ => ⟨⟨rfl, fun _ => rfl⟩, fun answer _ => ?_⟩⟩
  rcases answer with e | binding
  · rfl
  simp only [Proc.wp_run_bind, Proc.wp_run_get, Proc.afterResult_ok]
  cases s.connection.bindIdentity binding with
  | error e => rfl
  | ok connection =>
    simp only [wp_orThrow_ok, Proc.afterResult_ok, Proc.wp_run_bind, wp_setConnection,
      Proc.wp_run_get]
    cases connection.markReady <;> rfl

theorem handlePing_asks (ping : PingMessage) :
    (handlePing ping).run.wp (asksOf (.ping ping) s)
      (fun _ _ => SameSubscriptions s) h s := by
  simp only [handlePing, Proc.wp_run_bind, Proc.wp_run_get, Proc.afterResult_ok, wp_required]
  exact ⟨⟨rfl, fun _ => rfl⟩, fun _ _ => rfl⟩

theorem handleAction_asks (envelope : MessageEnvelope Action) :
    (handleAction envelope).run.wp (asksOf (.action envelope) s)
      (fun _ _ => SameSubscriptions s) h s := by
  refine wp_whenReady (fun _ _ => rfl) fun _ => ?_
  simp only [Proc.wp_run_bind, Proc.wp_run_get, Proc.afterResult_ok]
  cases validateActionBinding s.connection.identity envelope.payload with
  | error e => rfl
  | ok =>
    simp only [wp_orThrow_ok, Proc.afterResult_ok, Proc.wp_run_bind, Proc.wp_run_liftM,
      wp_enqueue, Proc.wp_run_ite, Proc.wp_run_throw, Proc.wp_run_pure]
    exact ⟨⟨rfl, fun _ => rfl⟩, fun _ _ => ⟨fun _ => rfl, fun _ => rfl⟩⟩

theorem handleQuery_asks (message : QueryMessage) :
    (handleQuery settings message).run.wp (asksOf (.query message) s)
      (fun _ _ => SameSubscriptions s) h s := by
  refine wp_whenReady (fun _ _ => rfl) fun _ => ?_
  simp only [Proc.wp_run_bind, Proc.wp_run_get, Proc.afterResult_ok]
  cases s.negotiatedVersion with
  | none => rfl
  | some negotiated =>
    simp only [Proc.wp_run_ite, Proc.wp_run_bind, Proc.wp_run_get, Proc.afterResult_ok,
      wp_required, wp_enqueue]
    refine ⟨fun _ => ⟨⟨rfl, fun _ => rfl⟩, fun _ _ => rfl⟩, fun _ => ?_⟩
    cases s.connection.identity with
    | none => rfl
    | some binding =>
      simp only [Proc.wp_run_ite, Proc.wp_run_bind, Proc.wp_run_get, Proc.afterResult_ok,
        Proc.wp_run_liftM, Proc.wp_run_pure, wp_required, wp_enqueue]
      refine ⟨fun _ => ⟨⟨rfl, fun _ => rfl⟩, fun _ _ => rfl⟩, fun _ => ?_⟩
      refine ⟨⟨rfl, fun _ => rfl⟩, fun _ _ => ⟨fun _ => ?_, fun _ => rfl⟩⟩
      exact ⟨⟨rfl, fun _ => rfl⟩, fun _ _ => rfl⟩

theorem handleSubscribe_asks (request : SubscriptionRequest) :
    (handleSubscribe request).run.wp (asksOf (.subscribe request) s) (fun _ _ _ => True) h s := by
  refine wp_whenReady (fun _ _ => trivial) fun _ => ?_
  simp only [Proc.wp_run_bind, Proc.wp_run_get, Proc.afterResult_ok]
  cases s.connection.identity with
  | none => trivial
  | some binding =>
    simp only [Proc.wp_run_bind, Proc.wp_run_liftM, wp_authorize]
    refine ⟨⟨rfl, of_both rfl⟩, fun answer _ => ?_⟩
    rcases answer with e | ⟨⟨⟩⟩
    · trivial
    simp only [wp_orThrow_ok, Proc.afterResult_ok, Proc.wp_run_bind, Proc.wp_run_liftM,
      wp_subscribe]
    refine ⟨⟨rfl, of_both rfl⟩, fun answer _ => ?_⟩
    rcases answer with e | id
    · trivial
    simp only [wp_orThrow_ok, Proc.afterResult_ok, Proc.afterResult_error, Proc.wp_run_bind,
      Proc.wp_run_get, Proc.wp_run_ite, Proc.wp_run_throw]
    refine ⟨fun _ => trivial, fun _ => ?_⟩
    cases s.negotiatedVersion with
    | none => trivial
    | some version =>
      simp only [Proc.afterResult_ok, Proc.wp_run_bind, Proc.wp_run_get, Proc.wp_run_ite,
        Proc.wp_run_throw, Proc.wp_run_liftM, wp_enqueue, wp_perform, wp_spawnPump,
        Proc.wp_run_modify]
      refine ⟨⟨rfl, of_both rfl⟩, fun queued _ => ⟨fun _ => ?_, fun _ => ?_⟩⟩
      · exact ⟨⟨rfl, of_both rfl⟩, fun _ _ => trivial⟩
      · exact ⟨⟨rfl, of_both rfl⟩, fun _ _ => trivial⟩

theorem handleUnsubscribe_asks (unsubscribe : Unsubscribe) :
    (handleUnsubscribe unsubscribe).run.wp (asksOf (.unsubscribe unsubscribe) s)
      (fun _ _ _ => True) h s := by
  refine wp_whenReady (fun _ _ => trivial) fun _ => ?_
  simp only [Proc.wp_run_bind, Proc.wp_run_get, Proc.afterResult_ok]
  cases removeSubscription unsubscribe.subscriptionId s with
  | none =>
    simp only [Proc.wp_run_bind, Proc.wp_run_get, Proc.afterResult_ok, wp_required, wp_enqueue]
    exact ⟨⟨rfl, of_both rfl⟩, fun _ _ => trivial⟩
  | some found =>
    obtain ⟨handle, s'⟩ := found
    simp only [Proc.wp_run_bind, Proc.wp_run_set, Proc.afterResult_ok, Proc.wp_run_liftM,
      wp_stopPump, wp_perform, Proc.wp_run_get, wp_required, wp_enqueue]
    refine ⟨⟨rfl, of_both rfl⟩, fun _ _ => ⟨⟨rfl, of_both rfl⟩, fun _ _ => ?_⟩⟩
    exact ⟨⟨rfl, of_both rfl⟩, fun _ _ => trivial⟩

/-- Whatever the ports answer, `handle_inbound` asks for what belongs to the message. -/
theorem handleInbound_asks (message : InboundMessage) :
    (handleInbound settings message).run.wp (asksOf message s)
      (fun _ _ s' => message.subscribes = false → SameSubscriptions s s') h s := by
  cases message with
  | hello hello => exact Proc.wp_mono (handleHello_asks hello) fun _ _ _ heq _ => heq
  | authenticate authenticate =>
    exact Proc.wp_mono (handleAuthenticate_asks authenticate) fun _ _ _ heq _ => heq
  | subscribe request =>
    exact Proc.wp_mono (handleSubscribe_asks request) fun _ _ _ _ hplain => nomatch hplain
  | unsubscribe unsubscribe =>
    exact Proc.wp_mono (handleUnsubscribe_asks unsubscribe) fun _ _ _ _ hplain => nomatch hplain
  | action envelope => exact Proc.wp_mono (handleAction_asks envelope) fun _ _ _ heq _ => heq
  | query message => exact Proc.wp_mono (handleQuery_asks message) fun _ _ _ heq _ => heq
  | ping ping => exact Proc.wp_mono (handlePing_asks ping) fun _ _ _ heq _ => heq
  | close close => exact fun _ => rfl

end Messages

section Inputs
variable {settings : SessionSettings} {h : CoordinatorTrace} {s : Coordinator}

/-- The turn after its `select!`. -/
def handleInput (settings : SessionSettings) : CoordinatorInput → CoordinatorM LoopControl
  | .reader none => stopGracefully
  | .reader (some input) => handleReaderEvent settings input
  | .event none => stopWith (.task "coordinator event channel closed") false
  | .event (some event) => handleCoordinatorEvent settings event
  | .heartbeat negotiationElapsed activityElapsed =>
    handleHeartbeat negotiationElapsed activityElapsed

theorem turn_eq (settings : SessionSettings) :
    turn settings = select >>= handleInput settings := rfl

/-- Only requests of the input are asked for, and the subscriptions stay. -/
def asksOn (input : CoordinatorInput) (s : Coordinator) :
    Contract CoordinatorRequest CoordinatorRequest.Answer Coordinator :=
  .within fun s' q => input.asks s.activeCodec q = true ∧
    (input.subscribes s.activeCodec = false → SameSubscriptions s s')

/-- What holds of the subscriptions after a turn. -/
abbrev inputPost (input : CoordinatorInput) (s : Coordinator) :
    LoopControl → CoordinatorTrace → Coordinator → Prop :=
  fun _ _ s' => input.subscribes s.activeCodec = false → SameSubscriptions s s'

theorem handleMessage_asks (message : InboundMessage) :
    (handleMessage settings message).wp (asksOf message s)
      (fun _ _ s' => message.subscribes = false → SameSubscriptions s s') h s := by
  unfold handleMessage
  rw [Proc.wp_bind]
  refine Proc.wp_mono (handleInbound_asks message) fun result h s' hkept => ?_
  cases result with
  | ok => exact hkept
  | error error =>
    simp only [Proc.wp_bind, Proc.wp_get, wp_enqueue, Proc.wp_ite]
    have hasks : message.asks (.enqueue (.error s'.activeCodec none error.toTransportError)) =
        true := by
      cases message <;> rfl
    exact ⟨⟨hasks, hkept⟩, fun _ _ => ⟨fun _ => hkept, fun _ => hkept⟩⟩

theorem handleText_asks (bytes : List UInt8) :
    (handleText settings bytes).wp (asksOn (.reader (some (.text bytes))) s)
      (inputPost (.reader (some (.text bytes))) s) h s := by
  simp only [handleText, Proc.wp_bind, Proc.wp_get]
  cases hdecoded : s.activeCodec.decodeInbound bytes with
  | error error =>
    simp only [Proc.wp_bind, Proc.wp_get, wp_enqueue, wp_orSlowConsumer]
    exact ⟨⟨rfl, fun _ => rfl⟩, fun _ _ => ⟨fun _ _ => rfl, fun _ _ => rfl⟩⟩
  | ok message =>
    have hmessage : (CoordinatorInput.reader (some (.text bytes))).message? s.activeCodec =
        some message := by
      simp [CoordinatorInput.message?, hdecoded, Except.toOption]
    have hsubscribes (hplain : (CoordinatorInput.reader (some (.text bytes))).subscribes
        s.activeCodec = false) : message.subscribes = false := by
      simpa [CoordinatorInput.subscribes, hmessage] using hplain
    have hasks (q : CoordinatorRequest) (hq : message.asks q = true) :
        (CoordinatorInput.reader (some (.text bytes))).asks s.activeCodec q = true := by
      simp [CoordinatorInput.asks, hmessage, hq]
    have hturn : (handleMessage settings message).wp (asksOn (.reader (some (.text bytes))) s)
        (inputPost (.reader (some (.text bytes))) s) h s := by
      refine Proc.wp_within_mono (Proc.wp_mono (handleMessage_asks message) ?_) ?_
      · exact fun _ _ _ hkept hplain => hkept (hsubscribes hplain)
      · exact fun s' q hq => ⟨hasks q hq.1, fun hplain => hq.2 (hsubscribes hplain)⟩
    cases message with
    | close close => exact fun _ => rfl
    | _ => exact hturn

theorem handleReaderEvent_asks (event : ReaderEvent) :
    (handleReaderEvent settings event).wp (asksOn (.reader (some event)) s)
      (inputPost (.reader (some event)) s) h s := by
  cases event with
  | text bytes => exact handleText_asks bytes
  | nativePing payload =>
    simp only [handleReaderEvent, Proc.wp_bind, wp_enqueue, wp_orSlowConsumer]
    exact ⟨⟨rfl, fun _ => rfl⟩, fun _ _ => ⟨fun _ _ => rfl, fun _ _ => rfl⟩⟩
  | nativePong => exact fun _ => rfl
  | closed => exact fun _ => rfl
  | binary | oversized => exact ⟨⟨rfl, fun _ => rfl⟩, fun _ _ _ => rfl⟩

theorem handleCoordinatorEvent_asks (event : CoordinatorEvent) :
    (handleCoordinatorEvent settings event).wp (asksOn (.event (some event)) s)
      (inputPost (.event (some event)) s) h s := by
  cases event with
  | actionCompleted requestId actionId result =>
    cases result <;>
      simp only [handleCoordinatorEvent, Proc.wp_bind, Proc.wp_get, wp_enqueue, wp_orSlowConsumer]
    all_goals exact ⟨⟨rfl, fun _ => rfl⟩, fun _ _ => ⟨fun _ _ => rfl, fun _ _ => rfl⟩⟩
  | queryCompleted response =>
    simp only [handleCoordinatorEvent, Proc.wp_bind, Proc.wp_get, wp_enqueue, wp_orSlowConsumer]
    exact ⟨⟨rfl, fun _ => rfl⟩, fun _ _ => ⟨fun _ _ => rfl, fun _ _ => rfl⟩⟩
  | subscriptionFinished id =>
    simp only [handleCoordinatorEvent, Proc.wp_bind, Proc.wp_get]
    cases removeSubscription id s with
    | none => exact of_both rfl
    | some found =>
      obtain ⟨handle, s'⟩ := found
      simp only [Proc.wp_bind, Proc.wp_get, Proc.wp_set, wp_stopPump, wp_perform, wp_enqueue,
        wp_orSlowConsumer]
      refine ⟨⟨rfl, of_both rfl⟩, fun _ _ => ⟨⟨rfl, of_both rfl⟩, fun _ _ => ?_⟩⟩
      refine ⟨⟨rfl, of_both rfl⟩, fun _ _ => ?_⟩
      exact ⟨fun _ => of_both rfl, fun _ => of_both rfl⟩
  | eventSourceFailed id error fatal errorQueued =>
    simp only [handleCoordinatorEvent, Proc.wp_ite, Proc.wp_bind, Proc.wp_get]
    refine ⟨fun _ => of_both rfl, fun _ => ?_⟩
    cases removeSubscription id s with
    | none => exact of_both rfl
    | some found =>
      obtain ⟨handle, s'⟩ := found
      simp only [Proc.wp_bind, Proc.wp_set, Proc.wp_pure, wp_stopPump, wp_perform]
      exact ⟨⟨rfl, of_both rfl⟩, fun _ _ => ⟨⟨rfl, of_both rfl⟩, fun _ _ => of_both rfl⟩⟩
  | slowConsumer id => exact ⟨⟨rfl, fun _ => rfl⟩, fun _ _ _ => rfl⟩
  | writerFailed error => exact fun _ => rfl
  | readerFailed error => exact fun _ => rfl

theorem handleHeartbeat_asks (negotiationElapsed activityElapsed : Bool) :
    (handleHeartbeat negotiationElapsed activityElapsed).wp
      (asksOn (.heartbeat negotiationElapsed activityElapsed) s)
      (inputPost (.heartbeat negotiationElapsed activityElapsed) s) h s := by
  simp only [handleHeartbeat, Proc.wp_bind, Proc.wp_get, Proc.wp_ite, wp_enqueue,
    wp_orSlowConsumer]
  refine ⟨fun _ _ => rfl, fun _ => ⟨fun _ _ => rfl, fun _ => ?_⟩⟩
  exact ⟨⟨rfl, fun _ => rfl⟩, fun _ _ => ⟨fun _ _ => rfl, fun _ _ => rfl⟩⟩

/-- Whatever the answers, a turn asks for what belongs to its input. -/
theorem handleInput_asks (input : CoordinatorInput) :
    (handleInput settings input).wp (asksOn input s) (inputPost input s) h s := by
  rcases input with (_ | event) | (_ | event) | ⟨negotiationElapsed, activityElapsed⟩
  · exact fun _ => rfl
  · exact handleReaderEvent_asks event
  · exact fun _ => rfl
  · exact handleCoordinatorEvent_asks event
  · exact handleHeartbeat_asks _ _

end Inputs

/-- One turn: its state and input, and the exchanges after its `select!`. -/
structure Turn where
  state : Coordinator
  input : CoordinatorInput
  exchanges : CoordinatorTrace

/-- The messages that the writer channel took in the turn. -/
def Turn.queued (turn : Turn) : List OutboundMessage := turn.exchanges.filterMap messageOf

/-- The turns of a record. The exchanges of the shutdown count to the last of them. -/
structure TurnLog where
  earlier : List Turn
  current : Option Turn

namespace TurnLog

def add (log : TurnLog) : CoordinatorExchange → TurnLog
  | ⟨s, .select, input⟩ => ⟨log.earlier ++ log.current.toList, some ⟨s, input, []⟩⟩
  | e => ⟨log.earlier, log.current.map fun turn => { turn with exchanges := turn.exchanges ++ [e] }⟩

def turns (log : TurnLog) : List Turn := log.earlier ++ log.current.toList

theorem add_of_not_select (log : TurnLog) {s : Coordinator} {q : CoordinatorRequest} (a : q.Answer)
    (hq : q.isSelect = false) :
    log.add ⟨s, q, a⟩ = ⟨log.earlier, log.current.map fun turn =>
      { turn with exchanges := turn.exchanges ++ [⟨s, q, a⟩] }⟩ := by
  cases q with
  | select => cases hq
  | _ => rfl

end TurnLog

def turnsOf (h : CoordinatorTrace) : TurnLog := h.foldl .add ⟨[], none⟩

theorem turnsOf_snoc (h : CoordinatorTrace) (e : CoordinatorExchange) :
    turnsOf (h ++ [e]) = (turnsOf h).add e := by
  simp [turnsOf]

/-- The input that this exchange took. -/
def selectedIn : CoordinatorExchange → Option CoordinatorInput
  | ⟨_, .select, input⟩ => some input
  | _ => none

/-- There is one turn for each input. -/
theorem inputs_turnsOf (h : CoordinatorTrace) :
    (turnsOf h).turns.map Turn.input = h.filterMap selectedIn := by
  induction h using List.reverseRecOn with
  | nil => rfl
  | append_singleton h e ih =>
    obtain ⟨s, q, a⟩ := e
    rw [turnsOf_snoc, List.filterMap_append, ← ih]
    cases q with
    | select =>
      simp only [TurnLog.add, TurnLog.turns, List.map_append]
      rfl
    | _ => cases hcurrent : (turnsOf h).current <;>
        simp [TurnLog.add, TurnLog.turns, selectedIn, hcurrent]

def CoordinatorInput.event? : CoordinatorInput → Option CoordinatorEvent
  | .event told => told
  | _ => none

/-- The turns for events are those in which one was received. -/
theorem events_turnsOf (h : CoordinatorTrace) :
    (turnsOf h).turns.filterMap (fun turn => turn.input.event?) = h.filterMap eventOf := by
  have hinputs := congrArg (List.filterMap CoordinatorInput.event?) (inputs_turnsOf h)
  rw [List.filterMap_map] at hinputs
  refine hinputs.trans ?_
  rw [List.filterMap_filterMap]
  congr 1
  funext e
  obtain ⟨s, q, a⟩ := e
  cases q with
  | select =>
    change CoordinatorInput at a
    cases a <;> rfl
  | _ => rfl

/-- What is read off the exchanges of a record can be read off its turns, once it begins with
a turn. -/
theorem flatMap_turnsOf {β : Type} {f : CoordinatorExchange → List β}
    (hselect : ∀ s input, f ⟨s, .select, input⟩ = []) (h : CoordinatorTrace)
    (hbegun : ∀ e ∈ h.head?, e.request.isSelect = true) :
    (turnsOf h).turns.flatMap (fun turn => turn.exchanges.flatMap f) = h.flatMap f ∧
      (h ≠ [] → (turnsOf h).current.isSome = true) := by
  induction h using List.reverseRecOn with
  | nil => exact ⟨rfl, nofun⟩
  | append_singleton h e ih =>
    have hbegun' : ∀ e ∈ h.head?, e.request.isSelect = true := by
      intro first hfirst
      refine hbegun first ?_
      rw [List.head?_append, hfirst]
      rfl
    obtain ⟨hturns, hcurrent⟩ := ih hbegun'
    obtain ⟨s, q, a⟩ := e
    rw [turnsOf_snoc, List.flatMap_append, ← hturns, List.flatMap_singleton]
    by_cases hq : q.isSelect = true
    · cases q with
      | select =>
        refine ⟨?_, fun _ => rfl⟩
        rw [hselect]
        simp [TurnLog.add, TurnLog.turns]
      | _ => cases hq
    · have hnonempty : h ≠ [] := by
        rintro rfl
        exact hq (hbegun _ rfl)
      obtain ⟨turn, hturn⟩ := Option.isSome_iff_exists.mp (hcurrent hnonempty)
      rw [TurnLog.add_of_not_select _ a (by simpa using hq), hturn]
      refine ⟨?_, fun _ => rfl⟩
      simp [TurnLog.turns, hturn]

/-- What neither the message nor the event of an input leads to, the input does not lead to. -/
theorem asks_eq_false {codec : MessageCodec} {input : CoordinatorInput} {q : CoordinatorRequest}
    (herror : q.isError = false) (hheartbeat : q.isHeartbeat = false)
    (hmessage : ∀ message ∈ input.message? codec, message.asks q = false)
    (hevent : ∀ event, input = .event (some event) → event.asks q = false) :
    input.asks codec q = false := by
  simp only [CoordinatorInput.asks, herror, Bool.false_or]
  split
  · cases hinput : CoordinatorInput.message? codec _ with
    | none => rfl
    | some message => exact hmessage message hinput
  · exact hheartbeat
  · exact hheartbeat
  · exact hevent _ rfl
  · rfl
  · rfl

theorem not_asks_select (codec : MessageCodec) (input : CoordinatorInput) :
    input.asks codec .select = false := by
  apply asks_eq_false rfl rfl
  · intro message _
    cases message <;> rfl
  · intro event _
    cases event <;> rfl

theorem isSelect_of_asks {codec : MessageCodec} {input : CoordinatorInput}
    {q : CoordinatorRequest} (h : input.asks codec q = true) : q.isSelect = false := by
  cases q with
  | select =>
    rw [not_asks_select] at h
    cases h
  | _ => rfl

/-- A specification of the loop by its turns. -/
structure TurnSpec where
  /-- What is known of the state at every `select!`. -/
  pre : Coordinator → Prop
  /-- The answers that may come in the course of a turn. -/
  rely : Turn → (q : CoordinatorRequest) → q.Answer → Prop
  /-- What a turn may ask for next. -/
  asks : Turn → CoordinatorRequest → Prop
  /-- What holds of a turn after which the loop goes round again. -/
  done : Turn → Prop

namespace TurnSpec
variable (spec : TurnSpec)

/-- The specification for the course of one turn. -/
def body (s : Coordinator) (input : CoordinatorInput) :
    Contract CoordinatorRequest CoordinatorRequest.Answer Coordinator where
  rely es _ q a := spec.rely ⟨s, input, es⟩ q a
  guarantee es _ q := q.isSelect = false ∧ spec.asks ⟨s, input, es⟩ q

/-- The specification for the record of all turns. -/
def contract : Contract CoordinatorRequest CoordinatorRequest.Answer Coordinator where
  rely h s q a :=
    (q.isSelect = true → spec.pre s) ∧
      (q.isSelect = false → ∀ turn ∈ (turnsOf h).current, spec.rely turn q a)
  guarantee h _ q := (∀ turn ∈ (turnsOf h).earlier, spec.done turn) ∧
    ∀ turn ∈ (turnsOf h).current,
      (q.isSelect = true → spec.done turn) ∧ (q.isSelect = false → spec.asks turn q)

/-- Every turn of the record is done. -/
def AllDone (h : CoordinatorTrace) (_ : Coordinator) : Prop :=
  ∀ turn ∈ (turnsOf h).turns, spec.done turn

variable {spec} {settings : SessionSettings}

/-- It is enough to prove the specification for the course of each turn. -/
theorem turn_wp
    (hbody : ∀ s input, spec.pre s → (handleInput settings input).wp (spec.body s input)
      (fun control es _ => control = .next → spec.done ⟨s, input, es⟩) [] s)
    {h : CoordinatorTrace} {s : Coordinator} (hdone : spec.AllDone h s) :
    (turn settings).wp spec.contract (TurnPost spec.AllDone fun _ _ => True) h s := by
  rw [turn_eq, Proc.wp_bind, wp_select]
  refine ⟨⟨fun turn hturn => hdone turn (List.mem_append_left _ hturn), fun turn hturn => ?_⟩,
    fun input hrely => ?_⟩
  · refine ⟨fun _ => hdone turn (List.mem_append_right _ ?_), nofun⟩
    simpa using hturn
  -- The exchanges of the turn are those after its `select!`.
  let R (es h' : CoordinatorTrace) : Prop := turnsOf h' = ⟨(turnsOf h).turns, some ⟨s, input, es⟩⟩
  have hR : R [] (h ++ [⟨s, .select, input⟩]) := by
    show turnsOf (h ++ [_]) = _
    rw [turnsOf_snoc]
    rfl
  refine Proc.wp_transfer (R := R) (fun es h' s' q hR hq => ?_)
    (fun control es h' s' hR hpost => ?_) hR (hbody s input (hrely.1 rfl))
  · obtain ⟨hselect, hasks⟩ := hq
    refine ⟨⟨?_, ?_⟩, fun a hrely => ⟨?_, ?_⟩⟩
    · rw [hR]
      exact hdone
    · rw [hR]
      intro turn hturn
      cases hturn
      exact ⟨fun hselect' => absurd (hselect.symm.trans hselect') nofun, fun _ => hasks⟩
    · refine hrely.2 hselect ⟨s, input, es⟩ ?_
      rw [hR]
      rfl
    · show turnsOf (h' ++ [_]) = _
      rw [turnsOf_snoc, hR, TurnLog.add_of_not_select _ _ hselect]
      rfl
  · cases control with
    | stop => trivial
    | next =>
      intro turn hturn
      have hturns : turn ∈ (turnsOf h).turns ++ [⟨s, input, es⟩] := by
        rw [TurnLog.turns, hR] at hturn
        exact hturn
      rcases List.mem_append.mp hturns with hturn | hturn
      · exact hdone turn hturn
      · rw [List.mem_singleton.mp hturn]
        exact hpost rfl

/-- A turn whose requests are free and whose end is not restricted. -/
theorem body_wp_of_free {s : Coordinator} {input : CoordinatorInput}
    (hasks : ∀ es q, input.asks s.activeCodec q = true → spec.asks ⟨s, input, es⟩ q)
    (hdone : ∀ es, spec.done ⟨s, input, es⟩) :
    (handleInput settings input).wp (spec.body s input)
      (fun control es _ => control = .next → spec.done ⟨s, input, es⟩) [] s := by
  refine Proc.wp_mono (Proc.wp_carry (I := fun _ => True) (handleInput_asks input)
    (fun es _ q _ hq => ⟨isSelect_of_asks hq.1, hasks es q hq.1⟩) (fun _ _ _ _ _ _ _ => trivial)
    trivial) fun _ es _ _ _ => hdone es

end TurnSpec

section Runs
variable {settings : SessionSettings} {id : ConnectionId} {metadata : Metadata}
  {allowed : Session → SessionAction → Prop} {spec : TurnSpec}

/-- The coordinator waits for its next input. -/
def Session.AtSelect (settings : SessionSettings) (s : Session) : Prop :=
  ∃ p, s.coordinator.pending settings = some p ∧ p.request = .select

/-- The record of a session begins with a turn. -/
theorem Session.begun_of_reachable {s : Session}
    (h : (Session.system settings id metadata allowed).Reachable s) :
    (∀ e ∈ s.trace.head?, e.request.isSelect = true) ∧
      (s.trace = [] → ∀ p, s.coordinator.pending settings = some p →
        p.request.isSelect = true) := by
  refine Session.invariant_of_reachable
    (I := fun h task => (∀ e ∈ h.head?, e.request.isSelect = true) ∧
      (h = [] → ∀ p, task.pending settings = some p → p.request.isSelect = true))
    ⟨fun e he => ?_, fun _ p hp => ?_⟩ (fun s choice p a w _ hp _ hinv => ⟨fun e he => ?_, ?_⟩) h
  · simp at he
  · obtain rfl := Option.some.inj hp
    rfl
  · cases htrace : s.trace with
    | nil =>
      rw [htrace] at he
      obtain rfl := Option.some.inj he
      exact hinv.2 htrace p hp
    | cons first rest =>
      rw [htrace] at he
      exact hinv.1 e (by rw [htrace]; exact he)
  · intro hnil
    simp at hnil

/-- The specification holds at every pause of the loop. -/
theorem TurnSpec.contract_of_reachable
    (hbody : ∀ s input, spec.pre s → (handleInput settings input).wp (spec.body s input)
      (fun control es _ => control = .next → spec.done ⟨s, input, es⟩) [] s)
    (hallowed : ∀ s choice p a w, allowed s (.coordinator choice) →
      s.coordinator.pending settings = some p → s.world.respond p.request choice = some (a, w) →
      spec.contract.rely s.trace p.state p.request a)
    {s : Session} (h : (Session.system settings id metadata allowed).Reachable s)
    (hloop : s.coordinator.isLooping = true) :
    ∃ p, s.coordinator.pending settings = some p ∧
      spec.contract.guarantee s.trace p.state p.request := by
  have hstart : spec.AllDone [] (.start settings (.new id metadata)) := by
    intro turn hturn
    cases hturn
  exact Session.loop_of_reachable hstart (fun _ _ hdone => turn_wp hbody hdone) hallowed h hloop

end Runs
end OrbitRelay
