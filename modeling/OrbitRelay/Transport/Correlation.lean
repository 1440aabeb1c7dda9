import OrbitRelay.Transport.QueryTurns

/-! Requests and the errors that answer them. An error that `handle_inbound` queues itself carries
the id of its request; an error that its caller queues carries none. -/
namespace OrbitRelay
open Pausing

section Handling

/-- The id of a message that asks for something. -/
def InboundMessage.requestId? : InboundMessage → Option MessageId
  | .authenticate request => some request.requestId
  | .subscribe request => some request.requestId
  | .unsubscribe request => some request.requestId
  | .action envelope => some envelope.messageId
  | .query message => some message.messageId
  | .hello _ | .ping _ | .close _ => none

/-- What may happen while one message is handled: the results of the ports, whether the queues of
the workers admit the job, and whether the writer queue takes what the handler itself queues, the
error of its caller, and the error at the end of the session. -/
structure Outcomes where
  resolved : Except IdentityError ActorBinding
  authorized : Except SubscriptionAuthorizationError Unit
  subscribed : Except EventSourceError TransportSubscriptionId
  actionAdmitted : Bool
  queryAdmitted : Bool
  replyQueued : Bool
  errorQueued : Bool
  finalQueued : Bool

/-- The answers in the course of the handler and its caller. A message with an id leads to no
other requests. -/
def Outcomes.answer (outcomes : Outcomes) : (request : CoordinatorRequest) → request.Answer
  | .resolve .. => outcomes.resolved
  | .authorize .. => outcomes.authorized
  | .subscribe _ => outcomes.subscribed
  | .enqueue (.action _) => outcomes.actionAdmitted
  | .enqueue (.query _) => outcomes.queryAdmitted
  | .enqueue (.error _ none _) => outcomes.errorQueued
  | .enqueue _ => outcomes.replyQueued
  | .perform _ => ()
  | .spawnPump .. => (⟨0⟩ : SubscriptionHandle)
  | .select => CoordinatorInput.event none
  | .negotiate _ => (.error (.unsupportedVersion []) : Except VersionNegotiationError Version)
  | .sendClose | .awaitWriter => false
  | .drain handles => handles

/-- The answer at the end of the session, to the report of the fatal error. -/
def Outcomes.finalAnswer (outcomes : Outcomes) : (request : CoordinatorRequest) → request.Answer
  | .enqueue _ => outcomes.finalQueued
  | request => outcomes.answer request

/-- The exchanges of one message: `handle_inbound`, its caller, and the report of the fatal error
if the loop stops. -/
def handling (settings : SessionSettings) (message : InboundMessage) (outcomes : Outcomes)
    (s : Coordinator) : CoordinatorTrace :=
  match (handleMessage settings message s).run outcomes.answer with
  | (h, .next, _) => h
  | (h, .stop, s') => h ++ ((reportFatalError s').run outcomes.finalAnswer).1

/-- An error, or the response to a query, carries this id. -/
def OutboundMessage.Answers (id : MessageId) : OutboundMessage → Prop
  | .error message => message.requestId = some id
  | .queryResponse response => response.requestId = id
  | _ => True

/-- What the writer queue took in the exchange carries this id, if it is an error. -/
def AnsweredUnder (id : MessageId) (e : CoordinatorExchange) : Prop :=
  ∀ message ∈ messageOf e, message.Answers id

def AllUnder (id : MessageId) (h : CoordinatorTrace) : Prop := ∀ e ∈ h, AnsweredUnder id e

/-- The handler does not fail: the state allows the message, the ports accept it, and what the
handler queues is taken. -/
def Accomplished (settings : SessionSettings) (outcomes : Outcomes) (s : Coordinator) :
    InboundMessage → Prop
  | .authenticate _ =>
    s.connection.state = .authenticating ∧ outcomes.resolved.toOption.isSome = true
  | .subscribe _ => s.connection.state = .ready ∧ s.connection.identity.isSome = true ∧
      outcomes.authorized = .ok () ∧
      (∃ id, outcomes.subscribed = .ok id ∧ ∀ entry ∈ s.subscriptions, entry.1 ≠ id) ∧
      s.negotiatedVersion.isSome = true ∧ outcomes.replyQueued = true
  | .unsubscribe _ => s.connection.state = .ready ∧ outcomes.replyQueued = true
  | .action envelope => s.connection.state = .ready ∧
      validateActionBinding s.connection.identity envelope.payload = .ok () ∧
      outcomes.actionAdmitted = true
  | .query message => s.connection.state = .ready ∧ ∃ negotiated,
      s.negotiatedVersion = some negotiated ∧
      if negotiated ≠ queryProtocolVersion ∨ message.version ≠ queryProtocolVersion then
        outcomes.replyQueued = true
      else s.connection.identity.isSome = true ∧
        (settings.hasQueryExecutor = true ∧ outcomes.queryAdmitted = true ∨
          outcomes.replyQueued = true)
  | .hello _ | .ping _ | .close _ => True

/-- The writer queue takes neither the error of the caller nor the one at the end. -/
def Outcomes.Unheard (outcomes : Outcomes) (s : Coordinator) : Prop :=
  outcomes.errorQueued = false ∧ (s.gracefulClose = true ∨ outcomes.finalQueued = false)

end Handling
section Handlers
variable {settings : SessionSettings} {message : InboundMessage} {outcomes : Outcomes}
  {s : Coordinator} {id : MessageId}

/-- What a handler leaves: all its own answers carry the id, and it fails where the message is not
accomplished. -/
def Correlated (settings : SessionSettings) (message : InboundMessage) (outcomes : Outcomes)
    (s : Coordinator) (id : MessageId) (result : Except WebSocketAdapterError Unit)
    (h : CoordinatorTrace) (s' : Coordinator) : Prop :=
  AllUnder id h ∧ s'.gracefulClose = s.gracefulClose ∧
    (result = .ok () ↔ Accomplished settings outcomes s message)

/-- An exchange in which the writer queue took nothing. -/
theorem answeredUnder_of_none {e : CoordinatorExchange} (h : messageOf e = none) :
    AnsweredUnder id e := by
  intro message hmessage
  rw [h] at hmessage
  cases hmessage

theorem AllUnder.nil : AllUnder id [] :=
  fun _ hmem => (List.not_mem_nil hmem).elim

theorem AllUnder.snoc {h : CoordinatorTrace} {e : CoordinatorExchange} (hh : AllUnder id h)
    (he : AnsweredUnder id e) : AllUnder id (h ++ [e]) := by
  intro e' hmem
  rcases List.mem_append.mp hmem with hmem | hmem
  · exact hh e' hmem
  · rw [List.mem_singleton.mp hmem]
    exact he

theorem allUnder_snoc_iff {h : CoordinatorTrace} {e : CoordinatorExchange} (hh : AllUnder id h) :
    AllUnder id (h ++ [e]) ↔ AnsweredUnder id e :=
  ⟨fun hall => hall e (List.mem_append_right _ (List.mem_singleton_self _)), hh.snoc⟩

/-- A handler that has failed. -/
theorem correlated_error {h : CoordinatorTrace} {s' : Coordinator} {error : WebSocketAdapterError}
    (hh : AllUnder id h) (hstate : s'.gracefulClose = s.gracefulClose)
    (hfailed : ¬ Accomplished settings outcomes s message) :
    Correlated settings message outcomes s id (.error error) h s' := by
  refine ⟨hh, hstate, fun heq => ?_, fun haccomplished => absurd haccomplished hfailed⟩
  cases heq

/-- A handler that has done its work. -/
theorem correlated_ok {h : CoordinatorTrace} {s' : Coordinator}
    (hh : AllUnder id h) (hstate : s'.gracefulClose = s.gracefulClose)
    (hdone : Accomplished settings outcomes s message) :
    Correlated settings message outcomes s id (.ok ()) h s' :=
  ⟨hh, hstate, fun _ => hdone, fun _ => rfl⟩

/-- A handler whose last step is a reply. -/
theorem correlated_required {h : CoordinatorTrace} {s' : Coordinator} {queued : Bool}
    (hh : AllUnder id h) (hstate : s'.gracefulClose = s.gracefulClose)
    (hdone : queued = true ↔ Accomplished settings outcomes s message) :
    Correlated settings message outcomes s id (requiredResult queued) h s' := by
  cases queued with
  | true => exact correlated_ok hh hstate (hdone.mp rfl)
  | false =>
    exact correlated_error hh hstate fun haccomplished => of_both (hdone.mpr haccomplished) rfl

theorem handleAuthenticate_correlated (authenticate : Authenticate) :
    (handleAuthenticate authenticate).run.wp (.answering outcomes.answer)
      (Correlated settings (.authenticate authenticate) outcomes s id) [] s := by
  simp only [handleAuthenticate, Proc.wp_run_bind, Proc.wp_run_get, Proc.wp_run_throw,
    Proc.afterResult_ok, Proc.afterResult_error, Proc.wp_run_ite, Proc.wp_run_liftM, wp_resolve]
  refine ⟨fun hstate => ?_, fun hstate => ⟨trivial, fun answer hanswer => ?_⟩⟩
  · exact correlated_error .nil rfl fun haccomplished => hstate haccomplished.1
  · have hstate : s.connection.state = .authenticating := by simpa using hstate
    have hresolved : outcomes.resolved = answer := hanswer.symm
    have hh : AllUnder id
        ([] ++ [⟨s, .resolve s.connection.id authenticate.credentials, answer⟩]) :=
      AllUnder.nil.snoc (answeredUnder_of_none rfl)
    rcases answer with e | binding
    · refine correlated_error hh rfl fun haccomplished => ?_
      have hsome := haccomplished.2
      rw [hresolved] at hsome
      cases hsome
    · have hbind : s.connection.bindIdentity binding =
          .ok { s.connection with identity := some binding } := by
        simp [TransportConnection.bindIdentity, hstate]
      have hready :
          ({ s.connection with identity := some binding } : TransportConnection).markReady =
            .ok { s.connection with identity := some binding, state := .ready } := by
        simp [TransportConnection.markReady, TransportConnection.transitionTo,
          ConnectionState.transitionTo, ConnectionState.canTransitionTo, hstate, Except.map,
          Except.mapError]
      simp only [Proc.wp_run_bind, Proc.wp_run_get, Proc.afterResult_ok, hbind, hready,
        wp_orThrow_ok, wp_setConnection]
      exact correlated_ok hh rfl ⟨hstate, by rw [hresolved]; rfl⟩

/-- Off a connection that is ready no data-plane message is handled, and none is accomplished. -/
theorem correlated_unready (error : WebSocketAdapterError)
    (hready : Accomplished settings outcomes s message → s.connection.state = .ready)
    (hstate : s.connection.state ≠ .ready) :
    Correlated settings message outcomes s id (.error error) [] s :=
  correlated_error .nil rfl fun haccomplished => hstate (hready haccomplished)

theorem handleAction_correlated (envelope : MessageEnvelope Action) :
    (handleAction envelope).run.wp (.answering outcomes.answer)
      (Correlated settings (.action envelope) outcomes s id) [] s := by
  refine wp_whenReady (fun error => correlated_unready error And.left) fun hstate => ?_
  simp only [Proc.wp_run_bind, Proc.wp_run_get, Proc.afterResult_ok]
  cases hbinding : validateActionBinding s.connection.identity envelope.payload with
  | error e =>
    refine correlated_error .nil rfl fun haccomplished => ?_
    have hok := haccomplished.2.1
    rw [hbinding] at hok
    cases hok
  | ok =>
    simp only [wp_orThrow_ok, Proc.afterResult_ok, Proc.wp_run_bind, Proc.wp_run_liftM,
      wp_enqueue, Proc.wp_run_ite, Proc.wp_run_throw, Proc.wp_run_pure]
    refine ⟨trivial, fun admitted hadmitted => ?_⟩
    have hadmitted : outcomes.actionAdmitted = admitted := hadmitted.symm
    have hh : AllUnder id
        ([] ++ [⟨s, .enqueue (.action ⟨envelope.messageId, envelope.payload⟩), admitted⟩]) := by
      refine AllUnder.nil.snoc (answeredUnder_of_none ?_)
      cases admitted <;> rfl
    refine ⟨fun hrefused => ?_, fun htaken => ?_⟩
    · refine correlated_error hh rfl fun haccomplished => ?_
      rw [← hadmitted, haccomplished.2.2] at hrefused
      cases hrefused
    · refine correlated_ok hh rfl ⟨hstate, hbinding, ?_⟩
      simpa [hadmitted] using htaken

/-- A message of the handler, taken or not. -/
theorem answeredUnder_application {s' : Coordinator} {codec : MessageCodec}
    {reply : OutboundMessage} (hreply : reply.Answers id) (queued : Bool) :
    AnsweredUnder id ⟨s', .enqueue (.application codec reply), queued⟩ := by
  intro message hmessage
  cases queued with
  | true =>
    obtain rfl := Option.some.inj hmessage
    exact hreply
  | false => cases hmessage

theorem answeredUnder_error {s' : Coordinator} {codec : MessageCodec} {error : TransportError}
    (queued : Bool) : AnsweredUnder id ⟨s', .enqueue (.error codec (some id) error), queued⟩ := by
  intro message hmessage
  cases queued with
  | true =>
    obtain rfl := Option.some.inj hmessage
    rfl
  | false => cases hmessage

theorem answeredUnder_queryResponse {s' : Coordinator} {codec : MessageCodec} {version : Version}
    {response : QueryResponse} {limit : Nat} (hresponse : response.requestId = id)
    (queued : Bool) :
    AnsweredUnder id ⟨s', .enqueue (.queryResponse codec version response limit), queued⟩ := by
  intro message hmessage
  cases queued with
  | true =>
    obtain ⟨command, hcommand, hmessage⟩ := Option.bind_eq_some_iff.mp hmessage
    obtain ⟨reply, hreply, rfl⟩ := Option.map_eq_some_iff.mp hcommand
    obtain rfl := Option.some.inj hmessage
    have hticket := (responseMessage_eq_some hreply).1
    cases reply with
    | queryResponse reply =>
      have hid := congrArg Ticket.messageId (Option.some.inj hticket)
      exact hid.trans hresponse
    | _ => cases hticket
  | false => cases hmessage

theorem handleQuery_correlated (query : QueryMessage) :
    (handleQuery settings query).run.wp (.answering outcomes.answer)
      (Correlated settings (.query query) outcomes s query.messageId) [] s := by
  refine wp_whenReady (fun error => correlated_unready error And.left) fun hstate => ?_
  simp only [Proc.wp_run_bind, Proc.wp_run_get, Proc.afterResult_ok]
  cases hversion : s.negotiatedVersion with
  | none =>
    refine correlated_error .nil rfl fun haccomplished => ?_
    obtain ⟨negotiated, hsome, -⟩ := haccomplished.2
    rw [hversion] at hsome
    cases hsome
  | some negotiated =>
    have hdone : Accomplished settings outcomes s (.query query) ↔
        if negotiated ≠ queryProtocolVersion ∨ query.version ≠ queryProtocolVersion then
          outcomes.replyQueued = true
        else s.connection.identity.isSome = true ∧
          (settings.hasQueryExecutor = true ∧ outcomes.queryAdmitted = true ∨
            outcomes.replyQueued = true) := by
      simp [Accomplished, hstate, hversion]
    simp only [Proc.wp_run_ite, Proc.wp_run_bind, Proc.wp_run_get, Proc.afterResult_ok,
      wp_required, wp_enqueue]
    refine ⟨fun hunsupported => ⟨trivial, fun queued hqueued => ?_⟩, fun hsupported => ?_⟩
    · have hqueued : outcomes.replyQueued = queued := hqueued.symm
      refine correlated_required (AllUnder.nil.snoc (answeredUnder_error queued)) rfl ?_
      rw [hdone, if_pos hunsupported, hqueued]
    rw [if_neg hsupported] at hdone
    cases hidentity : s.connection.identity with
    | none =>
      refine correlated_error .nil rfl fun haccomplished => ?_
      have hsome := (hdone.mp haccomplished).1
      rw [hidentity] at hsome
      cases hsome
    | some binding =>
      rw [hidentity] at hdone
      simp only [Proc.wp_run_ite, Proc.wp_run_bind, Proc.wp_run_get, Proc.afterResult_ok,
        Proc.wp_run_liftM, Proc.wp_run_pure, wp_required, wp_enqueue]
      refine ⟨fun hexecutor => ⟨trivial, fun queued hqueued => ?_⟩, fun hexecutor => ?_⟩
      · have hqueued : outcomes.replyQueued = queued := hqueued.symm
        refine correlated_required (AllUnder.nil.snoc (answeredUnder_queryResponse rfl queued))
          rfl ?_
        have hnone : settings.hasQueryExecutor = false := by simpa using hexecutor
        rw [hdone, hqueued]
        simp [hnone]
      · have hsome : settings.hasQueryExecutor = true := by simpa using hexecutor
        refine ⟨trivial, fun admitted hadmitted => ?_⟩
        have hadmitted : outcomes.queryAdmitted = admitted := hadmitted.symm
        have hh : AllUnder query.messageId
            ([] ++
              [⟨s, .enqueue (.query ⟨.new binding.actorId, query.intoRequest⟩), admitted⟩]) := by
          refine AllUnder.nil.snoc (answeredUnder_of_none ?_)
          cases admitted <;> rfl
        refine ⟨fun hrefused => ⟨trivial, fun queued hqueued => ?_⟩, fun htaken => ?_⟩
        · have hqueued : outcomes.replyQueued = queued := hqueued.symm
          refine correlated_required (hh.snoc (answeredUnder_queryResponse rfl queued)) rfl ?_
          have hnone : admitted = false := by simpa using hrefused
          rw [hdone, hqueued, hadmitted]
          simp [hnone]
        · refine correlated_ok hh rfl (hdone.mpr ⟨rfl, .inl ⟨hsome, ?_⟩⟩)
          simpa [hadmitted] using htaken

theorem handleSubscribe_correlated (request : SubscriptionRequest) :
    (handleSubscribe request).run.wp (.answering outcomes.answer)
      (Correlated settings (.subscribe request) outcomes s id) [] s := by
  refine wp_whenReady (fun error => correlated_unready error And.left) fun hstate => ?_
  simp only [Proc.wp_run_bind, Proc.wp_run_get, Proc.afterResult_ok]
  cases hidentity : s.connection.identity with
  | none =>
    refine correlated_error .nil rfl fun haccomplished => ?_
    have hsome := haccomplished.2.1
    rw [hidentity] at hsome
    cases hsome
  | some binding =>
    simp only [Proc.wp_run_bind, Proc.wp_run_liftM, wp_authorize]
    refine ⟨trivial, fun authorized hauthorized => ?_⟩
    have hauthorized : outcomes.authorized = authorized := hauthorized.symm
    have hh : AllUnder id ([] ++ [⟨s, .authorize binding request, authorized⟩]) :=
      AllUnder.nil.snoc (answeredUnder_of_none rfl)
    rcases authorized with e | ⟨⟨⟩⟩
    · refine correlated_error hh rfl fun haccomplished => ?_
      have hok := haccomplished.2.2.1
      rw [hauthorized] at hok
      cases hok
    simp only [wp_orThrow_ok, Proc.afterResult_ok, Proc.wp_run_bind, Proc.wp_run_liftM,
      wp_subscribe]
    refine ⟨trivial, fun subscribed hsubscribed => ?_⟩
    have hsubscribed : outcomes.subscribed = subscribed := hsubscribed.symm
    replace hh := hh.snoc (e := ⟨s, .subscribe request, subscribed⟩) (answeredUnder_of_none rfl)
    rcases subscribed with e | source
    · refine correlated_error hh rfl fun haccomplished => ?_
      obtain ⟨source, hok, -⟩ := haccomplished.2.2.2.1
      rw [hsubscribed] at hok
      cases hok
    simp only [wp_orThrow_ok, Proc.afterResult_ok, Proc.afterResult_error, Proc.wp_run_bind,
      Proc.wp_run_get, Proc.wp_run_ite, Proc.wp_run_throw]
    refine ⟨fun hduplicate => ?_, fun hnew => ?_⟩
    · refine correlated_error hh rfl fun haccomplished => ?_
      obtain ⟨source', hok, hfresh⟩ := haccomplished.2.2.2.1
      obtain ⟨entry, hentry, heq⟩ := List.any_eq_true.mp hduplicate
      rw [hsubscribed] at hok
      cases hok
      exact hfresh entry hentry (by simpa using heq)
    cases hversion : s.negotiatedVersion with
    | none =>
      refine correlated_error hh rfl fun haccomplished => ?_
      have hsome := haccomplished.2.2.2.2.1
      rw [hversion] at hsome
      cases hsome
    | some version =>
      simp only [Proc.afterResult_ok, Proc.wp_run_bind, Proc.wp_run_get, Proc.wp_run_ite,
        Proc.wp_run_throw, Proc.wp_run_liftM, wp_enqueue, wp_perform, wp_spawnPump,
        Proc.wp_run_modify]
      refine ⟨trivial, fun queued hqueued => ?_⟩
      have hqueued : outcomes.replyQueued = queued := hqueued.symm
      have hreply :
          (OutboundMessage.subscriptionAccepted ⟨request.requestId, source⟩).Answers id :=
        trivial
      have haccepted := @answeredUnder_application _ s s.activeCodec _ hreply queued
      refine ⟨fun hrefused => ⟨trivial, fun _ _ => ?_⟩, fun htaken => ⟨trivial, fun _ _ => ?_⟩⟩
      · refine correlated_error ((hh.snoc haccepted).snoc (answeredUnder_of_none rfl)) rfl ?_
        intro haccomplished
        rw [← hqueued, haccomplished.2.2.2.2.2] at hrefused
        cases hrefused
      · refine correlated_ok ((hh.snoc haccepted).snoc (answeredUnder_of_none rfl)) rfl ?_
        have hfresh : ∀ entry ∈ s.subscriptions, entry.1 ≠ source := by
          intro entry hentry heq
          exact hnew (List.any_eq_true.mpr ⟨entry, hentry, by simpa using heq⟩)
        refine ⟨hstate, ?_, hauthorized, ⟨source, hsubscribed, hfresh⟩, ?_, ?_⟩
        · rw [hidentity]
          rfl
        · rw [hversion]
          rfl
        · simpa [hqueued] using htaken

theorem handleUnsubscribe_correlated (unsubscribe : Unsubscribe) :
    (handleUnsubscribe unsubscribe).run.wp (.answering outcomes.answer)
      (Correlated settings (.unsubscribe unsubscribe) outcomes s unsubscribe.requestId) [] s := by
  refine wp_whenReady (fun error => correlated_unready error And.left) fun hstate => ?_
  have hdone {queued : Bool} (hqueued : outcomes.replyQueued = queued) :
      queued = true ↔ Accomplished settings outcomes s (.unsubscribe unsubscribe) := by
    rw [← hqueued]
    exact ⟨fun htaken => ⟨hstate, htaken⟩, fun haccomplished => haccomplished.2⟩
  simp only [Proc.wp_run_bind, Proc.wp_run_get, Proc.afterResult_ok]
  cases hremoved : removeSubscription unsubscribe.subscriptionId s with
  | none =>
    simp only [Proc.wp_run_bind, Proc.wp_run_get, Proc.afterResult_ok, wp_required, wp_enqueue]
    refine ⟨trivial, fun queued hqueued => ?_⟩
    refine correlated_required (AllUnder.nil.snoc (answeredUnder_error queued)) rfl ?_
    exact hdone hqueued.symm
  | some found =>
    obtain ⟨handle, s'⟩ := found
    obtain ⟨rest, rfl⟩ := removeSubscription_eq_some hremoved
    simp only [Proc.wp_run_bind, Proc.wp_run_set, Proc.afterResult_ok, Proc.wp_run_liftM,
      wp_stopPump, wp_perform, Proc.wp_run_get, wp_required, wp_enqueue]
    refine ⟨trivial, fun _ _ => ⟨trivial, fun _ _ => ⟨trivial, fun queued hqueued => ?_⟩⟩⟩
    have hreply : (OutboundMessage.subscriptionClosed ⟨some unsubscribe.requestId,
        unsubscribe.subscriptionId⟩).Answers unsubscribe.requestId := trivial
    refine correlated_required (((AllUnder.nil.snoc ?_).snoc ?_).snoc
      (answeredUnder_application hreply queued)) rfl (hdone hqueued.symm)
    · exact answeredUnder_of_none rfl
    · exact answeredUnder_of_none rfl

/-- Every handler answers under the id of its message. -/
theorem handleInbound_correlated (hid : message.requestId? = some id) :
    (handleInbound settings message).run.wp (.answering outcomes.answer)
      (Correlated settings message outcomes s id) [] s := by
  cases message with
  | authenticate authenticate => exact handleAuthenticate_correlated authenticate
  | subscribe request => exact handleSubscribe_correlated request
  | action envelope => exact handleAction_correlated envelope
  | unsubscribe unsubscribe =>
    obtain rfl := Option.some.inj hid
    exact handleUnsubscribe_correlated unsubscribe
  | query query =>
    obtain rfl := Option.some.inj hid
    exact handleQuery_correlated query
  | _ => cases hid

end Handlers
section Callers
variable {settings : SessionSettings} {message : InboundMessage} {outcomes : Outcomes}
  {s s' : Coordinator} {id : MessageId}

/-- The error of the caller is not taken, or it carries no id. -/
theorem answeredUnder_uncorrelated {codec : MessageCodec} {error : TransportError} (queued : Bool) :
    AnsweredUnder id ⟨s, .enqueue (.error codec none error), queued⟩ ↔ queued = false := by
  cases queued with
  | true =>
    refine iff_of_false (fun hunder => ?_) (of_both rfl)
    have hanswers := hunder (.error (.fromTransportError none error)) rfl
    cases hanswers
  | false => exact iff_of_true (answeredUnder_of_none rfl) rfl

/-- The end of a message that its handler refuses. -/
structure Rejected (outcomes : Outcomes) (s : Coordinator) (id : MessageId) (control : LoopControl)
    (h : CoordinatorTrace) (s' : Coordinator) : Prop where
  answers : AllUnder id h ↔ outcomes.errorQueued = false
  graceful : s'.gracefulClose = s.gracefulClose
  stops : outcomes.errorQueued = false → control = .stop ∧ s'.fatalErrorQueued = false ∧
    ∃ error, s'.fatalError = some error

theorem handleMessage_answers (settings : SessionSettings) (outcomes : Outcomes) (s : Coordinator)
    (hid : message.requestId? = some id) :
    (handleMessage settings message).wp (.answering outcomes.answer)
      (fun control h s' => (Accomplished settings outcomes s message ∧ control = .next ∧
        AllUnder id h) ∨ (¬ Accomplished settings outcomes s message ∧
          Rejected outcomes s id control h s')) [] s := by
  unfold handleMessage
  rw [Proc.wp_bind]
  refine Proc.wp_mono (handleInbound_correlated hid) fun result h s' hresult => ?_
  obtain ⟨hh, hgraceful, hdone⟩ := hresult
  cases result with
  | ok => exact .inl ⟨hdone.mp rfl, rfl, hh⟩
  | error error =>
    have hfailed : ¬ Accomplished settings outcomes s message := by
      intro haccomplished
      cases hdone.mpr haccomplished
    simp only [Proc.wp_bind, Proc.wp_get, wp_enqueue, Proc.wp_ite]
    refine ⟨trivial, fun queued hqueued => ?_⟩
    have hqueued : outcomes.errorQueued = queued := hqueued.symm
    have hanswers : AllUnder id (h ++ [⟨s', .enqueue (.error s'.activeCodec none
        error.toTransportError), queued⟩]) ↔ outcomes.errorQueued = false := by
      rw [hqueued, allUnder_snoc_iff hh]
      exact answeredUnder_uncorrelated queued
    refine ⟨fun _ => .inr ⟨hfailed, hanswers, hgraceful, fun hrefused => ?_⟩,
      fun hgoes => .inr ⟨hfailed, hanswers, hgraceful, fun hrefused => ?_⟩⟩
    · exact ⟨rfl, hqueued.symm.trans hrefused, error, rfl⟩
    · rw [← hqueued, hrefused] at hgoes
      simp at hgoes

/-- The report at the end of the session carries no id either. -/
theorem reportFatalError_answers (hqueued : s'.fatalErrorQueued = false)
    (hfatal : ∃ error, s'.fatalError = some error) {h : CoordinatorTrace} (hh : AllUnder id h) :
    AllUnder id (h ++ ((reportFatalError s').run outcomes.finalAnswer).1) ↔
      s'.gracefulClose = true ∨ outcomes.finalQueued = false := by
  obtain ⟨error, hfatal⟩ := hfatal
  cases hgraceful : s'.gracefulClose with
  | true =>
    have hnone : ((reportFatalError s').run outcomes.finalAnswer).1 = [] := by
      simp only [reportFatalError, bind, get, getThe, MonadStateOf.get, Program.bind, hgraceful]
      rfl
    rw [hnone, List.append_nil]
    exact iff_of_true hh (.inl rfl)
  | false =>
    have hreport : ((reportFatalError s').run outcomes.finalAnswer).1 =
        [⟨s', .enqueue (.error s'.activeCodec none error.toFinalError), outcomes.finalQueued⟩] := by
      simp only [reportFatalError, bind, get, getThe, MonadStateOf.get, Program.bind, hgraceful,
        hfatal, hqueued]
      rfl
    rw [hreport, allUnder_snoc_iff hh]
    refine (answeredUnder_uncorrelated outcomes.finalQueued).trans ⟨.inr, fun hrefused => ?_⟩
    exact hrefused.resolve_left (of_both · rfl)

/-- The rejection of a message is answered under its own id exactly where its handler does not
fail, or no queue takes the error of its caller. -/
theorem rejected_under_own_id (settings : SessionSettings) (message : InboundMessage)
    (id : MessageId) (outcomes : Outcomes) (s : Coordinator)
    (hid : message.requestId? = some id) :
    (∀ e ∈ handling settings message outcomes s, AnsweredUnder id e) ↔
      Accomplished settings outcomes s message ∨ outcomes.Unheard s := by
  have hrun := Contract.holds_answering.mp (handleMessage_answers settings outcomes s hid)
  rcases hresult : (handleMessage settings message s).run outcomes.answer with ⟨h, control, s'⟩
  rw [hresult, List.nil_append] at hrun
  show AllUnder id (handling settings message outcomes s) ↔ _
  rcases hrun with ⟨hdone, hnext, hh⟩ | ⟨hfailed, hrejected⟩
  · obtain rfl : control = .next := hnext
    have htrace : handling settings message outcomes s = h := by
      simp only [handling, hresult]
    rw [htrace]
    exact iff_of_true hh (.inl hdone)
  · rw [or_iff_right hfailed]
    cases herror : outcomes.errorQueued with
    | true =>
      have hnot : ¬ AllUnder id h := fun hall => of_both herror (hrejected.answers.mp hall)
      refine iff_of_false (fun hall => hnot fun e hmem => hall e ?_) fun hunheard =>
        of_both herror hunheard.1
      unfold handling
      rw [hresult]
      cases control with
      | next => exact hmem
      | stop => exact List.mem_append_left _ hmem
    | false =>
      obtain ⟨hstop, hqueued, hfatal⟩ := hrejected.stops herror
      obtain rfl : control = .stop := hstop
      have htrace : handling settings message outcomes s =
          h ++ ((reportFatalError s').run outcomes.finalAnswer).1 := by
        simp only [handling, hresult]
      have hgraceful : s'.gracefulClose = s.gracefulClose := hrejected.graceful
      rw [htrace, reportFatalError_answers hqueued hfatal (hrejected.answers.mpr herror), hgraceful]
      exact ⟨fun hrefused => ⟨herror, hrefused⟩, fun hunheard => hunheard.2⟩

/-- A client that authenticates before its hello. -/
def sampleEarly : InboundMessage := .authenticate ⟨sampleId .message, ⟨"token", "alice"⟩⟩

/-- Every port accepts, and every queue has room. -/
def sampleOutcomes : Outcomes where
  resolved := .ok sampleBinding
  authorized := .ok ()
  subscribed := .ok (sampleId .transportSubscription)
  actionAdmitted := true
  queryAdmitted := true
  replyQueued := true
  errorQueued := true
  finalQueued := true

/-- The error that answers it has no id. -/
theorem rejected_without_id : ¬ ∀ settings message id outcomes s,
    InboundMessage.requestId? message = some id →
      ∀ e ∈ handling settings message outcomes s, AnsweredUnder id e := by
  intro hall
  have hunder := hall (sampleSettings 1 1) sampleEarly (sampleId .message) sampleOutcomes
    (.start (sampleSettings 1 1) (.new (sampleId .connection) ⟨[]⟩)) rfl
  have hanswers := hunder _ List.mem_cons_self _ rfl
  cases hanswers

/-- A client that ends a subscription it does not have. -/
def sampleStranger : InboundMessage :=
  .unsubscribe ⟨sampleId .message, sampleId .transportSubscription⟩

def sampleReady : Coordinator :=
  .start (sampleSettings 1 1) ⟨sampleId .connection, ⟨[]⟩, .ready, some sampleBinding⟩

/-- The handler itself queues the error that answers it. -/
theorem rejected_under_own_id_sample :
    ((handling (sampleSettings 1 1) sampleStranger sampleOutcomes sampleReady).filterMap
      messageOf).length = 1 ∧
    ∀ e ∈ handling (sampleSettings 1 1) sampleStranger sampleOutcomes sampleReady,
      AnsweredUnder (sampleId .message) e :=
  ⟨rfl, (rejected_under_own_id _ _ _ _ _ rfl).mpr (.inl ⟨rfl, rfl⟩)⟩

end Callers
end OrbitRelay
