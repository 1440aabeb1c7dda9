import Mathlib.Data.List.Induction
import Mathlib.Logic.Relation
import OrbitRelay.Transport.Session

/-! The handshake: what the coordinator's exchanges say about version, identity and lifecycle,
and what every data-plane request rests on. -/
namespace OrbitRelay
open Pausing

/-- The version that the policy chose in this exchange. -/
def choiceOf : CoordinatorExchange → Option Version
  | ⟨_, .negotiate _, .ok version⟩ => some version
  | _ => none

/-- The binding that the resolver returned in this exchange. -/
def bindingOf : CoordinatorExchange → Option ActorBinding
  | ⟨_, .resolve .., .ok binding⟩ => some binding
  | _ => none

/-- The message that this exchange received, if it took an input at all. -/
def inputOf : CoordinatorExchange → Option (Option InboundMessage)
  | ⟨s, .select, .reader (some (.text bytes))⟩ => some (s.activeCodec.decodeInbound bytes).toOption
  | ⟨_, .select, _⟩ => some none
  | _ => none

/-- The versions that the policy chose so far. -/
def chosen (h : CoordinatorTrace) : List Version := h.filterMap choiceOf

/-- The bindings that the resolver returned so far. -/
def resolved (h : CoordinatorTrace) : List ActorBinding := h.filterMap bindingOf

/-- The message of the coordinator's latest input. -/
def received (h : CoordinatorTrace) : Option InboundMessage := (h.filterMap inputOf).getLast?.join

/-- The connection state at the latest pause. -/
def lastState (h : CoordinatorTrace) : ConnectionState :=
  h.getLast?.elim .negotiating fun e => e.state.connection.state

/-- Zero or more allowed transitions. -/
def ConnectionState.LeadsTo : ConnectionState → ConnectionState → Prop :=
  Relation.ReflTransGen fun a b => a.canTransitionTo b = true

/-- State, version and identity stay in step with what was negotiated and resolved. -/
structure Consistent (h : CoordinatorTrace) (s : Coordinator) : Prop where
  chosen : chosen h = s.negotiatedVersion.toList
  resolved : resolved h = s.connection.identity.toList
  negotiating : s.connection.state = .negotiating → s.negotiatedVersion = none
  unbound : s.connection.state = .negotiating ∨ s.connection.state = .authenticating →
    s.connection.identity = none
  negotiated : s.connection.state = .authenticating ∨ s.connection.state = .ready →
    s.negotiatedVersion.isSome
  bound : s.connection.state = .ready → s.connection.identity.isSome
  moved : (lastState h).LeadsTo s.connection.state

/-- The connection is ready, with the one version and the one identity that were settled. -/
structure Authenticated (h : CoordinatorTrace) (s : Coordinator) (version : Version)
    (binding : ActorBinding) : Prop where
  ready : s.connection.state = .ready
  negotiated : s.negotiatedVersion = some version
  policy : chosen h = [version]
  bound : s.connection.identity = some binding
  resolver : resolved h = [binding]

/-- When the coordinator turns to its ports and to the action and query queues. -/
def Admits (h : CoordinatorTrace) (s : Coordinator) : CoordinatorRequest → Prop
  | .negotiate versions =>
    s.connection.state = .negotiating ∧ chosen h = [] ∧
      ∃ hello, received h = some (.hello hello) ∧ versions = hello.supportedVersions
  | .resolve connectionId credentials =>
    s.connection.state = .authenticating ∧ resolved h = [] ∧ connectionId = s.connection.id ∧
      ∃ authenticate, received h = some (.authenticate authenticate) ∧
        credentials = authenticate.credentials
  | .authorize binding request =>
    (∃ version, Authenticated h s version binding) ∧ received h = some (.subscribe request)
  | .enqueue (.action job) =>
    ∃ version binding envelope, Authenticated h s version binding ∧
      received h = some (.action envelope) ∧ job = ⟨envelope.messageId, envelope.payload⟩ ∧
      job.action.actorId = binding.actorId
  | .enqueue (.query job) =>
    ∃ binding message, Authenticated h s queryProtocolVersion binding ∧
      received h = some (.query message) ∧ message.version = queryProtocolVersion ∧
      job = ⟨.new binding.actorId, message.intoRequest⟩
  | _ => True

/-- Any answer may come; every pause is consistent and admitted. -/
def handshake : Contract CoordinatorRequest CoordinatorRequest.Answer Coordinator where
  rely _ _ _ _ := True
  guarantee h s q := Consistent h s ∧ Admits h s q

section Records
variable {h : CoordinatorTrace} {s : Coordinator}

@[simp] theorem chosen_snoc (e : CoordinatorExchange) :
    chosen (h ++ [e]) = chosen h ++ (choiceOf e).toList :=
  List.filterMap_snoc ..

@[simp] theorem resolved_snoc (e : CoordinatorExchange) :
    resolved (h ++ [e]) = resolved h ++ (bindingOf e).toList :=
  List.filterMap_snoc ..

theorem received_snoc_of_some {e : CoordinatorExchange} {m : Option InboundMessage}
    (he : inputOf e = some m) : received (h ++ [e]) = m := by
  simp [received, he]

@[simp] theorem lastState_snoc (e : CoordinatorExchange) :
    lastState (h ++ [e]) = e.state.connection.state := by
  simp [lastState]

/-- An exchange that neither chose a version nor bound an identity changes nothing. -/
theorem Consistent.snoc (hs : Consistent h s) {q : CoordinatorRequest} {a : q.Answer}
    (hchoice : choiceOf ⟨s, q, a⟩ = none) (hbinding : bindingOf ⟨s, q, a⟩ = none) :
    Consistent (h ++ [⟨s, q, a⟩]) s where
  chosen := by simpa [hchoice] using hs.chosen
  resolved := by simpa [hbinding] using hs.resolved
  negotiating := hs.negotiating
  unbound := hs.unbound
  negotiated := hs.negotiated
  bound := hs.bound
  moved := by
    rw [lastState_snoc]
    exact .refl

theorem Consistent.enqueue (hs : Consistent h s) (item : Enqueue) (queued : Bool) :
    Consistent (h ++ [⟨s, .enqueue item, queued⟩]) s :=
  hs.snoc rfl rfl

/-- A message that the coordinator may queue. -/
theorem Consistent.reply (hs : Consistent h s) {item : Enqueue}
    (hadmits : Admits h s (.enqueue item)) :
    (OrbitRelay.enqueue item).wp handshake (fun _ => Consistent) h s :=
  ⟨⟨hs, hadmits⟩, fun queued _ => hs.enqueue item queued⟩

theorem Consistent.perform (hs : Consistent h s) (effect : Effect) :
    Consistent (h ++ [⟨s, .perform effect, ()⟩]) s :=
  hs.snoc rfl rfl

theorem Consistent.stopPump (hs : Consistent h s) (handle : SubscriptionHandle)
    {post : Unit → CoordinatorTrace → Coordinator → Prop}
    (hpost : ∀ h, Consistent h s → post () h s) : (stopPump handle).wp handshake post h s := by
  simp only [wp_stopPump, wp_perform]
  have hs' := hs.perform (.cancelPump handle)
  exact ⟨⟨hs, trivial⟩, fun _ _ => ⟨⟨hs', trivial⟩, fun _ _ => hpost _ (hs'.perform _)⟩⟩

/-- Other local variables do not matter. -/
theorem Consistent.congr (hs : Consistent h s) {s' : Coordinator}
    (hconnection : s'.connection = s.connection)
    (hversion : s'.negotiatedVersion = s.negotiatedVersion) : Consistent h s' := by
  obtain ⟨h1, h2, h3, h4, h5, h6, h7⟩ := hs
  constructor <;> simp only [hconnection, hversion] <;> assumption

theorem Consistent.setSubscriptions (hs : Consistent h s)
    (rest : List (TransportSubscriptionId × SubscriptionHandle)) :
    Consistent h { s with subscriptions := rest } :=
  hs.congr rfl rfl

theorem Consistent.authenticated (hs : Consistent h s) (hready : s.connection.state = .ready) :
    ∃ version binding, Authenticated h s version binding := by
  obtain ⟨version, hversion⟩ := Option.isSome_iff_exists.mp (hs.negotiated (.inr hready))
  obtain ⟨binding, hidentity⟩ := Option.isSome_iff_exists.mp (hs.bound hready)
  have hchosen := hs.chosen
  have hresolved := hs.resolved
  rw [hversion] at hchosen
  rw [hidentity] at hresolved
  exact ⟨version, binding, hready, hversion, hchosen, hidentity, hresolved⟩

end Records

section Handlers
variable {settings : SessionSettings} {h : CoordinatorTrace} {s : Coordinator}

/-- The policy's choice moves a negotiating connection on. -/
theorem Consistent.negotiate_ok (hs : Consistent h s) (hstate : s.connection.state = .negotiating)
    (versions : List Version) (version : Version) :
    Consistent (h ++ [⟨s, .negotiate versions, .ok version⟩])
      { s with connection := { s.connection with state := .authenticating },
               negotiatedVersion := some version } where
  chosen := by
    rw [chosen_snoc, hs.chosen, hs.negotiating hstate]
    rfl
  resolved := by
    rw [resolved_snoc, hs.resolved]
    exact List.append_nil _
  negotiating := nofun
  unbound := fun _ => hs.unbound (.inl hstate)
  negotiated := fun _ => rfl
  bound := nofun
  moved := by
    rw [lastState_snoc, hstate]
    exact .single rfl

theorem handleHello_wp (hs : Consistent h s) {hello : Hello}
    (hm : received h = some (.hello hello)) :
    (handleHello settings hello).run.wp handshake (fun _ => Consistent) h s := by
  simp only [handleHello, Proc.wp_run_bind, Proc.wp_run_get, Proc.wp_run_throw,
    Proc.afterResult_ok, Proc.afterResult_error, Proc.wp_run_ite, Proc.wp_run_liftM, wp_negotiate]
  refine ⟨fun _ => hs, fun hstate => ⟨fun _ => hs, fun _ => ?_⟩⟩
  have hstate := not_not.mp hstate
  have hchosen : chosen h = [] := by
    rw [hs.chosen, hs.negotiating hstate]
    rfl
  refine ⟨⟨hs, hstate, hchosen, hello, hm, rfl⟩, fun answer _ => ?_⟩
  rcases answer with e | version
  · exact hs.snoc rfl rfl
  · have hbegin : s.connection.beginAuthentication =
        .ok { s.connection with state := .authenticating } := by
      simp only [TransportConnection.beginAuthentication, TransportConnection.transitionTo, hstate]
      rfl
    have hmoved := hs.negotiate_ok hstate hello.supportedVersions version
    simp only [wp_orThrow_ok, hbegin, Proc.afterResult_ok, Proc.wp_run_bind, Proc.wp_run_get,
      wp_setConnection, Proc.wp_run_modify, wp_required, wp_enqueue]
    refine ⟨⟨hmoved, trivial⟩, fun queued _ => ?_⟩
    cases queued with
    | false => exact hmoved.enqueue _ false
    | true => exact (hmoved.enqueue _ true).congr rfl rfl

/-- A resolved binding makes an authenticating connection ready. -/
theorem Consistent.resolve_ok (hs : Consistent h s)
    (hstate : s.connection.state = .authenticating) (connectionId : ConnectionId)
    (credentials : InboundCredentials) (binding : ActorBinding) :
    Consistent (h ++ [⟨s, .resolve connectionId credentials, .ok binding⟩])
      { s with connection := { s.connection with state := .ready, identity := some binding } } where
  chosen := by
    rw [chosen_snoc, hs.chosen]
    exact List.append_nil _
  resolved := by
    rw [resolved_snoc, hs.resolved, hs.unbound (.inr hstate)]
    rfl
  negotiating := nofun
  unbound := nofun
  negotiated := fun _ => hs.negotiated (.inl hstate)
  bound := fun _ => rfl
  moved := by
    rw [lastState_snoc, hstate]
    exact .single rfl

theorem handleAuthenticate_wp (hs : Consistent h s) {authenticate : Authenticate}
    (hm : received h = some (.authenticate authenticate)) :
    (handleAuthenticate authenticate).run.wp handshake (fun _ => Consistent) h s := by
  simp only [handleAuthenticate, Proc.wp_run_bind, Proc.wp_run_get, Proc.wp_run_throw,
    Proc.afterResult_ok, Proc.afterResult_error, Proc.wp_run_ite, Proc.wp_run_liftM, wp_resolve]
  refine ⟨fun _ => hs, fun hstate => ?_⟩
  have hstate := not_not.mp hstate
  have hresolved : resolved h = [] := by
    rw [hs.resolved, hs.unbound (.inr hstate)]
    rfl
  refine ⟨⟨hs, hstate, hresolved, rfl, authenticate, hm, rfl⟩, fun answer _ => ?_⟩
  rcases answer with e | binding
  · exact hs.snoc rfl rfl
  · have hbind : s.connection.bindIdentity binding =
        .ok { s.connection with identity := some binding } := by
      unfold TransportConnection.bindIdentity
      rw [if_neg (not_not.mpr hstate)]
    have hready : TransportConnection.markReady { s.connection with identity := some binding } =
        .ok { s.connection with state := .ready, identity := some binding } := by
      simp only [TransportConnection.markReady, TransportConnection.transitionTo, hstate]
      rfl
    have hmoved := hs.resolve_ok hstate s.connection.id authenticate.credentials binding
    simp only [wp_orThrow_ok, hbind, hready, Proc.afterResult_ok, Proc.wp_run_bind, Proc.wp_run_get,
      wp_setConnection]
    exact hmoved

theorem handlePing_wp (hs : Consistent h s) (ping : PingMessage) :
    (handlePing ping).run.wp handshake (fun _ => Consistent) h s := by
  simp only [handlePing, Proc.wp_run_bind, Proc.wp_run_get, Proc.afterResult_ok, wp_required]
  exact hs.reply trivial

theorem validateActionBinding_eq_ok {binding : Option ActorBinding} {action : Action}
    (hok : validateActionBinding binding action = .ok ()) :
    ∃ bound, binding = some bound ∧ action.actorId = bound.actorId := by
  cases binding with
  | none => cases hok
  | some bound =>
    by_cases hactor : bound.actorId = action.actorId
    · exact ⟨bound, rfl, hactor.symm⟩
    · simp [validateActionBinding, hactor] at hok

theorem handleAction_wp (hs : Consistent h s) {envelope : MessageEnvelope Action}
    (hm : received h = some (.action envelope)) :
    (handleAction envelope).run.wp handshake (fun _ => Consistent) h s := by
  refine wp_whenReady (fun _ _ => hs) fun hstate => ?_
  cases hbound : validateActionBinding s.connection.identity envelope.payload with
  | error e =>
    simp only [Proc.afterResult_ok, Proc.wp_run_bind, Proc.wp_run_get, hbound]
    exact hs
  | ok =>
    simp only [wp_orThrow_ok, Proc.afterResult_ok, Proc.wp_run_bind, Proc.wp_run_get, hbound,
      Proc.wp_run_liftM, wp_enqueue, Proc.wp_run_ite, Proc.wp_run_throw, Proc.wp_run_pure]
    obtain ⟨version, binding, hauth⟩ := hs.authenticated hstate
    obtain ⟨bound, hidentity, hactor⟩ := validateActionBinding_eq_ok hbound
    rw [hauth.bound, Option.some.injEq] at hidentity
    subst hidentity
    refine ⟨⟨hs, version, binding, envelope, hauth, hm, rfl, hactor⟩, fun queued _ => ?_⟩
    exact ⟨fun _ => hs.enqueue _ queued, fun _ => hs.enqueue _ queued⟩

theorem handleQuery_wp (hs : Consistent h s) {message : QueryMessage}
    (hm : received h = some (.query message)) :
    (handleQuery settings message).run.wp handshake (fun _ => Consistent) h s := by
  refine wp_whenReady (fun _ _ => hs) fun hstate => ?_
  obtain ⟨version, binding, hauth⟩ := hs.authenticated hstate
  simp only [Proc.afterResult_ok, Proc.wp_run_bind, Proc.wp_run_get,
    hauth.negotiated, hauth.bound, Proc.wp_run_ite, wp_required, wp_enqueue, Proc.wp_run_liftM,
    Proc.wp_run_pure]
  refine ⟨fun _ => hs.reply trivial, fun hversions => ?_⟩
  obtain ⟨rfl, hversion⟩ : version = queryProtocolVersion ∧
      message.version = queryProtocolVersion := by
    simpa [not_or] using hversions
  refine ⟨fun _ => hs.reply trivial, fun _ => ?_⟩
  refine ⟨⟨hs, binding, message, hauth, hm, hversion, rfl⟩, fun admitted _ => ?_⟩
  have hs' := hs.enqueue (.query ⟨.new binding.actorId, message.intoRequest⟩) admitted
  exact ⟨fun _ => hs'.reply trivial, fun _ => hs'⟩

theorem handleSubscribe_wp (hs : Consistent h s) {request : SubscriptionRequest}
    (hm : received h = some (.subscribe request)) :
    (handleSubscribe request).run.wp handshake (fun _ => Consistent) h s := by
  refine wp_whenReady (fun _ _ => hs) fun hstate => ?_
  obtain ⟨version, binding, hauth⟩ := hs.authenticated hstate
  simp only [Proc.afterResult_ok, Proc.wp_run_bind, Proc.wp_run_get,
    hauth.bound, wp_authorize, Proc.wp_run_liftM]
  refine ⟨⟨hs, ⟨version, hauth⟩, hm⟩, fun answer _ => ?_⟩
  have hs1 := hs.snoc (q := .authorize binding request) (a := answer) rfl rfl
  rcases answer with e | ⟨⟨⟩⟩
  · exact hs1
  simp only [wp_orThrow_ok, Proc.afterResult_ok, Proc.wp_run_bind, Proc.wp_run_liftM,
    wp_subscribe]
  refine ⟨⟨hs1, trivial⟩, fun answer _ => ?_⟩
  have hs2 := hs1.snoc (q := .subscribe request) (a := answer) rfl rfl
  rcases answer with e | id
  · exact hs2
  simp only [wp_orThrow_ok, Proc.afterResult_ok, Proc.afterResult_error, Proc.wp_run_bind,
    Proc.wp_run_get, Proc.wp_run_ite, Proc.wp_run_throw, hauth.negotiated,
    Proc.wp_run_liftM, wp_enqueue, wp_perform, wp_spawnPump, Proc.wp_run_modify]
  refine ⟨fun _ => hs2, fun _ => ⟨⟨hs2, trivial⟩, fun queued _ => ?_⟩⟩
  have hs3 := hs2.enqueue
    (.application s.activeCodec (.subscriptionAccepted ⟨request.requestId, id⟩)) queued
  refine ⟨fun _ => ⟨⟨hs3, trivial⟩, fun _ _ => hs3.perform _⟩, fun _ => ?_⟩
  exact ⟨⟨hs3, trivial⟩, fun handle _ => (hs3.snoc rfl rfl).congr rfl hauth.negotiated.symm⟩

theorem handleUnsubscribe_wp (hs : Consistent h s) (unsubscribe : Unsubscribe) :
    (handleUnsubscribe unsubscribe).run.wp handshake (fun _ => Consistent) h s := by
  refine wp_whenReady (fun _ _ => hs) fun _ => ?_
  cases hremoved : removeSubscription unsubscribe.subscriptionId s with
  | none =>
    simp only [Proc.afterResult_ok, Proc.wp_run_bind, Proc.wp_run_get, hremoved,
      wp_required]
    exact hs.reply trivial
  | some found =>
    obtain ⟨handle, s'⟩ := found
    simp only [Proc.afterResult_ok, Proc.wp_run_bind, Proc.wp_run_get, hremoved,
      Proc.wp_run_set, Proc.wp_run_liftM]
    obtain ⟨rest, rfl⟩ := removeSubscription_eq_some hremoved
    refine (hs.setSubscriptions rest).stopPump handle fun h hs => ?_
    simp only [Proc.afterResult_ok, Proc.wp_run_bind, Proc.wp_run_get, wp_required]
    exact hs.reply trivial

theorem handleInbound_wp (hs : Consistent h s) {message : InboundMessage}
    (hm : received h = some message) :
    (handleInbound settings message).run.wp handshake (fun _ => Consistent) h s := by
  cases message with
  | hello hello => exact handleHello_wp hs hm
  | authenticate authenticate => exact handleAuthenticate_wp hs hm
  | subscribe request => exact handleSubscribe_wp hs hm
  | unsubscribe unsubscribe => exact handleUnsubscribe_wp hs unsubscribe
  | action envelope => exact handleAction_wp hs hm
  | query message => exact handleQuery_wp hs hm
  | ping ping => exact handlePing_wp hs ping
  | close close => exact hs

end Handlers

section Turns
variable {settings : SessionSettings} {h : CoordinatorTrace} {s : Coordinator}

theorem Consistent.stopWith (hs : Consistent h s) (error : WebSocketAdapterError) (queued : Bool) :
    (stopWith error queued).wp handshake (TurnPost Consistent Consistent) h s :=
  hs.congr rfl rfl

/-- A message of the loop itself, whose refusal ends the session. -/
theorem Consistent.orSlowConsumer (hs : Consistent h s) {item : Enqueue}
    (hadmits : Admits h s (.enqueue item)) :
    (OrbitRelay.enqueue item).wp handshake (fun queued =>
      (orSlowConsumer queued).wp handshake (TurnPost Consistent Consistent)) h s := by
  simp only [wp_enqueue, wp_orSlowConsumer]
  refine ⟨⟨hs, hadmits⟩, fun queued _ => ?_⟩
  exact ⟨fun _ => hs.enqueue item queued, fun _ => (hs.enqueue item queued).stopWith _ _⟩

theorem handleMessage_wp (hs : Consistent h s) {message : InboundMessage}
    (hm : received h = some message) :
    (handleMessage settings message).wp handshake (TurnPost Consistent Consistent) h s := by
  unfold handleMessage
  rw [Proc.wp_bind]
  refine Proc.wp_mono (handleInbound_wp hs hm) fun result h s hs => ?_
  cases result with
  | ok => exact hs
  | error error =>
    simp only [Proc.wp_bind, Proc.wp_get, wp_enqueue, Proc.wp_ite]
    refine ⟨⟨hs, trivial⟩, fun queued _ => ?_⟩
    have hs' := hs.enqueue (.error s.activeCodec none error.toTransportError) queued
    exact ⟨fun _ => hs'.stopWith error queued, fun _ => hs'⟩

theorem handleText_wp (hs : Consistent h s) {bytes : List UInt8}
    (hm : received h = (s.activeCodec.decodeInbound bytes).toOption) :
    (handleText settings bytes).wp handshake (TurnPost Consistent Consistent) h s := by
  simp only [handleText, Proc.wp_bind, Proc.wp_get]
  cases hdecoded : s.activeCodec.decodeInbound bytes with
  | error error =>
    simp only [Proc.wp_bind, Proc.wp_get]
    exact hs.orSlowConsumer trivial
  | ok message =>
    rw [hdecoded] at hm
    cases message with
    | close close => exact hs.congr rfl rfl
    | _ => exact handleMessage_wp hs hm

/-- An error that ends the session is queued first. -/
theorem Consistent.queueAndStop (hs : Consistent h s) (error : TransportError)
    (fatal : WebSocketAdapterError) :
    (do let queued ← queueError (← get).activeCodec none error
        OrbitRelay.stopWith fatal queued).wp handshake (TurnPost Consistent Consistent) h s := by
  simp only [Proc.wp_bind, Proc.wp_get, wp_enqueue]
  exact ⟨⟨hs, trivial⟩, fun queued _ => (hs.enqueue _ queued).stopWith fatal queued⟩

theorem handleReaderEvent_wp (hs : Consistent h s) {event : ReaderEvent}
    (hm : ∀ bytes, event = .text bytes →
      received h = (s.activeCodec.decodeInbound bytes).toOption) :
    (handleReaderEvent settings event).wp handshake (TurnPost Consistent Consistent) h s := by
  cases event with
  | text bytes => exact handleText_wp hs (hm bytes rfl)
  | nativePing payload =>
    simp only [handleReaderEvent, Proc.wp_bind]
    exact hs.orSlowConsumer trivial
  | nativePong => exact hs
  | closed => exact hs.congr rfl rfl
  | binary => exact hs.queueAndStop _ _
  | oversized => exact hs.queueAndStop _ _

theorem handleCoordinatorEvent_wp (hs : Consistent h s) (event : CoordinatorEvent) :
    (handleCoordinatorEvent settings event).wp handshake (TurnPost Consistent Consistent) h s := by
  cases event with
  | actionCompleted requestId actionId result =>
    cases result <;> simp only [handleCoordinatorEvent, Proc.wp_bind, Proc.wp_get] <;>
      exact hs.orSlowConsumer trivial
  | queryCompleted response =>
    simp only [handleCoordinatorEvent, Proc.wp_bind, Proc.wp_get]
    exact hs.orSlowConsumer trivial
  | subscriptionFinished id =>
    simp only [handleCoordinatorEvent, Proc.wp_bind, Proc.wp_get]
    cases hremoved : removeSubscription id s with
    | none => exact hs
    | some found =>
      obtain ⟨handle, s'⟩ := found
      simp only [Proc.wp_bind, Proc.wp_get, Proc.wp_set]
      obtain ⟨rest, rfl⟩ := removeSubscription_eq_some hremoved
      refine (hs.setSubscriptions rest).stopPump handle fun h hs => ?_
      exact hs.orSlowConsumer trivial
  | eventSourceFailed id error fatal errorQueued =>
    simp only [handleCoordinatorEvent, Proc.wp_ite, Proc.wp_bind, Proc.wp_get]
    refine ⟨fun _ => hs.stopWith _ _, fun _ => ?_⟩
    cases hremoved : removeSubscription id s with
    | none => exact hs
    | some found =>
      obtain ⟨handle, s'⟩ := found
      simp only [Proc.wp_bind, Proc.wp_set, Proc.wp_pure]
      obtain ⟨rest, rfl⟩ := removeSubscription_eq_some hremoved
      exact (hs.setSubscriptions rest).stopPump handle fun _ hs => hs
  | slowConsumer id => exact hs.queueAndStop _ _
  | writerFailed error => exact hs.stopWith _ _
  | readerFailed error => exact hs.stopWith _ _

theorem handleHeartbeat_wp (hs : Consistent h s) (negotiationElapsed activityElapsed : Bool) :
    (handleHeartbeat negotiationElapsed activityElapsed).wp handshake
      (TurnPost Consistent Consistent) h s := by
  simp only [handleHeartbeat, Proc.wp_bind, Proc.wp_get, Proc.wp_ite]
  refine ⟨fun _ => hs.stopWith _ _, fun _ => ⟨fun _ => hs.stopWith _ _, fun _ => ?_⟩⟩
  exact hs.orSlowConsumer trivial

theorem turn_wp (hs : Consistent h s) :
    (turn settings).wp handshake (TurnPost Consistent Consistent) h s := by
  simp only [turn, Proc.wp_bind, wp_select]
  refine ⟨⟨hs, trivial⟩, fun input _ => ?_⟩
  have hs' := hs.snoc (q := .select) (a := input) rfl rfl
  rcases input with (_ | event) | (_ | event) | _
  · exact hs'.congr rfl rfl
  · refine handleReaderEvent_wp hs' fun bytes hbytes => ?_
    subst hbytes
    exact received_snoc_of_some rfl
  · exact hs'.stopWith _ _
  · exact handleCoordinatorEvent_wp hs' event
  · exact handleHeartbeat_wp hs' _ _

theorem shutDown_leadsTo (connection : TransportConnection) :
    connection.state.LeadsTo connection.shutDown.state ∧ connection.shutDown.state = .closed ∧
      connection.shutDown.identity = connection.identity := by
  obtain ⟨id, metadata, state, identity⟩ := connection
  have hlast : ConnectionState.LeadsTo .closing .closed := .single rfl
  cases state with
  | negotiating | authenticating | ready => exact ⟨.head rfl hlast, rfl, rfl⟩
  | closing => exact ⟨hlast, rfl, rfl⟩
  | closed => exact ⟨.refl, rfl, rfl⟩

/-- Closing the connection keeps version and identity. -/
theorem Consistent.shutDown (hs : Consistent h s) :
    Consistent h { s with connection := s.connection.shutDown } := by
  obtain ⟨hleads, hclosed, hidentity⟩ := shutDown_leadsTo s.connection
  constructor
  case chosen => exact hs.chosen
  case resolved => rw [hidentity]; exact hs.resolved
  case moved => exact hs.moved.trans hleads
  all_goals simp [hclosed]

theorem carriesShutdown_consistent : CarriesShutdown handshake Consistent where
  promise {_ _ q} hs hq := by
    refine ⟨hs, ?_⟩
    cases q with
    | negotiate _ | resolve _ _ | authorize _ _ => cases hq
    | enqueue item =>
      cases item with
      | action _ | query _ => cases hq
      | _ => trivial
    | _ => trivial
  exchange {_ _ q} hs hq a := by
    refine hs.snoc ?_ ?_ <;> cases q <;> first | rfl | cases hq
  close := Consistent.shutDown
  drain hs := hs.setSubscriptions []

end Turns

section Handshake
variable {settings : SessionSettings} {s : Session}

theorem Session.Paused.isPrefix {h : CoordinatorTrace} {state : Coordinator}
    {request : CoordinatorRequest} (hpaused : s.Paused settings h state request) :
    h <+: s.trace := by
  cases hpaused with
  | answered heq => exact ⟨_, heq.symm⟩
  | waiting _ => exact List.prefix_refl _

/-- The next exchange after a pause is the one it waited for. -/
theorem Session.Paused.state_eq {h rest : CoordinatorTrace} {state : Coordinator}
    {request : CoordinatorRequest} (hpaused : s.Paused settings h state request)
    {e : CoordinatorExchange} (hpre : h ++ e :: rest <+: s.trace) : state = e.state := by
  obtain ⟨after, hafter⟩ := hpre
  cases hpaused with
  | answered heq =>
    rw [heq, List.append_assoc] at hafter
    cases List.append_cancel_left hafter
    rfl
  | waiting _ =>
    have hlength := congrArg List.length hafter
    simp at hlength

theorem Session.Paused.unique {h : CoordinatorTrace} {state state' : Coordinator}
    {request request' : CoordinatorRequest} (hpaused : s.Paused settings h state request)
    (hpaused' : s.Paused settings h state' request') : state = state' := by
  cases hpaused' with
  | answered heq => exact hpaused.state_eq ⟨[], by rw [List.append_nil, heq]⟩
  | waiting hp =>
    generalize htrace : s.trace = trace at hpaused
    cases hpaused with
    | answered heq =>
      have hlength := congrArg List.length (htrace.symm.trans heq)
      simp at hlength
    | waiting hp' =>
      cases hp.symm.trans hp'
      rfl

variable {id : ConnectionId} {metadata : Metadata}

theorem consistent_of_paused
    (hreach : (Session.system settings id metadata fun _ _ => True).Reachable s)
    {h : CoordinatorTrace} {state : Coordinator} {request : CoordinatorRequest}
    (hpaused : s.Paused settings h state request) :
    Consistent h state ∧ Admits h state request := by
  have hstart : Consistent [] (.start settings (.new id metadata)) := by
    refine ⟨rfl, rfl, fun _ => rfl, fun _ => rfl, fun hstate => ?_, nofun, .refl⟩
    rcases hstate with hstate | hstate <;> cases hstate
  exact Session.contract_of_reachable hstart (fun _ _ hs => turn_wp hs)
    (fun _ _ hs => carriesShutdown_consistent.shutdown settings hs)
    (fun _ _ _ _ _ _ _ _ => trivial) hreach hpaused

/-- From one exchange to a later one the connection moves along its lifecycle. -/
theorem leadsTo_lastState
    (hreach : (Session.system settings id metadata fun _ _ => True).Reachable s)
    {h rest : CoordinatorTrace} {e : CoordinatorExchange} (hpre : h ++ e :: rest <+: s.trace) :
    e.state.connection.state.LeadsTo (lastState (h ++ e :: rest)) := by
  induction rest using List.reverseRecOn with
  | nil =>
    rw [lastState_snoc]
    exact .refl
  | append_singleton front next ih =>
    have hassoc : h ++ e :: (front ++ [next]) = (h ++ e :: front) ++ [next] := by simp
    rw [hassoc] at hpre ⊢
    have hleads := ih ((List.prefix_append _ _).trans hpre)
    obtain ⟨after, hafter⟩ := hpre
    rw [List.append_assoc] at hafter
    have hs := (consistent_of_paused hreach (.answered hafter.symm)).1
    rw [lastState_snoc]
    exact hleads.trans hs.moved

theorem leadsTo_of_paused
    (hreach : (Session.system settings id metadata fun _ _ => True).Reachable s)
    {h h' : CoordinatorTrace} {state state' : Coordinator} {request request' : CoordinatorRequest}
    (hpaused : s.Paused settings h state request)
    (hpaused' : s.Paused settings h' state' request') (hle : h <+: h') :
    state.connection.state.LeadsTo state'.connection.state := by
  obtain ⟨tail, rfl⟩ := hle
  cases tail with
  | nil =>
    rw [List.append_nil] at hpaused'
    rw [hpaused.unique hpaused']
    exact .refl
  | cons e rest =>
    rw [hpaused.state_eq hpaused'.isPrefix]
    exact (leadsTo_lastState hreach hpaused'.isPrefix).trans
      (consistent_of_paused hreach hpaused').1.moved

/-- What the record has settled stays settled. -/
theorem eq_some_of_toList {α : Type} {a b : Option α} {xs ys : List α} (hxs : xs = a.toList)
    (hys : ys = b.toList) (hle : xs <+: ys) {v : α} (ha : a = some v) : b = some v := by
  rw [hxs, hys, ha] at hle
  cases b with
  | none => simpa using hle.length_le
  | some w => simpa [eq_comm] using hle

/-- The handshake and the identity of a session, at every pause of every run: the coordinator
turns to the policy and the resolver in the right state and until they succeed once, and to the
authorizer, the action queue and the query queue only when it is authenticated; a connection
that passes `ensure_ready` has a version and an identity, so the branches for their absence are
never taken; what was negotiated and bound stays, and the state moves along its lifecycle. -/
theorem handshake_and_identity (settings : SessionSettings) (id : ConnectionId)
    (metadata : Metadata) (s : Session)
    (hreach : (Session.system settings id metadata fun _ _ => True).Reachable s) :
    (∀ h state request, s.Paused settings h state request →
      Admits h state request ∧
      (chosen h ≠ [] → state.connection.state ≠ .negotiating) ∧
      (ensureReady state.connection = .ok () →
        state.negotiatedVersion ≠ none ∧ state.connection.identity ≠ none)) ∧
    (∀ h state request h' state' request', s.Paused settings h state request →
      s.Paused settings h' state' request' → h <+: h' →
      (∀ version, state.negotiatedVersion = some version →
        state'.negotiatedVersion = some version) ∧
      (∀ binding, state.connection.identity = some binding →
        state'.connection.identity = some binding) ∧
      state.connection.state.LeadsTo state'.connection.state) := by
  constructor
  · intro h state request hpaused
    obtain ⟨hs, hadmits⟩ := consistent_of_paused hreach hpaused
    refine ⟨hadmits, fun hchosen hstate => hchosen ?_, fun hready => ?_⟩
    · rw [hs.chosen, hs.negotiating hstate]
      rfl
    · obtain ⟨version, binding, hauth⟩ := hs.authenticated (ensureReady_eq_ok.mp hready)
      rw [hauth.negotiated, hauth.bound]
      exact ⟨nofun, nofun⟩
  · intro h state request h' state' request' hpaused hpaused' hle
    obtain ⟨hs, -⟩ := consistent_of_paused hreach hpaused
    obtain ⟨hs', -⟩ := consistent_of_paused hreach hpaused'
    refine ⟨fun version hversion => ?_, fun binding hbinding => ?_, ?_⟩
    · exact eq_some_of_toList hs.chosen hs'.chosen (hle.filterMap choiceOf) hversion
    · exact eq_some_of_toList hs.resolved hs'.resolved (hle.filterMap bindingOf) hbinding
    · exact leadsTo_of_paused hreach hpaused hpaused' hle

/-- A hello, an authentication and a subscription, up to the authorizer. -/
def sampleLogin : List SessionAction :=
  sampleText sampleHello ++
    [.coordinator (.negotiated (.ok currentProtocolVersion)), .coordinator .proceed] ++
    sampleText sampleAuthenticate ++ [.coordinator (.resolved (.ok sampleBinding))] ++
    sampleText sampleSubscribe

theorem handshake_and_identity_login :
    ∃ s state, (sampleSystem (sampleSettings 1 1) fun _ _ => True).Reachable s ∧
      s.Paused (sampleSettings 1 1) s.trace state (.authorize sampleBinding sampleRequest) ∧
      Admits s.trace state (.authorize sampleBinding sampleRequest) ∧
      state.negotiatedVersion ≠ none ∧ state.connection.identity ≠ none := by
  obtain ⟨s, ⟨state, request, resume⟩, hreach, hp, hcheck⟩ :=
    exists_pending_of_run (sampleSettings 1 1) (fun _ _ => True) sampleLogin
      (fun s p => match p.request with
        | .authorize binding request => binding == sampleBinding && request == sampleRequest &&
            p.state.connection.state == .ready
        | _ => false)
      rfl (by decide +kernel)
  cases request with
  | authorize binding request =>
    simp only [Bool.and_eq_true, beq_iff_eq] at hcheck
    obtain ⟨⟨rfl, rfl⟩, hready⟩ := hcheck
    obtain ⟨hadmits, -, hauth⟩ :=
      (handshake_and_identity _ _ _ s hreach).1 _ _ _ (.waiting hp)
    exact ⟨s, state, hreach, .waiting hp, hadmits, hauth (ensureReady_eq_ok.mpr hready)⟩
  | _ => cases hcheck

end Handshake
end OrbitRelay
