import OrbitRelay.Lib.Lockstep
import OrbitRelay.Transport.Flow
import OrbitRelay.Transport.Redaction

/-! Two runs of a session whose dependencies answer alike but for their diagnostic texts. The
coordinators pause in lockstep, and the client is offered the same messages. -/
namespace OrbitRelay
open Pausing

section Lockstep

def Coordinator.redact (s : Coordinator) : Coordinator :=
  { s with fatalError := s.fatalError.map WebSocketAdapterError.redact }

/-- The states differ in texts only. -/
def Coordinator.Alike (s s' : Coordinator) : Prop := s.redact = s'.redact

/-- The results differ in texts only. -/
def ResultsAlike (r r' : Except WebSocketAdapterError Unit) : Prop :=
  r.mapError WebSocketAdapterError.redact = r'.mapError WebSocketAdapterError.redact

/-- Requests and answers that differ in texts only belong together. -/
def diagnostics : Pairing CoordinatorRequest CoordinatorRequest.Answer Coordinator where
  asks s q s' q' := s.Alike s' ∧ q.redact = q'.redact
  answers q a q' a' := q.reply a = q'.reply a'

/-- The procedures run side by side from the states, and end in related results and alike
states. -/
def SideBySide {α : Type} (R : α → α → Prop) (x x' : CoordinatorM α) (s s' : Coordinator) : Prop :=
  Lockstep diagnostics (fun r r' => R r.1 r'.1 ∧ r.2.Alike r'.2) (x s) (x' s')

variable {α : Type} {R : α → α → Prop} {s s' : Coordinator}

/-! Only the fatal error holds a text. -/
section Fields
variable (h : s.Alike s')
include h

theorem Coordinator.Alike.connection : s'.connection = s.connection :=
  (congrArg Coordinator.connection h).symm

theorem Coordinator.Alike.activeCodec : s'.activeCodec = s.activeCodec :=
  (congrArg Coordinator.activeCodec h).symm

theorem Coordinator.Alike.negotiatedVersion : s'.negotiatedVersion = s.negotiatedVersion :=
  (congrArg Coordinator.negotiatedVersion h).symm

theorem Coordinator.Alike.subscriptions : s'.subscriptions = s.subscriptions :=
  (congrArg Coordinator.subscriptions h).symm

theorem Coordinator.Alike.fatalErrorQueued : s'.fatalErrorQueued = s.fatalErrorQueued :=
  (congrArg Coordinator.fatalErrorQueued h).symm

theorem Coordinator.Alike.gracefulClose : s'.gracefulClose = s.gracefulClose :=
  (congrArg Coordinator.gracefulClose h).symm

theorem Coordinator.Alike.fatalError :
    s.fatalError.map WebSocketAdapterError.redact =
      s'.fatalError.map WebSocketAdapterError.redact :=
  congrArg Coordinator.fatalError h

end Fields

theorem ResultsAlike.error {e e' : WebSocketAdapterError} (h : e.redact = e'.redact) :
    ResultsAlike (.error e) (.error e') :=
  congrArg Except.error h

/-- Changes that leave the fatal error alone keep states alike. -/
theorem Coordinator.Alike.update (h : s.Alike s') (f : Coordinator → Coordinator)
    (hf : ∀ s, (f s).redact = f s.redact) : (f s).Alike (f s') :=
  (hf s).trans ((congrArg f h).trans (hf s').symm)

/-- The answers of the request hold no texts. -/
def CoordinatorRequest.plain : CoordinatorRequest → Bool
  | select | resolve .. | authorize .. | subscribe _ => false
  | _ => true

theorem CoordinatorRequest.reply_injective {q : CoordinatorRequest} (hplain : q.plain = true)
    {a a' : q.Answer} (h : q.reply a = q.reply a') : a = a' := by
  cases q <;> cases hplain <;> cases h <;> rfl

section Rules
variable {k k' : Bool → CoordinatorProgram α}

theorem lockstep_plain {q : CoordinatorRequest} {k k' : q.Answer → CoordinatorProgram α}
    (hs : s.Alike s') (hplain : q.plain = true) (hk : ∀ a, Lockstep diagnostics R (k a) (k' a)) :
    Lockstep diagnostics R (.ask s q k) (.ask s' q k') := by
  refine ⟨⟨hs, rfl⟩, fun a a' hreply => ?_⟩
  cases CoordinatorRequest.reply_injective hplain hreply
  exact hk a

theorem lockstep_enqueue {item item' : Enqueue} (hs : s.Alike s')
    (hitem : item.redact = item'.redact)
    (hk : ∀ queued, Lockstep diagnostics R (k queued) (k' queued)) :
    Lockstep diagnostics R (.ask s (.enqueue item) k) (.ask s' (.enqueue item') k') := by
  refine ⟨⟨hs, congrArg CoordinatorRequest.enqueue hitem⟩, fun a a' hreply => ?_⟩
  cases hreply
  exact hk a

theorem lockstep_resolve {connectionId : ConnectionId} {credentials : InboundCredentials}
    {k k' : Except IdentityError ActorBinding → CoordinatorProgram α} (hs : s.Alike s')
    (hok : ∀ binding, Lockstep diagnostics R (k (.ok binding)) (k' (.ok binding)))
    (herror : ∀ e e', e.redact = e'.redact →
      Lockstep diagnostics R (k (.error e)) (k' (.error e'))) :
    Lockstep diagnostics R (.ask s (.resolve connectionId credentials) k)
      (.ask s' (.resolve connectionId credentials) k') := by
  refine ⟨⟨hs, rfl⟩, fun a a' hreply => ?_⟩
  exact Except.of_mapError_eq (p := fun a a' => Lockstep diagnostics R (k a) (k' a')) hok herror
    (Reply.binding.inj hreply)

theorem lockstep_authorize {binding : ActorBinding} {request : SubscriptionRequest}
    {k k' : Except SubscriptionAuthorizationError Unit → CoordinatorProgram α} (hs : s.Alike s')
    (hok : Lockstep diagnostics R (k (.ok ())) (k' (.ok ())))
    (herror : ∀ e e', e.redact = e'.redact →
      Lockstep diagnostics R (k (.error e)) (k' (.error e'))) :
    Lockstep diagnostics R (.ask s (.authorize binding request) k)
      (.ask s' (.authorize binding request) k') := by
  refine ⟨⟨hs, rfl⟩, fun a a' hreply => ?_⟩
  exact Except.of_mapError_eq (p := fun a a' => Lockstep diagnostics R (k a) (k' a'))
    (fun _ => hok) herror (Reply.authorization.inj hreply)

theorem lockstep_subscribe {request : SubscriptionRequest}
    {k k' : Except EventSourceError TransportSubscriptionId → CoordinatorProgram α}
    (hs : s.Alike s')
    (hok : ∀ id, Lockstep diagnostics R (k (.ok id)) (k' (.ok id)))
    (herror : ∀ e e', e.redact = e'.redact →
      Lockstep diagnostics R (k (.error e)) (k' (.error e'))) :
    Lockstep diagnostics R (.ask s (.subscribe request) k)
      (.ask s' (.subscribe request) k') := by
  refine ⟨⟨hs, rfl⟩, fun a a' hreply => ?_⟩
  exact Except.of_mapError_eq (p := fun a a' => Lockstep diagnostics R (k a) (k' a')) hok herror
    (Reply.subscription.inj hreply)

theorem lockstep_select {k k' : CoordinatorInput → CoordinatorProgram α} (hs : s.Alike s')
    (hk : ∀ input input', input.redact = input'.redact →
      Lockstep diagnostics R (k input) (k' input')) :
    Lockstep diagnostics R (.ask s .select k) (.ask s' .select k') :=
  ⟨⟨hs, rfl⟩, fun a a' hreply => hk a a' (Reply.input.inj hreply)⟩

end Rules

/-! The request that each procedure starts with. -/
section Requests

@[simp] theorem enqueue_apply (item : Enqueue) :
    enqueue item s = .ask s (.enqueue item) fun queued => .done (queued, s) :=
  rfl

@[simp] theorem perform_apply (effect : Effect) :
    perform effect s = .ask s (.perform effect) fun _ => .done ((), s) :=
  rfl

@[simp] theorem negotiate_apply (supportedVersions : List Version) :
    negotiate supportedVersions s = .ask s (.negotiate supportedVersions)
      fun result => .done (result, s) :=
  rfl

@[simp] theorem resolve_apply (connectionId : ConnectionId) (credentials : InboundCredentials) :
    resolve connectionId credentials s = .ask s (.resolve connectionId credentials)
      fun result => .done (result, s) :=
  rfl

@[simp] theorem authorize_apply (binding : ActorBinding) (request : SubscriptionRequest) :
    authorize binding request s = .ask s (.authorize binding request)
      fun result => .done (result, s) :=
  rfl

@[simp] theorem subscribe_apply (request : SubscriptionRequest) :
    subscribe request s = .ask s (.subscribe request)
      fun result => .done (result, s) :=
  rfl

@[simp] theorem spawnPump_apply (id : TransportSubscriptionId) (version : Version)
    (codec : MessageCodec) :
    spawnPump id version codec s = .ask s (.spawnPump id version codec)
      fun handle => .done (handle, s) :=
  rfl

@[simp] theorem stopPump_apply (handle : SubscriptionHandle) :
    stopPump handle s = .ask s (.perform (.cancelPump handle)) fun _ =>
      .ask s (.perform (.join (.pump handle.pump))) fun _ => .done ((), s) :=
  rfl

@[simp] theorem sendClose_apply :
    sendClose s = .ask s .sendClose fun queued => .done (queued, s) :=
  rfl

@[simp] theorem awaitWriter_apply :
    awaitWriter s = .ask s .awaitWriter fun finished => .done (finished, s) :=
  rfl

@[simp] theorem drain_apply (handles : List SubscriptionHandle) :
    drain handles s = .ask s (.drain handles)
      fun order => .done (order, s) :=
  rfl

@[simp] theorem run_orThrow_ok {ε β : Type} (wrap : ε → WebSocketAdapterError) (b : β) :
    (orThrow wrap (.ok b)).run s = .done (.ok b, s) :=
  rfl

@[simp] theorem run_orThrow_error {ε β : Type} (wrap : ε → WebSocketAdapterError) (e : ε) :
    (orThrow wrap (.error e) : HandlerM β).run s = .done (.error (wrap e), s) :=
  rfl

@[simp] theorem run_setConnection (connection : TransportConnection) :
    (setConnection connection).run s = .done (.ok (), { s with connection := connection }) :=
  rfl

@[simp] theorem run_required (queued : CoordinatorM Bool) :
    (required queued).run s = (queued s).bind fun r => .done (requiredResult r.1, r.2) := by
  simp only [required, Proc.run_bind_apply, Proc.run_liftM_apply]
  induction queued s with
  | done r =>
    obtain ⟨b, s⟩ := r
    cases b <;> rfl
  | ask s q k ih => exact congrArg (Program.ask s q) (funext ih)

end Requests

section Handlers
variable {settings : SessionSettings}

/-- A call of `handle_inbound` from two states: it asks for the same and fails alike. -/
abbrev HandledAlike (x : HandlerM Unit) (s s' : Coordinator) : Prop :=
  SideBySide ResultsAlike x.run x.run s s'

theorem handleHello_alike (hello : Hello) (hs : s.Alike s') :
    HandledAlike (handleHello settings hello) s s' := by
  simp only [HandledAlike, SideBySide, handleHello, Proc.run_bind_apply, Proc.run_get_apply,
    Program.bind_done, Proc.follow_ok, Proc.follow_error, Proc.run_ite_apply, Proc.run_throw_apply,
    Proc.run_liftM_apply, negotiate_apply, Program.bind_ask, hs.activeCodec, hs.connection]
  refine .ite (fun _ => ⟨rfl, hs⟩) fun _ => .ite (fun _ => ⟨rfl, hs⟩) fun _ => ?_
  refine lockstep_plain hs rfl fun (result : Except VersionNegotiationError Version) => ?_
  rcases result with e | version
  · exact ⟨rfl, hs⟩
  simp only [Proc.follow_ok, Proc.run_bind_apply, run_orThrow_ok, Program.bind_done,
    Proc.run_get_apply, hs.connection]
  cases s.connection.beginAuthentication with
  | error e => exact ⟨rfl, hs⟩
  | ok connection =>
    simp only [run_orThrow_ok, Program.bind_done, Proc.follow_ok, Proc.run_bind_apply,
      run_setConnection, Proc.run_modify_apply, run_required, enqueue_apply, Program.bind_ask]
    have hbegun := hs.update (fun s =>
      { s with connection := connection, negotiatedVersion := some version }) fun _ => rfl
    refine lockstep_plain hbegun rfl fun (queued : Bool) => ?_
    cases queued with
    | false => exact ⟨rfl, hbegun⟩
    | true =>
      have haccepted := hbegun.update (fun s => { s with activeCodec := settings.codec })
        fun _ => rfl
      exact ⟨rfl, haccepted⟩

theorem handleAuthenticate_alike (authenticate : Authenticate) (hs : s.Alike s') :
    HandledAlike (handleAuthenticate authenticate) s s' := by
  simp only [HandledAlike, SideBySide, handleAuthenticate, Proc.run_bind_apply, Proc.run_get_apply,
    Program.bind_done, Proc.follow_ok, Proc.follow_error, Proc.run_ite_apply, Proc.run_throw_apply,
    Proc.run_liftM_apply, resolve_apply, Program.bind_ask, hs.connection]
  refine .ite (fun _ => ⟨rfl, hs⟩) fun _ => ?_
  refine lockstep_resolve hs (fun binding => ?_) fun e e' he => ?_
  · simp only [Proc.run_bind_apply, Proc.run_get_apply, Program.bind_done, Proc.follow_ok,
      hs.connection]
    cases s.connection.bindIdentity binding with
    | error e => exact ⟨rfl, hs⟩
    | ok connection =>
      simp only [run_orThrow_ok, Program.bind_done, Proc.follow_ok, Proc.run_bind_apply,
        run_setConnection, Proc.run_get_apply]
      have hbound := hs.update (fun s => { s with connection := connection }) fun _ => rfl
      cases connection.markReady with
      | error e => exact ⟨rfl, hbound⟩
      | ok ready =>
        have hready := hbound.update (fun s => { s with connection := ready }) fun _ => rfl
        exact ⟨rfl, hready⟩
  · exact ⟨.error (congrArg (fun e => WebSocketAdapterError.transport (.identity e)) he), hs⟩

theorem handlePing_alike (ping : PingMessage) (hs : s.Alike s') :
    HandledAlike (handlePing ping) s s' := by
  simp only [HandledAlike, SideBySide, handlePing, Proc.run_bind_apply, Proc.run_get_apply,
    Program.bind_done, Proc.follow_ok, run_required, enqueue_apply, Program.bind_ask,
    hs.activeCodec]
  exact lockstep_plain hs rfl fun queued => ⟨rfl, hs⟩

/-- What a handler does once the connection is ready. -/
theorem whenReady_alike {next : HandlerM Unit} (hs : s.Alike s') (hnext : HandledAlike next s s') :
    HandledAlike (do
      orThrow (fun e => e) (ensureReady (← get).connection)
      next) s s' := by
  simp only [HandledAlike, SideBySide, Proc.run_bind_apply, Proc.run_get_apply, Program.bind_done,
    Proc.follow_ok, hs.connection]
  cases ensureReady s.connection with
  | error e => exact ⟨rfl, hs⟩
  | ok => exact hnext

theorem handleAction_alike (envelope : MessageEnvelope Action) (hs : s.Alike s') :
    HandledAlike (handleAction envelope) s s' := by
  refine whenReady_alike hs ?_
  simp only [HandledAlike, SideBySide, Proc.run_bind_apply, Proc.run_get_apply, Program.bind_done,
    Proc.follow_ok, hs.connection]
  cases validateActionBinding s.connection.identity envelope.payload with
  | error e => exact ⟨rfl, hs⟩
  | ok =>
    simp only [run_orThrow_ok, Program.bind_done, Proc.follow_ok, Proc.run_bind_apply,
      Proc.run_liftM_apply, enqueue_apply, Program.bind_ask]
    refine lockstep_plain hs rfl fun (queued : Bool) => ?_
    simp only [Proc.follow_ok, Proc.run_ite_apply]
    exact .ite (fun _ => ⟨rfl, hs⟩) fun _ => ⟨rfl, hs⟩

theorem handleQuery_alike (message : QueryMessage) (hs : s.Alike s') :
    HandledAlike (handleQuery settings message) s s' := by
  refine whenReady_alike hs ?_
  simp only [HandledAlike, SideBySide, Proc.run_bind_apply, Proc.run_get_apply, Program.bind_done,
    Proc.follow_ok, hs.negotiatedVersion]
  cases s.negotiatedVersion with
  | none => exact ⟨rfl, hs⟩
  | some negotiated =>
    simp only [Proc.run_ite_apply, Proc.run_bind_apply, Proc.run_get_apply, Program.bind_done,
      Proc.follow_ok, run_required, enqueue_apply, Program.bind_ask, hs.connection, hs.activeCodec]
    refine .ite (fun _ => lockstep_plain hs rfl fun queued => ⟨rfl, hs⟩) fun _ => ?_
    cases s.connection.identity with
    | none => exact ⟨rfl, hs⟩
    | some binding =>
      simp only [Proc.run_ite_apply, Proc.run_bind_apply, Proc.run_get_apply, Program.bind_done,
        Proc.follow_ok, run_required, enqueue_apply, Program.bind_ask, Proc.run_liftM_apply,
        hs.activeCodec]
      refine .ite (fun _ => lockstep_plain hs rfl fun queued => ⟨rfl, hs⟩) fun _ => ?_
      refine lockstep_plain hs rfl fun (queued : Bool) => ?_
      simp only [Proc.follow_ok, Proc.run_ite_apply, Proc.run_bind_apply, Proc.run_get_apply,
        Program.bind_done, run_required, enqueue_apply, Program.bind_ask, Proc.run_pure_apply,
        hs.activeCodec]
      refine .ite (fun _ => lockstep_plain hs rfl fun queued => ⟨rfl, hs⟩) fun _ => ⟨rfl, hs⟩

theorem handleSubscribe_alike (request : SubscriptionRequest) (hs : s.Alike s') :
    HandledAlike (handleSubscribe request) s s' := by
  refine whenReady_alike hs ?_
  simp only [HandledAlike, SideBySide, Proc.run_bind_apply, Proc.run_get_apply, Program.bind_done,
    Proc.follow_ok, hs.connection]
  cases s.connection.identity with
  | none => exact ⟨rfl, hs⟩
  | some binding =>
    simp only [Proc.run_bind_apply, Proc.run_liftM_apply, authorize_apply, Program.bind_ask,
      Program.bind_done]
    refine lockstep_authorize hs ?_ fun e e' he => ?_
    case refine_2 =>
      have herror := congrArg
        (fun e => WebSocketAdapterError.transport (.subscriptionAuthorization e)) he
      exact ⟨.error herror, hs⟩
    simp only [run_orThrow_ok, Program.bind_done, Proc.follow_ok, Proc.run_bind_apply,
      Proc.run_liftM_apply, subscribe_apply, Program.bind_ask]
    refine lockstep_subscribe hs (fun id => ?_) fun e e' he => ?_
    case refine_2 =>
      have herror := congrArg (fun e => WebSocketAdapterError.transport (.eventSource e)) he
      exact ⟨.error herror, hs⟩
    simp only [run_orThrow_ok, Program.bind_done, Proc.follow_ok, Proc.follow_error,
      Proc.run_bind_apply, Proc.run_get_apply, Proc.run_ite_apply, Proc.run_throw_apply,
      hs.negotiatedVersion, hs.subscriptions]
    refine .ite (fun _ => ⟨rfl, hs⟩) fun _ => ?_
    cases s.negotiatedVersion with
    | none => exact ⟨rfl, hs⟩
    | some version =>
      simp only [Proc.run_bind_apply, Proc.run_get_apply, Program.bind_done, Proc.follow_ok,
        Proc.run_liftM_apply, enqueue_apply, Program.bind_ask, hs.activeCodec]
      refine lockstep_plain hs rfl fun (queued : Bool) => ?_
      simp only [Proc.follow_ok, Proc.follow_error, Proc.run_ite_apply, Proc.run_bind_apply,
        Proc.run_liftM_apply, perform_apply, Program.bind_ask, Program.bind_done,
        Proc.run_throw_apply, spawnPump_apply]
      refine .ite (fun _ => ?_) fun _ => ?_
      · exact lockstep_plain hs rfl fun _ => ⟨rfl, hs⟩
      · refine lockstep_plain hs rfl fun (handle : SubscriptionHandle) => ⟨rfl, ?_⟩
        exact hs.update (fun s =>
          { s with subscriptions := s.subscriptions ++ [(id, handle)] }) fun _ => rfl

/-- A subscription that is taken out leaves the states alike. -/
theorem removeSubscription_alike (id : TransportSubscriptionId) (hs : s.Alike s') :
    removeSubscription id s = none ∧ removeSubscription id s' = none ∨
      ∃ handle t t', removeSubscription id s = some (handle, t) ∧
        removeSubscription id s' = some (handle, t') ∧ t.Alike t' := by
  unfold removeSubscription
  rw [hs.subscriptions]
  cases s.subscriptions.find? (·.1 == id) with
  | none => exact .inl ⟨rfl, rfl⟩
  | some entry =>
    have hremoved := hs.update (fun state =>
      { state with subscriptions := s.subscriptions.filter (·.1 != id) }) fun _ => rfl
    exact .inr ⟨entry.2, _, _, rfl, rfl, hremoved⟩

theorem handleUnsubscribe_alike (unsubscribe : Unsubscribe) (hs : s.Alike s') :
    HandledAlike (handleUnsubscribe unsubscribe) s s' := by
  refine whenReady_alike hs ?_
  simp only [HandledAlike, SideBySide, Proc.run_bind_apply, Proc.run_get_apply, Program.bind_done,
    Proc.follow_ok]
  rcases removeSubscription_alike unsubscribe.subscriptionId hs with
    ⟨h, h'⟩ | ⟨handle, t, t', h, h', ht⟩
  · rw [h, h']
    simp only [Proc.run_bind_apply, Proc.run_get_apply, Program.bind_done, Proc.follow_ok,
      run_required, enqueue_apply, Program.bind_ask]
    exact lockstep_enqueue hs (by rw [hs.activeCodec]) fun queued => ⟨rfl, hs⟩
  · rw [h, h']
    simp only [Proc.run_bind_apply, Proc.run_set_apply, Program.bind_done, Proc.follow_ok,
      Proc.run_liftM_apply, stopPump_apply, Program.bind_ask, Proc.run_get_apply, run_required,
      enqueue_apply]
    refine lockstep_plain ht rfl fun _ => lockstep_plain ht rfl fun _ => ?_
    exact lockstep_enqueue ht (by rw [ht.activeCodec]) fun queued => ⟨rfl, ht⟩

/-- Whatever the texts are that a message is handled under, the same is asked for. -/
theorem handleInbound_alike (message : InboundMessage) (hs : s.Alike s') :
    HandledAlike (handleInbound settings message) s s' := by
  cases message with
  | hello hello => exact handleHello_alike hello hs
  | authenticate authenticate => exact handleAuthenticate_alike authenticate hs
  | subscribe request => exact handleSubscribe_alike request hs
  | unsubscribe unsubscribe => exact handleUnsubscribe_alike unsubscribe hs
  | action envelope => exact handleAction_alike envelope hs
  | query message => exact handleQuery_alike message hs
  | ping ping => exact handlePing_alike ping hs
  | close close => exact ⟨rfl, hs⟩

end Handlers

section Turns
variable {settings : SessionSettings}

theorem stopWith_alike {e e' : WebSocketAdapterError} (he : e.redact = e'.redact) (queued : Bool)
    (hs : s.Alike s') : SideBySide Eq (stopWith e queued) (stopWith e' queued) s s' := by
  refine ⟨rfl, ?_⟩
  have hstopped := congrArg (fun s : Coordinator => { s with
    fatalError := some e.redact, fatalErrorQueued := queued }) hs
  have hfatal := congrArg (fun e => { s'.redact with
    fatalError := some e, fatalErrorQueued := queued }) he
  exact hstopped.trans hfatal

theorem stopGracefully_alike (hs : s.Alike s') :
    SideBySide Eq stopGracefully stopGracefully s s' :=
  ⟨rfl, hs.update (fun s => { s with gracefulClose := true }) fun _ => rfl⟩

theorem orSlowConsumer_alike (queued : Bool) (hs : s.Alike s') :
    SideBySide Eq (orSlowConsumer queued) (orSlowConsumer queued) s s' := by
  cases queued with
  | true => exact ⟨rfl, hs⟩
  | false => exact stopWith_alike rfl false hs

theorem handleMessage_alike (message : InboundMessage) (hs : s.Alike s') :
    SideBySide Eq (handleMessage settings message) (handleMessage settings message) s s' := by
  refine Lockstep.bind (handleInbound_alike message hs) fun r r' hr => ?_
  obtain ⟨result, s⟩ := r
  obtain ⟨result', s'⟩ := r'
  obtain ⟨hresult, hs⟩ := hr
  cases result with
  | ok =>
    cases result' with
    | ok => exact ⟨rfl, hs⟩
    | error e' => cases hresult
  | error e =>
    cases result' with
    | ok => cases hresult
    | error e' =>
      have he : e.redact = e'.redact := Except.error.inj hresult
      have hreported : e.toTransportError.redact = e'.toTransportError.redact := by
        rw [← e.toTransportError_redact, he, e'.toTransportError_redact]
      have hfatal : e.isFatal = e'.isFatal := by
        rw [← e.isFatal_redact, he, e'.isFatal_redact]
      have hitem : (Enqueue.error s.activeCodec none e.toTransportError).redact =
          (Enqueue.error s'.activeCodec none e'.toTransportError).redact := by
        rw [hs.activeCodec]
        exact congrArg (Enqueue.error s.activeCodec none) hreported
      refine lockstep_enqueue hs hitem fun queued => ?_
      simp only [Proc.ite_apply, hfatal]
      exact .ite (fun _ => stopWith_alike he queued hs) fun _ => ⟨rfl, hs⟩

theorem handleText_alike (bytes : List UInt8) (hs : s.Alike s') :
    SideBySide Eq (handleText settings bytes) (handleText settings bytes) s s' := by
  simp only [SideBySide, handleText, Proc.bind_apply, Proc.get_apply, Program.bind_done,
    hs.activeCodec]
  cases s.activeCodec.decodeInbound bytes with
  | error error =>
    simp only [Proc.bind_apply, Proc.get_apply, Program.bind_done, enqueue_apply,
      Program.bind_ask]
    exact lockstep_enqueue hs (by rw [hs.activeCodec]) fun queued => orSlowConsumer_alike queued hs
  | ok message =>
    cases message with
    | close close => exact stopGracefully_alike hs
    | _ => exact handleMessage_alike _ hs

theorem handleReaderEvent_alike (event : ReaderEvent) (hs : s.Alike s') :
    SideBySide Eq (handleReaderEvent settings event) (handleReaderEvent settings event) s s' := by
  cases event with
  | text bytes => exact handleText_alike bytes hs
  | nativePing payload => exact lockstep_enqueue hs rfl fun queued => orSlowConsumer_alike queued hs
  | nativePong => exact ⟨rfl, hs⟩
  | closed => exact stopGracefully_alike hs
  | binary =>
    simp only [SideBySide, handleReaderEvent, Proc.bind_apply, Proc.get_apply, Program.bind_done,
      enqueue_apply, Program.bind_ask]
    exact lockstep_enqueue hs (by rw [hs.activeCodec]) fun queued => stopWith_alike rfl queued hs
  | oversized =>
    simp only [SideBySide, handleReaderEvent, Proc.bind_apply, Proc.get_apply, Program.bind_done,
      enqueue_apply, Program.bind_ask]
    exact lockstep_enqueue hs (by rw [hs.activeCodec]) fun queued => stopWith_alike rfl queued hs

theorem handleCoordinatorEvent_alike {event event' : CoordinatorEvent}
    (hevent : event.redact = event'.redact) (hs : s.Alike s') :
    SideBySide Eq (handleCoordinatorEvent settings event) (handleCoordinatorEvent settings event')
      s s' := by
  cases event with
  | actionCompleted requestId actionId result =>
    cases event' with
    | actionCompleted requestId' actionId' result' =>
      obtain ⟨rfl, rfl, hresult⟩ := CoordinatorEvent.actionCompleted.inj hevent
      cases result with
      | ok events =>
        cases result' with
        | ok events' =>
          cases hresult
          simp only [SideBySide, handleCoordinatorEvent, Proc.bind_apply, Proc.get_apply,
            Program.bind_done, enqueue_apply, Program.bind_ask]
          exact lockstep_enqueue hs (by rw [hs.activeCodec]) fun queued =>
            orSlowConsumer_alike queued hs
        | error e' => cases hresult
      | error e =>
        cases result' with
        | ok events' => cases hresult
        | error e' =>
          have he := Except.error.inj hresult
          simp only [SideBySide, handleCoordinatorEvent, Proc.bind_apply, Proc.get_apply,
            Program.bind_done, enqueue_apply, Program.bind_ask]
          have hitem : (Enqueue.error s.activeCodec (some requestId) (.execution e)).redact =
              (Enqueue.error s'.activeCodec (some requestId) (.execution e')).redact := by
            rw [hs.activeCodec]
            exact congrArg (fun e => Enqueue.error s.activeCodec _ (.execution e)) he
          exact lockstep_enqueue hs hitem fun queued => orSlowConsumer_alike queued hs
    | _ => cases hevent
  | queryCompleted response =>
    cases event' with
    | queryCompleted response' =>
      cases hevent
      simp only [SideBySide, handleCoordinatorEvent, Proc.bind_apply, Proc.get_apply,
        Program.bind_done, enqueue_apply, Program.bind_ask]
      exact lockstep_enqueue hs (by rw [hs.activeCodec, hs.negotiatedVersion]) fun queued =>
        orSlowConsumer_alike queued hs
    | _ => cases hevent
  | subscriptionFinished id =>
    cases event' with
    | subscriptionFinished id' =>
      cases hevent
      simp only [SideBySide, handleCoordinatorEvent, Proc.bind_apply, Proc.get_apply,
        Program.bind_done]
      rcases removeSubscription_alike id hs with ⟨h, h'⟩ | ⟨handle, t, t', h, h', ht⟩
      · rw [h, h']
        exact ⟨rfl, hs⟩
      · rw [h, h']
        simp only [Proc.bind_apply, Proc.set_apply, Program.bind_done, stopPump_apply,
          Program.bind_ask, Proc.get_apply, enqueue_apply]
        refine lockstep_plain ht rfl fun _ => lockstep_plain ht rfl fun _ => ?_
        exact lockstep_enqueue ht (by rw [ht.activeCodec]) fun queued =>
          orSlowConsumer_alike queued ht
    | _ => cases hevent
  | eventSourceFailed id error fatal errorQueued =>
    cases event' with
    | eventSourceFailed id' error' fatal' errorQueued' =>
      obtain ⟨rfl, herror, rfl, rfl⟩ := CoordinatorEvent.eventSourceFailed.inj hevent
      simp only [SideBySide, handleCoordinatorEvent, Proc.ite_apply]
      refine .ite (fun _ => ?_) fun _ => ?_
      · have hfatal : (WebSocketAdapterError.transport error).redact =
            (WebSocketAdapterError.transport error').redact :=
          congrArg WebSocketAdapterError.transport herror
        exact stopWith_alike hfatal errorQueued hs
      simp only [Proc.bind_apply, Proc.get_apply, Program.bind_done]
      rcases removeSubscription_alike id hs with ⟨h, h'⟩ | ⟨handle, t, t', h, h', ht⟩
      · rw [h, h']
        exact ⟨rfl, hs⟩
      · rw [h, h']
        simp only [Proc.bind_apply, Proc.set_apply, Program.bind_done, stopPump_apply,
          Program.bind_ask]
        exact lockstep_plain ht rfl fun _ => lockstep_plain ht rfl fun _ => ⟨rfl, ht⟩
    | _ => cases hevent
  | slowConsumer id =>
    cases event' with
    | slowConsumer id' =>
      simp only [SideBySide, handleCoordinatorEvent, Proc.bind_apply, Proc.get_apply,
        Program.bind_done, enqueue_apply, Program.bind_ask]
      exact lockstep_enqueue hs (by rw [hs.activeCodec]) fun queued => stopWith_alike rfl queued hs
    | _ => cases hevent
  | writerFailed e =>
    cases event' with
    | writerFailed e' => exact stopWith_alike (CoordinatorEvent.writerFailed.inj hevent) false hs
    | _ => cases hevent
  | readerFailed e =>
    cases event' with
    | readerFailed e' =>
      have he : (WebSocketAdapterError.task e).redact =
          (WebSocketAdapterError.task e').redact :=
        rfl
      exact stopWith_alike he false hs
    | _ => cases hevent

theorem handleHeartbeat_alike (negotiationElapsed activityElapsed : Bool) (hs : s.Alike s') :
    SideBySide Eq (handleHeartbeat negotiationElapsed activityElapsed)
      (handleHeartbeat negotiationElapsed activityElapsed) s s' := by
  simp only [SideBySide, handleHeartbeat, Proc.bind_apply, Proc.get_apply, Program.bind_done,
    Proc.ite_apply, hs.connection, enqueue_apply, Program.bind_ask]
  refine .ite (fun _ => stopWith_alike rfl false hs) fun _ => ?_
  refine .ite (fun _ => stopWith_alike rfl false hs) fun _ => ?_
  exact lockstep_enqueue hs rfl fun queued => orSlowConsumer_alike queued hs

/-- A turn of the loop asks for the same under inputs that differ in texts only. -/
theorem turn_alike (hs : s.Alike s') : SideBySide Eq (turn settings) (turn settings) s s' := by
  refine lockstep_select hs fun input input' hinput => ?_
  cases input with
  | reader read =>
    cases input' with
    | reader read' =>
      cases hinput
      cases read with
      | none => exact stopGracefully_alike hs
      | some event => exact handleReaderEvent_alike event hs
    | _ => cases hinput
  | event told =>
    cases input' with
    | event told' =>
      have htold := CoordinatorInput.event.inj hinput
      cases told with
      | none =>
        cases told' with
        | none => exact stopWith_alike rfl false hs
        | some event' => cases htold
      | some event =>
        cases told' with
        | none => cases htold
        | some event' => exact handleCoordinatorEvent_alike (Option.some.inj htold) hs
    | _ => cases hinput
  | heartbeat negotiationElapsed activityElapsed =>
    cases input' with
    | heartbeat _ _ =>
      cases hinput
      exact handleHeartbeat_alike negotiationElapsed activityElapsed hs
    | _ => cases hinput

/-- A procedure without a result, run side by side with itself. -/
abbrev RunsAlike (x : CoordinatorM Unit) (s s' : Coordinator) : Prop :=
  SideBySide (fun _ _ => True) x x s s'

theorem reportFatalError_alike (hs : s.Alike s') : RunsAlike reportFatalError s s' := by
  have hfatal := hs.fatalError
  simp only [RunsAlike, SideBySide, reportFatalError, Proc.bind_apply, Proc.get_apply,
    Program.bind_done, hs.gracefulClose, hs.fatalErrorQueued]
  cases s.gracefulClose with
  | true => exact ⟨trivial, hs⟩
  | false =>
    cases hstate : s.fatalError with
    | none =>
      rw [hstate] at hfatal
      rw [Option.map_eq_none_iff.mp hfatal.symm]
      exact ⟨trivial, hs⟩
    | some e =>
      rw [hstate] at hfatal
      obtain ⟨e', hstate', he⟩ := Option.map_eq_some_iff.mp hfatal.symm
      rw [hstate']
      cases s.fatalErrorQueued with
      | true => exact ⟨trivial, hs⟩
      | false =>
        simp only [Proc.bind_apply, enqueue_apply, Program.bind_ask, Program.bind_done,
          Proc.pure_apply]
        have hreported : e.toFinalError.redact = e'.toFinalError.redact := by
          rw [← e.toFinalError_redact, ← he, e'.toFinalError_redact]
        have hitem : (Enqueue.error s.activeCodec none e.toFinalError).redact =
            (Enqueue.error s'.activeCodec none e'.toFinalError).redact := by
          rw [hs.activeCodec]
          exact congrArg (Enqueue.error s.activeCodec none) hreported
        exact lockstep_enqueue hs hitem fun queued => ⟨trivial, hs⟩

theorem closeWriter_alike (hs : s.Alike s') :
    SideBySide Eq closeWriter closeWriter s s' := by
  have hclosed := hs.update (fun state => { state with connection := s.connection.shutDown })
    fun _ => rfl
  simp only [SideBySide, closeWriter, Proc.bind_apply, sendClose_apply, Program.bind_ask,
    Program.bind_done, Proc.modify_apply, hs.connection]
  refine lockstep_plain hs rfl fun (queued : Bool) => ?_
  simp only [Proc.ite_apply, awaitWriter_apply, Proc.pure_apply]
  refine .ite (fun _ => ?_) fun _ => ⟨rfl, hclosed⟩
  exact lockstep_plain hclosed rfl fun finished => ⟨rfl, hclosed⟩

theorem joinPumps_alike (handles : List SubscriptionHandle) (hs : s.Alike s') :
    RunsAlike (joinPumps handles) s s' := by
  induction handles with
  | nil => exact ⟨trivial, hs⟩
  | cons handle rest ih =>
    simp only [RunsAlike, SideBySide, joinPumps, Proc.bind_apply, stopPump_apply,
      Program.bind_ask, Program.bind_done]
    exact lockstep_plain hs rfl fun _ => lockstep_plain hs rfl fun _ => ih

theorem joinSubscriptions_alike (hs : s.Alike s') : RunsAlike joinSubscriptions s s' := by
  have hempty := hs.update (fun state => { state with subscriptions := [] }) fun _ => rfl
  have hhandles : s'.subscriptions.map (·.2) = s.subscriptions.map (·.2) := by
    rw [hs.subscriptions]
  simp only [RunsAlike, SideBySide, joinSubscriptions, Proc.bind_apply, Proc.get_apply,
    Program.bind_done, drain_apply, Program.bind_ask, Proc.modify_apply]
  rw [hhandles]
  exact lockstep_plain hs rfl fun order => joinPumps_alike order hempty

theorem perform_alike (effect : Effect) (hs : s.Alike s') : RunsAlike (perform effect) s s' :=
  lockstep_plain hs rfl fun _ => ⟨trivial, hs⟩

theorem joinIf_alike (running : Bool) (task : TaskId) (hs : s.Alike s') :
    RunsAlike (joinIf running task) s s' := by
  cases running with
  | true => exact perform_alike _ hs
  | false => exact ⟨trivial, hs⟩

/-- What follows is run side by side from every pair of alike states. -/
theorem SideBySide.next {β : Type} {Q : β → β → Prop} {x x' : CoordinatorM β}
    {f f' : β → CoordinatorM α} (hx : SideBySide Q x x' s s')
    (hf : ∀ {b b' t t'}, Q b b' → t.Alike t' → SideBySide R (f b) (f' b') t t') :
    SideBySide R (x >>= f) (x' >>= f') s s' :=
  Lockstep.bind hx fun _ _ hr => hf hr.1 hr.2

theorem Coordinator.Alike.result (h : s.Alike s') :
    ResultsAlike (s.fatalError.elim (.ok ()) .error) (s'.fatalError.elim (.ok ()) .error) := by
  have hfatal := h.fatalError
  cases hstate : s.fatalError with
  | none =>
    rw [hstate] at hfatal
    rw [Option.map_eq_none_iff.mp hfatal.symm]
    rfl
  | some e =>
    rw [hstate] at hfatal
    obtain ⟨e', hstate', he⟩ := Option.map_eq_some_iff.mp hfatal.symm
    rw [hstate']
    exact .error he.symm

theorem shutdown_alike (hs : s.Alike s') :
    SideBySide ResultsAlike (shutdown settings) (shutdown settings) s s' := by
  unfold shutdown
  refine (reportFatalError_alike hs).next fun _ hs => (closeWriter_alike hs).next ?_
  rintro finished _ s s' rfl hs
  refine (perform_alike _ hs).next fun _ hs => (perform_alike _ hs).next fun _ hs => ?_
  refine (joinSubscriptions_alike hs).next fun _ hs => ?_
  refine (perform_alike _ hs).next fun _ hs => (perform_alike _ hs).next fun _ hs => ?_
  refine (joinIf_alike _ _ hs).next fun _ hs => (joinIf_alike _ _ hs).next fun _ hs => ?_
  exact ⟨hs.result, hs⟩

end Turns
end Lockstep

section Sessions
variable {settings : SessionSettings}

/-- Two coordinators at the same place of their programs, alike from here on. -/
def CoordinatorTask.Alike : CoordinatorTask → CoordinatorTask → Prop
  | looping p, looping p' =>
    Lockstep diagnostics (fun r r' => r.1 = r'.1 ∧ r.2.Alike r'.2) p p'
  | closing p, closing p' =>
    Lockstep diagnostics (fun r r' => ResultsAlike r.1 r'.1 ∧ r.2.Alike r'.2) p p'
  | finished result s, finished result' s' => ResultsAlike result result' ∧ s.Alike s'
  | _, _ => False

theorem CoordinatorTask.Alike.afterTurn {p p' : CoordinatorProgram (LoopControl × Coordinator)}
    (h : Lockstep diagnostics (fun r r' => r.1 = r'.1 ∧ r.2.Alike r'.2) p p') :
    (CoordinatorTask.afterTurn settings p).Alike (CoordinatorTask.afterTurn settings p') := by
  cases p with
  | done r =>
    cases p' with
    | done r' =>
      obtain ⟨control, s⟩ := r
      obtain ⟨control', s'⟩ := r'
      obtain ⟨rfl, hs⟩ := h
      cases control with
      | next => exact turn_alike hs
      | stop => exact shutdown_alike hs
    | ask s' q' k' => exact h.elim
  | ask s q k =>
    cases p' with
    | done r' => exact h.elim
    | ask s' q' k' => exact h

theorem CoordinatorTask.Alike.afterShutdown
    {p p' : CoordinatorProgram (Except WebSocketAdapterError Unit × Coordinator)}
    (h : Lockstep diagnostics (fun r r' => ResultsAlike r.1 r'.1 ∧ r.2.Alike r'.2) p p') :
    (CoordinatorTask.afterShutdown p).Alike (CoordinatorTask.afterShutdown p') := by
  cases p with
  | done r =>
    cases p' with
    | done r' => exact h
    | ask s' q' k' => exact h.elim
  | ask s q k =>
    cases p' with
    | done r' => exact h.elim
    | ask s' q' k' => exact h

/-- Pending requests that differ in texts only, and the same way on from alike answers. -/
structure CoordinatorTask.Pending.Alike (p p' : Pending) : Prop where
  state : p.state.Alike p'.state
  request : p.request.redact = p'.request.redact
  resume : ∀ a a', p.request.reply a = p'.request.reply a' → (p.resume a).Alike (p'.resume a')

theorem CoordinatorTask.Alike.pending (settings : SessionSettings) {task task' : CoordinatorTask}
    (h : task.Alike task') :
    task.pending settings = none ∧ task'.pending settings = none ∨
      ∃ p p', task.pending settings = some p ∧ task'.pending settings = some p' ∧ p.Alike p' := by
  cases task with
  | looping program =>
    cases task' with
    | looping program' =>
      cases program with
      | done r =>
        cases program' with
        | done r' => exact .inl ⟨rfl, rfl⟩
        | ask s' q' k' => exact h.elim
      | ask s q k =>
        cases program' with
        | done r' => exact h.elim
        | ask s' q' k' =>
          exact .inr ⟨_, _, rfl, rfl, h.1.1, h.1.2, fun a a' ha => .afterTurn (h.2 a a' ha)⟩
    | _ => exact h.elim
  | closing program =>
    cases task' with
    | closing program' =>
      cases program with
      | done r =>
        cases program' with
        | done r' => exact .inl ⟨rfl, rfl⟩
        | ask s' q' k' => exact h.elim
      | ask s q k =>
        cases program' with
        | done r' => exact h.elim
        | ask s' q' k' =>
          exact .inr ⟨_, _, rfl, rfl, h.1.1, h.1.2, fun a a' ha => .afterShutdown (h.2 a a' ha)⟩
    | _ => exact h.elim
  | finished result s =>
    cases task' with
    | finished result' s' => exact .inl ⟨rfl, rfl⟩
    | _ => exact h.elim

/-- The local variables of the coordinator where it has paused or ended. -/
def CoordinatorTask.state : CoordinatorTask → Coordinator
  | looping (.ask s _ _) | closing (.ask s _ _) | finished _ s => s
  | looping (.done r) => r.2
  | closing (.done r) => r.2

theorem CoordinatorTask.Alike.state {task task' : CoordinatorTask} (h : task.Alike task') :
    task.state.Alike task'.state := by
  cases task with
  | looping program =>
    cases task' with
    | looping program' =>
      cases program <;> cases program'
      case done.done => exact h.2
      case ask.ask => exact h.1.1
      all_goals exact h.elim
    | _ => exact h.elim
  | closing program =>
    cases task' with
    | closing program' =>
      cases program <;> cases program'
      case done.done => exact h.2
      case ask.ask => exact h.1.1
      all_goals exact h.elim
    | _ => exact h.elim
  | finished result s =>
    cases task' with
    | finished result' s' => exact h.2
    | _ => exact h.elim

/-- An exchange without its texts. -/
def redactExchange (e : CoordinatorExchange) : Coordinator × CoordinatorRequest × Reply :=
  (e.state.redact, e.request.redact, e.request.reply e.answer)

/-- The sessions differ in texts only, now and in what the coordinator goes on to do. -/
structure Session.Alike (s s' : Session) : Prop where
  task : s.coordinator.Alike s'.coordinator
  world : s.world.redact = s'.world.redact
  trace : s.trace.map redactExchange = s'.trace.map redactExchange

/-- What a request offers to the writer queue. -/
def CoordinatorRequest.offered : CoordinatorRequest → Option WriterCommand
  | enqueue item => item.command?
  | sendClose => some .close
  | _ => none

/-- What a pump offers to the writer queue. -/
def PumpChoice.offered (pump : Pump) : PumpChoice → Option WriterCommand
  | next (.ok (some event)) messageId =>
    some (.application (.event ⟨pump.version, messageId, ⟨"event"⟩, event⟩) pump.codec)
  | next (.error error) _ =>
    some (.application (.error (.fromTransportError none (.eventSource error))) pump.codec)
  | _ => none

/-- What a step of the session offers to the writer queue, whether or not there is room. -/
def Session.offered (settings : SessionSettings) (s : Session) :
    SessionAction → Option WriterCommand
  | .coordinator _ => (s.coordinator.pending settings).bind (·.request.offered)
  | .task (.pump index choice) => s.world.pumps[index]?.bind choice.offered
  | .task _ => none

/-- What the client is offered along a run. -/
def offers (settings : SessionSettings) (log : Session.Log) : List WriterCommand :=
  log.filterMap fun step => step.1.offered settings step.2

theorem CoordinatorRequest.offered_redact (q : CoordinatorRequest) :
    q.redact.offered = q.offered := by
  cases q with
  | enqueue item =>
    cases item with
    | error codec requestId e =>
      simp only [redact, Enqueue.redact, offered, Enqueue.command?,
        ErrorMessage.fromTransportError_redact]
    | _ => rfl
  | _ => rfl

theorem PumpChoice.offered_redact (pump : Pump) (choice : PumpChoice) :
    choice.redact.offered pump.redact = choice.offered pump := by
  cases choice with
  | next result messageId =>
    rcases result with error | event
    · have htold : ErrorMessage.fromTransportError none (.eventSource error.redact) =
          .fromTransportError none (.eventSource error) :=
        ErrorMessage.fromTransportError_redact none (.eventSource error)
      simp only [redact, Except.mapError_error, offered, htold]
      rfl
    · cases event <;> rfl
  | _ => rfl

theorem PumpChoice.bind_offered (pump : Option Pump) (choice : PumpChoice) :
    pump.bind choice.offered = (pump.map Pump.redact).bind choice.redact.offered := by
  cases pump with
  | none => rfl
  | some pump => exact (choice.offered_redact pump).symm

theorem Session.Alike.offered {s s' : Session} (h : s.Alike s') {action action' : SessionAction}
    (haction : action.redact = action'.redact) :
    s.offered settings action = s'.offered settings action' := by
  cases action with
  | coordinator choice =>
    cases action' with
    | coordinator choice' =>
      simp only [Session.offered]
      rcases h.task.pending settings with ⟨hp, hp'⟩ | ⟨p, p', hp, hp', hpending⟩
      · rw [hp, hp']
      · rw [hp, hp']
        show p.request.offered = p'.request.offered
        rw [← p.request.offered_redact, hpending.request, p'.request.offered_redact]
    | task action' => cases haction
  | task action =>
    cases action' with
    | coordinator choice' => cases haction
    | task action' =>
      have htask : action.redact = action'.redact := SessionAction.task.inj haction
      cases action with
      | pump index choice =>
        cases action' with
        | pump index' choice' =>
          obtain ⟨rfl, hchoice⟩ := TaskAction.pump.inj htask
          have hpumps : s.world.pumps[index]?.map Pump.redact =
              s'.world.pumps[index]?.map Pump.redact := by
            have hindex := congrArg (fun w => w.pumps[index]?) h.world
            simpa [World.redact] using hindex
          simp only [Session.offered]
          rw [PumpChoice.bind_offered _ choice, hpumps, hchoice, ← PumpChoice.bind_offered]
        | _ => cases htask
      | _ =>
        cases action' with
        | pump index' choice' => cases htask
        | _ => rfl

/-- One step of sessions that differ in texts only. -/
theorem Session.Alike.step {s s' t t' : Session} (h : s.Alike s') {action action' : SessionAction}
    (haction : action.redact = action'.redact) (hstep : s.step settings action = some t)
    (hstep' : s'.step settings action' = some t') : t.Alike t' := by
  cases action with
  | coordinator choice =>
    cases action' with
    | coordinator choice' =>
      have hchoice : choice.redact = choice'.redact := SessionAction.coordinator.inj haction
      obtain ⟨p, a, w, hp, hrespond, rfl⟩ := Session.step_coordinator_eq_some hstep
      obtain ⟨p', a', w', hp', hrespond', rfl⟩ := Session.step_coordinator_eq_some hstep'
      rcases h.task.pending settings with ⟨hnone, -⟩ | ⟨q, q', hq, hq', hpending⟩
      · rw [hp] at hnone
        cases hnone
      · cases hp.symm.trans hq
        cases hp'.symm.trans hq'
        have hanswers := World.respond_alike h.world hpending.request hchoice
        rw [hrespond, hrespond'] at hanswers
        obtain ⟨hreply, hworld⟩ := Prod.mk.inj (Option.some.inj hanswers)
        have hexchange : redactExchange ⟨p.state, p.request, a⟩ =
            redactExchange ⟨p'.state, p'.request, a'⟩ :=
          Prod.ext hpending.state (Prod.ext hpending.request hreply)
        refine ⟨hpending.resume a a' hreply, hworld, ?_⟩
        simp only [List.map_append, h.trace, List.map_cons, List.map_nil, hexchange]
    | task action' => cases haction
  | task action =>
    cases action' with
    | coordinator choice' => cases haction
    | task action' =>
      have htask : action.redact = action'.redact := SessionAction.task.inj haction
      obtain ⟨w, hmove, rfl⟩ := Option.map_eq_some_iff.mp hstep
      obtain ⟨w', hmove', rfl⟩ := Option.map_eq_some_iff.mp hstep'
      have hworld := World.taskStep_alike settings h.world htask
      rw [hmove, hmove'] at hworld
      exact ⟨h.task, Option.some.inj hworld, h.trace⟩

/-- The steps of a run without the texts that the dependencies answered with. -/
def redactLog (log : Session.Log) : List SessionAction := log.map fun step => step.2.redact

theorem Session.alike_of_runs {start start' : Session} (hstart : start.Alike start')
    {log log' : Session.Log} {s s' : Session}
    (hrun : Transition.Run (Session.step settings) start log s)
    (hrun' : Transition.Run (Session.step settings) start' log' s')
    (hlog : redactLog log = redactLog log') :
    offers settings log = offers settings log' ∧ s.Alike s' := by
  induction hrun generalizing log' s' with
  | start =>
    cases hrun' with
    | start => exact ⟨rfl, hstart⟩
    | step hbefore' hstep' =>
      have hlength := congrArg List.length hlog
      simp [redactLog] at hlength
  | step hbefore hstep ih =>
    cases hrun' with
    | start =>
      have hlength := congrArg List.length hlog
      simp [redactLog] at hlength
    | step hbefore' hstep' =>
      simp only [redactLog, List.map_append, List.map_cons, List.map_nil] at hlog
      obtain ⟨hlogs, hlast⟩ := List.append_inj' hlog rfl
      have haction := (List.cons.inj hlast).1
      obtain ⟨hoffers, halike⟩ := ih hbefore' hlogs
      refine ⟨?_, halike.step haction hstep hstep'⟩
      unfold offers at hoffers ⊢
      rw [List.filterMap_snoc, List.filterMap_snoc, hoffers, halike.offered haction]

/-- Runs of a session over the same schedule whose dependencies answer alike but for diagnostic
texts offer the client the same messages and end in states that differ in texts only. -/
theorem diagnostics_never_reach_client (settings : SessionSettings) (id : ConnectionId)
    (metadata : Metadata) (log log' : Session.Log) (s s' : Session)
    (hrun : Session.Run settings id metadata log s)
    (hrun' : Session.Run settings id metadata log' s') (hlog : redactLog log = redactLog log') :
    offers settings log = offers settings log' ∧
      s.coordinator.state.Alike s'.coordinator.state ∧ s.Alike s' := by
  have hstart : (Session.start settings id metadata).Alike (Session.start settings id metadata) :=
    ⟨turn_alike rfl, rfl, rfl⟩
  obtain ⟨hoffers, halike⟩ := Session.alike_of_runs hstart hrun.run hrun'.run hlog
  exact ⟨hoffers, halike.task.state, halike⟩

/-- The reader fails with a text, and the coordinator reports it and asks the writer to close. -/
def sampleReaderFailure (text : String) : List SessionAction :=
  [.task (.reader (.next (some (.error text)))), .coordinator .event, .coordinator .proceed,
    .coordinator .proceed]

theorem Session.actions_of_logged (actions : List SessionAction) {log : Session.Log} {s : Session}
    {r : Session.Log × Session} (hlogged : Session.logged settings log s actions = some r) :
    r.1.map (·.2) = log.map (·.2) ++ actions := by
  induction actions generalizing log s with
  | nil =>
    cases hlogged
    simp
  | cons action rest ih =>
    obtain ⟨next, -, hrest⟩ := Option.bind_eq_some_iff.mp hlogged
    rw [ih hrest]
    simp

/-- A reader that fails has its run, whatever the text. -/
theorem sampleReaderFailure_runs (text : String) : ∃ log s,
    Session.Run (sampleSettings 1 2) (sampleId .connection) ⟨[]⟩ log s ∧
      log.map (·.2) = sampleReaderFailure text ∧
      (offers (sampleSettings 1 2) log).length = 2 := by
  have hlogged : (Session.logged (sampleSettings 1 2) [] (.start (sampleSettings 1 2)
      (sampleId .connection) ⟨[]⟩) (sampleReaderFailure text)).any
      (fun r => (offers (sampleSettings 1 2) r.1).length == 2) = true := rfl
  obtain ⟨r, hr, hcheck⟩ := (Option.any_eq_true _ _).mp hlogged
  exact ⟨r.1, r.2, ⟨rfl, Session.run_of_logged _ .start hr⟩, Session.actions_of_logged _ hr,
    eq_of_beq hcheck⟩

/-- A reader that fails with one text or another. -/
theorem diagnostics_never_reach_client_reader : ∃ log log' s s',
    Session.Run (sampleSettings 1 2) (sampleId .connection) ⟨[]⟩ log s ∧
      Session.Run (sampleSettings 1 2) (sampleId .connection) ⟨[]⟩ log' s' ∧
      log.map (·.2) = sampleReaderFailure "connection reset" ∧
      log'.map (·.2) = sampleReaderFailure "TLS alert" ∧
      (offers (sampleSettings 1 2) log).length = 2 ∧
      offers (sampleSettings 1 2) log = offers (sampleSettings 1 2) log' ∧
      s.coordinator.state.Alike s'.coordinator.state := by
  obtain ⟨log, s, hrun, hlog, hlength⟩ := sampleReaderFailure_runs "connection reset"
  obtain ⟨log', s', hrun', hlog', -⟩ := sampleReaderFailure_runs "TLS alert"
  have hredacted : redactLog log = redactLog log' := by
    have hmap := congrArg (List.map SessionAction.redact) hlog
    have hmap' := congrArg (List.map SessionAction.redact) hlog'
    rw [List.map_map] at hmap hmap'
    exact hmap.trans hmap'.symm
  obtain ⟨hoffers, halike, -⟩ := diagnostics_never_reach_client _ _ _ _ _ _ _ hrun hrun' hredacted
  exact ⟨log, log', s, s', hrun, hrun', hlog, hlog', hlength, hoffers, halike⟩

end Sessions
end OrbitRelay
