import OrbitRelay.Transport.Session

/-! Replies that could not be queued. `handle_inbound` returns such a failure as an error that its
caller does not take for fatal: whether the session ends depends on a second enqueue. -/
namespace OrbitRelay
open Pausing

/-- A message that some request waits for: a reply, an announcement or a correlated error. -/
def Enqueue.isReply : Enqueue → Bool
  | application .. | queryResponse .. | error _ (some _) _ => true
  | error _ none _ | writer _ | action _ | query _ => false

/-- A reply was refused in this exchange. -/
def refusedIn : CoordinatorExchange → Bool
  | ⟨_, .enqueue item, false⟩ => item.isReply
  | _ => false

/-- Some reply was refused so far. -/
def Refused (h : CoordinatorTrace) : Prop := h.any refusedIn = true

/-- After a refused reply, an uncorrelated error is refused as well while the loop runs; the
coordinator then asks for nothing that is not part of the shutdown. -/
def replies : Contract CoordinatorRequest CoordinatorRequest.Answer Coordinator where
  rely
    | h, s, .enqueue (.error _ none _), queued => Refused h → s.fatalError = none → queued = false
    | _, _, _, _ => True
  guarantee h _ q := Refused h → q.inShutdown = true

/-- In the loop, with every reply queued. -/
structure AllQueued (h : CoordinatorTrace) (s : Coordinator) : Prop where
  queued : ¬ Refused h
  running : s.fatalError = none

/-- After `handle_inbound`: a refused reply shows in its result. -/
def Handled (result : Except WebSocketAdapterError Unit) (h : CoordinatorTrace) (s : Coordinator) :
    Prop :=
  s.fatalError = none ∧ (Refused h → result = .error (.transport .slowConsumer))

section Records
variable {h : CoordinatorTrace} {s : Coordinator}

theorem refused_snoc (e : CoordinatorExchange) :
    Refused (h ++ [e]) ↔ Refused h ∨ refusedIn e = true := by
  simp [Refused]

theorem AllQueued.snoc (hs : AllQueued h s) {e : CoordinatorExchange} (he : refusedIn e = false) :
    AllQueued (h ++ [e]) s := by
  refine ⟨fun hrefused => ?_, hs.running⟩
  rcases (refused_snoc e).mp hrefused with hrefused | hrefused
  · exact hs.queued hrefused
  · rw [he] at hrefused
    cases hrefused

theorem AllQueued.congr (hs : AllQueued h s) {s' : Coordinator}
    (hfatal : s'.fatalError = s.fatalError) : AllQueued h s' :=
  ⟨hs.queued, hfatal.trans hs.running⟩

theorem AllQueued.setSubscriptions (hs : AllQueued h s)
    (rest : List (TransportSubscriptionId × SubscriptionHandle)) :
    AllQueued h { s with subscriptions := rest } :=
  hs.congr rfl

theorem AllQueued.promise (hs : AllQueued h s) (q : CoordinatorRequest) :
    replies.guarantee h s q :=
  fun hrefused => absurd hrefused hs.queued

theorem AllQueued.accepted (hs : AllQueued h s) (item : Enqueue) :
    AllQueued (h ++ [⟨s, .enqueue item, true⟩]) s :=
  hs.snoc rfl

theorem AllQueued.handled (hs : AllQueued h s) (result : Except WebSocketAdapterError Unit) :
    Handled result h s :=
  ⟨hs.running, fun hrefused => absurd hrefused hs.queued⟩

/-- A required reply that is refused is the error that `handle_inbound` returns. -/
theorem AllQueued.required (hs : AllQueued h s) (item : Enqueue) (queued : Bool) :
    Handled (requiredResult queued) (h ++ [⟨s, .enqueue item, queued⟩]) s := by
  cases queued with
  | true => exact (hs.accepted item).handled _
  | false => exact ⟨hs.running, fun _ => rfl⟩

/-- A reply whose refusal is returned as an error. -/
theorem AllQueued.reply (hs : AllQueued h s) (item : Enqueue) :
    (enqueue item).wp replies (fun queued => Handled (requiredResult queued)) h s :=
  ⟨hs.promise _, fun queued _ => hs.required item queued⟩

end Records

section Handlers
variable {settings : SessionSettings} {h : CoordinatorTrace} {s : Coordinator}

theorem handleHello_replies (hs : AllQueued h s) (hello : Hello) :
    (handleHello settings hello).run.wp replies Handled h s := by
  simp only [handleHello, Proc.wp_run_bind, Proc.wp_run_get, Proc.wp_run_throw,
    Proc.afterResult_ok, Proc.afterResult_error, Proc.wp_run_ite, Proc.wp_run_liftM, wp_negotiate]
  refine ⟨fun _ => hs.handled _, fun _ => ⟨fun _ => hs.handled _, fun _ => ?_⟩⟩
  refine ⟨hs.promise _, fun answer _ => ?_⟩
  rcases answer with e | version
  · exact (hs.snoc rfl).handled _
  simp only [wp_orThrow_ok, Proc.afterResult_ok, Proc.wp_run_bind, Proc.wp_run_get]
  cases s.connection.beginAuthentication with
  | error e => exact (hs.snoc rfl).handled _
  | ok connection =>
    simp only [wp_orThrow_ok, Proc.afterResult_ok, Proc.wp_run_bind, wp_setConnection,
      Proc.wp_run_modify, wp_required, wp_enqueue]
    have hs' : AllQueued _ { s with connection := connection, negotiatedVersion := some version } :=
      (hs.snoc (e := ⟨s, .negotiate hello.supportedVersions, .ok version⟩) rfl).congr rfl
    refine ⟨hs'.promise _, fun queued _ => ?_⟩
    cases queued with
    | false => exact hs'.required _ false
    | true => exact ((hs'.accepted _).congr rfl).handled _

theorem handleAuthenticate_replies (hs : AllQueued h s) (authenticate : Authenticate) :
    (handleAuthenticate authenticate).run.wp replies Handled h s := by
  simp only [handleAuthenticate, Proc.wp_run_bind, Proc.wp_run_get, Proc.wp_run_throw,
    Proc.afterResult_ok, Proc.afterResult_error, Proc.wp_run_ite, Proc.wp_run_liftM, wp_resolve]
  refine ⟨fun _ => hs.handled _, fun _ => ⟨hs.promise _, fun answer _ => ?_⟩⟩
  rcases answer with e | binding
  · exact (hs.snoc rfl).handled _
  simp only [Proc.wp_run_bind, Proc.wp_run_get, Proc.afterResult_ok]
  cases s.connection.bindIdentity binding with
  | error e => exact (hs.snoc rfl).handled _
  | ok connection =>
    simp only [wp_orThrow_ok, Proc.afterResult_ok, Proc.wp_run_bind, wp_setConnection,
      Proc.wp_run_get]
    have hs' := hs.snoc
      (e := ⟨s, .resolve s.connection.id authenticate.credentials, .ok binding⟩) rfl
    cases connection.markReady with
    | error e => exact (hs'.congr rfl).handled _
    | ok ready => exact (hs'.congr rfl).handled _

theorem handlePing_replies (hs : AllQueued h s) (ping : PingMessage) :
    (handlePing ping).run.wp replies Handled h s := by
  simp only [handlePing, Proc.wp_run_bind, Proc.wp_run_get, Proc.afterResult_ok, wp_required]
  exact hs.reply _

theorem handleAction_replies (hs : AllQueued h s) (envelope : MessageEnvelope Action) :
    (handleAction envelope).run.wp replies Handled h s := by
  refine wp_whenReady (fun _ _ => hs.handled _) fun _ => ?_
  simp only [Proc.wp_run_bind, Proc.wp_run_get, Proc.afterResult_ok]
  cases validateActionBinding s.connection.identity envelope.payload with
  | error e => exact hs.handled _
  | ok =>
    simp only [wp_orThrow_ok, Proc.afterResult_ok, Proc.wp_run_bind, Proc.wp_run_liftM,
      wp_enqueue, Proc.wp_run_ite, Proc.wp_run_throw, Proc.wp_run_pure]
    refine ⟨hs.promise _, fun queued _ => ?_⟩
    -- The action queue is not the client's: a refused action is no refused reply.
    have hs' : AllQueued (h ++ [⟨s, .enqueue (.action ⟨envelope.messageId, envelope.payload⟩),
        queued⟩]) s := hs.snoc (by cases queued <;> rfl)
    exact ⟨fun _ => hs'.handled _, fun _ => hs'.handled _⟩

theorem handleQuery_replies (hs : AllQueued h s) (message : QueryMessage) :
    (handleQuery settings message).run.wp replies Handled h s := by
  refine wp_whenReady (fun _ _ => hs.handled _) fun _ => ?_
  simp only [Proc.wp_run_bind, Proc.wp_run_get, Proc.afterResult_ok]
  cases s.negotiatedVersion with
  | none => exact hs.handled _
  | some negotiated =>
    simp only [Proc.wp_run_ite, Proc.wp_run_bind, Proc.wp_run_get, Proc.afterResult_ok,
      wp_required]
    refine ⟨fun _ => hs.reply _, fun _ => ?_⟩
    cases s.connection.identity with
    | none => exact hs.handled _
    | some binding =>
      simp only [Proc.wp_run_ite, Proc.wp_run_bind, Proc.wp_run_get, Proc.afterResult_ok,
        Proc.wp_run_liftM, Proc.wp_run_pure, wp_required, wp_enqueue]
      refine ⟨fun _ => hs.reply _, fun _ => ⟨hs.promise _, fun admitted _ => ?_⟩⟩
      have hs' : AllQueued (h ++ [⟨s, .enqueue (.query ⟨.new binding.actorId,
          message.intoRequest⟩), admitted⟩]) s := hs.snoc (by cases admitted <;> rfl)
      exact ⟨fun _ => hs'.reply _, fun _ => hs'.handled _⟩

theorem handleSubscribe_replies (hs : AllQueued h s) (request : SubscriptionRequest) :
    (handleSubscribe request).run.wp replies Handled h s := by
  refine wp_whenReady (fun _ _ => hs.handled _) fun _ => ?_
  simp only [Proc.wp_run_bind, Proc.wp_run_get, Proc.afterResult_ok]
  cases s.connection.identity with
  | none => exact hs.handled _
  | some binding =>
    simp only [Proc.wp_run_bind, Proc.wp_run_liftM, wp_authorize]
    refine ⟨hs.promise _, fun answer _ => ?_⟩
    have hs1 := hs.snoc (e := ⟨s, .authorize binding request, answer⟩) rfl
    rcases answer with e | ⟨⟨⟩⟩
    · exact hs1.handled _
    simp only [wp_orThrow_ok, Proc.afterResult_ok, Proc.wp_run_bind, Proc.wp_run_liftM,
      wp_subscribe]
    refine ⟨hs1.promise _, fun answer _ => ?_⟩
    have hs2 := hs1.snoc (e := ⟨s, .subscribe request, answer⟩) rfl
    rcases answer with e | id
    · exact hs2.handled _
    simp only [wp_orThrow_ok, Proc.afterResult_ok, Proc.afterResult_error, Proc.wp_run_bind,
      Proc.wp_run_get, Proc.wp_run_ite, Proc.wp_run_throw]
    refine ⟨fun _ => hs2.handled _, fun _ => ?_⟩
    cases s.negotiatedVersion with
    | none => exact hs2.handled _
    | some version =>
      simp only [Proc.afterResult_ok, Proc.wp_run_bind, Proc.wp_run_get, Proc.wp_run_ite,
        Proc.wp_run_throw, Proc.wp_run_liftM, wp_enqueue, wp_perform, wp_spawnPump,
        Proc.wp_run_modify]
      refine ⟨hs2.promise _, fun queued _ => ⟨fun _ => ?_, fun hqueued => ?_⟩⟩
      · exact ⟨fun _ => rfl, fun _ _ => ⟨hs.running, fun _ => rfl⟩⟩
      · have hqueued : queued = true := by simpa using hqueued
        subst hqueued
        have hs3 := hs2.accepted
          (.application s.activeCodec (.subscriptionAccepted ⟨request.requestId, id⟩))
        exact ⟨hs3.promise _, fun handle _ => ((hs3.snoc rfl).congr rfl).handled _⟩

theorem AllQueued.stopPump (hs : AllQueued h s) (handle : SubscriptionHandle)
    {post : Unit → CoordinatorTrace → Coordinator → Prop}
    (hpost : ∀ h, AllQueued h s → post () h s) : (stopPump handle).wp replies post h s := by
  simp only [wp_stopPump, wp_perform]
  refine ⟨hs.promise _, fun a _ => ?_⟩
  have hs' := hs.snoc (e := ⟨s, .perform (.cancelPump handle), a⟩) rfl
  exact ⟨hs'.promise _, fun _ _ => hpost _ (hs'.snoc rfl)⟩

theorem handleUnsubscribe_replies (hs : AllQueued h s) (unsubscribe : Unsubscribe) :
    (handleUnsubscribe unsubscribe).run.wp replies Handled h s := by
  refine wp_whenReady (fun _ _ => hs.handled _) fun _ => ?_
  simp only [Proc.wp_run_bind, Proc.wp_run_get, Proc.afterResult_ok]
  cases hremoved : removeSubscription unsubscribe.subscriptionId s with
  | none =>
    simp only [Proc.wp_run_bind, Proc.wp_run_get, Proc.afterResult_ok, wp_required]
    exact hs.reply _
  | some found =>
    obtain ⟨handle, s'⟩ := found
    simp only [Proc.wp_run_bind, Proc.wp_run_set, Proc.afterResult_ok, Proc.wp_run_liftM]
    obtain ⟨rest, rfl⟩ := removeSubscription_eq_some hremoved
    refine (hs.setSubscriptions rest).stopPump handle fun h hs => ?_
    simp only [Proc.afterResult_ok, Proc.wp_run_bind, Proc.wp_run_get, wp_required]
    exact hs.reply _

theorem handleInbound_replies (hs : AllQueued h s) (message : InboundMessage) :
    (handleInbound settings message).run.wp replies Handled h s := by
  cases message with
  | hello hello => exact handleHello_replies hs hello
  | authenticate authenticate => exact handleAuthenticate_replies hs authenticate
  | subscribe request => exact handleSubscribe_replies hs request
  | unsubscribe unsubscribe => exact handleUnsubscribe_replies hs unsubscribe
  | action envelope => exact handleAction_replies hs envelope
  | query message => exact handleQuery_replies hs message
  | ping ping => exact handlePing_replies hs ping
  | close close => exact hs.handled _

end Handlers

section Turns
variable {settings : SessionSettings} {h : CoordinatorTrace} {s : Coordinator}

/-- What a turn leaves behind: another turn starts with every reply queued. -/
abbrev repliesPost : LoopControl → CoordinatorTrace → Coordinator → Prop :=
  TurnPost AllQueued fun _ _ => True

/-- A message of the loop itself, whose refusal ends the session. -/
theorem AllQueued.orSlowConsumer (hs : AllQueued h s) (item : Enqueue) :
    (enqueue item).wp replies (fun queued => (orSlowConsumer queued).wp replies repliesPost)
      h s := by
  simp only [wp_enqueue, wp_orSlowConsumer]
  refine ⟨hs.promise _, fun queued _ => ⟨fun hqueued => ?_, fun _ => trivial⟩⟩
  subst hqueued
  exact hs.accepted item

/-- The caller of `handle_inbound` goes on only if its own error was queued, which the contract
rules out after a refused reply. -/
theorem handleMessage_replies (hs : AllQueued h s) (message : InboundMessage) :
    (handleMessage settings message).wp replies repliesPost h s := by
  unfold handleMessage
  rw [Proc.wp_bind]
  refine Proc.wp_mono (handleInbound_replies hs message) fun result h s hhandled => ?_
  obtain ⟨hrunning, hresult⟩ := hhandled
  cases result with
  | ok =>
    refine ⟨fun hrefused => ?_, hrunning⟩
    cases hresult hrefused
  | error error =>
    simp only [Proc.wp_bind, Proc.wp_get, wp_enqueue, Proc.wp_ite]
    refine ⟨fun _ => rfl, fun queued hrely => ⟨fun _ => trivial, fun hnext => ?_⟩⟩
    have hqueued : queued = true := by
      cases queued with
      | true => rfl
      | false => simp at hnext
    subst hqueued
    refine AllQueued.accepted ⟨fun hrefused => ?_, hrunning⟩ _
    cases hrely hrefused hrunning

theorem handleText_replies (hs : AllQueued h s) (bytes : List UInt8) :
    (handleText settings bytes).wp replies repliesPost h s := by
  simp only [handleText, Proc.wp_bind, Proc.wp_get]
  cases s.activeCodec.decodeInbound bytes with
  | error error =>
    simp only [Proc.wp_bind, Proc.wp_get]
    exact hs.orSlowConsumer _
  | ok message =>
    cases message with
    | close close => trivial
    | _ => exact handleMessage_replies hs _

theorem handleReaderEvent_replies (hs : AllQueued h s) (event : ReaderEvent) :
    (handleReaderEvent settings event).wp replies repliesPost h s := by
  cases event with
  | text bytes => exact handleText_replies hs bytes
  | nativePing payload =>
    simp only [handleReaderEvent, Proc.wp_bind]
    exact hs.orSlowConsumer _
  | nativePong => exact hs
  | closed => trivial
  | binary => exact ⟨fun _ => rfl, fun _ _ => trivial⟩
  | oversized => exact ⟨fun _ => rfl, fun _ _ => trivial⟩

theorem handleCoordinatorEvent_replies (hs : AllQueued h s) (event : CoordinatorEvent) :
    (handleCoordinatorEvent settings event).wp replies repliesPost h s := by
  cases event with
  | actionCompleted requestId actionId result =>
    cases result <;> simp only [handleCoordinatorEvent, Proc.wp_bind, Proc.wp_get] <;>
      exact hs.orSlowConsumer _
  | queryCompleted response =>
    simp only [handleCoordinatorEvent, Proc.wp_bind, Proc.wp_get]
    exact hs.orSlowConsumer _
  | subscriptionFinished id =>
    simp only [handleCoordinatorEvent, Proc.wp_bind, Proc.wp_get]
    cases hremoved : removeSubscription id s with
    | none => exact hs
    | some found =>
      obtain ⟨handle, s'⟩ := found
      simp only [Proc.wp_bind, Proc.wp_get, Proc.wp_set]
      obtain ⟨rest, rfl⟩ := removeSubscription_eq_some hremoved
      refine (hs.setSubscriptions rest).stopPump handle fun h hs => ?_
      exact hs.orSlowConsumer _
  | eventSourceFailed id error fatal errorQueued =>
    simp only [handleCoordinatorEvent, Proc.wp_ite, Proc.wp_bind, Proc.wp_get]
    refine ⟨fun _ => trivial, fun _ => ?_⟩
    cases hremoved : removeSubscription id s with
    | none => exact hs
    | some found =>
      obtain ⟨handle, s'⟩ := found
      simp only [Proc.wp_bind, Proc.wp_set, Proc.wp_pure]
      obtain ⟨rest, rfl⟩ := removeSubscription_eq_some hremoved
      exact (hs.setSubscriptions rest).stopPump handle fun _ hs => hs
  | slowConsumer id => exact ⟨fun _ => rfl, fun _ _ => trivial⟩
  | writerFailed error => trivial
  | readerFailed error => trivial

theorem handleHeartbeat_replies (hs : AllQueued h s) (negotiationElapsed activityElapsed : Bool) :
    (handleHeartbeat negotiationElapsed activityElapsed).wp replies repliesPost h s := by
  simp only [handleHeartbeat, Proc.wp_bind, Proc.wp_get, Proc.wp_ite]
  exact ⟨fun _ => trivial, fun _ => ⟨fun _ => trivial, fun _ => hs.orSlowConsumer _⟩⟩

theorem turn_replies (hs : AllQueued h s) : (turn settings).wp replies repliesPost h s := by
  simp only [turn, Proc.wp_bind, wp_select]
  refine ⟨hs.promise _, fun input _ => ?_⟩
  have hs' := hs.snoc (e := ⟨s, .select, input⟩) rfl
  rcases input with (_ | event) | (_ | event) | _
  · trivial
  · exact handleReaderEvent_replies hs' event
  · trivial
  · exact handleCoordinatorEvent_replies hs' event
  · exact handleHeartbeat_replies hs' _ _

theorem carriesShutdown_replies : CarriesShutdown replies fun _ _ => True where
  promise _ hq _ := hq
  exchange _ _ _ := trivial
  close _ := trivial
  drain _ := trivial

end Turns

section Session
variable {settings : SessionSettings} {id : ConnectionId} {metadata : Metadata}

/-- The loop is about to queue an uncorrelated error, after a reply was refused. -/
def Session.reportsRefusal (settings : SessionSettings) (s : Session) : Bool :=
  (s.coordinator.pending settings).any fun p =>
    match p.request with
    | .enqueue (.error _ none _) => p.state.fatalError.isNone && s.trace.any refusedIn
    | _ => false

/-- The steps in which the second enqueue finds the outbound queue as the first one left it: full
or without its receiver. -/
def StaysFull (settings : SessionSettings) (s : Session) : SessionAction → Prop
  | .coordinator _ => s.reportsRefusal settings = true →
      s.world.writerChannel.closed = true ∨ ¬ s.world.writerChannel.HasRoom
  | .task _ => True

instance (s : Session) (action : SessionAction) : Decidable (StaysFull settings s action) :=
  match action with
  | .coordinator _ => inferInstanceAs (Decidable (_ → _ ∨ _))
  | .task _ => inferInstanceAs (Decidable True)

/-- With the queue full or closed the error is refused, whatever the choice. -/
theorem respond_error_of_full {w w' : World} {codec : MessageCodec} {error : TransportError}
    {choice : CoordinatorChoice} {queued : Bool}
    (hfull : w.writerChannel.closed = true ∨ ¬ w.writerChannel.HasRoom)
    (hrespond : w.respond (.enqueue (.error codec none error)) choice = some (queued, w')) :
    queued = false := by
  cases choice with
  | proceed =>
    have hnone := Channel.trySend_eq_none hfull
      (WriterCommand.application (.error (.fromTransportError none error)) codec)
    simp only [World.respond, World.enqueue, WriterChannel.queueError,
      WriterChannel.queueApplication, hnone, World.attempt] at hrespond
    cases hrespond
    rfl
  | _ => cases hrespond

theorem StaysFull.rely {s : Session} {choice : CoordinatorChoice} {p : CoordinatorTask.Pending}
    {a : p.request.Answer} {w : World} (hallowed : StaysFull settings s (.coordinator choice))
    (hp : s.coordinator.pending settings = some p)
    (hrespond : s.world.respond p.request choice = some (a, w)) :
    replies.rely s.trace p.state p.request a := by
  obtain ⟨state, request, resume⟩ := p
  -- Only the answer to an uncorrelated error is restricted.
  rcases request with _ | (_ | _ | ⟨codec, _ | _, error⟩) | _ <;> try trivial
  intro hrefused (hrunning : state.fatalError = none)
  have hreports : s.reportsRefusal settings = true := by
    simp only [Session.reportsRefusal, hp, Option.any_some, hrunning]
    exact hrefused
  exact respond_error_of_full (hallowed hreports) hrespond

/-- In every run in which the error of a failed reply is refused as well, the coordinator only
shuts down once a reply was refused: it takes no further input. -/
theorem shutdown_after_refused (settings : SessionSettings) (id : ConnectionId)
    (metadata : Metadata) (s : Session)
    (hreach : (Session.system settings id metadata (StaysFull settings)).Reachable s)
    (h : CoordinatorTrace) (state : Coordinator) (request : CoordinatorRequest)
    (hpaused : s.Paused settings h state request) (hrefused : Refused h) :
    request ≠ .select ∧ request.inShutdown = true := by
  have hstart : AllQueued [] (.start settings (.new id metadata)) := ⟨nofun, rfl⟩
  have hpromise : replies.guarantee h state request :=
    Session.contract_of_reachable hstart (fun _ _ hs => turn_replies hs)
      (fun _ _ _ => carriesShutdown_replies.shutdown settings trivial)
      (fun _ _ _ _ _ hallowed hp hrespond => hallowed.rely hp hrespond) hreach hpaused
  have hshutdown := hpromise hrefused
  refine ⟨fun hselect => ?_, hshutdown⟩
  rw [hselect] at hshutdown
  cases hshutdown

/-- A heartbeat fills the only place of the outbound queue, and the answer to a hello is
refused. -/
def refusedHello : List SessionAction :=
  [.coordinator (.heartbeat false false), .coordinator .proceed] ++ sampleText sampleHello ++
    [.coordinator (.negotiated (.ok currentProtocolVersion)), .coordinator .proceed]

theorem shutdown_after_refused_hello :
    ∃ s state request,
      (sampleSystem (sampleSettings 1 1) (StaysFull (sampleSettings 1 1))).Reachable s ∧
      s.Paused (sampleSettings 1 1) s.trace state request ∧ Refused s.trace ∧
      request ≠ .select ∧ request.inShutdown = true := by
  obtain ⟨s, p, hreach, hp, hrefused⟩ := exists_pending_of_run (sampleSettings 1 1)
    (StaysFull (sampleSettings 1 1)) (refusedHello ++ [.coordinator .proceed])
    (fun s _ => s.trace.any refusedIn) rfl (by decide +kernel)
  exact ⟨s, p.state, p.request, hreach, .waiting hp, hrefused,
    shutdown_after_refused _ _ _ s hreach _ _ _ (.waiting hp) hrefused⟩

/-- The writer takes the ping between the two attempts: the connection is authenticating, its
version is set, no hello was accepted, and the coordinator waits for the next input. -/
theorem refused_hello_goes_on :
    ∃ s state, (sampleSystem (sampleSettings 1 1) fun _ _ => True).Reachable s ∧
      s.Paused (sampleSettings 1 1) s.trace state .select ∧ Refused s.trace ∧
      state.connection.state = .authenticating ∧
      state.negotiatedVersion = some currentProtocolVersion := by
  obtain ⟨s, ⟨state, request, resume⟩, hreach, hp, hcheck⟩ :=
    exists_pending_of_run (sampleSettings 1 1) (fun _ _ => True)
      (refusedHello ++ [.task (.writer .receive), .coordinator .proceed])
      (fun s p => p.request.isSelect && s.trace.any refusedIn &&
        p.state.connection.state == .authenticating &&
        p.state.negotiatedVersion == some currentProtocolVersion)
      rfl (by decide +kernel)
  simp only [Bool.and_eq_true, beq_iff_eq] at hcheck
  obtain ⟨⟨⟨hselect, hrefused⟩, hstate⟩, hversion⟩ := hcheck
  cases request with
  | select => exact ⟨s, state, hreach, .waiting hp, hrefused, hstate, hversion⟩
  | _ => cases hselect

end Session
end OrbitRelay
