import OrbitRelay.Transport.Failure
import OrbitRelay.Transport.Rest

/-! How a session ends: its result says whether the client closed it, the client is told of a
fatal error before it is asked to close, and the coordinator queues nothing after that. -/
namespace OrbitRelay
open Pausing

/-- What the coordinator has decided about its end. -/
def Coordinator.verdict (s : Coordinator) : Option WebSocketAdapterError × Bool × Bool :=
  (s.fatalError, s.fatalErrorQueued, s.gracefulClose)

def SameVerdict (s s' : Coordinator) : Prop := s'.verdict = s.verdict

/-- Nothing is decided yet. -/
def Undecided (s : Coordinator) : Prop := s.verdict = (none, false, false)

/-- Requests of the loop, which never close the writer or cancel the session. -/
def loopOnly : Contract CoordinatorRequest CoordinatorRequest.Answer Coordinator :=
  .within fun _ q => q.closes = false

/-- The client was told of an error, or this was tried: by the coordinator, or by a pump whose
source failed. -/
def reportedIn : CoordinatorExchange → Bool
  | ⟨_, .enqueue (.error _ none _), _⟩ => true
  | ⟨_, .select, .event (some (.eventSourceFailed _ _ true true))⟩ => true
  | _ => false

def Reported (h : CoordinatorTrace) : Prop := ∃ e ∈ h, reportedIn e = true

section Handlers
variable {settings : SessionSettings} {h : CoordinatorTrace} {s : Coordinator}

theorem handleHello_verdict (hello : Hello) :
    (handleHello settings hello).run.wp loopOnly (fun _ _ => SameVerdict s) h s := by
  simp only [handleHello, Proc.wp_run_bind, Proc.wp_run_get, Proc.wp_run_throw,
    Proc.afterResult_ok, Proc.afterResult_error, Proc.wp_run_ite, Proc.wp_run_liftM, wp_negotiate]
  refine ⟨fun _ => rfl, fun _ => ⟨fun _ => rfl, fun _ => ⟨rfl, fun answer _ => ?_⟩⟩⟩
  rcases answer with e | version
  · rfl
  simp only [wp_orThrow_ok, Proc.afterResult_ok, Proc.wp_run_bind, Proc.wp_run_get]
  cases s.connection.beginAuthentication with
  | error e => rfl
  | ok connection =>
    simp only [wp_orThrow_ok, Proc.afterResult_ok, Proc.wp_run_bind, wp_setConnection,
      Proc.wp_run_modify, wp_required, wp_enqueue]
    refine ⟨rfl, fun queued _ => ?_⟩
    cases queued <;> rfl

theorem handleAuthenticate_verdict (authenticate : Authenticate) :
    (handleAuthenticate authenticate).run.wp loopOnly (fun _ _ => SameVerdict s) h s := by
  simp only [handleAuthenticate, Proc.wp_run_bind, Proc.wp_run_get, Proc.wp_run_throw,
    Proc.afterResult_ok, Proc.afterResult_error, Proc.wp_run_ite, Proc.wp_run_liftM, wp_resolve]
  refine ⟨fun _ => rfl, fun _ => ⟨rfl, fun answer _ => ?_⟩⟩
  rcases answer with e | binding
  · rfl
  simp only [Proc.wp_run_bind, Proc.wp_run_get, Proc.afterResult_ok]
  cases s.connection.bindIdentity binding with
  | error e => rfl
  | ok connection =>
    simp only [wp_orThrow_ok, Proc.afterResult_ok, Proc.wp_run_bind, wp_setConnection,
      Proc.wp_run_get]
    cases connection.markReady <;> rfl

theorem handleAction_verdict (envelope : MessageEnvelope Action) :
    (handleAction envelope).run.wp loopOnly (fun _ _ => SameVerdict s) h s := by
  apply wp_whenReady (fun _ _ => rfl)
  intro _
  simp only [Proc.wp_run_bind, Proc.wp_run_get, Proc.afterResult_ok]
  cases validateActionBinding s.connection.identity envelope.payload with
  | error e => rfl
  | ok =>
    simp only [wp_orThrow_ok, Proc.afterResult_ok, Proc.wp_run_bind, Proc.wp_run_liftM,
      wp_enqueue, Proc.wp_run_ite, Proc.wp_run_throw, Proc.wp_run_pure]
    exact ⟨rfl, fun _ _ => ⟨fun _ => rfl, fun _ => rfl⟩⟩

theorem handleQuery_verdict (message : QueryMessage) :
    (handleQuery settings message).run.wp loopOnly (fun _ _ => SameVerdict s) h s := by
  apply wp_whenReady (fun _ _ => rfl)
  intro _
  simp only [Proc.wp_run_bind, Proc.wp_run_get, Proc.afterResult_ok]
  cases s.negotiatedVersion with
  | none => rfl
  | some negotiated =>
    simp only [Proc.wp_run_ite, Proc.wp_run_bind, Proc.wp_run_get, Proc.afterResult_ok,
      wp_required, wp_enqueue]
    refine ⟨fun _ => ⟨rfl, fun _ _ => rfl⟩, fun _ => ?_⟩
    cases s.connection.identity with
    | none => rfl
    | some binding =>
      simp only [Proc.wp_run_ite, Proc.wp_run_bind, Proc.wp_run_get, Proc.afterResult_ok,
        Proc.wp_run_liftM, Proc.wp_run_pure, wp_required, wp_enqueue]
      refine ⟨fun _ => ⟨rfl, fun _ _ => rfl⟩, fun _ => ⟨rfl, fun _ _ => ?_⟩⟩
      exact ⟨fun _ => ⟨rfl, fun _ _ => rfl⟩, fun _ => rfl⟩

theorem handleSubscribe_verdict (request : SubscriptionRequest) :
    (handleSubscribe request).run.wp loopOnly (fun _ _ => SameVerdict s) h s := by
  apply wp_whenReady (fun _ _ => rfl)
  intro _
  simp only [Proc.wp_run_bind, Proc.wp_run_get, Proc.afterResult_ok]
  cases s.connection.identity with
  | none => rfl
  | some binding =>
    simp only [Proc.wp_run_bind, Proc.wp_run_liftM, wp_authorize]
    refine ⟨rfl, fun answer _ => ?_⟩
    rcases answer with e | ⟨⟨⟩⟩
    · rfl
    simp only [wp_orThrow_ok, Proc.afterResult_ok, Proc.wp_run_bind, Proc.wp_run_liftM,
      wp_subscribe]
    refine ⟨rfl, fun answer _ => ?_⟩
    rcases answer with e | id
    · rfl
    simp only [wp_orThrow_ok, Proc.afterResult_ok, Proc.afterResult_error, Proc.wp_run_bind,
      Proc.wp_run_get, Proc.wp_run_ite, Proc.wp_run_throw]
    refine ⟨fun _ => rfl, fun _ => ?_⟩
    cases s.negotiatedVersion with
    | none => rfl
    | some version =>
      simp only [Proc.afterResult_ok, Proc.wp_run_bind, Proc.wp_run_get, Proc.wp_run_ite,
        Proc.wp_run_throw, Proc.wp_run_liftM, wp_enqueue, wp_perform, wp_spawnPump,
        Proc.wp_run_modify]
      refine ⟨rfl, fun queued _ => ⟨fun _ => ⟨rfl, fun _ _ => rfl⟩, fun _ => ⟨rfl, fun _ _ => rfl⟩⟩⟩

theorem SameVerdict.remove {id : TransportSubscriptionId} {handle : SubscriptionHandle}
    {s' : Coordinator} (hremoved : removeSubscription id s = some (handle, s')) :
    SameVerdict s s' := by
  obtain ⟨rest, rfl⟩ := removeSubscription_eq_some hremoved
  rfl

theorem handleUnsubscribe_verdict (unsubscribe : Unsubscribe) :
    (handleUnsubscribe unsubscribe).run.wp loopOnly (fun _ _ => SameVerdict s) h s := by
  apply wp_whenReady (fun _ _ => rfl)
  intro _
  simp only [Proc.wp_run_bind, Proc.wp_run_get, Proc.afterResult_ok]
  cases hremoved : removeSubscription unsubscribe.subscriptionId s with
  | none =>
    simp only [Proc.wp_run_bind, Proc.wp_run_get, Proc.afterResult_ok, wp_required, wp_enqueue]
    exact ⟨rfl, fun _ _ => rfl⟩
  | some found =>
    obtain ⟨handle, s'⟩ := found
    have hsame := SameVerdict.remove hremoved
    simp only [Proc.wp_run_bind, Proc.wp_run_set, Proc.afterResult_ok, Proc.wp_run_liftM,
      wp_stopPump, wp_perform, Proc.wp_run_get, wp_required, wp_enqueue]
    exact ⟨rfl, fun _ _ => ⟨rfl, fun _ _ => ⟨rfl, fun _ _ => hsame⟩⟩⟩

/-- No handler decides about the end of the session. -/
theorem handleInbound_verdict (message : InboundMessage) :
    (handleInbound settings message).run.wp loopOnly (fun _ _ => SameVerdict s) h s := by
  cases message with
  | hello hello => exact handleHello_verdict hello
  | authenticate authenticate => exact handleAuthenticate_verdict authenticate
  | subscribe request => exact handleSubscribe_verdict request
  | unsubscribe unsubscribe => exact handleUnsubscribe_verdict unsubscribe
  | action envelope => exact handleAction_verdict envelope
  | query message => exact handleQuery_verdict message
  | ping ping =>
    simp only [handleInbound, handlePing, Proc.wp_run_bind, Proc.wp_run_get, Proc.afterResult_ok,
      wp_required, wp_enqueue]
    exact ⟨rfl, fun _ _ => rfl⟩
  | close close => rfl

end Handlers

section Loop
variable {settings : SessionSettings} {h : CoordinatorTrace} {s : Coordinator}

/-- The loop has ended: gracefully, or with an error that was reported if it is marked so. -/
def Decided (h : CoordinatorTrace) (s : Coordinator) : Prop :=
  (s.gracefulClose = true ∧ s.fatalError = none) ∨
    (s.gracefulClose = false ∧ (∃ error, s.fatalError = some error) ∧
      (s.fatalErrorQueued = true → Reported h))

/-- What a turn decides. -/
def Verdict : LoopControl → CoordinatorTrace → Coordinator → Prop
  | .next, _, s => Undecided s
  | .stop, h, s => Decided h s

theorem Undecided.congr (hs : Undecided s) {s' : Coordinator} (hsame : SameVerdict s s') :
    Undecided s' :=
  hsame.trans hs

theorem Undecided.graceful (hs : Undecided s) : s.gracefulClose = false :=
  congrArg (fun verdict => verdict.2.2) hs

theorem Undecided.fatal (hs : Undecided s) : s.fatalError = none :=
  congrArg (fun verdict => verdict.1) hs

theorem stopWith_verdict (hs : Undecided s) (error : WebSocketAdapterError) {queued : Bool}
    (hqueued : queued = true → Reported h) : (stopWith error queued).wp loopOnly Verdict h s := by
  simp only [stopWith, Proc.wp_bind, Proc.wp_modify, Proc.wp_pure]
  exact .inr ⟨hs.graceful, ⟨error, rfl⟩, hqueued⟩

theorem stopGracefully_verdict (hs : Undecided s) : stopGracefully.wp loopOnly Verdict h s := by
  simp only [stopGracefully, Proc.wp_bind, Proc.wp_modify, Proc.wp_pure]
  exact .inl ⟨rfl, hs.fatal⟩

theorem orSlowConsumer_verdict (hs : Undecided s) (queued : Bool) :
    (orSlowConsumer queued).wp loopOnly Verdict h s := by
  rw [wp_orSlowConsumer]
  exact ⟨fun _ => hs, fun _ => stopWith_verdict hs _ (by intro hqueued; cases hqueued)⟩

theorem reported_of_error (h : CoordinatorTrace) (s : Coordinator) (codec : MessageCodec)
    (error : TransportError) (queued : Bool) :
    Reported (h ++ [⟨s, .enqueue (.error codec none error), queued⟩]) :=
  ⟨_, List.mem_append_right _ (List.mem_singleton_self _), rfl⟩

theorem handleMessage_verdict (hs : Undecided s) (message : InboundMessage) :
    (handleMessage settings message).wp loopOnly Verdict h s := by
  unfold handleMessage
  rw [Proc.wp_bind]
  apply Proc.wp_mono (handleInbound_verdict message)
  intro result h s' hsame
  have hs' := hs.congr hsame
  cases result with
  | ok => exact hs'
  | error error =>
    simp only [Proc.wp_bind, Proc.wp_get, Proc.wp_ite, wp_enqueue, Proc.wp_pure]
    refine ⟨rfl, fun queued _ => ⟨fun _ => ?_, fun _ => hs'⟩⟩
    exact stopWith_verdict hs' error fun _ => reported_of_error h s' _ _ queued

theorem handleReaderEvent_verdict (hs : Undecided s) (event : ReaderEvent) :
    (handleReaderEvent settings event).wp loopOnly Verdict h s := by
  cases event with
  | text bytes =>
    simp only [handleReaderEvent, handleText, Proc.wp_bind, Proc.wp_get]
    cases s.activeCodec.decodeInbound bytes with
    | error error =>
      simp only [Proc.wp_bind, wp_enqueue]
      exact ⟨rfl, fun queued _ => orSlowConsumer_verdict hs queued⟩
    | ok message =>
      cases message with
      | close close => exact stopGracefully_verdict hs
      | _ => exact handleMessage_verdict hs _
  | nativePing payload =>
    simp only [handleReaderEvent, Proc.wp_bind, wp_enqueue]
    exact ⟨rfl, fun queued _ => orSlowConsumer_verdict hs queued⟩
  | nativePong => exact hs
  | closed => exact stopGracefully_verdict hs
  | binary | oversized =>
    simp only [handleReaderEvent, Proc.wp_bind, Proc.wp_get, wp_enqueue]
    refine ⟨rfl, fun queued _ => ?_⟩
    exact stopWith_verdict hs _ fun _ => reported_of_error h s _ _ queued

/-- Only the failure of a source may come with its report already queued. -/
theorem handleCoordinatorEvent_verdict (hs : Undecided s) (event : CoordinatorEvent)
    (hreceived : ∃ state, ⟨state, .select, .event (some event)⟩ ∈ h) :
    (handleCoordinatorEvent settings event).wp loopOnly Verdict h s := by
  cases event with
  | actionCompleted requestId actionId result =>
    cases result with
    | ok events =>
      simp only [handleCoordinatorEvent, Proc.wp_bind, Proc.wp_get, wp_enqueue]
      exact ⟨rfl, fun queued _ => orSlowConsumer_verdict hs queued⟩
    | error error =>
      simp only [handleCoordinatorEvent, Proc.wp_bind, Proc.wp_get, wp_enqueue]
      exact ⟨rfl, fun queued _ => orSlowConsumer_verdict hs queued⟩
  | queryCompleted response =>
    simp only [handleCoordinatorEvent, Proc.wp_bind, Proc.wp_get, wp_enqueue]
    exact ⟨rfl, fun queued _ => orSlowConsumer_verdict hs queued⟩
  | subscriptionFinished id =>
    simp only [handleCoordinatorEvent, Proc.wp_bind, Proc.wp_get]
    cases hremoved : removeSubscription id s with
    | none => exact hs
    | some found =>
      obtain ⟨handle, s'⟩ := found
      have hs' := hs.congr (SameVerdict.remove hremoved)
      simp only [Proc.wp_bind, Proc.wp_get, Proc.wp_set, wp_stopPump, wp_perform, wp_enqueue]
      refine ⟨rfl, fun _ _ => ⟨rfl, fun _ _ => ⟨rfl, fun queued _ => ?_⟩⟩⟩
      exact orSlowConsumer_verdict hs' queued
  | eventSourceFailed id error fatal errorQueued =>
    simp only [handleCoordinatorEvent, Proc.wp_ite, Proc.wp_bind, Proc.wp_get]
    refine ⟨fun hfatal => stopWith_verdict hs _ fun hqueued => ?_, fun _ => ?_⟩
    · obtain ⟨state, hmem⟩ := hreceived
      refine ⟨_, hmem, ?_⟩
      rw [hfatal, hqueued]
      rfl
    · cases hremoved : removeSubscription id s with
      | none => exact hs
      | some found =>
        obtain ⟨handle, s'⟩ := found
        have hs' := hs.congr (SameVerdict.remove hremoved)
        simp only [Proc.wp_bind, Proc.wp_set, Proc.wp_pure, wp_stopPump, wp_perform]
        exact ⟨rfl, fun _ _ => ⟨rfl, fun _ _ => hs'⟩⟩
  | slowConsumer id =>
    simp only [handleCoordinatorEvent, Proc.wp_bind, Proc.wp_get, wp_enqueue]
    refine ⟨rfl, fun queued _ => ?_⟩
    exact stopWith_verdict hs _ fun _ => reported_of_error h s _ _ queued
  | writerFailed error => exact stopWith_verdict hs error (by intro hqueued; cases hqueued)
  | readerFailed error => exact stopWith_verdict hs (.task error) (by intro hqueued; cases hqueued)

theorem handleInput_verdict (hs : Undecided s) (input : CoordinatorInput)
    (hreceived : ∃ state, ⟨state, .select, input⟩ ∈ h) :
    (handleInput settings input).wp loopOnly Verdict h s := by
  rcases input with (_ | event) | (_ | event) | ⟨negotiationElapsed, activityElapsed⟩
  · exact stopGracefully_verdict hs
  · exact handleReaderEvent_verdict hs event
  · exact stopWith_verdict hs _ (by intro hqueued; cases hqueued)
  · exact handleCoordinatorEvent_verdict hs event hreceived
  · simp only [handleInput, handleHeartbeat, Proc.wp_bind, Proc.wp_get, Proc.wp_ite, wp_enqueue]
    have hstopped (error : WebSocketAdapterError) :
        (stopWith error false).wp loopOnly Verdict h s :=
      stopWith_verdict hs error (by intro hqueued; cases hqueued)
    refine ⟨fun _ => hstopped _, fun _ => ⟨fun _ => hstopped _, fun _ => ⟨rfl, ?_⟩⟩⟩
    exact fun queued _ => orSlowConsumer_verdict hs queued

/-- The writer was not asked to close. -/
def Unclosed (h : CoordinatorTrace) : Prop := ∀ e ∈ h, e.request ≠ .sendClose

theorem Unclosed.snoc (hh : Unclosed h) {e : CoordinatorExchange} (he : e.request ≠ .sendClose) :
    Unclosed (h ++ [e]) := by
  intro other hother
  rcases List.mem_append.mp hother with hother | hother
  · exact hh other hother
  · rw [List.mem_singleton.mp hother]
    exact he

/-- Any answers, and any requests. -/
def unbound : Contract CoordinatorRequest CoordinatorRequest.Answer Coordinator :=
  .within fun _ _ => True

theorem turn_verdict (hh : Unclosed h) (hs : Undecided s) :
    (turn settings).wp unbound (TurnPost (fun h s => Unclosed h ∧ Undecided s)
      (fun h s => Unclosed h ∧ Decided h s)) h s := by
  rw [turn_eq, Proc.wp_bind, wp_select]
  refine ⟨trivial, fun input _ => ?_⟩
  have hselected : Unclosed (h ++ [⟨s, .select, input⟩]) :=
    hh.snoc (by intro heq; cases heq)
  have hinput : (handleInput settings input).wp loopOnly Verdict (h ++ [⟨s, .select, input⟩]) s :=
    handleInput_verdict hs input ⟨s, List.mem_append_right _ (List.mem_singleton_self _)⟩
  refine Proc.wp_transfer (R := fun h h' => h = h' ∧ Unclosed h')
    (fun before h' state request hR hrequest => ?_) (fun control before h' state hR hpost => ?_)
    ⟨rfl, hselected⟩ hinput
  · obtain ⟨rfl, hopen⟩ := hR
    refine ⟨trivial, fun answer _ => ⟨trivial, rfl, hopen.snoc ?_⟩⟩
    intro heq
    have hcloses : request.closes = false := hrequest
    rw [show request = .sendClose from heq] at hcloses
    cases hcloses
  · obtain ⟨rfl, hopen⟩ := hR
    cases control with
    | next => exact ⟨hopen, hpost⟩
    | stop => exact ⟨hopen, hpost⟩

end Loop

section Shutdown
variable {settings : SessionSettings} {h : CoordinatorTrace} {s : Coordinator}

/-- The requests that put something on the writer channel. -/
def CoordinatorRequest.speaks : CoordinatorRequest → Bool
  | .enqueue _ | .sendClose => true
  | _ => false

/-- Requests that say nothing to the client. -/
def silently : Contract CoordinatorRequest CoordinatorRequest.Answer Coordinator :=
  .within fun _ q => q.speaks = false

/-- After `before` the writer was asked to close, and then nothing was said. -/
def ClosedAfter (before h : CoordinatorTrace) : Prop :=
  ∃ e after, h = before ++ e :: after ∧ e.request = .sendClose ∧
    ∀ x ∈ after, x.request.speaks = false

theorem ClosedAfter.snoc {before : CoordinatorTrace} (hh : ClosedAfter before h)
    {e : CoordinatorExchange} (he : e.request.speaks = false) : ClosedAfter before (h ++ [e]) := by
  obtain ⟨close, after, rfl, hclose, hsilent⟩ := hh
  refine ⟨close, after ++ [e], by simp, hclose, fun x hx => ?_⟩
  rcases List.mem_append.mp hx with hx | hx
  · exact hsilent x hx
  · rw [List.mem_singleton.mp hx]
    exact he

theorem joinPumps_silent (handles : List SubscriptionHandle)
    {post : Unit → CoordinatorTrace → Coordinator → Prop} (hpost : ∀ h, post () h s) :
    (joinPumps handles).wp silently post h s := by
  induction handles generalizing h with
  | nil => exact hpost h
  | cons handle rest ih =>
    simp only [joinPumps, Proc.wp_bind, wp_stopPump, wp_perform]
    exact ⟨rfl, fun _ _ => ⟨rfl, fun _ _ => ih⟩⟩

/-- The result, the order of the last exchanges and the report belong together. -/
structure SessionClosed (result : Except WebSocketAdapterError Unit) (h : CoordinatorTrace)
    (s : Coordinator) (before : CoordinatorTrace) : Prop where
  closed : ClosedAfter before h
  once : Unclosed before
  graceful : result = .ok () ↔ s.gracefulClose = true
  reported : ∀ error, result = .error error → s.fatalError = some error ∧ Reported before

theorem Decided.snoc (hs : Decided h s) (e : CoordinatorExchange) : Decided (h ++ [e]) s := by
  rcases hs with hgraceful | ⟨hgraceful, hfatal, hqueued⟩
  · exact .inl hgraceful
  · refine .inr ⟨hgraceful, hfatal, fun hmarked => ?_⟩
    obtain ⟨x, hx, hreported⟩ := hqueued hmarked
    exact ⟨x, List.mem_append_left _ hx, hreported⟩

/-- A fatal error that no branch has queued is reported now. -/
theorem reportFatalError_verdict (hh : Unclosed h) (hs : Decided h s)
    {post : Unit → CoordinatorTrace → Coordinator → Prop}
    (hpost : ∀ h, Unclosed h → Decided h s → (s.gracefulClose = false → Reported h) →
      post () h s) : reportFatalError.wp unbound post h s := by
  simp only [reportFatalError, Proc.wp_bind, Proc.wp_get]
  split
  · rename_i error _ _ _
    simp only [Proc.wp_bind, wp_enqueue]
    refine ⟨trivial, fun queued _ => hpost _ (hh.snoc (by intro heq; cases heq)) (hs.snoc _) ?_⟩
    exact fun _ => reported_of_error h s _ _ queued
  · rename_i hnot
    apply hpost h hh hs
    intro hgraceful
    rcases hs with ⟨hgraceful', -⟩ | ⟨-, ⟨error, hfatal⟩, hqueued⟩
    · rw [hgraceful] at hgraceful'
      cases hgraceful'
    · cases hmarked : s.fatalErrorQueued with
      | true => exact hqueued hmarked
      | false => exact absurd hmarked (hnot error hgraceful hfatal)

/-- What follows the request to close says nothing, and returns the fatal error. -/
theorem rest_silent (finished : Bool) :
    (do
      perform .cancel
      perform .dropSenders
      joinSubscriptions
      perform (.join .reader)
      perform (.join .actionWorker)
      joinIf settings.hasQueryExecutor .queryWorker
      joinIf (! finished) .writer
      return (← get).fatalError.elim (.ok ()) .error :
        CoordinatorM (Except WebSocketAdapterError Unit)).wp silently
      (fun result _ s' => SameVerdict s s' ∧ result = s.fatalError.elim (.ok ()) .error) h s := by
  simp only [Proc.wp_bind, wp_perform, joinSubscriptions, Proc.wp_get, Proc.wp_modify, wp_drain,
    Proc.wp_pure]
  refine ⟨rfl, fun _ _ => ⟨rfl, fun _ _ => ⟨rfl, fun order _ => ?_⟩⟩⟩
  apply joinPumps_silent
  intro h
  refine ⟨rfl, fun _ _ => ⟨rfl, fun _ _ => ?_⟩⟩
  simp only [joinIf, Proc.wp_ite, Proc.wp_pure, wp_perform]
  exact ⟨fun _ => ⟨rfl, fun _ _ => ⟨fun _ => ⟨rfl, fun _ _ => ⟨rfl, trivial⟩⟩,
    fun _ => ⟨rfl, trivial⟩⟩⟩, fun _ => ⟨fun _ => ⟨rfl, fun _ _ => ⟨rfl, trivial⟩⟩,
    fun _ => ⟨rfl, trivial⟩⟩⟩

theorem closeWriter_closed {post : Bool → CoordinatorTrace → Coordinator → Prop}
    (hpost : ∀ finished h' s', ClosedAfter h h' → SameVerdict s s' → post finished h' s') :
    closeWriter.wp unbound post h s := by
  simp only [closeWriter, Proc.wp_bind, Proc.wp_modify, wp_sendClose, Proc.wp_ite, wp_awaitWriter,
    Proc.wp_pure]
  refine ⟨trivial, fun closeQueued _ => ?_⟩
  have hclosed : ClosedAfter h (h ++ [⟨s, .sendClose, closeQueued⟩]) :=
    ⟨_, [], rfl, rfl, fun _ hmem => (List.not_mem_nil hmem).elim⟩
  refine ⟨fun _ => ⟨trivial, fun finished _ => ?_⟩, fun _ => ?_⟩
  · exact hpost finished _ _ (hclosed.snoc rfl) rfl
  · exact hpost false _ _ hclosed rfl

theorem shutdown_verdict (hh : Unclosed h) (hs : Decided h s) :
    (shutdown settings).wp unbound
      (fun result h s => ∃ before, SessionClosed result h s before) h s := by
  unfold shutdown
  rw [Proc.wp_bind]
  apply reportFatalError_verdict hh hs
  intro h hh hs hreported
  rw [Proc.wp_bind]
  apply closeWriter_closed
  intro finished h' s' hclosed hsame
  have hgraceful : s'.gracefulClose = s.gracefulClose := congrArg (fun v => v.2.2) hsame
  have hfatal : s'.fatalError = s.fatalError := congrArg (fun v => v.1) hsame
  refine Proc.wp_transfer (R := fun x x' => x = x' ∧ ClosedAfter h x')
    (fun x x' state request hR hrequest => ?_) (fun result x x' end_ hR hpost => ?_) ⟨rfl, hclosed⟩
    (rest_silent finished)
  · obtain ⟨rfl, hafter⟩ := hR
    exact ⟨trivial, fun answer _ => ⟨trivial, rfl, hafter.snoc hrequest⟩⟩
  · obtain ⟨rfl, hafter⟩ := hR
    obtain ⟨hsame', rfl⟩ := hpost
    have hgraceful' : end_.gracefulClose = s'.gracefulClose := congrArg (fun v => v.2.2) hsame'
    have hfatal' : end_.fatalError = s'.fatalError := congrArg (fun v => v.1) hsame'
    refine ⟨h, hafter, hh, ?_, fun error hresult => ?_⟩
    · rw [hgraceful', hgraceful, hfatal]
      rcases hs with ⟨hgraceful, hnone⟩ | ⟨hgraceful, ⟨error, herror⟩, -⟩
      · simp [hgraceful, hnone]
      · simp [hgraceful, herror]
    · rw [hfatal] at hresult
      rw [hfatal', hfatal]
      rcases hs with ⟨-, hnone⟩ | ⟨hgraceful, ⟨error', herror⟩, -⟩
      · rw [hnone] at hresult
        cases hresult
      · rw [herror] at hresult
        cases hresult
        exact ⟨herror, hreported hgraceful⟩

end Shutdown

section Runs
variable {settings : SessionSettings} {id : ConnectionId} {metadata : Metadata}
  {allowed : Session → SessionAction → Prop}

end Runs
end OrbitRelay
