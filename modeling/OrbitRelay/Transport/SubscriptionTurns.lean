import OrbitRelay.Transport.Turns

/-! What the coordinator promises about subscriptions: a pump is spawned only after its
subscription was accepted, and a closing is queued once, after the pump was joined. -/
namespace OrbitRelay
open Pausing

/-- A message about a subscription. -/
inductive SubscriptionMessage
  | accepted (id : TransportSubscriptionId)
  | event (id : TransportSubscriptionId) (event : Event)
  | closed (id : TransportSubscriptionId)

def OutboundMessage.subscription? : OutboundMessage → Option SubscriptionMessage
  | .subscriptionAccepted accepted => some (.accepted accepted.subscriptionId)
  | .subscriptionClosed closed => some (.closed closed.subscriptionId)
  | _ => none

/-! What is read off the exchanges of the coordinator. -/
section Records

/-- The identifier that the event source factory returned in this exchange. -/
def subscribedIn : CoordinatorExchange → Option TransportSubscriptionId
  | ⟨_, .subscribe _, .ok id⟩ => some id
  | _ => none

/-- The pump that was spawned in this exchange. -/
def spawnedIn : CoordinatorExchange → Option (TransportSubscriptionId × SubscriptionHandle)
  | ⟨_, .spawnPump id _ _, handle⟩ => some (id, handle)
  | _ => none

/-- The message about a subscription that was queued in this exchange. -/
def announcedIn (e : CoordinatorExchange) : Option SubscriptionMessage :=
  (messageOf e).bind OutboundMessage.subscription?

/-- The pump that was joined in this exchange. -/
def joinedIn : CoordinatorExchange → Option Nat
  | ⟨_, .perform (.join (.pump index)), _⟩ => some index
  | _ => none

/-- The identifiers that the factory returned, in order. -/
def subscribed (h : CoordinatorTrace) : List TransportSubscriptionId := h.filterMap subscribedIn

def spawned (h : CoordinatorTrace) : List (TransportSubscriptionId × SubscriptionHandle) :=
  h.filterMap spawnedIn

/-- What the coordinator has told the client about subscriptions. -/
def announced (h : CoordinatorTrace) : List SubscriptionMessage := h.filterMap announcedIn

def joined (h : CoordinatorTrace) : List Nat := h.filterMap joinedIn

/-- The requests that have nothing to do with subscriptions, apart from joins. -/
def CoordinatorRequest.isNeutral : CoordinatorRequest → Bool
  | .subscribe _ | .spawnPump .. | .enqueue (.application _ (.subscriptionAccepted _))
  | .enqueue (.application _ (.subscriptionClosed _))
  | .enqueue (.writer (.application ..)) => false
  | _ => true

/-- What the coordinator knows of its subscriptions. -/
structure Tracked (h : CoordinatorTrace) (s : Coordinator) : Prop where
  pumps : ∀ entry ∈ s.subscriptions, entry ∈ spawned h
  running : ∀ entry ∈ s.subscriptions, .closed entry.1 ∉ announced h
  sources : ∀ entry ∈ spawned h, entry.1 ∈ subscribed h
  closed : ∀ id, .closed id ∈ announced h → id ∈ subscribed h

/-- When a pump is spawned and when a subscription is said to be closed. -/
def Orderly (h : CoordinatorTrace) : CoordinatorRequest → Prop
  | .spawnPump id _ _ =>
    .accepted id ∈ announced h ∧ ∀ entry ∈ spawned h, entry.1 ≠ id
  | .enqueue (.application _ (.subscriptionClosed closed)) =>
    .closed closed.subscriptionId ∉ announced h ∧
      ∃ handle, (closed.subscriptionId, handle) ∈ spawned h ∧ handle.pump ∈ joined h
  | .enqueue (.writer (.application ..)) => False
  | _ => True

/-- The factory returns every identifier once. -/
def subscriptionOrder : Contract CoordinatorRequest CoordinatorRequest.Answer Coordinator where
  rely
    | h, _, .subscribe _, .ok id => id ∉ subscribed h
    | _, _, _, _ => True
  guarantee h s q := Tracked h s ∧ Orderly h q

end Records

section Neutral
variable {h : CoordinatorTrace} {s : Coordinator} {q : CoordinatorRequest}

/-- A neutral exchange leaves the records alone. -/
theorem neutral_eq (hq : q.isNeutral = true) (s : Coordinator) (a : q.Answer) :
    subscribedIn ⟨s, q, a⟩ = none ∧ spawnedIn ⟨s, q, a⟩ = none ∧ announcedIn ⟨s, q, a⟩ = none := by
  cases q with
  | enqueue item =>
    change Bool at a
    refine ⟨rfl, rfl, ?_⟩
    cases a with
    | false => rfl
    | true =>
      cases item with
      | application codec message =>
        cases message with
        | subscriptionAccepted _ | subscriptionClosed _ => cases hq
        | _ => rfl
      | queryResponse codec version response limit =>
        rw [announcedIn, messageOf, commandOf, Enqueue.command?, responseMessage]
        dsimp only
        split
        · rfl
        · split
          · rfl
          · split
            · rfl
            · split <;> rfl
      | writer command =>
        cases command with
        | application _ _ => cases hq
        | _ => rfl
      | _ => rfl
  | subscribe request | spawnPump id version codec => cases hq
  | sendClose =>
    change Bool at a
    cases a <;> exact ⟨rfl, rfl, rfl⟩
  | _ => exact ⟨rfl, rfl, rfl⟩

theorem orderly_of_neutral (hq : q.isNeutral = true) : Orderly h q := by
  unfold Orderly
  split
  · cases hq
  · cases hq
  · cases hq
  · trivial

theorem Tracked.congr (hs : Tracked h s) {h' : CoordinatorTrace} {s' : Coordinator}
    (hstate : s'.subscriptions = s.subscriptions) (hsubscribed : subscribed h' = subscribed h)
    (hspawned : spawned h' = spawned h) (hannounced : announced h' = announced h) :
    Tracked h' s' := by
  constructor
  · rw [hstate, hspawned]
    exact hs.pumps
  · rw [hstate, hannounced]
    exact hs.running
  · rw [hspawned, hsubscribed]
    exact hs.sources
  · rw [hannounced, hsubscribed]
    exact hs.closed

theorem records_snoc_of_neutral (hq : q.isNeutral = true) (s : Coordinator) (a : q.Answer) :
    subscribed (h ++ [⟨s, q, a⟩]) = subscribed h ∧ spawned (h ++ [⟨s, q, a⟩]) = spawned h ∧
      announced (h ++ [⟨s, q, a⟩]) = announced h := by
  obtain ⟨hsubscribed, hspawned, hannounced⟩ := neutral_eq hq s a
  simp [subscribed, spawned, announced, hsubscribed, hspawned, hannounced]

theorem Tracked.snoc (hs : Tracked h s) (hq : q.isNeutral = true) (state : Coordinator)
    (a : q.Answer) : Tracked (h ++ [⟨state, q, a⟩]) s := by
  obtain ⟨hsubscribed, hspawned, hannounced⟩ := records_snoc_of_neutral (h := h) hq state a
  exact hs.congr rfl hsubscribed hspawned hannounced

/-- A neutral request is always in order. -/
theorem Tracked.promise (hs : Tracked h s) (hq : q.isNeutral = true) :
    subscriptionOrder.guarantee h s q :=
  ⟨hs, orderly_of_neutral hq⟩

theorem isNeutral_cases (hq : q.isNeutral = false) :
    (∃ request, q = .subscribe request) ∨ (∃ id version codec, q = .spawnPump id version codec) ∨
    (∃ codec accepted, q = .enqueue (.application codec (.subscriptionAccepted accepted))) ∨
    (∃ codec closed, q = .enqueue (.application codec (.subscriptionClosed closed))) ∨
    ∃ message codec, q = .enqueue (.writer (.application message codec)) := by
  unfold CoordinatorRequest.isNeutral at hq
  split at hq
  · exact .inl ⟨_, rfl⟩
  · exact .inr (.inl ⟨_, _, _, rfl⟩)
  · exact .inr (.inr (.inl ⟨_, _, rfl⟩))
  · exact .inr (.inr (.inr (.inl ⟨_, _, rfl⟩)))
  · exact .inr (.inr (.inr (.inr ⟨_, _, rfl⟩)))
  · cases hq

/-- Only what may change the subscriptions asks for more than neutral requests. -/
theorem isNeutral_of_asks {codec : MessageCodec} {input : CoordinatorInput}
    (hplain : input.subscribes codec = false) (hq : input.asks codec q = true) :
    q.isNeutral = true := by
  by_contra hneutral
  obtain ⟨hmessage, hevent⟩ := Bool.or_eq_false_iff.mp hplain
  have hplainMessage (message : InboundMessage) (hmem : message ∈ input.message? codec) :
      message.subscribes = false := by
    rw [Option.mem_def.mp hmem] at hmessage
    exact hmessage
  suffices hnot : input.asks codec q = false by
    rw [hnot] at hq
    cases hq
  rcases isNeutral_cases (by simpa using hneutral) with ⟨_, rfl⟩ | ⟨_, _, _, rfl⟩ | ⟨_, _, rfl⟩ |
    ⟨_, _, rfl⟩ | ⟨_, _, rfl⟩
  all_goals
    apply asks_eq_false rfl rfl
    · intro message hmem
      have hplain := hplainMessage message hmem
      cases message with
      | subscribe _ | unsubscribe _ => cases hplain
      | _ => rfl
    · intro told htold
      subst htold
      cases told with
      | subscriptionFinished _ | eventSourceFailed _ _ _ _ => cases hevent
      | _ => rfl

theorem isNeutral_of_inShutdown (hq : q.inShutdown = true) : q.isNeutral = true := by
  cases q with
  | enqueue item =>
    cases item with
    | error _ _ _ => rfl
    | _ => cases hq
  | subscribe _ | spawnPump _ _ _ => cases hq
  | _ => rfl

end Neutral
section Handlers
variable {settings : SessionSettings} {h : CoordinatorTrace} {s : Coordinator}

/-- A neutral request keeps the records, whatever its answer. -/
theorem Tracked.ask (hs : Tracked h s) {q : CoordinatorRequest} (hq : q.isNeutral = true)
    {post : q.Answer → CoordinatorTrace → Coordinator → Prop}
    (hpost : ∀ a h, Tracked h s → post a h s) : (ask q).wp subscriptionOrder post h s :=
  (wp_ask q post).mpr ⟨hs.promise hq, fun a _ => hpost a _ (hs.snoc hq s a)⟩

theorem Tracked.mono (hs : Tracked h s) {s' : Coordinator}
    (hsub : s'.subscriptions ⊆ s.subscriptions) : Tracked h s' where
  pumps := fun entry hentry => hs.pumps entry (hsub hentry)
  running := fun entry hentry => hs.running entry (hsub hentry)
  sources := hs.sources
  closed := hs.closed

/-- A source with a new identifier that has no pump yet. -/
structure Opening (h : CoordinatorTrace) (s : Coordinator) (id : TransportSubscriptionId) : Prop
    extends Tracked h s where
  subscribed : id ∈ subscribed h
  fresh : ∀ entry ∈ spawned h, entry.1 ≠ id
  silent : .closed id ∉ announced h

theorem Tracked.opening (hs : Tracked h s) {id : TransportSubscriptionId}
    (hnew : id ∉ subscribed h) (state : Coordinator) (request : SubscriptionRequest) :
    Opening (h ++ [⟨state, .subscribe request, .ok id⟩]) s id := by
  have hsubscribed : subscribed (h ++ [⟨state, .subscribe request, .ok id⟩]) =
      subscribed h ++ [id] := List.filterMap_snoc ..
  have hspawned : spawned (h ++ [⟨state, .subscribe request, .ok id⟩]) = spawned h :=
    List.filterMap_snoc_none _ rfl
  have hannounced : announced (h ++ [⟨state, .subscribe request, .ok id⟩]) = announced h :=
    List.filterMap_snoc_none _ rfl
  constructor
  case toTracked =>
    constructor
    · rw [hspawned]
      exact hs.pumps
    · rw [hannounced]
      exact hs.running
    · rw [hspawned, hsubscribed]
      exact fun entry hentry => List.mem_append_left _ (hs.sources entry hentry)
    · rw [hannounced, hsubscribed]
      exact fun closed hclosed => List.mem_append_left _ (hs.closed closed hclosed)
  case subscribed =>
    rw [hsubscribed]
    exact List.mem_append_right _ (List.mem_singleton_self _)
  case fresh =>
    rw [hspawned]
    intro entry hentry heq
    exact hnew (heq ▸ hs.sources entry hentry)
  case silent =>
    rw [hannounced]
    exact fun hclosed => hnew (hs.closed id hclosed)

/-- The acceptance of the subscription is queued. -/
theorem Opening.accept {id : TransportSubscriptionId} (hs : Opening h s id) (state : Coordinator)
    (codec : MessageCodec) (requestId : MessageId) (queued : Bool) :
    let h' : CoordinatorTrace :=
      h ++ [⟨state, .enqueue (.application codec (.subscriptionAccepted ⟨requestId, id⟩)), queued⟩]
    Opening h' s id ∧ (queued = true → .accepted id ∈ announced h') := by
  intro h'
  have hsubscribed : OrbitRelay.subscribed h' = OrbitRelay.subscribed h :=
    List.filterMap_snoc_none _ rfl
  have hspawned : spawned h' = spawned h := List.filterMap_snoc_none _ rfl
  have hannounced : announced h' =
      announced h ++ if queued then [.accepted id] else [] := by
    refine (List.filterMap_snoc ..).trans ?_
    cases queued <;> rfl
  have hclosed (other : TransportSubscriptionId) :
      .closed other ∈ announced h' ↔ .closed other ∈ announced h := by
    rw [hannounced]
    cases queued <;> simp
  refine ⟨⟨⟨?_, ?_, ?_, ?_⟩, ?_, ?_, ?_⟩, ?_⟩
  · rw [hspawned]
    exact hs.pumps
  · exact fun entry hentry hmem => hs.running entry hentry ((hclosed _).mp hmem)
  · rw [hspawned, hsubscribed]
    exact hs.sources
  · rw [hsubscribed]
    exact fun other hmem => hs.closed other ((hclosed other).mp hmem)
  · rw [hsubscribed]
    exact hs.subscribed
  · rw [hspawned]
    exact hs.fresh
  · exact fun hmem => hs.silent ((hclosed id).mp hmem)
  · intro hqueued
    rw [hannounced, if_pos hqueued]
    exact List.mem_append_right _ (List.mem_singleton_self _)

/-- The pump is spawned, and its subscription entered. -/
theorem Opening.spawn {id : TransportSubscriptionId} (hs : Opening h s id) (state : Coordinator)
    (version : Version) (codec : MessageCodec) (handle : SubscriptionHandle) :
    Tracked (h ++ [⟨state, .spawnPump id version codec, handle⟩])
      { s with subscriptions := s.subscriptions ++ [(id, handle)] } := by
  have hsubscribed : OrbitRelay.subscribed (h ++ [⟨state, .spawnPump id version codec, handle⟩]) =
      OrbitRelay.subscribed h := List.filterMap_snoc_none _ rfl
  have hspawned : spawned (h ++ [⟨state, .spawnPump id version codec, handle⟩]) =
      spawned h ++ [(id, handle)] := List.filterMap_snoc ..
  have hannounced : announced (h ++ [⟨state, .spawnPump id version codec, handle⟩]) =
      announced h := List.filterMap_snoc_none _ rfl
  constructor
  · rw [hspawned]
    intro entry hentry
    rcases List.mem_append.mp hentry with hentry | hentry
    · exact List.mem_append_left _ (hs.pumps entry hentry)
    · exact List.mem_append_right _ hentry
  · rw [hannounced]
    intro entry hentry
    rcases List.mem_append.mp hentry with hentry | hentry
    · exact hs.running entry hentry
    · rw [List.mem_singleton.mp hentry]
      exact hs.silent
  · rw [hspawned, hsubscribed]
    intro entry hentry
    rcases List.mem_append.mp hentry with hentry | hentry
    · exact hs.sources entry hentry
    · rw [List.mem_singleton.mp hentry]
      exact hs.subscribed
  · rw [hannounced, hsubscribed]
    exact hs.closed

/-- A subscription whose identifier is new is accepted before its pump is spawned. -/
theorem handleSubscribe_order (hs : Tracked h s) (request : SubscriptionRequest) :
    (handleSubscribe request).run.wp subscriptionOrder (fun _ => Tracked) h s := by
  refine wp_whenReady (fun _ _ => hs) fun _ => ?_
  simp only [Proc.wp_run_bind, Proc.wp_run_get, Proc.afterResult_ok]
  cases s.connection.identity with
  | none => exact hs
  | some binding =>
    simp only [Proc.wp_run_bind, Proc.wp_run_liftM, wp_authorize]
    refine ⟨hs.promise rfl, fun answer _ => ?_⟩
    replace hs := hs.snoc (q := .authorize binding request) rfl s answer
    rcases answer with e | ⟨⟨⟩⟩
    · exact hs
    simp only [wp_orThrow_ok, Proc.afterResult_ok, Proc.wp_run_bind, Proc.wp_run_liftM,
      wp_subscribe]
    refine ⟨⟨hs, trivial⟩, fun answer hrely => ?_⟩
    rcases answer with e | id
    · obtain ⟨hsubscribed, hspawned, hannounced⟩ :
          subscribed (_ ++ [⟨s, .subscribe request, .error e⟩]) = subscribed _ ∧
            spawned (_ ++ [⟨s, .subscribe request, .error e⟩]) = spawned _ ∧
            announced (_ ++ [⟨s, .subscribe request, .error e⟩]) = announced _ :=
        ⟨List.filterMap_snoc_none _ rfl,
          List.filterMap_snoc_none _ rfl,
          List.filterMap_snoc_none _ rfl⟩
      exact hs.congr rfl hsubscribed hspawned hannounced
    have hopening := hs.opening hrely s request
    simp only [wp_orThrow_ok, Proc.afterResult_ok, Proc.afterResult_error, Proc.wp_run_bind,
      Proc.wp_run_get, Proc.wp_run_ite, Proc.wp_run_throw]
    refine ⟨fun _ => hopening.toTracked, fun _ => ?_⟩
    cases s.negotiatedVersion with
    | none => exact hopening.toTracked
    | some version =>
      simp only [Proc.afterResult_ok, Proc.wp_run_bind, Proc.wp_run_get, Proc.wp_run_ite,
        Proc.wp_run_throw, Proc.wp_run_liftM, wp_enqueue, wp_perform, wp_spawnPump,
        Proc.wp_run_modify]
      refine ⟨⟨hopening.toTracked, trivial⟩, fun queued _ => ⟨fun _ => ?_, fun hqueued => ?_⟩⟩
      · have hrefused := (hopening.accept s s.activeCodec request.requestId queued).1.toTracked
        refine ⟨hrefused.promise rfl, fun answer _ => ?_⟩
        exact hrefused.snoc (q := .perform (.closeSource id)) rfl s answer
      · obtain ⟨haccepted, hannounced⟩ :=
          hopening.accept s s.activeCodec request.requestId queued
        refine ⟨⟨haccepted.toTracked, hannounced (by simpa using hqueued), haccepted.fresh⟩,
          fun handle _ => ?_⟩
        exact haccepted.spawn s version s.activeCodec handle

/-- A subscription that was taken out of the map and is not closed yet. -/
structure Detached (h : CoordinatorTrace) (s : Coordinator) (id : TransportSubscriptionId)
    (handle : SubscriptionHandle) : Prop extends Tracked h s where
  removed : ∀ entry ∈ s.subscriptions, entry.1 ≠ id
  pump : (id, handle) ∈ spawned h
  silent : .closed id ∉ announced h

theorem Tracked.remove (hs : Tracked h s) {id : TransportSubscriptionId}
    {handle : SubscriptionHandle} {s' : Coordinator}
    (hremoved : removeSubscription id s = some (handle, s')) : Detached h s' id handle := by
  obtain ⟨⟨id', handle'⟩, hfind, heq⟩ := Option.map_eq_some_iff.mp hremoved
  cases heq
  have hentry := List.mem_of_find?_eq_some hfind
  obtain rfl : id' = id := by simpa using List.find?_some hfind
  constructor
  case toTracked => exact hs.mono (List.filter_subset_self _)
  case removed =>
    intro entry hmem
    simpa using (List.mem_filter.mp hmem).2
  case pump => exact hs.pumps _ hentry
  case silent => exact hs.running _ hentry

theorem Detached.snoc {id : TransportSubscriptionId} {handle : SubscriptionHandle}
    (hs : Detached h s id handle) {q : CoordinatorRequest} (hq : q.isNeutral = true)
    (state : Coordinator) (a : q.Answer) : Detached (h ++ [⟨state, q, a⟩]) s id handle := by
  obtain ⟨-, hspawned, hannounced⟩ := records_snoc_of_neutral (h := h) hq state a
  constructor
  case toTracked => exact hs.toTracked.snoc hq state a
  case removed => exact hs.removed
  case pump =>
    rw [hspawned]
    exact hs.pump
  case silent =>
    rw [hannounced]
    exact hs.silent

/-- The pump is cancelled and joined. -/
theorem Detached.stopPump {id : TransportSubscriptionId} {handle : SubscriptionHandle}
    (hs : Detached h s id handle) {post : Unit → CoordinatorTrace → Coordinator → Prop}
    (hpost : ∀ h, Detached h s id handle → handle.pump ∈ joined h → post () h s) :
    (stopPump handle).wp subscriptionOrder post h s := by
  simp only [wp_stopPump, wp_perform]
  have hcancelled := hs.snoc (q := .perform (.cancelPump handle)) rfl s ()
  have hjoined := hcancelled.snoc (q := .perform (.join (.pump handle.pump))) rfl s ()
  refine ⟨hs.promise rfl, fun _ _ => ⟨hcancelled.promise rfl, fun _ _ => hpost _ hjoined ?_⟩⟩
  rw [joined, List.filterMap_snoc]
  exact List.mem_append_right _ (List.mem_singleton_self _)

/-- The closing is queued, or refused. -/
theorem Detached.close {id : TransportSubscriptionId} {handle : SubscriptionHandle}
    (hs : Detached h s id handle) (hjoined : handle.pump ∈ joined h) (codec : MessageCodec)
    (requestId : Option MessageId) {post : Bool → CoordinatorTrace → Coordinator → Prop}
    (hpost : ∀ queued h, Tracked h s → post queued h s) :
    (queueApplication codec (.subscriptionClosed ⟨requestId, id⟩)).wp
      subscriptionOrder post h s := by
  rw [queueApplication, wp_enqueue]
  refine ⟨⟨hs.toTracked, hs.silent, handle, hs.pump, hjoined⟩, fun queued _ => hpost _ _ ?_⟩
  have hsubscribed : subscribed (h ++ [⟨s, .enqueue (.application codec
      (.subscriptionClosed ⟨requestId, id⟩)), queued⟩]) = subscribed h :=
    List.filterMap_snoc_none _ rfl
  have hspawned : spawned (h ++ [⟨s, .enqueue (.application codec
      (.subscriptionClosed ⟨requestId, id⟩)), queued⟩]) = spawned h :=
    List.filterMap_snoc_none _ rfl
  have hclosed (other : TransportSubscriptionId) (hmem : .closed other ∈ announced (h ++
      [⟨s, .enqueue (.application codec (.subscriptionClosed ⟨requestId, id⟩)), queued⟩])) :
      .closed other ∈ announced h ∨ other = id := by
    rw [announced, List.filterMap_snoc] at hmem
    refine (List.mem_append.mp hmem).imp_right fun hmem => ?_
    cases queued with
    | false => cases hmem
    | true =>
      cases List.mem_singleton.mp hmem
      rfl
  constructor
  · rw [hspawned]
    exact hs.pumps
  · intro entry hentry hmem
    rcases hclosed _ hmem with hmem | heq
    · exact hs.running entry hentry hmem
    · exact hs.removed entry hentry heq
  · rw [hspawned, hsubscribed]
    exact hs.sources
  · rw [hsubscribed]
    intro other hmem
    rcases hclosed _ hmem with hmem | rfl
    · exact hs.toTracked.closed other hmem
    · exact hs.sources _ hs.pump

theorem handleUnsubscribe_order (hs : Tracked h s) (unsubscribe : Unsubscribe) :
    (handleUnsubscribe unsubscribe).run.wp subscriptionOrder (fun _ => Tracked) h s := by
  refine wp_whenReady (fun _ _ => hs) fun _ => ?_
  simp only [Proc.wp_run_bind, Proc.wp_run_get, Proc.afterResult_ok]
  cases hremoved : removeSubscription unsubscribe.subscriptionId s with
  | none =>
    simp only [Proc.wp_run_bind, Proc.wp_run_get, Proc.afterResult_ok, wp_required]
    exact hs.ask (q := .enqueue _) rfl fun _ _ hs => hs
  | some found =>
    obtain ⟨handle, s'⟩ := found
    simp only [Proc.wp_run_bind, Proc.wp_run_set, Proc.afterResult_ok, Proc.wp_run_liftM]
    refine (hs.remove hremoved).stopPump fun h hdetached hjoined => ?_
    simp only [Proc.wp_run_bind, Proc.wp_run_get, Proc.afterResult_ok, wp_required]
    exact hdetached.close hjoined _ _ fun _ _ hs => hs

theorem handleCoordinatorEvent_order (hs : Tracked h s) {event : CoordinatorEvent}
    (hsubscribes : event.subscribes = true) :
    (handleCoordinatorEvent settings event).wp subscriptionOrder (fun _ => Tracked) h s := by
  cases event with
  | subscriptionFinished id =>
    simp only [handleCoordinatorEvent, Proc.wp_bind, Proc.wp_get]
    cases hremoved : removeSubscription id s with
    | none => exact hs
    | some found =>
      obtain ⟨handle, s'⟩ := found
      simp only [Proc.wp_bind, Proc.wp_get, Proc.wp_set]
      refine (hs.remove hremoved).stopPump fun h hdetached hjoined => ?_
      refine hdetached.close hjoined _ _ fun queued h hs => ?_
      cases queued with
      | true => exact hs
      | false => exact hs.congr rfl rfl rfl rfl
  | eventSourceFailed id error fatal errorQueued =>
    simp only [handleCoordinatorEvent, Proc.wp_ite, Proc.wp_bind, Proc.wp_get]
    refine ⟨fun _ => hs.congr rfl rfl rfl rfl, fun _ => ?_⟩
    cases hremoved : removeSubscription id s with
    | none => exact hs
    | some found =>
      obtain ⟨handle, s'⟩ := found
      simp only [Proc.wp_bind, Proc.wp_set, Proc.wp_pure]
      exact (hs.remove hremoved).stopPump fun _ hdetached _ => hdetached.toTracked
  | _ => cases hsubscribes

theorem handleMessage_order (hs : Tracked h s) {message : InboundMessage}
    (hsubscribes : message.subscribes = true) :
    (handleMessage settings message).wp subscriptionOrder (fun _ => Tracked) h s := by
  have hinbound : (handleInbound settings message).run.wp subscriptionOrder
      (fun _ => Tracked) h s := by
    cases message with
    | subscribe request => exact handleSubscribe_order hs request
    | unsubscribe unsubscribe => exact handleUnsubscribe_order hs unsubscribe
    | _ => cases hsubscribes
  unfold handleMessage
  rw [Proc.wp_bind]
  refine Proc.wp_mono hinbound fun result h s hs => ?_
  cases result with
  | ok => exact hs
  | error error =>
    simp only [Proc.wp_bind, Proc.wp_get, Proc.wp_ite]
    refine hs.ask (q := .enqueue _) rfl fun queued h hs => ?_
    exact ⟨fun _ => hs.congr rfl rfl rfl rfl, fun _ => hs⟩

/-- Every turn keeps track of the subscriptions. -/
theorem handleInput_order (hs : Tracked h s) (input : CoordinatorInput) :
    (handleInput settings input).wp subscriptionOrder (fun _ => Tracked) h s := by
  cases hsubscribes : input.subscribes s.activeCodec with
  | false =>
    refine Proc.wp_mono (Proc.wp_carry (I := fun h => Tracked h s) (handleInput_asks input)
      (fun h s' q hs hq => ?_) (fun h s' q a hs hq _ => ?_) hs) ?_
    · have hs' := hs.congr (hq.2 hsubscribes) rfl rfl rfl
      exact hs'.promise (isNeutral_of_asks hsubscribes hq.1)
    · exact hs.snoc (isNeutral_of_asks hsubscribes hq.1) s' a
    · exact fun control h s' hpost => hpost.1.congr (hpost.2 hsubscribes) rfl rfl rfl
  | true =>
    rcases Bool.or_eq_true_iff.mp hsubscribes with hmessage | hevent
    · obtain ⟨message, hmem, hsubscribes⟩ := (Option.any_eq_true _ _).mp hmessage
      obtain ⟨bytes, rfl, hdecoded⟩ := message_eq_some hmem
      simp only [handleInput, handleReaderEvent, handleText, Proc.wp_bind, Proc.wp_get, hdecoded]
      cases message with
      | subscribe _ | unsubscribe _ => exact handleMessage_order hs rfl
      | _ => cases hsubscribes
    · rcases input with _ | (_ | event) | _
      · cases hevent
      · cases hevent
      · exact handleCoordinatorEvent_order hs hevent
      · cases hevent

theorem turn_order (hs : Tracked h s) :
    (turn settings).wp subscriptionOrder (TurnPost Tracked Tracked) h s := by
  rw [turn_eq, Proc.wp_bind, wp_select]
  refine ⟨hs.promise rfl, fun input _ => ?_⟩
  refine Proc.wp_mono (handleInput_order (hs.snoc (q := .select) rfl s input) input) ?_
  intro control h s hs
  cases control <;> exact hs

theorem carriesShutdown_tracked : CarriesShutdown subscriptionOrder Tracked where
  promise hs hq := hs.promise (isNeutral_of_inShutdown hq)
  exchange hs hq a := hs.snoc (isNeutral_of_inShutdown hq) _ a
  close hs := hs.congr rfl rfl rfl rfl
  drain hs := hs.mono (List.nil_subset _)

end Handlers
end OrbitRelay
