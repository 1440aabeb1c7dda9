import OrbitRelay.Sync.Bus

/-! What the whole bus does for each subscription: every one of them behaves as it would alone,
and every publication reaches all that were there. -/
namespace OrbitRelay
namespace MemoryEventBus

/-- A run of the bus, step by step. -/
abbrev Log := List (MemoryEventBus × BusEvent)

/-- The offer that this step makes: which publication, to whom, of what. -/
def offerIn : MemoryEventBus × BusEvent → Option (Nat × SubscriptionId × Event)
  | (s, .offer p) =>
    match s.publications[p]? with
    | some (.offering event (id :: _) _) => some (p, id, event)
    | _ => none
  | _ => none

/-- What the publication offers in this step, and to whom. -/
def offerOf (p : Nat) (step : MemoryEventBus × BusEvent) : Option (SubscriptionId × Event) :=
  match offerIn step with
  | some (publication, offer) => if publication = p then some offer else none
  | none => none

/-- What the publication offered so far, and to whom. -/
def offersOf (p : Nat) (log : Log) : List (SubscriptionId × Event) := log.filterMap (offerOf p)

/-- What `next_event` of the subscription returns in this step. -/
def answerIn (id : SubscriptionId) : MemoryEventBus × BusEvent → Option BusAnswer
  | (s, .consume other action) =>
    if other = id then do
      let seat ← s.seats id
      let (_, answer) ← seat.step s.alive action
      answer
    else none
  | _ => none

/-- The event that this step offers to the subscription while it is open and waits for it. -/
def heardIn (id : SubscriptionId) (step : MemoryEventBus × BusEvent) : Option Event :=
  match offerIn step with
  | some (_, other, event) =>
    if other = id ∧ (step.1.seats id).any
        (fun seat => seat.sub.filter.matches event && ! seat.sub.closed) then some event
    else none
  | none => none

/-- The event that an answer carries. -/
def eventOf : BusAnswer → Option Event
  | .ok event => event
  | .error _ => none

/-- The number of events that an answer reports as missed. -/
def missedOf : BusAnswer → Option UInt64
  | .error (.subscriberLagged _ missed) => some missed
  | _ => none

/-- The matching events that were offered to the subscription while it was open. -/
def heard (id : SubscriptionId) (log : Log) : List Event := log.filterMap (heardIn id)

def answers (id : SubscriptionId) (log : Log) : List BusAnswer := log.filterMap (answerIn id)

/-- The events that the subscription's consumer got. -/
def deliveredTo (id : SubscriptionId) (log : Log) : List Event :=
  (answers id log).filterMap eventOf

def missedBy (id : SubscriptionId) (log : Log) : List UInt64 :=
  (answers id log).filterMap missedOf

/-- The subscription behaves as it would alone on a bus of its own. -/
structure Viewed (log : Log) (s : MemoryEventBus) (id : SubscriptionId) (seat : Seat)
    (filter : EventFilter) (t : BusState) : Prop where
  reachable : (BusState.system s.queueCapacity id filter).Reachable t
  sub : t.sub = seat.sub
  receiving : t.receiving = seat.receiving
  alive : t.busAlive = s.alive
  published : t.published = heard id log
  delivered : t.delivered = deliveredTo id log
  missed : t.reports.map (·.missed) = missedBy id log

section Views
variable {log : Log} {s s' : MemoryEventBus} {event : BusEvent} {id : SubscriptionId}
  {seat seat' : Seat} {filter : EventFilter} {t : BusState}

theorem step_of_seat_step (capacity : Nat) (hsub : t.sub = seat.sub)
    (hreceiving : t.receiving = seat.receiving) {action : ConsumerAction}
    {answer : Option BusAnswer} (h : seat.step t.busAlive action = some (seat', answer)) :
    ∃ t', t.step capacity action.toBusAction = some (t', answer) ∧
      t'.sub = seat'.sub ∧ t'.receiving = seat'.receiving ∧ t'.busAlive = t.busAlive ∧
      t'.published = t.published ∧
      t'.delivered = t.delivered ++ answer.toList.filterMap eventOf ∧
      t'.reports.map (·.missed) =
        t.reports.map (·.missed) ++ answer.toList.filterMap missedOf := by
  obtain ⟨sub, receiving⟩ := seat
  subst hsub
  subst hreceiving
  cases action with
  | nextEvent =>
    simp only [Seat.step] at h
    simp only [ConsumerAction.toBusAction, BusState.step]
    split_ifs at h with hidle
    rw [if_neg hidle]
    obtain ⟨hclosed, hnext⟩ | ⟨hopen, -, -, hnext⟩ | ⟨hopen, -, hnext⟩ :=
      BusState.nextEvent_cases t.sub <;> rw [hnext] at h ⊢ <;> cases h
    · refine ⟨_, rfl, rfl, Bool.eq_false_iff.mpr hidle, rfl, rfl, ?_, ?_⟩ <;>
        simp [eventOf, missedOf]
    · refine ⟨_, rfl, rfl, Bool.eq_false_iff.mpr hidle, rfl, rfl, ?_, ?_⟩ <;>
        simp [eventOf, missedOf]
    · refine ⟨_, rfl, rfl, rfl, rfl, rfl, ?_, ?_⟩ <;> simp
  | receive =>
    simp only [Seat.step] at h
    simp only [ConsumerAction.toBusAction, BusState.step]
    split_ifs at h with hwaiting
    rw [if_pos hwaiting]
    cases hreceive : t.sub.receive t.busAlive with
    | none =>
      rw [hreceive] at h
      cases h
    | some next =>
      obtain ⟨sub, event⟩ := next
      rw [hreceive] at h
      cases h
      cases event with
      | some event =>
        refine ⟨_, rfl, rfl, rfl, rfl, rfl, ?_, ?_⟩ <;> simp [eventOf, missedOf]
      | none =>
        refine ⟨_, rfl, rfl, rfl, rfl, rfl, ?_, ?_⟩ <;> simp [eventOf, missedOf]
  | cancel =>
    simp only [Seat.step] at h
    simp only [ConsumerAction.toBusAction, BusState.step]
    split_ifs at h with hwaiting
    rw [if_pos hwaiting]
    cases h
    refine ⟨_, rfl, rfl, rfl, rfl, rfl, ?_, ?_⟩ <;> simp
  | close =>
    simp only [Seat.step] at h
    simp only [ConsumerAction.toBusAction, BusState.step]
    split_ifs at h with hidle
    rw [if_neg hidle]
    cases h
    refine ⟨_, rfl, rfl, rfl, rfl, rfl, ?_, ?_⟩ <;> simp

theorem heard_snoc (id : SubscriptionId) (log : Log) (step : MemoryEventBus × BusEvent) :
    heard id (log ++ [step]) = heard id log ++ (heardIn id step).toList :=
  List.filterMap_snoc ..

theorem answers_snoc (id : SubscriptionId) (log : Log) (step : MemoryEventBus × BusEvent) :
    answers id (log ++ [step]) = answers id log ++ (answerIn id step).toList :=
  List.filterMap_snoc ..

/-- A step of the bus, as a step of the bus of its own or as none. -/
theorem Viewed.snoc (hview : Viewed log s id seat filter t) {t' : BusState}
    (hstep : t' = t ∨ ∃ action answer, t.step s.queueCapacity action = some (t', answer))
    (hsub : t'.sub = seat'.sub) (hreceiving : t'.receiving = seat'.receiving)
    (halive : t'.busAlive = s'.alive) (hcapacity : s'.queueCapacity = s.queueCapacity)
    (hpublished : t'.published = t.published ++ (heardIn id (s, event)).toList)
    (hdelivered : t'.delivered =
      t.delivered ++ (answerIn id (s, event)).toList.filterMap eventOf)
    (hmissed : t'.reports.map (·.missed) =
      t.reports.map (·.missed) ++ (answerIn id (s, event)).toList.filterMap missedOf) :
    Viewed (log ++ [(s, event)]) s' id seat' filter t' := by
  constructor
  case reachable =>
    rw [hcapacity]
    rcases hstep with rfl | hstep
    · exact hview.reachable
    · exact hview.reachable.step hstep
  case sub => exact hsub
  case receiving => exact hreceiving
  case alive => exact halive
  case published => rw [heard_snoc, hpublished, hview.published]
  case delivered =>
    rw [deliveredTo, answers_snoc, List.filterMap_append, hdelivered, hview.delivered]
    rfl
  case missed =>
    rw [missedBy, answers_snoc, List.filterMap_append, hmissed, hview.missed]
    rfl

/-- A step of others. -/
theorem Viewed.idle (hview : Viewed log s id seat filter t) (hheard : heardIn id (s, event) = none)
    (hanswer : answerIn id (s, event) = none) (hcapacity : s'.queueCapacity = s.queueCapacity)
    (halive : s'.alive = s.alive) : Viewed (log ++ [(s, event)]) s' id seat filter t := by
  apply hview.snoc (.inl rfl) hview.sub hview.receiving (hview.alive.trans halive.symm) hcapacity
  · rw [hheard, Option.toList_none, List.append_nil]
  · rw [hanswer, Option.toList_none, List.filterMap_nil, List.append_nil]
  · rw [hanswer, Option.toList_none, List.filterMap_nil, List.append_nil]

/-- A step of its consumer. -/
theorem Viewed.consumed (hview : Viewed log s id seat filter t) (hseat : s.seats id = some seat)
    {action : ConsumerAction} {answer : Option BusAnswer}
    (hstep : seat.step s.alive action = some (seat', answer))
    (hcapacity : s'.queueCapacity = s.queueCapacity) (halive : s'.alive = s.alive) :
    ∃ t', Viewed (log ++ [(s, .consume id action)]) s' id seat' filter t' := by
  have hanswer : answerIn id (s, .consume id action) = answer := by
    simp [answerIn, hseat, hstep]
  rw [← hview.alive] at hstep
  obtain ⟨t', ht, hsub, hreceiving, hlive, hpublished, hdelivered, hmissed⟩ :=
    step_of_seat_step s.queueCapacity hview.sub hview.receiving hstep
  have halive' := (hlive.trans hview.alive).trans halive.symm
  refine ⟨t', hview.snoc (.inr ⟨_, _, ht⟩) hsub hreceiving halive' hcapacity ?_ ?_ ?_⟩
  · exact hpublished.trans (List.append_nil _).symm
  · rw [hanswer]
    exact hdelivered
  · rw [hanswer]
    exact hmissed

/-- What a publication does to one subscription and its record. -/
theorem publish_record (capacity : Nat) (event : Event) (t : BusState) :
    (t.publish capacity event).sub = t.sub.publish capacity event ∧
      (t.publish capacity event).receiving = t.receiving ∧
      (t.publish capacity event).busAlive = t.busAlive ∧
      (t.publish capacity event).delivered = t.delivered ∧
      (t.publish capacity event).reports = t.reports ∧
      (t.publish capacity event).published = t.published ++
        if t.sub.filter.matches event && ! t.sub.closed then [event] else [] := by
  unfold BusState.publish
  split_ifs with hignored hroom hheard hheard <;> simp_all

/-- An offer to it. -/
theorem Viewed.offered (hview : Viewed log s id seat filter t) (hseat : s.seats id = some seat)
    (hlive : s.alive = true) {p : Nat} {offer : Event} {rest closed : List SubscriptionId}
    (hp : s.publications[p]? = some (.offering offer (id :: rest) closed))
    (hcapacity : s'.queueCapacity = s.queueCapacity) (halive : s'.alive = s.alive) :
    ∃ t', Viewed (log ++ [(s, .offer p)]) s' id
      { seat with sub := seat.sub.publish s.queueCapacity offer } filter t' := by
  obtain ⟨hsub, hreceiving, hbus, hdelivered, hreports, hpublished⟩ :=
    publish_record s.queueCapacity offer t
  have hheard : (heardIn id (s, .offer p)).toList =
      if seat.sub.filter.matches offer && ! seat.sub.closed then [offer] else [] := by
    have hoffer : offerIn (s, .offer p) = some (p, id, offer) := by simp [offerIn, hp]
    simp only [heardIn, hoffer, hseat, Option.any_some, true_and]
    split_ifs <;> rfl
  have hstep : t.step s.queueCapacity (.publish offer) =
      some (t.publish s.queueCapacity offer, none) := if_pos (hview.alive.trans hlive)
  rw [hview.sub] at hsub hpublished
  have halive' := (hbus.trans hview.alive).trans halive.symm
  refine ⟨_, hview.snoc (.inr ⟨_, _, hstep⟩) hsub (hreceiving.trans hview.receiving) halive'
    hcapacity ?_ ?_ ?_⟩
  · rw [hheard]
    exact hpublished
  · exact hdelivered.trans (List.append_nil _).symm
  · rw [hreports]
    exact (List.append_nil _).symm

/-- The end of the bus. -/
theorem Viewed.dropped (hview : Viewed log s id seat filter t) (hlive : s.alive = true)
    (hcapacity : s'.queueCapacity = s.queueCapacity) (halive : s'.alive = false) :
    ∃ t', Viewed (log ++ [(s, .dropBus)]) s' id seat filter t' := by
  have hstep : t.step s.queueCapacity .dropBus = some ({ t with busAlive := false }, none) :=
    if_pos (hview.alive.trans hlive)
  refine ⟨_, hview.snoc (.inr ⟨_, _, hstep⟩) hview.sub hview.receiving halive.symm hcapacity
    ?_ ?_ ?_⟩
  · exact (List.append_nil _).symm
  · exact (List.append_nil _).symm
  · exact (List.append_nil _).symm

/-- A new subscription, which nothing was offered to yet. -/
theorem viewed_new (hheard : heard id log = []) (hanswers : answers id log = [])
    (hlive : s.alive = true) :
    Viewed log s id ⟨.new id filter, false⟩ filter (.new id filter) := by
  constructor
  case reachable => exact .init rfl
  case sub => rfl
  case receiving => rfl
  case alive => exact hlive.symm
  case published => exact hheard.symm
  case delivered =>
    rw [deliveredTo, hanswers]
    rfl
  case missed =>
    rw [missedBy, hanswers]
    rfl

/-- Nothing happened to a subscription before it was there. -/
theorem heardIn_eq_none (hseat : s.seats id = none) : heardIn id (s, event) = none := by
  unfold heardIn
  split
  · rw [hseat]
    exact if_neg fun hheard => Bool.false_ne_true hheard.2
  · rfl

theorem answerIn_eq_none (hseat : s.seats id = none) : answerIn id (s, event) = none := by
  cases event with
  | consume other action =>
    simp only [answerIn, hseat]
    exact ite_self none
  | _ => rfl

/-- Only an offer to the subscription is heard by it. -/
theorem heardIn_offer_of_ne {p : Nat} {offer : Event} {other : SubscriptionId}
    {rest closed : List SubscriptionId}
    (hp : s.publications[p]? = some (.offering offer (other :: rest) closed)) (hid : id ≠ other) :
    heardIn id (s, .offer p) = none := by
  have hoffer : offerIn (s, .offer p) = some (p, other, offer) := by simp [offerIn, hp]
  simp only [heardIn, hoffer]
  exact if_neg fun hheard => hid hheard.1.symm

/-- Every subscription behaves as it would alone. -/
theorem Happens.viewed (h : Happens s event s') (hs : Sound s)
    (hfresh : ∀ id, s.seats id = none → heard id log = [] ∧ answers id log = [])
    (hviewed : ∀ id seat, s.seats id = some seat → ∃ filter t, Viewed log s id seat filter t)
    (hseat : s'.seats id = some seat) :
    ∃ filter t, Viewed (log ++ [(s, event)]) s' id seat filter t := by
  cases h with
  | published | unlocked | removed | rejected | detached =>
    obtain ⟨filter, t, hview⟩ := hviewed id seat hseat
    exact ⟨filter, t, hview.idle rfl rfl rfl rfl⟩
  | dropped hlive =>
    obtain ⟨filter, t, hview⟩ := hviewed id seat hseat
    exact ⟨filter, hview.dropped hlive rfl rfl⟩
  | @offered p offer other rest closed _ current hp hcurrent _ =>
    by_cases hid : id = other
    · subst hid
      cases (Function.update_self ..).symm.trans hseat
      have hlive : s.alive = true := by
        apply Bool.eq_true_of_not_eq_false
        intro hgone
        cases hs.running hgone _ (List.mem_of_getElem? hp)
      obtain ⟨filter, t, hview⟩ := hviewed id current hcurrent
      exact ⟨filter, hview.offered hcurrent hlive hp rfl rfl⟩
    · obtain ⟨filter, t, hview⟩ :=
        hviewed id seat ((Function.update_of_ne hid ..).symm.trans hseat)
      exact ⟨filter, t, hview.idle (heardIn_offer_of_ne hp hid) rfl rfl rfl⟩
  | @subscribed other filter hlive _ hnew =>
    by_cases hid : id = other
    · subst hid
      cases (Function.update_self ..).symm.trans hseat
      obtain ⟨hheard, hanswers⟩ := hfresh id hnew
      have hview : Viewed log s id ⟨.new id filter, false⟩ filter (.new id filter) :=
        viewed_new hheard hanswers hlive
      exact ⟨filter, _, hview.idle rfl rfl rfl rfl⟩
    · obtain ⟨filter, t, hview⟩ :=
        hviewed id seat ((Function.update_of_ne hid ..).symm.trans hseat)
      exact ⟨filter, t, hview.idle rfl rfl rfl rfl⟩
  | @consumed other action current next answer hcurrent hstep =>
    by_cases hid : id = other
    · subst hid
      cases (Function.update_self ..).symm.trans hseat
      obtain ⟨filter, t, hview⟩ := hviewed id current hcurrent
      exact ⟨filter, hview.consumed hcurrent hstep rfl rfl⟩
    · obtain ⟨filter, t, hview⟩ :=
        hviewed id seat ((Function.update_of_ne hid ..).symm.trans hseat)
      exact ⟨filter, t, hview.idle rfl (if_neg (Ne.symm hid)) rfl rfl⟩

end Views

section Offers
variable {log : Log} {s s' : MemoryEventBus} {event : BusEvent}

/-- Each publication offers its event once to everyone who was in the map when it started. -/
structure Offered (log : Log) (s : MemoryEventBus) : Prop where
  started : ∀ s₀ event order, (s₀, .publish event order) ∈ log →
    s₀.publications.length < s.publications.length
  silent : ∀ p, s.publications.length ≤ p → offersOf p log = []
  once : ∀ s₀ event order, (s₀, .publish event order) ∈ log →
    ∀ publication, s.publications[s₀.publications.length]? = some publication →
      (offersOf s₀.publications.length log ++ publication.due).Perm
        (s₀.subscribers.map (·, event))

theorem offersOf_snoc (p : Nat) (log : Log) (step : MemoryEventBus × BusEvent) :
    offersOf p (log ++ [step]) = offersOf p log ++ (offerOf p step).toList :=
  List.filterMap_snoc ..

/-- A step that offers nothing and leaves what is due. -/
theorem Offered.idle (ho : Offered log s) (hoffer : offerIn (s, event) = none)
    (hpublish : ∀ other order, event ≠ .publish other order)
    (hlength : s'.publications.length = s.publications.length)
    (hdue : ∀ (p : Nat) (publication' : Publication), s'.publications[p]? = some publication' →
      ∃ publication, s.publications[p]? = some publication ∧ publication'.due = publication.due) :
    Offered (log ++ [(s, event)]) s' := by
  have hoffers (p : Nat) : offersOf p (log ++ [(s, event)]) = offersOf p log := by
    have hnone : offerOf p (s, event) = none := by simp [offerOf, hoffer]
    rw [offersOf_snoc, hnone, Option.toList_none, List.append_nil]
  have hold {s₀ : MemoryEventBus} {other : Event} {order : List SubscriptionId}
      (hmem : (s₀, .publish other order) ∈ log ++ [(s, event)]) :
      (s₀, .publish other order) ∈ log := by
    rcases List.mem_append.mp hmem with hmem | hmem
    · exact hmem
    · have heq := congrArg Prod.snd (List.mem_singleton.mp hmem)
      exact absurd heq.symm (hpublish other order)
  constructor
  case started =>
    intro s₀ other order hmem
    rw [hlength]
    exact ho.started s₀ other order (hold hmem)
  case silent =>
    intro p hp
    rw [hlength] at hp
    rw [hoffers]
    exact ho.silent p hp
  case once =>
    intro s₀ other order hmem publication' hpublication'
    obtain ⟨publication, hpublication, heq⟩ := hdue _ _ hpublication'
    rw [hoffers, heq]
    exact ho.once s₀ other order (hold hmem) publication hpublication

/-- A publication that moves on without an offer. -/
theorem due_of_set {p : Nat} {old new : Publication} (hp : s.publications[p]? = some old)
    (hdue : new.due = old.due) (q : Nat) (publication' : Publication)
    (h : (s.publications.set p new)[q]? = some publication') :
    ∃ publication, s.publications[q]? = some publication ∧ publication'.due = publication.due := by
  by_cases hq : p = q
  · subst hq
    have hbound := (List.getElem?_eq_some_iff.mp hp).1
    rw [List.getElem?_set_self hbound] at h
    cases h
    exact ⟨old, hp, hdue⟩
  · rw [List.getElem?_set_ne hq] at h
    exact ⟨publication', h, rfl⟩

theorem Offered.published (ho : Offered log s) {offer : Event} {order : List SubscriptionId}
    (horder : order.Perm s.subscribers) :
    Offered (log ++ [(s, .publish offer order)])
      { s with publications := s.publications ++ [.offering offer order []] } := by
  have hoffers (p : Nat) : offersOf p (log ++ [(s, .publish offer order)]) = offersOf p log := by
    rw [offersOf_snoc]
    exact List.append_nil _
  have hlength : (s.publications ++ [Publication.offering offer order []]).length =
      s.publications.length + 1 := by simp
  constructor
  case started =>
    intro s₀ other order' hmem
    rw [hlength]
    rcases List.mem_append.mp hmem with hmem | hmem
    · have hbefore := ho.started s₀ other order' hmem
      omega
    · cases List.mem_singleton.mp hmem
      omega
  case silent =>
    intro p hp
    rw [hlength] at hp
    rw [hoffers]
    exact ho.silent p (by omega)
  case once =>
    intro s₀ other order' hmem publication hpublication
    rw [hoffers]
    rcases List.mem_append.mp hmem with hmem | hmem
    · have hbefore := ho.started s₀ other order' hmem
      rw [List.getElem?_append_left hbefore] at hpublication
      exact ho.once s₀ other order' hmem publication hpublication
    · cases List.mem_singleton.mp hmem
      rw [List.getElem?_concat_length] at hpublication
      cases hpublication
      rw [ho.silent _ (Nat.le_refl _)]
      exact horder.map _

theorem Offered.offered (ho : Offered log s) {p : Nat} {offer : Event} {id : SubscriptionId}
    {rest closed closed' : List SubscriptionId}
    (hp : s.publications[p]? = some (.offering offer (id :: rest) closed))
    (hpublications : s'.publications = s.publications.set p (.offering offer rest closed')) :
    Offered (log ++ [(s, .offer p)]) s' := by
  have hbound := (List.getElem?_eq_some_iff.mp hp).1
  have hoffer : offerIn (s, .offer p) = some (p, id, offer) := by simp [offerIn, hp]
  have hself : offersOf p (log ++ [(s, .offer p)]) = offersOf p log ++ [(id, offer)] := by
    rw [offersOf_snoc]
    simp [offerOf, hoffer]
  have hother {q : Nat} (hq : p ≠ q) : offersOf q (log ++ [(s, .offer p)]) = offersOf q log := by
    rw [offersOf_snoc]
    simp [offerOf, hoffer, hq]
  have hold {s₀ : MemoryEventBus} {other : Event} {order : List SubscriptionId}
      (hmem : (s₀, .publish other order) ∈ log ++ [(s, .offer p)]) :
      (s₀, .publish other order) ∈ log := by
    rcases List.mem_append.mp hmem with hmem | hmem
    · exact hmem
    · cases List.mem_singleton.mp hmem
  constructor
  case started =>
    intro s₀ other order hmem
    rw [hpublications, List.length_set]
    exact ho.started s₀ other order (hold hmem)
  case silent =>
    intro q hq
    rw [hpublications, List.length_set] at hq
    rw [hother (by omega)]
    exact ho.silent q hq
  case once =>
    intro s₀ other order hmem publication hpublication
    rw [hpublications] at hpublication
    have honce := ho.once s₀ other order (hold hmem)
    by_cases hq : p = s₀.publications.length
    · rw [← hq] at hpublication honce ⊢
      rw [List.getElem?_set_self hbound] at hpublication
      cases hpublication
      have hbefore := honce _ hp
      rw [hself, List.append_assoc]
      exact hbefore
    · rw [List.getElem?_set_ne hq] at hpublication
      rw [hother hq]
      exact honce publication hpublication

theorem Offered.happens (ho : Offered log s) (h : Happens s event s') :
    Offered (log ++ [(s, event)]) s' := by
  cases h with
  | published _ horder => exact ho.published horder
  | offered hp _ _ => exact ho.offered hp rfl
  | unlocked hp hnext =>
    apply ho.idle rfl (fun _ _ => BusEvent.noConfusion) (List.length_set ..)
    rcases hnext with rfl | rfl
    · exact due_of_set hp rfl
    · exact due_of_set hp rfl
  | removed hp _ =>
    exact ho.idle rfl (fun _ _ => BusEvent.noConfusion) (List.length_set ..) (due_of_set hp rfl)
  | rejected | subscribed | consumed | detached | dropped =>
    exact ho.idle rfl (fun _ _ => BusEvent.noConfusion) rfl
      fun p publication hp => ⟨publication, hp, rfl⟩

end Offers

section Runs
variable {capacity : Nat} {start s : MemoryEventBus} {log : Log}

/-- What a run of the bus keeps. -/
structure Served (capacity : Nat) (log : Log) (s : MemoryEventBus) : Prop where
  capacity : s.queueCapacity = capacity
  sound : Sound s
  before : ∀ step ∈ log, Sound step.1 ∧ ∃ next, Happens step.1 step.2 next
  since : ∀ step ∈ log, ∀ id seat, step.1.seats id = some seat →
    ∃ seat', s.seats id = some seat' ∧ seat.Becomes seat'
  fresh : ∀ id, s.seats id = none → heard id log = [] ∧ answers id log = []
  viewed : ∀ id seat, s.seats id = some seat → ∃ filter t, Viewed log s id seat filter t
  offered : Offered log s

theorem Served.step (hserved : Served capacity log s) {event : BusEvent} {s' : MemoryEventBus}
    (hstep : s.step event = some s') : Served capacity (log ++ [(s, event)]) s' := by
  have h := happens_of_step hstep
  constructor
  case capacity =>
    have hsame : s'.queueCapacity = s.queueCapacity := by cases h <;> rfl
    exact hsame.trans hserved.capacity
  case sound => exact hserved.sound.happens h
  case before =>
    intro step hmem
    rcases List.mem_append.mp hmem with hmem | hmem
    · exact hserved.before step hmem
    · rw [List.mem_singleton.mp hmem]
      exact ⟨hserved.sound, s', h⟩
  case since =>
    intro step hmem id seat hseat
    rcases List.mem_append.mp hmem with hmem | hmem
    · obtain ⟨seat', hseat', hbecomes⟩ := hserved.since step hmem id seat hseat
      obtain ⟨seat'', hseat'', hbecomes'⟩ := h.keeps hseat'
      exact ⟨seat'', hseat'', hbecomes.trans hbecomes'⟩
    · rw [List.mem_singleton.mp hmem] at hseat
      exact h.keeps hseat
  case fresh =>
    intro id hid
    have hbefore : s.seats id = none := by
      cases hseat : s.seats id with
      | none => rfl
      | some seat =>
        obtain ⟨seat', hseat', -⟩ := h.keeps hseat
        cases hid.symm.trans hseat'
    obtain ⟨hheard, hanswers⟩ := hserved.fresh id hbefore
    rw [heard_snoc, answers_snoc, hheard, hanswers, heardIn_eq_none hbefore,
      answerIn_eq_none hbefore]
    exact ⟨rfl, rfl⟩
  case viewed =>
    exact fun id seat hseat => h.viewed hserved.sound hserved.fresh hserved.viewed hseat
  case offered => exact hserved.offered.happens h

theorem withQueueCapacity_eq_ok (h : withQueueCapacity capacity = .ok start) :
    0 < capacity ∧ start = ⟨capacity, true, [], fun _ => none, []⟩ := by
  unfold withQueueCapacity at h
  split_ifs at h with hzero
  cases h
  exact ⟨Nat.pos_of_ne_zero hzero, rfl⟩

theorem served_of_run (hnew : withQueueCapacity capacity = .ok start)
    (hrun : Transition.Run step start log s) : Served capacity log s := by
  apply hrun.invariant (I := Served capacity)
  · have hsound := sound_start hnew
    obtain ⟨-, rfl⟩ := withQueueCapacity_eq_ok hnew
    constructor
    case capacity => rfl
    case sound => exact hsound
    case before => exact fun _ hmem => (List.not_mem_nil hmem).elim
    case since => exact fun _ hmem => (List.not_mem_nil hmem).elim
    case fresh => exact fun _ _ => ⟨rfl, rfl⟩
    case viewed => exact fun _ _ hseat => by cases hseat
    case offered =>
      constructor
      case started => exact fun _ _ _ hmem => (List.not_mem_nil hmem).elim
      case silent => exact fun _ _ => rfl
      case once => exact fun _ _ _ hmem => (List.not_mem_nil hmem).elim
  · exact fun log s event s' hserved hstep => hserved.step hstep

/-- What a subscription got, has queued, was told it missed and will be told it missed is what
it heard, as long as no counter is at its maximum. -/
theorem Viewed.balance {id : SubscriptionId} {seat : Seat} {filter : EventFilter} {t : BusState}
    (hview : Viewed log s id seat filter t) (hcapacity : 0 < s.queueCapacity) :
    (deliveredTo id log ++ seat.sub.queue).Sublist (heard id log) ∧
      ((∀ missed ∈ missedBy id log, missed.toNat < 2 ^ 64 - 1) →
        seat.sub.lagged.toNat < 2 ^ 64 - 1 →
        (deliveredTo id log).length + seat.sub.queue.length +
          ((missedBy id log).map (·.toNat)).sum + seat.sub.lagged.toNat =
            (heard id log).length) := by
  obtain ⟨haccounted, -⟩ := BusState.invariant_of_reachable hcapacity hview.reachable
  rw [← hview.published, ← hview.delivered, ← hview.missed, ← hview.sub]
  refine ⟨haccounted.sublist, fun hmissed hlagged => ?_⟩
  have hsum := haccounted.sum_missed fun report hreport =>
    hmissed report.missed (List.mem_map_of_mem hreport)
  have htotal := haccounted.total
  have hcounter := haccounted.lagged
  rw [List.map_map]
  have hmap : t.reports.map (UInt64.toNat ∘ LagReport.missed) =
      t.reports.map fun report => report.missed.toNat := rfl
  rw [hmap, hsum]
  omega

/-- An offer is heard by a subscription that waits for it and is open to the end. -/
theorem heard_of_offered (hserved : Served capacity log s) {p : Nat} {id : SubscriptionId}
    {event : Event} (hoffer : (id, event) ∈ offersOf p log) {seat : Seat}
    (hseat : s.seats id = some seat) (hopen : seat.sub.closed = false)
    (hmatches : seat.sub.filter.matches event = true) : event ∈ heard id log := by
  obtain ⟨⟨s₁, action⟩, hmem, hin⟩ := List.mem_filterMap.mp hoffer
  obtain ⟨next, hnext⟩ := (hserved.before _ hmem).2
  apply List.mem_filterMap.mpr
  refine ⟨(s₁, action), hmem, ?_⟩
  cases hnext with
  | @offered q other id' rest closed _ seat₁ hq hseat₁ _ =>
    have hoffer : offerIn (s₁, .offer q) = some (q, id', other) := by simp [offerIn, hq]
    simp only [offerOf, hoffer, Option.ite_none_right_eq_some] at hin
    obtain ⟨-, hin⟩ := hin
    cases hin
    obtain ⟨seat', hseat', hbecomes⟩ := hserved.since _ hmem id seat₁ hseat₁
    cases hseat'.symm.trans hseat
    have hwas := hbecomes.open_before hopen
    rw [hbecomes.filter] at hmatches
    have hwaiting : s₁.seats id = some seat₁ := hseat₁
    simp [heardIn, hoffer, hwaiting, hmatches, hwas]
  | published | unlocked | removed | rejected | subscribed | consumed | detached | dropped =>
    cases hin

/-- The whole bus, in every run of concurrent publications and subscriptions: an open
subscription stays in the map, and what it delivers and queues is what was offered to it, in
order and without a silent loss; a publication that has left the map offered its event once to
each subscription that was in it at its start and to no other, so that every open subscription
that waits for the event hears it; and no subscription can hold a publication up. -/
theorem subscriptions_served_apart (capacity : Nat) (start s : MemoryEventBus) (log : Log)
    (hnew : withQueueCapacity capacity = .ok start) (hrun : Transition.Run step start log s) :
    (∀ id seat, s.seats id = some seat →
      (seat.sub.closed = false → s.alive = true → id ∈ s.subscribers) ∧
      (deliveredTo id log ++ seat.sub.queue).Sublist (heard id log) ∧
      ((∀ missed ∈ missedBy id log, missed.toNat < 2 ^ 64 - 1) →
        seat.sub.lagged.toNat < 2 ^ 64 - 1 →
        (deliveredTo id log).length + seat.sub.queue.length +
          ((missedBy id log).map (·.toNat)).sum + seat.sub.lagged.toNat =
            (heard id log).length)) ∧
    (∀ s₀ event order, (s₀, .publish event order) ∈ log →
      ∀ publication, s.publications[s₀.publications.length]? = some publication →
        publication.isReading = false →
        s₀.subscribers.Nodup ∧
        (offersOf s₀.publications.length log).Perm (s₀.subscribers.map (·, event)) ∧
        ∀ id seat, (s₀.seats id).isSome → s.seats id = some seat → seat.sub.closed = false →
          seat.sub.filter.matches event = true → event ∈ heard id log) ∧
    (∀ p event id rest closed,
      s.publications[p]? = some (.offering event (id :: rest) closed) →
        (s.step (.offer p)).isSome) := by
  have hserved := served_of_run hnew hrun
  have hpositive : 0 < s.queueCapacity := by
    rw [hserved.capacity]
    exact (withQueueCapacity_eq_ok hnew).1
  refine ⟨fun id seat hseat => ?_, fun s₀ event order hmem publication hp hfinished => ?_,
    fun p event id rest closed hp => ?_⟩
  · obtain ⟨filter, t, hview⟩ := hserved.viewed id seat hseat
    exact ⟨hserved.sound.registered id seat hseat, hview.balance hpositive⟩
  · have honce := hserved.offered.once s₀ event order hmem publication hp
    have hdue : publication.due = [] := by
      cases publication with
      | offering => cases hfinished
      | removing | done => rfl
    rw [hdue, List.append_nil] at honce
    obtain ⟨hsound, next, hnext⟩ := hserved.before _ hmem
    refine ⟨hsound.nodup, honce, fun id seat hknown hseat hopen hmatches => ?_⟩
    -- An open subscription was open at the start, and therefore in the map.
    obtain ⟨before, hbefore⟩ := Option.isSome_iff_exists.mp hknown
    obtain ⟨seat', hseat', hbecomes⟩ := hserved.since _ hmem id before hbefore
    cases hseat'.symm.trans hseat
    have hwas := hbecomes.open_before hopen
    have hlive : s₀.alive = true := by
      cases hnext with
      | published halive => exact halive
    have hregistered := hsound.registered id before hbefore hwas hlive
    have hoffer : (id, event) ∈ offersOf s₀.publications.length log :=
      honce.mem_iff.mpr (List.mem_map_of_mem hregistered)
    exact heard_of_offered hserved hoffer hseat hopen hmatches
  · have hknown := hserved.sound.rest _ (List.mem_of_getElem? hp) id List.mem_cons_self
    simp [step, hp, hknown]

def sampleSubscriptionId (byte : UInt8) : SubscriptionId := ⟨⟨⟨Vector.replicate 16 byte⟩⟩⟩

/-- Two subscriptions; one publication goes through the map, and one of them takes the event. -/
theorem subscriptions_served_apart_sample :
    ∃ start s log seat, withQueueCapacity 1 = .ok start ∧ Transition.Run step start log s ∧
      deliveredTo (sampleSubscriptionId 1) log = [BusState.sampleEvent] ∧
      heard (sampleSubscriptionId 2) log = [BusState.sampleEvent] ∧
      s.seats (sampleSubscriptionId 2) = some seat ∧ seat.sub.queue = [BusState.sampleEvent] ∧
      (deliveredTo (sampleSubscriptionId 2) log ++ seat.sub.queue).Sublist
        (heard (sampleSubscriptionId 2) log) := by
  have h0 := @Transition.Run.start _ _ step ⟨1, true, [], fun _ => none, []⟩
  have h1 := h0.step (a := .subscribe (sampleSubscriptionId 1) ⟨none, [], none⟩) rfl
  have h2 := h1.step (a := .subscribe (sampleSubscriptionId 2) ⟨none, [], none⟩) rfl
  have h3 := h2.step (a := .publish BusState.sampleEvent
    [sampleSubscriptionId 2, sampleSubscriptionId 1]) rfl
  have h4 := h3.step (a := .offer 0) rfl
  have h5 := h4.step (a := .offer 0) rfl
  have h6 := h5.step (a := .unlock 0) rfl
  have h7 := h6.step (a := .consume (sampleSubscriptionId 1) .nextEvent) rfl
  have h8 := h7.step (a := .consume (sampleSubscriptionId 1) .receive) rfl
  have hserved := (subscriptions_served_apart 1 _ _ _ rfl h8).1 (sampleSubscriptionId 2) _ rfl
  exact ⟨_, _, _, _, rfl, h8, rfl, rfl, rfl, rfl, hserved.2.1⟩

end Runs

end MemoryEventBus
end OrbitRelay
