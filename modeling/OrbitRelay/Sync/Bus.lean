import OrbitRelay.Sync.NoGap

/-! The whole event bus: concurrent publications that go through the subscriber map under its
read lock, and subscriptions that come and go under its write lock. -/
namespace OrbitRelay

/-- Rejects a filter with a blank event type. -/
def EventFilter.validate (filter : EventFilter) : Except SyncError Unit :=
  if filter.eventTypes.any fun eventType => Text.isBlank eventType.value then
    .error (.invalidFilter "event type cannot be empty")
  else .ok ()

/-- What `next_event` returns once it returns. -/
abbrev BusAnswer := Except SyncError (Option Event)

/-- One `publish` in flight. It offers its event to the rest of the map under the read lock, and
then removes the subscriptions that it found closed. -/
inductive Publication
  | offering (event : Event) (rest closed : List SubscriptionId)
  | removing (closed : List SubscriptionId)
  | done

namespace Publication

/-- The read lock is held. -/
def isReading : Publication → Bool
  | offering .. => true
  | _ => false

def isDone : Publication → Bool
  | done => true
  | _ => false

/-- The subscriptions that the event is still to be offered to. -/
def rest : Publication → List SubscriptionId
  | offering _ rest _ => rest
  | _ => []

/-- The offers that the publication is still to make. -/
def due : Publication → List (SubscriptionId × Event)
  | offering event rest _ => rest.map (·, event)
  | _ => []

/-- The subscriptions that refused the event. -/
def closed : Publication → List SubscriptionId
  | offering _ _ closed | removing closed => closed
  | done => []

end Publication

/-- What the consumer of a subscription does. Dropping a subscription closes it. -/
inductive ConsumerAction
  | nextEvent
  | receive
  | cancel
  | close

/-- What the consumer does, on a bus of its own. -/
def ConsumerAction.toBusAction : ConsumerAction → BusAction
  | .nextEvent => .nextEvent
  | .receive => .receive
  | .cancel => .cancel
  | .close => .close

/-- A subscription, and whether its consumer waits in `next_event`. -/
structure Seat where
  sub : MemorySubscription
  receiving : Bool

def Seat.step (busAlive : Bool) (seat : Seat) : ConsumerAction → Option (Seat × Option BusAnswer)
  | .nextEvent =>
    if seat.receiving then none
    else
      match seat.sub.nextEvent with
      | (sub, none) => some (⟨sub, true⟩, none)
      | (sub, some answer) => some (⟨sub, false⟩, some answer)
  | .receive =>
    if seat.receiving then
      match seat.sub.receive busAlive with
      | some (sub, event) => some (⟨sub, false⟩, some (.ok event))
      | none => none
    else none
  | .cancel => if seat.receiving then some ({ seat with receiving := false }, none) else none
  | .close => if seat.receiving then none else some ({ seat with sub := seat.sub.close }, none)

/-- The same subscription, later: it does not open again. -/
structure Seat.Becomes (seat seat' : Seat) : Prop where
  id : seat'.sub.id = seat.sub.id
  filter : seat'.sub.filter = seat.sub.filter
  closed : seat.sub.closed = true → seat'.sub.closed = true

section Seats
variable {seat seat' : Seat}

theorem Seat.Becomes.refl (seat : Seat) : seat.Becomes seat where
  id := rfl
  filter := rfl
  closed := fun hclosed => hclosed

theorem Seat.Becomes.trans {seat'' : Seat} (h : seat.Becomes seat') (h' : seat'.Becomes seat'') :
    seat.Becomes seat'' where
  id := h'.id.trans h.id
  filter := h'.filter.trans h.filter
  closed := fun hclosed => h'.closed (h.closed hclosed)

/-- What is open was open before. -/
theorem Seat.Becomes.open_before (h : seat.Becomes seat') (hopen : seat'.sub.closed = false) :
    seat.sub.closed = false := by
  apply Bool.eq_false_iff.mpr
  intro hclosed
  exact Bool.false_ne_true (hopen.symm.trans (h.closed hclosed))

theorem Seat.becomes_publish (capacity : Nat) (event : Event) (seat : Seat) :
    seat.Becomes { seat with sub := seat.sub.publish capacity event } := by
  unfold MemorySubscription.publish
  split_ifs <;> exact ⟨rfl, rfl, fun hclosed => hclosed⟩

theorem MemorySubscription.receive_eq_some {busAlive : Bool} {sub sub' : MemorySubscription}
    {event : Option Event} (h : sub.receive busAlive = some (sub', event)) :
    ∃ queue, sub' = { sub with queue := queue } := by
  unfold MemorySubscription.receive at h
  split at h
  · cases h
    exact ⟨_, rfl⟩
  · split_ifs at h
    cases h
    exact ⟨_, rfl⟩

theorem Seat.becomes_step {busAlive : Bool} {action : ConsumerAction} {answer : Option BusAnswer}
    (h : seat.step busAlive action = some (seat', answer)) : seat.Becomes seat' := by
  cases action with
  | nextEvent =>
    simp only [Seat.step] at h
    split_ifs at h
    obtain ⟨hclosed, hnext⟩ | ⟨hopen, -, -, hnext⟩ | ⟨hopen, -, hnext⟩ :=
      BusState.nextEvent_cases seat.sub <;> rw [hnext] at h <;> cases h <;>
      exact ⟨rfl, rfl, fun hclosed => hclosed⟩
  | receive =>
    simp only [Seat.step] at h
    split_ifs at h
    cases hreceive : seat.sub.receive busAlive with
    | none =>
      rw [hreceive] at h
      cases h
    | some next =>
      rw [hreceive] at h
      cases h
      obtain ⟨queue, hqueue⟩ := MemorySubscription.receive_eq_some hreceive
      constructor <;> rw [hqueue]
      exact fun hclosed => hclosed
  | cancel =>
    simp only [Seat.step] at h
    split_ifs at h
    cases h
    exact ⟨rfl, rfl, fun hclosed => hclosed⟩
  | close =>
    simp only [Seat.step] at h
    split_ifs at h
    cases h
    exact ⟨rfl, rfl, fun _ => rfl⟩

end Seats

/-- The bus: the keys of the subscriber map, every subscription that was ever made, and every
publication that was ever started. -/
structure MemoryEventBus where
  queueCapacity : Nat
  alive : Bool
  subscribers : List SubscriptionId
  seats : SubscriptionId → Option Seat
  publications : List Publication

/-- What can happen on the bus. -/
inductive BusEvent
  | publish (event : Event) (order : List SubscriptionId)
  | offer (publication : Nat)
  | unlock (publication : Nat)
  | remove (publication : Nat)
  | subscribe (id : SubscriptionId) (filter : EventFilter)
  | consume (id : SubscriptionId) (action : ConsumerAction)
  | detach (id : SubscriptionId)
  | dropBus

namespace MemoryEventBus

def withQueueCapacity (queueCapacity : Nat) : Except SyncError MemoryEventBus :=
  if queueCapacity = 0 then .error .invalidQueueCapacity
  else .ok ⟨queueCapacity, true, [], fun _ => none, []⟩

/-- Nobody holds the read lock. -/
def writable (bus : MemoryEventBus) : Bool := bus.publications.all (! ·.isReading)

/-- One step; the map is iterated in any order, and identifiers are not used twice. -/
def step (bus : MemoryEventBus) : BusEvent → Option MemoryEventBus
  | .publish event order =>
    if bus.alive ∧ order.isPerm bus.subscribers then
      some { bus with publications := bus.publications ++ [.offering event order []] }
    else none
  | .offer p =>
    match bus.publications[p]? with
    | some (.offering event (id :: rest) closed) =>
      (bus.seats id).map fun seat =>
        let refused := seat.sub.filter.matches event && seat.sub.closed
        { bus with
          seats := Function.update bus.seats id
            (some { seat with sub := seat.sub.publish bus.queueCapacity event }),
          publications := bus.publications.set p
            (.offering event rest (if refused then closed ++ [id] else closed)) }
    | _ => none
  | .unlock p =>
    match bus.publications[p]? with
    | some (.offering _ [] closed) =>
      some { bus with
        publications := bus.publications.set p
          (if closed.isEmpty then .done else .removing closed) }
    | _ => none
  | .remove p =>
    match bus.publications[p]? with
    | some (.removing closed) =>
      if bus.writable then
        some { bus with
          subscribers := bus.subscribers.filter (! closed.contains ·),
          publications := bus.publications.set p .done }
      else none
    | _ => none
  | .subscribe id filter =>
    match filter.validate with
    | .error _ => some bus
    | .ok () =>
      if bus.alive ∧ bus.writable ∧ (bus.seats id).isNone then
        some { bus with
          subscribers := bus.subscribers ++ [id],
          seats := Function.update bus.seats id (some ⟨.new id filter, false⟩) }
      else none
  | .consume id action => do
    let seat ← bus.seats id
    let (seat, _) ← seat.step bus.alive action
    some { bus with seats := Function.update bus.seats id (some seat) }
  | .detach id =>
    if (bus.seats id).any (·.sub.closed) ∧ bus.writable then
      some { bus with subscribers := bus.subscribers.erase id }
    else none
  | .dropBus =>
    -- A publication borrows a handle of the bus.
    if bus.alive ∧ bus.publications.all (·.isDone) then
      some { bus with alive := false, subscribers := [] }
    else none

/-- Everything a step can do, with its guards. -/
inductive Happens (s : MemoryEventBus) : BusEvent → MemoryEventBus → Prop
  | published {event : Event} {order : List SubscriptionId} (halive : s.alive = true)
      (horder : order.Perm s.subscribers) :
      Happens s (.publish event order)
        { s with publications := s.publications ++ [.offering event order []] }
  | offered {p : Nat} {event : Event} {id : SubscriptionId} {rest closed closed' : List SubscriptionId}
      {seat : Seat} (hp : s.publications[p]? = some (.offering event (id :: rest) closed))
      (hseat : s.seats id = some seat)
      (hclosed : ∀ other ∈ closed', other ∈ closed ∨ other = id ∧ seat.sub.closed = true) :
      Happens s (.offer p)
        { s with
          seats := Function.update s.seats id
            (some { seat with sub := seat.sub.publish s.queueCapacity event }),
          publications := s.publications.set p (.offering event rest closed') }
  | unlocked {p : Nat} {event : Event} {closed : List SubscriptionId} {next : Publication}
      (hp : s.publications[p]? = some (.offering event [] closed))
      (hnext : next = .removing closed ∨ next = .done) :
      Happens s (.unlock p) { s with publications := s.publications.set p next }
  | removed {p : Nat} {closed : List SubscriptionId}
      (hp : s.publications[p]? = some (.removing closed)) (hwritable : s.writable = true) :
      Happens s (.remove p)
        { s with subscribers := s.subscribers.filter (! closed.contains ·),
                 publications := s.publications.set p .done }
  | rejected {id : SubscriptionId} {filter : EventFilter} : Happens s (.subscribe id filter) s
  | subscribed {id : SubscriptionId} {filter : EventFilter} (halive : s.alive = true)
      (hwritable : s.writable = true) (hfresh : s.seats id = none) :
      Happens s (.subscribe id filter)
        { s with subscribers := s.subscribers ++ [id],
                 seats := Function.update s.seats id (some ⟨.new id filter, false⟩) }
  | consumed {id : SubscriptionId} {action : ConsumerAction} {seat seat' : Seat}
      {answer : Option BusAnswer} (hseat : s.seats id = some seat)
      (hstep : seat.step s.alive action = some (seat', answer)) :
      Happens s (.consume id action)
        { s with seats := Function.update s.seats id (some seat') }
  | detached {id : SubscriptionId} {seat : Seat} (hseat : s.seats id = some seat)
      (hclosed : seat.sub.closed = true) (hwritable : s.writable = true) :
      Happens s (.detach id) { s with subscribers := s.subscribers.erase id }
  | dropped (halive : s.alive = true) (hdone : ∀ publication ∈ s.publications, publication = .done) :
      Happens s .dropBus { s with alive := false, subscribers := [] }

theorem happens_of_step {s s' : MemoryEventBus} {event : BusEvent} (h : s.step event = some s') :
    Happens s event s' := by
  cases event with
  | publish event order =>
    simp only [step] at h
    split_ifs at h with hguard
    cases h
    exact .published hguard.1 (List.isPerm_iff.mp hguard.2)
  | offer p =>
    simp only [step] at h
    split at h
    case h_1 event id rest closed hp =>
      obtain ⟨seat, hseat, rfl⟩ := Option.map_eq_some_iff.mp h
      apply Happens.offered hp hseat
      intro other hother
      split_ifs at hother with hrefused
      · rcases List.mem_append.mp hother with hother | hother
        · exact .inl hother
        · exact .inr ⟨List.mem_singleton.mp hother, (Bool.and_eq_true_iff.mp hrefused).2⟩
      · exact .inl hother
    case h_2 => cases h
  | unlock p =>
    simp only [step] at h
    split at h
    case h_1 event closed hp =>
      cases h
      apply Happens.unlocked hp
      cases closed with
      | nil => exact .inr rfl
      | cons => exact .inl rfl
    case h_2 => cases h
  | remove p =>
    simp only [step] at h
    split at h
    case h_1 closed hp =>
      split_ifs at h with hwritable
      cases h
      exact .removed hp hwritable
    case h_2 => cases h
  | subscribe id filter =>
    simp only [step] at h
    split at h
    case h_1 =>
      cases h
      exact .rejected
    case h_2 =>
      split_ifs at h with hguard
      cases h
      obtain ⟨halive, hwritable, hfresh⟩ := hguard
      exact .subscribed halive hwritable (Option.isNone_iff_eq_none.mp hfresh)
  | consume id action =>
    simp only [step, Option.bind_eq_bind, Option.bind_eq_some_iff] at h
    obtain ⟨seat, hseat, ⟨seat', answer⟩, hstep, h⟩ := h
    cases h
    exact .consumed hseat hstep
  | detach id =>
    simp only [step] at h
    split_ifs at h with hguard
    cases h
    obtain ⟨hany, hwritable⟩ := hguard
    obtain ⟨seat, hseat, hclosed⟩ := (Option.any_eq_true _ _).mp hany
    exact .detached hseat hclosed hwritable
  | dropBus =>
    simp only [step] at h
    split_ifs at h with hguard
    cases h
    apply Happens.dropped hguard.1
    intro publication hmem
    have hdone := List.all_eq_true.mp hguard.2 publication hmem
    cases publication with
    | done => rfl
    | offering | removing => cases hdone

/-- The map, the subscriptions and the publications in flight fit together: a subscription leaves
the map only once it is closed, or with the bus. -/
structure Sound (s : MemoryEventBus) : Prop where
  nodup : s.subscribers.Nodup
  known : ∀ id ∈ s.subscribers, (s.seats id).isSome
  named : ∀ id seat, s.seats id = some seat → seat.sub.id = id
  registered : ∀ id seat, s.seats id = some seat → seat.sub.closed = false → s.alive = true →
    id ∈ s.subscribers
  rest : ∀ publication ∈ s.publications, ∀ id ∈ publication.rest, (s.seats id).isSome
  closed : ∀ publication ∈ s.publications, ∀ id ∈ publication.closed,
    ∃ seat, s.seats id = some seat ∧ seat.sub.closed = true
  running : s.alive = false → ∀ publication ∈ s.publications, publication = .done

section Soundness
variable {s s' : MemoryEventBus} {event : BusEvent}

theorem sound_start {capacity : Nat} (h : withQueueCapacity capacity = .ok s) : Sound s := by
  unfold withQueueCapacity at h
  split_ifs at h
  cases h
  constructor <;> simp

/-- A subscription that is there stays there. -/
theorem Happens.keeps (h : Happens s event s') {id : SubscriptionId} {seat : Seat}
    (hseat : s.seats id = some seat) : ∃ seat', s'.seats id = some seat' ∧ seat.Becomes seat' := by
  cases h with
  | @offered _ event other _ _ _ current _ hcurrent _ =>
    by_cases hid : id = other
    · subst hid
      cases hseat.symm.trans hcurrent
      exact ⟨_, Function.update_self .., seat.becomes_publish s.queueCapacity event⟩
    · exact ⟨seat, (Function.update_of_ne hid ..).trans hseat, .refl seat⟩
  | @subscribed other _ _ _ hfresh =>
    have hid : id ≠ other := by
      intro heq
      rw [heq, hfresh] at hseat
      cases hseat
    exact ⟨seat, (Function.update_of_ne hid ..).trans hseat, .refl seat⟩
  | @consumed other _ current next _ hcurrent hstep =>
    by_cases hid : id = other
    · subst hid
      cases hseat.symm.trans hcurrent
      exact ⟨next, Function.update_self .., Seat.becomes_step hstep⟩
    · exact ⟨seat, (Function.update_of_ne hid ..).trans hseat, .refl seat⟩
  | published | unlocked | removed | rejected | detached | dropped =>
    exact ⟨seat, hseat, .refl seat⟩

theorem Happens.keeps_known (h : Happens s event s') {id : SubscriptionId}
    (hid : (s.seats id).isSome) : (s'.seats id).isSome := by
  obtain ⟨seat, hseat⟩ := Option.isSome_iff_exists.mp hid
  obtain ⟨seat', hseat', -⟩ := h.keeps hseat
  rw [hseat']
  rfl

theorem Happens.keeps_closed (h : Happens s event s') {id : SubscriptionId}
    (hid : ∃ seat, s.seats id = some seat ∧ seat.sub.closed = true) :
    ∃ seat, s'.seats id = some seat ∧ seat.sub.closed = true := by
  obtain ⟨seat, hseat, hclosed⟩ := hid
  obtain ⟨seat', hseat', hbecomes⟩ := h.keeps hseat
  exact ⟨seat', hseat', hbecomes.closed hclosed⟩

/-- A publication that is new or has moved on belongs to a live bus, and knows its subscriptions. -/
theorem Happens.publication_mem (h : Happens s event s') (hs : Sound s)
    {publication : Publication} (hmem : publication ∈ s'.publications) :
    publication ∈ s.publications ∨ s.alive = true ∧
      (∀ id ∈ publication.rest, (s.seats id).isSome) ∧
      ∀ id ∈ publication.closed, ∃ seat, s.seats id = some seat ∧ seat.sub.closed = true := by
  have halive {p : Nat} {old : Publication} (hp : s.publications[p]? = some old)
      (hbusy : old ≠ .done) : s.alive = true := by
    apply Bool.eq_true_of_not_eq_false
    intro hgone
    exact hbusy (hs.running hgone old (List.mem_of_getElem? hp))
  cases h with
  | @published event order hbus horder =>
    rcases List.mem_append.mp hmem with hold | hnew
    · exact .inl hold
    · rw [List.mem_singleton.mp hnew]
      refine .inr ⟨hbus, fun id hid => ?_, fun id hid => (List.not_mem_nil hid).elim⟩
      exact hs.known id (horder.mem_iff.mp hid)
  | @offered p event id rest closed closed' seat hp hseat hclosed =>
    rcases List.mem_or_eq_of_mem_set hmem with hold | rfl
    · exact .inl hold
    · have hbefore := List.mem_of_getElem? hp
      refine .inr ⟨halive hp nofun, fun other hother => ?_, fun other hother => ?_⟩
      · exact hs.rest _ hbefore other (List.mem_cons_of_mem _ hother)
      · rcases hclosed other hother with hother | ⟨rfl, hrefused⟩
        · exact hs.closed _ hbefore other hother
        · exact ⟨seat, hseat, hrefused⟩
  | @unlocked p event closed next hp hnext =>
    rcases List.mem_or_eq_of_mem_set hmem with hold | rfl
    · exact .inl hold
    · rcases hnext with rfl | rfl
      · refine .inr ⟨halive hp nofun, fun id hid => (List.not_mem_nil hid).elim, fun id hid => ?_⟩
        exact hs.closed _ (List.mem_of_getElem? hp) id hid
      · exact .inr ⟨halive hp nofun, nofun, nofun⟩
  | @removed p closed hp hwritable =>
    rcases List.mem_or_eq_of_mem_set hmem with hold | rfl
    · exact .inl hold
    · exact .inr ⟨halive hp nofun, nofun, nofun⟩
  | rejected | subscribed | consumed | detached | dropped => exact .inl hmem

/-- An open subscription stays in the map while the bus lives. -/
theorem Happens.keeps_registered (h : Happens s event s') (hs : Sound s) {id : SubscriptionId}
    {seat : Seat} (hseat : s'.seats id = some seat) (hopen : seat.sub.closed = false)
    (halive : s'.alive = true) : id ∈ s'.subscribers := by
  have hold {before : Seat} (hbefore : s.seats id = some before) (hlive : s.alive = true) :
      before.sub.closed = false ∧ id ∈ s.subscribers := by
    obtain ⟨seat', hseat', hbecomes⟩ := h.keeps hbefore
    cases hseat'.symm.trans hseat
    have hwas := hbecomes.open_before hopen
    exact ⟨hwas, hs.registered id before hbefore hwas hlive⟩
  cases h with
  | published | unlocked | rejected => exact (hold hseat halive).2
  | @offered _ _ other _ _ _ current _ hcurrent _ =>
    by_cases hid : id = other
    · subst hid
      exact (hold hcurrent halive).2
    · exact (hold ((Function.update_of_ne hid ..).symm.trans hseat) halive).2
  | @consumed other _ current _ _ hcurrent _ =>
    by_cases hid : id = other
    · subst hid
      exact (hold hcurrent halive).2
    · exact (hold ((Function.update_of_ne hid ..).symm.trans hseat) halive).2
  | @subscribed other _ _ _ _ =>
    by_cases hid : id = other
    · subst hid
      exact List.mem_append_right _ (List.mem_singleton_self id)
    · have hbefore := (Function.update_of_ne hid ..).symm.trans hseat
      exact List.mem_append_left _ (hold hbefore halive).2
  | @removed p closed hp _ =>
    obtain ⟨hwas, hmem⟩ := hold hseat halive
    apply List.mem_filter.mpr
    refine ⟨hmem, ?_⟩
    -- Only closed subscriptions are collected.
    have hkept : id ∉ closed := by
      intro hcollected
      obtain ⟨other, hother, hclosed⟩ := hs.closed _ (List.mem_of_getElem? hp) id hcollected
      cases hother.symm.trans hseat
      exact Bool.false_ne_true (hwas.symm.trans hclosed)
    simpa using hkept
  | @detached other current hcurrent hclosed _ =>
    obtain ⟨hwas, hmem⟩ := hold hseat halive
    have hid : id ≠ other := by
      intro heq
      subst heq
      cases hcurrent.symm.trans hseat
      exact Bool.false_ne_true (hwas.symm.trans hclosed)
    exact (List.mem_erase_of_ne hid).mpr hmem
  | dropped => cases halive

theorem Happens.keeps_named (h : Happens s event s') (hs : Sound s) {id : SubscriptionId}
    {seat : Seat} (hseat : s'.seats id = some seat) : seat.sub.id = id := by
  cases hbefore : s.seats id with
  | some before =>
    obtain ⟨seat', hseat', hbecomes⟩ := h.keeps hbefore
    cases hseat'.symm.trans hseat
    exact hbecomes.id.trans (hs.named id before hbefore)
  | none =>
    cases h with
    | @subscribed other _ _ _ _ =>
      by_cases hid : id = other
      · subst hid
        cases (Function.update_self ..).symm.trans hseat
        rfl
      · cases hbefore.symm.trans ((Function.update_of_ne hid ..).symm.trans hseat)
    | @offered _ _ other _ _ _ current _ hcurrent _ =>
      have hid : id ≠ other := by
        intro heq
        cases hbefore.symm.trans (heq ▸ hcurrent)
      cases hbefore.symm.trans ((Function.update_of_ne hid ..).symm.trans hseat)
    | @consumed other _ current _ _ hcurrent _ =>
      have hid : id ≠ other := by
        intro heq
        cases hbefore.symm.trans (heq ▸ hcurrent)
      cases hbefore.symm.trans ((Function.update_of_ne hid ..).symm.trans hseat)
    | published | unlocked | removed | rejected | detached | dropped =>
      cases hbefore.symm.trans hseat

theorem Sound.happens (hs : Sound s) (h : Happens s event s') : Sound s' := by
  constructor
  case nodup =>
    cases h with
    | @subscribed id _ _ _ hfresh =>
      apply List.nodup_append.mpr
      refine ⟨hs.nodup, List.nodup_singleton id, fun other hother id' hid heq => ?_⟩
      rw [heq, List.mem_singleton.mp hid] at hother
      have hknown := hs.known id hother
      rw [hfresh] at hknown
      cases hknown
    | removed => exact hs.nodup.filter _
    | detached => exact hs.nodup.erase _
    | dropped => exact List.nodup_nil
    | published | offered | unlocked | rejected | consumed => exact hs.nodup
  case known =>
    intro id hid
    have hkept (hmem : id ∈ s.subscribers) : (s'.seats id).isSome :=
      h.keeps_known (hs.known id hmem)
    cases h with
    | subscribed =>
      rcases List.mem_append.mp hid with hid | hid
      · exact hkept hid
      · rw [List.mem_singleton.mp hid]
        exact Option.isSome_of_eq_some (Function.update_self ..)
    | removed => exact hkept (List.mem_of_mem_filter hid)
    | detached => exact hkept (List.mem_of_mem_erase hid)
    | dropped => cases hid
    | published | unlocked | rejected | offered | consumed => exact hkept hid
  case named => exact fun id seat hseat => h.keeps_named hs hseat
  case registered => exact fun id seat hseat => h.keeps_registered hs hseat
  case rest =>
    intro publication hmem id hid
    rcases h.publication_mem hs hmem with hold | ⟨-, hrest, -⟩
    · exact h.keeps_known (hs.rest publication hold id hid)
    · exact h.keeps_known (hrest id hid)
  case closed =>
    intro publication hmem id hid
    rcases h.publication_mem hs hmem with hold | ⟨-, -, hclosed⟩
    · exact h.keeps_closed (hs.closed publication hold id hid)
    · exact h.keeps_closed (hclosed id hid)
  case running =>
    intro hgone publication hmem
    cases h with
    | dropped _ hdone => exact hdone publication hmem
    | rejected | consumed | detached => exact hs.running hgone publication hmem
    | published halive | subscribed halive => cases halive.symm.trans hgone
    | offered hp hseat hclosed =>
      have hbusy := hs.running hgone _ (List.mem_of_getElem? hp)
      cases hbusy
    | unlocked hp hnext =>
      have hbusy := hs.running hgone _ (List.mem_of_getElem? hp)
      cases hbusy
    | removed hp hwritable =>
      have hbusy := hs.running hgone _ (List.mem_of_getElem? hp)
      cases hbusy

end Soundness

end MemoryEventBus
end OrbitRelay
