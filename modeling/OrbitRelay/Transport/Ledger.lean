import OrbitRelay.Transport.Subscriptions

/-! A ledger of the subscriptions, kept from the coordinator's exchanges alone, and what the loop
promises about it: the map holds what the ledger holds, and what leaves it was told to the client
or belongs to a failed source. -/
namespace OrbitRelay
open Pausing

/-- The entries of the map, the event of the present turn, and the entry taken out in it. -/
structure Ledger where
  entries : List (TransportSubscriptionId × SubscriptionHandle)
  event : Option CoordinatorEvent
  removed : Option (TransportSubscriptionId × SubscriptionHandle)

def Ledger.step (ledger : Ledger) : CoordinatorExchange → Ledger
  | ⟨_, .select, input⟩ => ⟨ledger.entries, input.event?, none⟩
  | ⟨_, .spawnPump id _ _, handle⟩ =>
    { ledger with entries := ledger.entries ++ ([(id, handle)] : List (_ × SubscriptionHandle)) }
  | ⟨_, .perform (.cancelPump handle), _⟩ =>
    { ledger with entries := ledger.entries.filter (·.2 ≠ handle),
                  removed := ledger.entries.find? (·.2 = handle) }
  | _ => ledger

def ledger (h : CoordinatorTrace) : Ledger := h.foldl .step ⟨[], none, none⟩

theorem ledger_snoc (h : CoordinatorTrace) (e : CoordinatorExchange) :
    ledger (h ++ [e]) = (ledger h).step e := by
  simp [ledger]

/-- The client was told that the subscription is closed, after its pump was joined. -/
def ClosedFor (h : CoordinatorTrace) (entry : TransportSubscriptionId × SubscriptionHandle) :
    Prop :=
  ∃ before e after, h = before ++ e :: after ∧ entry.2.pump ∈ joined before ∧
    announcedIn e = some (.closed entry.1)

/-- The closing that answers an `Unsubscribe` was refused. -/
def refusedClosing : CoordinatorExchange → Bool
  | ⟨_, .enqueue (.application _ (.subscriptionClosed ⟨some _, _⟩)), false⟩ => true
  | _ => false

/-- The last thing that happened is a refused closing. -/
def ClosingRefused (h : CoordinatorTrace) : Prop := h.getLast?.any refusedClosing = true

/-- The ledger has the entries of the map, each with a pump of its own. -/
structure Booked (h : CoordinatorTrace) (s : Coordinator) : Prop where
  entries : ∀ entry ∈ s.subscriptions, entry ∈ (ledger h).entries
  spawned : ∀ entry ∈ (ledger h).entries, entry ∈ spawned h
  ids : ((ledger h).entries.map Prod.fst).Nodup
  handles : ((ledger h).entries.map Prod.snd).Nodup

/-- What was taken out in this turn was joined. -/
def RemovedJoined (h : CoordinatorTrace) : Prop :=
  ∀ entry ∈ (ledger h).removed, entry.2.pump ∈ joined h

/-- Between two turns: what was taken out was told or has failed, and what the event was about is
out. -/
structure Settled (h : CoordinatorTrace) (s : Coordinator) : Prop extends Booked h s where
  full : ∀ entry ∈ (ledger h).entries, entry ∈ s.subscriptions
  joined : RemovedJoined h
  told : ∀ entry ∈ (ledger h).removed, ClosedFor h entry ∨
    ∃ error queued, (ledger h).event = some (.eventSourceFailed entry.1 error false queued)
  out : ∀ event ∈ (ledger h).event, ∀ entry ∈ (ledger h).entries,
    event.subscription? ≠ some entry.1

/-- What the ledger says when the coordinator asks for this. -/
def Allows (h : CoordinatorTrace) (s : Coordinator) : CoordinatorRequest → Prop
  | .select => Settled h s
  | .spawnPump id _ _ => (∀ entry ∈ (ledger h).entries, entry.1 ≠ id) ∧
      (ledger h).event = none ∧ (ledger h).removed = none
  | .perform (.cancelPump handle) => (ledger h).removed = none ∧
      ∃ id, (id, handle) ∈ (ledger h).entries
  | .perform (.join _) => True
  | _ => RemovedJoined h

/-- Every pump gets a handle of its own, and a queue that refused a closing also refuses the error
that follows it. -/
def subscriptionEnds : Contract CoordinatorRequest CoordinatorRequest.Answer Coordinator where
  rely
    | h, _, .spawnPump .., handle => ∀ entry ∈ spawned h, entry.2 ≠ handle
    | h, _, .enqueue (.error _ none _), queued => ClosingRefused h → queued = false
    | _, _, _, _ => True
  guarantee h s q := Booked h s ∧ Allows h s q

section Records
variable {h : CoordinatorTrace} {s : Coordinator} {q : CoordinatorRequest}
  {entry : TransportSubscriptionId × SubscriptionHandle}

theorem closedFor_snoc (hentry : ClosedFor h entry) (e : CoordinatorExchange) :
    ClosedFor (h ++ [e]) entry := by
  obtain ⟨before, e', after, rfl, hjoined, hclosed⟩ := hentry
  refine ⟨before, e', after ++ [e], ?_, hjoined, hclosed⟩
  rw [List.append_assoc, List.cons_append]

theorem closedFor_of_last {e : CoordinatorExchange} (hjoined : entry.2.pump ∈ joined h)
    (hclosed : announcedIn e = some (.closed entry.1)) : ClosedFor (h ++ [e]) entry :=
  ⟨h, e, [], rfl, hjoined, hclosed⟩

/-- The requests that leave the ledger alone. -/
def CoordinatorRequest.isInert : CoordinatorRequest → Bool
  | .select | .spawnPump .. | .perform (.cancelPump _) => false
  | _ => true

theorem ledger_of_inert (hq : q.isInert = true) (h : CoordinatorTrace) (s : Coordinator)
    (a : q.Answer) : ledger (h ++ [⟨s, q, a⟩]) = ledger h := by
  rw [ledger_snoc]
  cases q with
  | select | spawnPump id version codec => cases hq
  | perform effect =>
    cases effect with
    | cancelPump handle => cases hq
    | _ => rfl
  | _ => rfl

theorem mem_spawned_snoc (hmem : entry ∈ spawned h) (e : CoordinatorExchange) :
    entry ∈ spawned (h ++ [e]) := by
  rw [spawned_snoc]
  exact List.mem_append_left _ hmem

theorem RemovedJoined.snoc (hs : RemovedJoined h) (hq : q.isInert = true) (s : Coordinator)
    (a : q.Answer) : RemovedJoined (h ++ [⟨s, q, a⟩]) := by
  unfold RemovedJoined
  rw [ledger_of_inert hq, joined_snoc]
  exact fun entry hentry => List.mem_append_left _ (hs entry hentry)

theorem Booked.snoc (hs : Booked h s) (hq : q.isInert = true) (state : Coordinator)
    (a : q.Answer) : Booked (h ++ [⟨state, q, a⟩]) s := by
  have hledger := ledger_of_inert hq h state a
  constructor
  · rw [hledger]
    exact hs.entries
  · rw [hledger]
    exact fun entry hentry => mem_spawned_snoc (hs.spawned entry hentry) _
  · rw [hledger]
    exact hs.ids
  · rw [hledger]
    exact hs.handles

theorem Settled.snoc (hs : Settled h s) (hq : q.isInert = true) (state : Coordinator)
    (a : q.Answer) : Settled (h ++ [⟨state, q, a⟩]) s := by
  have hledger := ledger_of_inert hq h state a
  constructor
  case toBooked => exact hs.toBooked.snoc hq state a
  case full =>
    rw [hledger]
    exact hs.full
  case joined => exact hs.joined.snoc hq state a
  case told =>
    rw [hledger]
    exact fun entry hentry =>
      (hs.told entry hentry).imp_left fun hclosed => closedFor_snoc hclosed _
  case out =>
    rw [hledger]
    exact hs.out

theorem Booked.congr (hs : Booked h s) {s' : Coordinator}
    (hstate : s'.subscriptions = s.subscriptions) : Booked h s' := by
  refine ⟨?_, hs.spawned, hs.ids, hs.handles⟩
  rw [hstate]
  exact hs.entries

theorem Settled.congr (hs : Settled h s) {s' : Coordinator}
    (hstate : s'.subscriptions = s.subscriptions) : Settled h s' := by
  refine ⟨hs.toBooked.congr hstate, ?_, hs.joined, hs.told, hs.out⟩
  rw [hstate]
  exact hs.full

/-- An inert request only needs what was taken out to be joined. -/
theorem allows_of_inert (hq : q.isInert = true) (hs : RemovedJoined h) : Allows h s q := by
  unfold Allows
  split
  · cases hq
  · cases hq
  · cases hq
  · trivial
  · exact hs

theorem Settled.promise (hs : Settled h s) (hq : q.isInert = true) :
    subscriptionEnds.guarantee h s q :=
  ⟨hs.toBooked, allows_of_inert hq hs.joined⟩

/-- The course of a turn that has taken nothing out. -/
structure Received (h : CoordinatorTrace) (s : Coordinator) (event : Option CoordinatorEvent) :
    Prop extends Booked h s where
  full : ∀ entry ∈ (ledger h).entries, entry ∈ s.subscriptions
  event : (ledger h).event = event
  removed : (ledger h).removed = none

/-- The ledger after a `select!`. -/
theorem Settled.receive (hs : Settled h s) (state : Coordinator) (input : CoordinatorInput) :
    Received (h ++ [⟨state, .select, input⟩]) s input.event? := by
  have hledger : ledger (h ++ [⟨state, .select, input⟩]) =
      ⟨(ledger h).entries, input.event?, none⟩ := ledger_snoc ..
  have hbooked : Booked (h ++ [⟨state, .select, input⟩]) s := by
    constructor
    · rw [hledger]
      exact hs.entries
    · rw [hledger]
      exact fun entry hentry => mem_spawned_snoc (hs.spawned entry hentry) _
    · rw [hledger]
      exact hs.ids
    · rw [hledger]
      exact hs.handles
  refine ⟨hbooked, ?_, ?_, ?_⟩
  all_goals rw [hledger]
  exact hs.full

theorem Received.snoc {event : Option CoordinatorEvent} (hs : Received h s event)
    (hq : q.isInert = true) (state : Coordinator) (a : q.Answer) :
    Received (h ++ [⟨state, q, a⟩]) s event := by
  have hledger := ledger_of_inert hq h state a
  refine ⟨hs.toBooked.snoc hq state a, ?_, ?_, ?_⟩
  · rw [hledger]
    exact hs.full
  · rw [hledger]
    exact hs.event
  · rw [hledger]
    exact hs.removed

theorem Received.removedJoined {event : Option CoordinatorEvent} (hs : Received h s event) :
    RemovedJoined h := by
  intro entry hentry
  rw [hs.removed] at hentry
  exact (Option.not_mem_none _ hentry).elim

theorem Received.promise {event : Option CoordinatorEvent} (hs : Received h s event)
    (hq : q.isInert = true) : subscriptionEnds.guarantee h s q :=
  ⟨hs.toBooked, allows_of_inert hq hs.removedJoined⟩

/-- A turn that takes nothing out, for an input that is about no entry. -/
theorem Received.settled {event : Option CoordinatorEvent} (hs : Received h s event)
    (hevent : ∀ e ∈ event, ∀ entry ∈ (ledger h).entries, e.subscription? ≠ some entry.1) :
    Settled h s := by
  refine ⟨hs.toBooked, hs.full, hs.removedJoined, ?_, ?_⟩
  · intro entry hentry
    rw [hs.removed] at hentry
    exact (Option.not_mem_none _ hentry).elim
  · rw [hs.event]
    exact hevent

theorem Received.opened (hs : Received h s none) : Settled h s :=
  hs.settled fun _ hmem => (Option.not_mem_none _ hmem).elim

end Records
section Handlers
variable {settings : SessionSettings} {h : CoordinatorTrace} {s : Coordinator}

theorem Received.fresh (hs : Received h s none) {id : TransportSubscriptionId}
    (hnew : ¬ s.subscriptions.any (·.1 == id) = true) :
    ∀ entry ∈ (ledger h).entries, entry.1 ≠ id := by
  intro entry hentry heq
  exact hnew (List.any_eq_true.mpr ⟨entry, hs.full entry hentry, by simpa using heq⟩)

/-- A pump is spawned for an identifier that is not in the map. -/
theorem Received.spawn (hs : Received h s none) {id : TransportSubscriptionId} {version : Version}
    {codec : MessageCodec} {handle : SubscriptionHandle}
    (hid : ∀ entry ∈ (ledger h).entries, entry.1 ≠ id)
    (hhandle : ∀ entry ∈ spawned h, entry.2 ≠ handle) :
    Received (h ++ [⟨s, .spawnPump id version codec, handle⟩])
      { s with subscriptions := s.subscriptions ++ [(id, handle)] } none := by
  have hledger : ledger (h ++ [⟨s, .spawnPump id version codec, handle⟩]) =
      { ledger h with entries := (ledger h).entries ++ [(id, handle)] } := ledger_snoc ..
  have hspawned : OrbitRelay.spawned (h ++ [⟨s, .spawnPump id version codec, handle⟩]) =
      OrbitRelay.spawned h ++ [(id, handle)] := spawned_snoc ..
  have hbooked : Booked (h ++ [⟨s, .spawnPump id version codec, handle⟩])
      { s with subscriptions := s.subscriptions ++ [(id, handle)] } := by
    constructor
    · rw [hledger]
      exact List.append_subset.mpr
        ⟨fun entry hentry => List.mem_append_left _ (hs.entries entry hentry),
          List.subset_append_right _ _⟩
    · rw [hledger, hspawned]
      exact List.append_subset.mpr
        ⟨fun entry hentry => List.mem_append_left _ (hs.spawned entry hentry),
          List.subset_append_right _ _⟩
    · rw [hledger, List.map_append]
      refine List.nodup_append.mpr ⟨hs.ids, List.nodup_singleton _, ?_⟩
      intro other hother id' hid'
      obtain ⟨entry, hentry, rfl⟩ := List.mem_map.mp hother
      rw [List.mem_singleton.mp hid']
      exact hid entry hentry
    · rw [hledger, List.map_append]
      refine List.nodup_append.mpr ⟨hs.handles, List.nodup_singleton _, ?_⟩
      intro other hother handle' hhandle'
      obtain ⟨entry, hentry, rfl⟩ := List.mem_map.mp hother
      rw [List.mem_singleton.mp hhandle']
      exact hhandle entry (hs.spawned entry hentry)
  refine ⟨hbooked, ?_, ?_, ?_⟩
  all_goals rw [hledger]
  · exact List.append_subset.mpr ⟨fun entry hentry => List.mem_append_left _ (hs.full entry hentry),
      List.subset_append_right _ _⟩
  · exact hs.event
  · exact hs.removed

theorem handleSubscribe_ends (hs : Received h s none) (request : SubscriptionRequest) :
    (handleSubscribe request).run.wp subscriptionEnds (fun _ => Settled) h s := by
  refine wp_whenReady (fun _ _ => hs.opened) fun _ => ?_
  simp only [Proc.wp_run_bind, Proc.wp_run_get, Proc.afterResult_ok]
  cases s.connection.identity with
  | none => exact hs.opened
  | some binding =>
    simp only [Proc.wp_run_bind, Proc.wp_run_liftM, wp_authorize]
    refine ⟨hs.promise rfl, fun answer _ => ?_⟩
    replace hs := hs.snoc (q := .authorize binding request) rfl s answer
    rcases answer with e | ⟨⟨⟩⟩
    · exact hs.opened
    simp only [wp_orThrow_ok, Proc.afterResult_ok, Proc.wp_run_bind, Proc.wp_run_liftM,
      wp_subscribe]
    refine ⟨hs.promise rfl, fun answer _ => ?_⟩
    replace hs := hs.snoc (q := .subscribe request) rfl s answer
    rcases answer with e | id
    · exact hs.opened
    simp only [wp_orThrow_ok, Proc.afterResult_ok, Proc.afterResult_error, Proc.wp_run_bind,
      Proc.wp_run_get, Proc.wp_run_ite, Proc.wp_run_throw]
    refine ⟨fun _ => hs.opened, fun hnew => ?_⟩
    cases s.negotiatedVersion with
    | none => exact hs.opened
    | some version =>
      simp only [Proc.afterResult_ok, Proc.wp_run_bind, Proc.wp_run_get, Proc.wp_run_ite,
        Proc.wp_run_throw, Proc.wp_run_liftM, wp_enqueue, wp_perform, wp_spawnPump,
        Proc.wp_run_modify]
      refine ⟨hs.promise rfl, fun queued _ => ?_⟩
      replace hs := hs.snoc (q := .enqueue (.application s.activeCodec
        (.subscriptionAccepted ⟨request.requestId, id⟩))) rfl s queued
      refine ⟨fun _ => ⟨hs.promise rfl, fun answer _ => ?_⟩, fun _ => ?_⟩
      · exact hs.opened.snoc (q := .perform (.closeSource id)) rfl s answer
      · have hid := hs.fresh hnew
        refine ⟨⟨hs.toBooked, hid, hs.event, hs.removed⟩, fun handle hhandle => ?_⟩
        exact (hs.spawn hid hhandle).opened

/-- An entry was taken out, and its pump joined. -/
structure Ending (h : CoordinatorTrace) (s : Coordinator) (id : TransportSubscriptionId)
    (handle : SubscriptionHandle) : Prop extends Booked h s where
  full : ∀ entry ∈ (ledger h).entries, entry ∈ s.subscriptions
  removed : (ledger h).removed = some (id, handle)
  gone : ∀ entry ∈ (ledger h).entries, entry.1 ≠ id
  joined : handle.pump ∈ joined h

theorem Ending.removedJoined {id : TransportSubscriptionId} {handle : SubscriptionHandle}
    (hs : Ending h s id handle) : RemovedJoined h := by
  intro entry hentry
  rw [hs.removed] at hentry
  cases hentry
  exact hs.joined

theorem Ending.snoc {id : TransportSubscriptionId} {handle : SubscriptionHandle}
    (hs : Ending h s id handle) {q : CoordinatorRequest} (hq : q.isInert = true)
    (state : Coordinator) (a : q.Answer) : Ending (h ++ [⟨state, q, a⟩]) s id handle := by
  have hledger := ledger_of_inert hq h state a
  constructor
  case toBooked => exact hs.toBooked.snoc hq state a
  case full =>
    rw [hledger]
    exact hs.full
  case removed =>
    rw [hledger]
    exact hs.removed
  case gone =>
    rw [hledger]
    exact hs.gone
  case joined =>
    rw [joined_snoc]
    exact List.mem_append_left _ hs.joined

/-- Once it was told, or the source has failed, an ended subscription is settled. -/
theorem Ending.settled {id : TransportSubscriptionId} {handle : SubscriptionHandle}
    (hs : Ending h s id handle)
    (htold : ClosedFor h (id, handle) ∨
      ∃ error queued, (ledger h).event = some (.eventSourceFailed id error false queued))
    (hevent : ∀ event ∈ (ledger h).event, ∀ other, event.subscription? = some other → other = id) :
    Settled h s := by
  refine ⟨hs.toBooked, hs.full, hs.removedJoined, ?_, ?_⟩
  · intro entry hentry
    rw [hs.removed] at hentry
    cases hentry
    exact htold
  · intro event hmem entry hentry hid
    exact hs.gone entry hentry (hevent event hmem _ hid)

/-- An entry is named by its identifier and by its handle. -/
theorem eq_of_map {β : Type} {f : TransportSubscriptionId × SubscriptionHandle → β}
    {entries : List (TransportSubscriptionId × SubscriptionHandle)}
    (hnodup : (entries.map f).Nodup) {entry entry' : TransportSubscriptionId × SubscriptionHandle}
    (hentry : entry ∈ entries) (hentry' : entry' ∈ entries) (heq : f entry = f entry') :
    entry = entry' :=
  List.inj_on_of_nodup_map hnodup hentry hentry' heq

/-- The ledger finds the entry by its handle. -/
theorem ledger_cancelPump (hs : Booked h s) {id : TransportSubscriptionId}
    {handle : SubscriptionHandle} (hentry : (id, handle) ∈ (ledger h).entries)
    (state : Coordinator) : ledger (h ++ [⟨state, .perform (.cancelPump handle), ()⟩]) =
      ⟨(ledger h).entries.filter (·.2 ≠ handle), (ledger h).event, some (id, handle)⟩ := by
  have hfound : (ledger h).entries.find? (·.2 = handle) = some (id, handle) := by
    have hsome : ((ledger h).entries.find? (·.2 = handle)).isSome = true :=
      List.find?_isSome.mpr ⟨(id, handle), hentry, by simp⟩
    obtain ⟨entry, hentry'⟩ := Option.isSome_iff_exists.mp hsome
    have hhandle : entry.2 = handle := by simpa using List.find?_some hentry'
    rw [hentry', eq_of_map hs.handles (List.mem_of_find?_eq_some hentry') hentry hhandle]
  rw [ledger_snoc]
  show Ledger.mk _ _ _ = _
  rw [hfound]

/-- What is left has other handles and other identifiers. -/
theorem Booked.left (hs : Booked h s) {id : TransportSubscriptionId} {handle : SubscriptionHandle}
    (hentry : (id, handle) ∈ (ledger h).entries)
    {entry : TransportSubscriptionId × SubscriptionHandle} :
    entry ∈ (ledger h).entries.filter (·.2 ≠ handle) ↔
      entry ∈ (ledger h).entries ∧ entry.1 ≠ id := by
  rw [List.mem_filter]
  constructor
  · rintro ⟨hmem, hne⟩
    refine ⟨hmem, fun heq => ?_⟩
    rw [eq_of_map hs.ids hmem hentry heq] at hne
    simp at hne
  · rintro ⟨hmem, hne⟩
    refine ⟨hmem, decide_eq_true fun heq => hne ?_⟩
    rw [eq_of_map hs.handles hmem hentry heq]

/-- An entry is taken out of the map, and its pump is cancelled and joined. -/
theorem Received.stopPump {event : Option CoordinatorEvent} (hs : Received h s event)
    {id : TransportSubscriptionId} {handle : SubscriptionHandle} {s' : Coordinator}
    (htaken : removeSubscription id s = some (handle, s'))
    {post : Unit → CoordinatorTrace → Coordinator → Prop}
    (hpost : ∀ h', (ledger h').event = event → Ending h' s' id handle →
      post () h' s') :
    (stopPump handle).wp subscriptionEnds post h s' := by
  obtain ⟨⟨id', handle'⟩, hfind, heq⟩ := Option.map_eq_some_iff.mp htaken
  cases heq
  have hmem := List.mem_of_find?_eq_some hfind
  obtain rfl : id' = id := by simpa using List.find?_some hfind
  have hentry := hs.entries _ hmem
  let s' : Coordinator := { s with subscriptions := s.subscriptions.filter (·.1 != id') }
  have hkept (entry : TransportSubscriptionId × SubscriptionHandle) :
      entry ∈ s'.subscriptions ↔ entry ∈ s.subscriptions ∧ entry.1 ≠ id' := by
    rw [List.mem_filter, bne_iff_ne]
  have hbooked : Booked h s' :=
    ⟨fun entry hmem => hs.entries entry ((hkept entry).mp hmem).1, hs.spawned, hs.ids, hs.handles⟩
  simp only [wp_stopPump, wp_perform]
  refine ⟨⟨hbooked, hs.removed, id', hentry⟩, fun _ _ => ?_⟩
  let h' : CoordinatorTrace := h ++ [⟨s', .perform (.cancelPump handle'), ()⟩]
  have hledger : ledger h' =
      ⟨(ledger h).entries.filter (·.2 ≠ handle'), (ledger h).event, some (id', handle')⟩ :=
    ledger_cancelPump hs.toBooked hentry s'
  have hbooked' : Booked h' s' := by
    constructor
    · rw [hledger]
      intro entry hmem'
      obtain ⟨hmem', hne⟩ := (hkept entry).mp hmem'
      exact (hs.toBooked.left hentry).mpr ⟨hs.entries entry hmem', hne⟩
    · rw [hledger]
      intro entry hmem'
      exact mem_spawned_snoc (hs.spawned entry ((hs.toBooked.left hentry).mp hmem').1) _
    · rw [hledger]
      exact hs.ids.sublist (List.filter_sublist.map _)
    · rw [hledger]
      exact hs.handles.sublist (List.filter_sublist.map _)
  refine ⟨⟨hbooked', trivial⟩, fun _ _ => ?_⟩
  let q : CoordinatorRequest := .perform (.join (.pump handle'.pump))
  have hinert : ledger (h' ++ [⟨s', q, ()⟩]) = ledger h' := ledger_of_inert (q := q) rfl h' s' ()
  refine hpost (h' ++ [⟨s', q, ()⟩]) (by rw [hinert, hledger, hs.event]) ?_
  constructor
  case toBooked => exact hbooked'.snoc (q := q) rfl s' ()
  case full =>
    rw [hinert, hledger]
    intro entry hmem'
    obtain ⟨hmem', hne⟩ := (hs.toBooked.left hentry).mp hmem'
    exact (hkept entry).mpr ⟨hs.full entry hmem', hne⟩
  case removed => rw [hinert, hledger]
  case gone =>
    rw [hinert, hledger]
    exact fun entry hmem' => ((hs.toBooked.left hentry).mp hmem').2
  case joined =>
    rw [joined_snoc]
    exact List.mem_append_right _ (List.mem_singleton_self _)

/-- What a handler leaves: settled subscriptions, or a refused closing. -/
def Concluded (result : Except WebSocketAdapterError Unit) (h : CoordinatorTrace)
    (s : Coordinator) : Prop :=
  Settled h s ∨ (result ≠ .ok () ∧ Booked h s ∧ RemovedJoined h ∧ ClosingRefused h)

/-- The closing is queued, or refused. -/
theorem Ending.close {id : TransportSubscriptionId} {handle : SubscriptionHandle}
    (hs : Ending h s id handle)
    (hevent : ∀ event ∈ (ledger h).event, ∀ other, event.subscription? = some other → other = id)
    (codec : MessageCodec) (requestId : Option MessageId)
    {post : Bool → CoordinatorTrace → Coordinator → Prop}
    (hqueued : ∀ h, Settled h s → post true h s)
    (hrefused : ∀ h, Booked h s → RemovedJoined h →
      (requestId.isSome = true → ClosingRefused h) → post false h s) :
    (queueApplication codec (.subscriptionClosed ⟨requestId, id⟩)).wp
      subscriptionEnds post h s := by
  rw [queueApplication, wp_enqueue]
  let q : CoordinatorRequest := .enqueue (.application codec (.subscriptionClosed ⟨requestId, id⟩))
  refine ⟨⟨hs.toBooked, hs.removedJoined⟩, fun queued _ => ?_⟩
  have hs' := hs.snoc (q := q) rfl s queued
  have hledger : ledger (h ++ [⟨s, q, queued⟩]) = ledger h :=
    ledger_of_inert (q := q) rfl h s queued
  cases queued with
  | true =>
    apply hqueued
    apply hs'.settled (.inl (closedFor_of_last hs.joined rfl))
    rw [hledger]
    exact hevent
  | false =>
    apply hrefused _ hs'.toBooked hs'.removedJoined
    intro hsome
    obtain ⟨request, rfl⟩ := Option.isSome_iff_exists.mp hsome
    unfold ClosingRefused
    rw [List.getLast?_append]
    rfl

theorem handleUnsubscribe_ends (hs : Received h s none) (unsubscribe : Unsubscribe) :
    (handleUnsubscribe unsubscribe).run.wp subscriptionEnds Concluded h s := by
  refine wp_whenReady (fun _ _ => .inl hs.opened) fun _ => ?_
  simp only [Proc.wp_run_bind, Proc.wp_run_get, Proc.afterResult_ok]
  cases htaken : removeSubscription unsubscribe.subscriptionId s with
  | none =>
    simp only [Proc.wp_run_bind, Proc.wp_run_get, Proc.afterResult_ok, wp_required, wp_enqueue]
    refine ⟨hs.promise rfl, fun queued _ => .inl ?_⟩
    exact hs.opened.snoc (q := .enqueue _) rfl s queued
  | some found =>
    obtain ⟨handle, s'⟩ := found
    simp only [Proc.wp_run_bind, Proc.wp_run_set, Proc.afterResult_ok, Proc.wp_run_liftM]
    refine hs.stopPump htaken fun h' hevent hending => ?_
    simp only [Proc.wp_run_bind, Proc.wp_run_get, Proc.afterResult_ok, wp_required]
    refine hending.close ?_ _ _ (fun _ hs => .inl hs) fun _ hbooked hjoined hrefused => ?_
    · rw [hevent]
      exact fun _ hmem => (Option.not_mem_none _ hmem).elim
    · exact .inr ⟨(by intro heq; cases heq), hbooked, hjoined, hrefused rfl⟩

/-- After a refused closing the error is refused as well, and the loop stops. -/
theorem handleMessage_ends (hs : Received h s none) {message : InboundMessage}
    (hsubscribes : message.subscribes = true) :
    (handleMessage settings message).wp
      subscriptionEnds (TurnPost Settled fun _ _ => True) h s := by
  have hinbound : (handleInbound settings message).run.wp subscriptionEnds Concluded h s := by
    cases message with
    | subscribe request => exact Proc.wp_mono (handleSubscribe_ends hs request) fun _ _ _ => .inl
    | unsubscribe unsubscribe => exact handleUnsubscribe_ends hs unsubscribe
    | _ => cases hsubscribes
  unfold handleMessage
  rw [Proc.wp_bind]
  refine Proc.wp_mono hinbound fun result h s hs => ?_
  cases result with
  | ok =>
    rcases hs with hs | ⟨hne, -⟩
    · exact hs
    · exact absurd rfl hne
  | error error =>
    simp only [Proc.wp_bind, Proc.wp_get, Proc.wp_ite, wp_enqueue]
    let q : CoordinatorRequest := .enqueue (.error s.activeCodec none error.toTransportError)
    rcases hs with hs | ⟨-, hbooked, hjoined, hrefused⟩
    · refine ⟨hs.promise (q := q) rfl, fun queued _ => ⟨fun _ => trivial, fun _ => ?_⟩⟩
      exact hs.snoc (q := q) rfl s queued
    · refine ⟨⟨hbooked, hjoined⟩, fun queued hrely => ⟨fun _ => trivial, fun hgoes => ?_⟩⟩
      have hqueued : queued = false := hrely hrefused
      simp [hqueued] at hgoes

/-- An event about a subscription that is not in the map. -/
theorem Received.settled_of_missing {event : CoordinatorEvent} (hs : Received h s (some event))
    {id : TransportSubscriptionId} (hid : event.subscription? = some id)
    (hmissing : removeSubscription id s = none) : Settled h s := by
  apply hs.settled
  intro e he entry hentry heq
  obtain rfl := Option.some.inj he
  have hmem := hs.full entry hentry
  have hnone := List.find?_eq_none.mp (Option.map_eq_none_iff.mp hmissing) entry hmem
  rw [hid] at heq
  simp [Option.some.inj heq] at hnone

theorem handleCoordinatorEvent_ends {event : CoordinatorEvent} (hs : Received h s (some event))
    {id : TransportSubscriptionId} (hid : event.subscription? = some id) :
    (handleCoordinatorEvent settings event).wp subscriptionEnds
      (TurnPost Settled fun _ _ => True) h s := by
  have habout (h' : CoordinatorTrace) (hevent : (ledger h').event = some event) :
      ∀ e ∈ (ledger h').event, ∀ other, e.subscription? = some other → other = id := by
    intro e he other hother
    rw [hevent] at he
    obtain rfl := Option.some.inj he
    exact Option.some.inj (hother.symm.trans hid)
  cases event with
  | subscriptionFinished id' =>
    obtain rfl := Option.some.inj hid
    simp only [handleCoordinatorEvent, Proc.wp_bind, Proc.wp_get]
    cases htaken : removeSubscription id' s with
    | none => exact hs.settled_of_missing rfl htaken
    | some found =>
      obtain ⟨handle, s'⟩ := found
      simp only [Proc.wp_bind, Proc.wp_get, Proc.wp_set]
      refine hs.stopPump htaken fun h' hevent hending => ?_
      exact hending.close (habout h' hevent) _ _ (fun _ hs => hs) fun _ _ _ _ => trivial
  | eventSourceFailed id' error fatal queued =>
    obtain rfl := Option.some.inj hid
    simp only [handleCoordinatorEvent, Proc.wp_ite, Proc.wp_bind, Proc.wp_get]
    refine ⟨fun _ => trivial, fun hfatal => ?_⟩
    cases htaken : removeSubscription id' s with
    | none => exact hs.settled_of_missing rfl htaken
    | some found =>
      obtain ⟨handle, s'⟩ := found
      simp only [Proc.wp_bind, Proc.wp_set, Proc.wp_pure]
      refine hs.stopPump htaken fun h' hevent hending => ?_
      obtain rfl : fatal = false := by simpa using hfatal
      exact hending.settled (.inr ⟨error, queued, hevent⟩) (habout h' hevent)
  | slowConsumer id' =>
    simp only [handleCoordinatorEvent, Proc.wp_bind, Proc.wp_get, wp_enqueue]
    exact ⟨hs.promise rfl, fun _ _ => trivial⟩
  | _ => cases hid

/-- Only what may change the subscriptions asks for more than inert requests. -/
theorem isInert_of_asks {codec : MessageCodec} {input : CoordinatorInput} {q : CoordinatorRequest}
    (hplain : input.subscribes codec = false) (hq : input.asks codec q = true) :
    q.isInert = true := by
  cases q with
  | select =>
    rw [not_asks_select] at hq
    cases hq
  | spawnPump id version codec' => cases isNeutral_of_asks hplain hq
  | perform effect =>
    cases effect with
    | cancelPump handle =>
      obtain ⟨hmessage, hevent⟩ := Bool.or_eq_false_iff.mp hplain
      rw [asks_eq_false rfl rfl (fun message hmem => ?_) fun event hevent' => ?_] at hq
      · cases hq
      · rw [Option.mem_def.mp hmem] at hmessage
        cases message with
        | unsubscribe _ => cases hmessage
        | _ => rfl
      · subst hevent'
        cases event with
        | subscriptionFinished _ | eventSourceFailed _ _ _ _ => cases hevent
        | _ => rfl
    | _ => rfl
  | _ => rfl

/-- Every turn leaves the subscriptions settled. -/
theorem handleInput_ends {input : CoordinatorInput} (hs : Received h s input.event?) :
    (handleInput settings input).wp subscriptionEnds (TurnPost Settled fun _ _ => True) h s := by
  cases hsubscribes : input.subscribes s.activeCodec with
  | false =>
    cases habout : input.event?.bind CoordinatorEvent.subscription? with
    | none =>
      have hsettled : Settled h s := by
        apply hs.settled
        intro e he entry _ heq
        rw [Option.mem_def.mp he, Option.bind_some, heq] at habout
        cases habout
      refine Proc.wp_mono (Proc.wp_carry (I := fun h => Settled h s) (handleInput_asks input)
        (fun h s' q hs hq => ?_) (fun h s' q a hs hq _ => ?_) hsettled) ?_
      · have hs' := hs.congr (hq.2 hsubscribes)
        exact hs'.promise (isInert_of_asks hsubscribes hq.1)
      · exact hs.snoc (isInert_of_asks hsubscribes hq.1) s' a
      · intro control h s' hpost
        cases control with
        | next => exact hpost.1.congr (hpost.2 hsubscribes)
        | stop => trivial
    | some id =>
      obtain ⟨event, hevent, hid⟩ := Option.bind_eq_some_iff.mp habout
      rcases input with _ | told | _
      · cases hevent
      · obtain rfl : told = some event := hevent
        exact handleCoordinatorEvent_ends hs hid
      · cases hevent
  | true =>
    rcases Bool.or_eq_true_iff.mp hsubscribes with hmessage | hevent
    · obtain ⟨message, hmem, hsubscribes⟩ := (Option.any_eq_true _ _).mp hmessage
      obtain ⟨bytes, rfl, hdecoded⟩ := message_eq_some hmem
      simp only [handleInput, handleReaderEvent, handleText, Proc.wp_bind, Proc.wp_get, hdecoded]
      cases message with
      | subscribe _ | unsubscribe _ => exact handleMessage_ends hs rfl
      | _ => cases hsubscribes
    · rcases input with _ | (_ | event) | _
      · cases hevent
      · cases hevent
      · cases event with
        | subscriptionFinished id | eventSourceFailed id _ _ _ =>
          exact @handleCoordinatorEvent_ends settings h s _ hs id rfl
        | _ => cases hevent
      · cases hevent

theorem turn_ends (hs : Settled h s) :
    (turn settings).wp subscriptionEnds (TurnPost Settled fun _ _ => True) h s := by
  rw [turn_eq, Proc.wp_bind, wp_select]
  exact ⟨⟨hs.toBooked, hs⟩, fun input _ => handleInput_ends (hs.receive s input)⟩

theorem settled_start (s : Coordinator) (hs : s.subscriptions = []) : Settled [] s := by
  refine ⟨⟨?_, ?_, ?_, ?_⟩, ?_, ?_, ?_, ?_⟩
  · rw [hs]
    exact fun _ hmem => hmem
  · exact fun _ hmem => (List.not_mem_nil hmem).elim
  · exact List.nodup_nil
  · exact List.nodup_nil
  · exact fun _ hmem => (List.not_mem_nil hmem).elim
  · exact fun _ hmem => (Option.not_mem_none _ hmem).elim
  · exact fun _ hmem => (Option.not_mem_none _ hmem).elim
  · exact fun _ hmem => (Option.not_mem_none _ hmem).elim

end Handlers
end OrbitRelay
