import Mathlib.Algebra.GroupWithZero.Nat
import Mathlib.Data.List.Pairwise
import Mathlib.Tactic.SplitIfs
import Mathlib.Tactic.Tauto
import OrbitRelay.Sync.Memory

/-! Publishers and the consumer interleaved, with a record of what happened to each published
event. The record is read by no step; it names events by their place in the publish order. -/
namespace OrbitRelay

/-- A `SubscriberLagged` answer, with the places of the drops it stands for. -/
structure LagReport where
  missed : UInt64
  drops : List Nat

/-- The bus as one subscription sees it, and the record. -/
structure BusState where
  sub : MemorySubscription
  busAlive : Bool
  receiving : Bool
  /-- The matching events published before the close. -/
  published : List Event
  /-- The places of the queued events. -/
  queuedAt : List Nat
  /-- The events that `next_event` returned, and their places. -/
  delivered : List Event
  deliveredAt : List Nat
  /-- The places of the drops since the counter was last read. -/
  unreported : List Nat
  reports : List LagReport

/-- What can happen next. -/
inductive BusAction
  | publish (event : Event)
  | nextEvent
  | receive
  | cancel
  | close
  | dropBus

namespace BusState

def new (id : SubscriptionId) (filter : EventFilter) : BusState where
  sub := .new id filter
  busAlive := true
  receiving := false
  published := []
  queuedAt := []
  delivered := []
  deliveredAt := []
  unreported := []
  reports := []

/-- Publishes one event and notes whether it was queued or dropped. -/
def publish (capacity : Nat) (event : Event) (s : BusState) : BusState :=
  let next := { s with sub := s.sub.publish capacity event }
  if ¬ s.sub.filter.matches event ∨ s.sub.closed then next
  else if s.sub.queue.length < capacity then
    { next with published := s.published ++ [event],
                queuedAt := s.queuedAt ++ [s.published.length] }
  else
    { next with published := s.published ++ [event],
                unreported := s.unreported ++ [s.published.length] }

/-- One step, with what `next_event` returned if it returned. The consumer has exclusive access
to the subscription, so it closes only when no call is pending. -/
def step (capacity : Nat) (s : BusState) :
    BusAction → Option (BusState × Option (Except SyncError (Option Event)))
  | .publish event => if s.busAlive then some (s.publish capacity event, none) else none
  | .nextEvent =>
    if s.receiving then none
    else
      match s.sub.nextEvent with
      | (sub, none) => some ({ s with sub := sub, receiving := true }, none)
      | (sub, some (.error (.subscriberLagged id missed))) =>
        some ({ s with sub := sub, unreported := [],
                       reports := s.reports ++ [⟨missed, s.unreported⟩] },
          some (.error (.subscriberLagged id missed)))
      | (sub, some result) => some ({ s with sub := sub }, some result)
  | .receive =>
    if s.receiving then
      match s.sub.receive s.busAlive with
      | some (sub, some event) =>
        some ({ s with sub := sub, receiving := false, queuedAt := s.queuedAt.tail,
                       delivered := s.delivered ++ [event],
                       deliveredAt := s.deliveredAt ++ s.queuedAt.take 1 }, some (.ok (some event)))
      | some (sub, none) => some ({ s with sub := sub, receiving := false }, some (.ok none))
      | none => none
    else none
  | .cancel => if s.receiving then some ({ s with receiving := false }, none) else none
  | .close => if s.receiving then none else some ({ s with sub := s.sub.close }, none)
  | .dropBus => if s.busAlive then some ({ s with busAlive := false }, none) else none

/-- The bus with the subscription, from the moment it subscribed. -/
def system (capacity : Nat) (id : SubscriptionId) (filter : EventFilter) :
    Transition.System BusState where
  init s := s = new id filter
  step s s' := ∃ action result, s.step capacity action = some (s', result)

/-- Everything a step can do, with its guards. -/
inductive Moves (capacity : Nat) (s : BusState) :
    BusState → Option (Except SyncError (Option Event)) → Prop
  | ignored {event : Event} (h : ¬ s.sub.filter.matches event ∨ s.sub.closed) :
      Moves capacity s s none
  | queued {event : Event} (hopen : s.sub.closed = false) (hroom : s.sub.queue.length < capacity) :
      Moves capacity s
        { s with sub := { s.sub with queue := s.sub.queue ++ [event] },
                 published := s.published ++ [event],
                 queuedAt := s.queuedAt ++ [s.published.length] } none
  | dropped {event : Event} (hopen : s.sub.closed = false) (hfull : capacity ≤ s.sub.queue.length) :
      Moves capacity s
        { s with sub := { s.sub with lagged := s.sub.lagged.saturatingSucc },
                 published := s.published ++ [event],
                 unreported := s.unreported ++ [s.published.length] } none
  | refused (hclosed : s.sub.closed = true) :
      Moves capacity s s (some (.error (.subscriptionClosed s.sub.id)))
  | reported (hopen : s.sub.closed = false) (hidle : s.receiving = false)
      (hcheck : s.sub.receiveAfterLag = false) (hmissed : 0 < s.sub.lagged) :
      Moves capacity s
        { s with sub := { s.sub with lagged := 0, receiveAfterLag := true }, unreported := [],
                 reports := s.reports ++ [⟨s.sub.lagged, s.unreported⟩] }
        (some (.error (.subscriberLagged s.sub.id s.sub.lagged)))
  | waited (hopen : s.sub.closed = false) (hidle : s.receiving = false)
      (hclear : s.sub.receiveAfterLag = true ∨ s.sub.lagged = 0) :
      Moves capacity s { s with sub := { s.sub with receiveAfterLag := false }, receiving := true }
        none
  | delivered {event : Event} {rest : List Event} (hreceiving : s.receiving = true)
      (hqueue : s.sub.queue = event :: rest) :
      Moves capacity s
        { s with sub := { s.sub with queue := rest }, receiving := false,
                 queuedAt := s.queuedAt.tail, delivered := s.delivered ++ [event],
                 deliveredAt := s.deliveredAt ++ s.queuedAt.take 1 } (some (.ok (some event)))
  | ended (hreceiving : s.receiving = true) (hqueue : s.sub.queue = [])
      (hgone : s.busAlive = false) :
      Moves capacity s { s with receiving := false } (some (.ok none))
  | cancelled (hreceiving : s.receiving = true) :
      Moves capacity s { s with receiving := false } none
  | closed (hidle : s.receiving = false) :
      Moves capacity s { s with sub := { s.sub with closed := true } } none
  | busDropped : Moves capacity s { s with busAlive := false } none

theorem moves_of_publish (capacity : Nat) (event : Event) (s : BusState) :
    Moves capacity s (s.publish capacity event) none := by
  by_cases hignored : ¬ s.sub.filter.matches event ∨ s.sub.closed
  · have hsame : s.sub.publish capacity event = s.sub := by
      unfold MemorySubscription.publish
      split_ifs with hmatches hclosed <;> first | rfl | simp_all
    have hpublish : s.publish capacity event = s := by
      rw [publish, if_pos hignored, hsame]
    rw [hpublish]
    exact .ignored hignored
  · obtain ⟨hmatches, hclosed⟩ := not_or.mp hignored
    have hopen := Bool.eq_false_iff.mpr hclosed
    by_cases hroom : s.sub.queue.length < capacity
    · have hsub : s.sub.publish capacity event =
          { s.sub with queue := s.sub.queue ++ [event] } := by
        rw [MemorySubscription.publish, if_neg hmatches, if_neg hclosed, if_pos hroom]
      rw [publish, if_neg hignored, if_pos hroom, hsub]
      exact .queued hopen hroom
    · have hsub : s.sub.publish capacity event =
          { s.sub with lagged := s.sub.lagged.saturatingSucc } := by
        rw [MemorySubscription.publish, if_neg hmatches, if_neg hclosed, if_neg hroom]
      rw [publish, if_neg hignored, if_neg hroom, hsub]
      exact .dropped hopen (Nat.not_lt.mp hroom)

/-- The three ways out of the code before the await. -/
theorem nextEvent_cases (sub : MemorySubscription) :
    (sub.closed = true ∧ sub.nextEvent = (sub, some (.error (.subscriptionClosed sub.id)))) ∨
    (sub.closed = false ∧ sub.receiveAfterLag = false ∧ 0 < sub.lagged ∧
      sub.nextEvent = ({ sub with lagged := 0, receiveAfterLag := true },
        some (.error (.subscriberLagged sub.id sub.lagged)))) ∨
    (sub.closed = false ∧ (sub.receiveAfterLag = true ∨ sub.lagged = 0) ∧
      sub.nextEvent = ({ sub with receiveAfterLag := false }, none)) := by
  obtain ⟨id, filter, queue, lagged, closed, afterLag⟩ := sub
  cases closed with
  | true => exact .inl ⟨rfl, rfl⟩
  | false =>
    cases afterLag with
    | true => exact .inr (.inr ⟨rfl, .inl rfl, rfl⟩)
    | false =>
      by_cases hmissed : lagged > 0
      · refine .inr (.inl ⟨rfl, rfl, hmissed, ?_⟩)
        simp [MemorySubscription.nextEvent, hmissed]
      · have hzero : lagged = 0 := by
          rw [gt_iff_lt, UInt64.lt_iff_toNat_lt] at hmissed
          exact UInt64.toNat_inj.mp (Nat.eq_zero_of_not_pos hmissed)
        subst hzero
        exact .inr (.inr ⟨rfl, .inr rfl, rfl⟩)

theorem moves_of_step {capacity : Nat} {s s' : BusState} {action : BusAction}
    {result : Option (Except SyncError (Option Event))}
    (h : s.step capacity action = some (s', result)) : Moves capacity s s' result := by
  cases action with
  | publish event =>
    simp only [step] at h
    split_ifs at h
    cases h
    exact moves_of_publish capacity event s
  | nextEvent =>
    simp only [step] at h
    split_ifs at h with hreceiving
    have hidle := Bool.eq_false_iff.mpr hreceiving
    obtain ⟨hclosed, hnext⟩ | ⟨hopen, hcheck, hmissed, hnext⟩ | ⟨hopen, hclear, hnext⟩ :=
      nextEvent_cases s.sub <;> rw [hnext] at h <;> cases h
    · exact .refused hclosed
    · exact .reported hopen hidle hcheck hmissed
    · exact .waited hopen hidle hclear
  | receive =>
    simp only [step] at h
    split_ifs at h with hreceiving
    cases hqueue : s.sub.queue with
    | nil =>
      cases hgone : s.busAlive <;> simp only [MemorySubscription.receive, hqueue, hgone] at h <;>
        cases h
      have hmove := @Moves.ended capacity s hreceiving hqueue hgone
      rwa [hgone] at hmove
    | cons event rest =>
      simp only [MemorySubscription.receive, hqueue] at h
      cases h
      exact .delivered hreceiving hqueue
  | cancel =>
    simp only [step] at h
    split_ifs at h with hreceiving
    cases h
    exact .cancelled hreceiving
  | close =>
    simp only [step] at h
    split_ifs at h with hreceiving
    cases h
    exact .closed (Bool.eq_false_iff.mpr hreceiving)
  | dropBus =>
    simp only [step] at h
    split_ifs at h
    cases h
    exact .busDropped

/-- The record tells the truth: every published event is in one of four places, the queue and
the deliveries are in publish order, and the counter is the number of unreported drops. -/
structure Accounted (s : BusState) : Prop where
  queue : s.queuedAt.map (fun i => s.published[i]?) = s.sub.queue.map some
  delivered : s.deliveredAt.map (fun i => s.published[i]?) = s.delivered.map some
  sublist : (s.delivered ++ s.sub.queue).Sublist s.published
  order : (s.deliveredAt ++ s.queuedAt).Pairwise (· < ·)
  bound : ∀ i ∈ s.deliveredAt ++ s.queuedAt, i < s.published.length
  drops : ∀ d ∈ s.unreported, d < s.published.length
  cover : ∀ d < s.published.length, d ∈ s.deliveredAt ∨ d ∈ s.queuedAt ∨ d ∈ s.unreported ∨
    ∃ report ∈ s.reports, d ∈ report.drops
  total : s.delivered.length + s.sub.queue.length +
    (s.reports.map fun report => report.drops.length).sum + s.unreported.length =
      s.published.length
  lagged : s.sub.lagged.toNat = min s.unreported.length (2 ^ 64 - 1)
  reports : ∀ report ∈ s.reports, report.missed.toNat = min report.drops.length (2 ^ 64 - 1)

/-- No delivery overtakes an unreported drop. While a receive is due without another look at
the counter, the head of the queue is older than every unreported drop. -/
structure NotOvertaken (s : BusState) : Prop where
  behind : ∀ d ∈ s.unreported, ∀ e ∈ s.deliveredAt, e < d
  ahead : s.receiving = true ∨ s.sub.receiveAfterLag = true →
    ∀ d ∈ s.unreported, ∃ head rest, s.queuedAt = head :: rest ∧ head < d
  spent : s.receiving = true → s.sub.receiveAfterLag = false
  idle : s.sub.closed = true → s.receiving = false

theorem Accounted.new (id : SubscriptionId) (filter : EventFilter) :
    (new id filter).Accounted where
  queue := rfl
  delivered := rfl
  sublist := .slnil
  order := .nil
  bound := nofun
  drops := nofun
  cover := nofun
  total := rfl
  lagged := rfl
  reports := nofun

theorem NotOvertaken.new (id : SubscriptionId) (filter : EventFilter) :
    (new id filter).NotOvertaken := ⟨nofun, nofun, nofun, nofun⟩

/-- Publishing more does not change what earlier places hold. -/
private theorem map_published_append {published : List Event} {event : Event} {places : List Nat}
    (h : ∀ i ∈ places, i < published.length) :
    places.map (fun i => (published ++ [event])[i]?) = places.map fun i => published[i]? :=
  List.map_congr_left fun i hi => List.getElem?_append_left (h i hi)

theorem Accounted.queuedAt_length {s : BusState} (h : s.Accounted) :
    s.queuedAt.length = s.sub.queue.length := by
  simpa using congrArg List.length h.queue

theorem Accounted.moves {capacity : Nat} {s s' : BusState}
    {result : Option (Except SyncError (Option Event))} (h : s.Accounted)
    (hmove : Moves capacity s s' result) : s'.Accounted := by
  have hqueued : ∀ i ∈ s.queuedAt, i < s.published.length := fun i hi =>
    h.bound i (List.mem_append_right _ hi)
  have hdelivered : ∀ i ∈ s.deliveredAt, i < s.published.length := fun i hi =>
    h.bound i (List.mem_append_left _ hi)
  cases hmove with
  | ignored | refused | cancelled | closed | busDropped | ended | waited => exact { h with }
  | @queued event hopen hroom =>
    refine { h with queue := ?_, delivered := ?_, sublist := ?_, order := ?_, bound := ?_,
                    drops := ?_, cover := ?_, total := ?_ }
    · rw [List.map_append, map_published_append hqueued, h.queue]
      simp
    · rw [map_published_append hdelivered, h.delivered]
    · rw [← List.append_assoc]
      exact h.sublist.append (List.Sublist.refl _)
    · rw [← List.append_assoc, List.pairwise_append]
      refine ⟨h.order, List.pairwise_singleton .., fun i hi j hj => ?_⟩
      rw [List.mem_singleton.mp hj]
      exact h.bound i hi
    · intro i hi
      rw [← List.append_assoc, List.mem_append, List.mem_singleton] at hi
      rw [List.length_append, List.length_singleton]
      rcases hi with hi | rfl
      · exact Nat.lt_succ_of_lt (h.bound i hi)
      · exact Nat.lt_succ_self _
    · intro d hd
      rw [List.length_append, List.length_singleton]
      exact Nat.lt_succ_of_lt (h.drops d hd)
    · intro d hd
      rw [List.length_append, List.length_singleton] at hd
      rcases Nat.lt_or_eq_of_le (Nat.lt_succ_iff.mp hd) with hold | rfl
      · rcases h.cover d hold with hd | hd | hd | hd
        · exact .inl hd
        · exact .inr (.inl (List.mem_append_left _ hd))
        · exact .inr (.inr (.inl hd))
        · exact .inr (.inr (.inr hd))
      · exact .inr (.inl (by simp))
    · have htotal := h.total
      simp only [List.length_append, List.length_singleton]
      omega
  | @dropped event hopen hfull =>
    refine { h with queue := ?_, delivered := ?_, sublist := ?_, bound := ?_, drops := ?_,
                    cover := ?_, total := ?_, lagged := ?_ }
    · rw [map_published_append hqueued, h.queue]
    · rw [map_published_append hdelivered, h.delivered]
    · exact h.sublist.trans (List.sublist_append_left ..)
    · intro i hi
      rw [List.length_append, List.length_singleton]
      exact Nat.lt_succ_of_lt (h.bound i hi)
    · intro d hd
      rw [List.length_append, List.length_singleton]
      rcases List.mem_append.mp hd with hd | hd
      · exact Nat.lt_succ_of_lt (h.drops d hd)
      · rw [List.mem_singleton.mp hd]
        exact Nat.lt_succ_self _
    · intro d hd
      rw [List.length_append, List.length_singleton] at hd
      rcases Nat.lt_or_eq_of_le (Nat.lt_succ_iff.mp hd) with hold | rfl
      · rcases h.cover d hold with hd | hd | hd | hd
        · exact .inl hd
        · exact .inr (.inl hd)
        · exact .inr (.inr (.inl (List.mem_append_left _ hd)))
        · exact .inr (.inr (.inr hd))
      · exact .inr (.inr (.inl (by simp)))
    · have htotal := h.total
      simp only [List.length_append, List.length_singleton]
      omega
    · have hlagged := h.lagged
      rw [UInt64.saturatingSucc_toNat, hlagged]
      simp only [List.length_append, List.length_singleton]
      omega
  | reported =>
    refine { h with drops := nofun, cover := ?_, total := ?_, lagged := rfl, reports := ?_ }
    · intro d hd
      rcases h.cover d hd with hd | hd | hd | ⟨report, hreport, hd⟩
      · exact .inl hd
      · exact .inr (.inl hd)
      · exact .inr (.inr (.inr ⟨_, List.mem_append_right _ (List.mem_singleton.mpr rfl), hd⟩))
      · exact .inr (.inr (.inr ⟨report, List.mem_append_left _ hreport, hd⟩))
    · have htotal := h.total
      simp only [List.map_append, List.sum_append, List.map_cons, List.map_nil, List.sum_cons,
        List.sum_nil, List.length_nil]
      omega
    · intro report hreport
      rcases List.mem_append.mp hreport with hreport | hreport
      · exact h.reports report hreport
      · rw [List.mem_singleton.mp hreport]
        exact h.lagged
  | @delivered event rest hreceiving hqueue =>
    -- The head of the queue and the head of its places go together.
    obtain ⟨head, places, hplaces⟩ : ∃ head places, s.queuedAt = head :: places := by
      have hlength := h.queuedAt_length
      rw [hqueue] at hlength
      exact List.exists_cons_of_length_eq_add_one hlength
    have hmap := h.queue
    rw [hplaces, hqueue, List.map_cons, List.map_cons, List.cons.injEq] at hmap
    have hmoved : s.deliveredAt ++ s.queuedAt.take 1 ++ s.queuedAt.tail =
        s.deliveredAt ++ s.queuedAt := by simp [hplaces]
    refine { h with queue := ?_, delivered := ?_, sublist := ?_, order := ?_, bound := ?_,
                    cover := ?_, total := ?_ }
    · rw [hplaces]
      exact hmap.2
    · rw [hplaces, List.map_append, h.delivered]
      simp [hmap.1]
    · have hsublist := h.sublist
      rw [hqueue] at hsublist
      simpa using hsublist
    · rw [hmoved]
      exact h.order
    · rw [hmoved]
      exact h.bound
    · intro d hd
      have hcover := h.cover d hd
      simp only [hplaces, List.mem_cons] at hcover
      simp only [hplaces, List.take_succ_cons, List.take_zero, List.mem_append, List.mem_singleton,
        List.tail_cons]
      tauto
    · have htotal := h.total
      rw [hqueue] at htotal
      simp only [List.length_append, List.length_cons, List.length_nil] at htotal ⊢
      omega

theorem NotOvertaken.moves {capacity : Nat} (hcapacity : 1 ≤ capacity) {s s' : BusState}
    {result : Option (Except SyncError (Option Event))} (haccounted : s.Accounted)
    (h : s.NotOvertaken) (hmove : Moves capacity s s' result) : s'.NotOvertaken := by
  cases hmove with
  | ignored | refused | busDropped => exact { h with }
  | closed hidle => exact { h with idle := fun _ => hidle }
  | queued =>
    refine { h with ahead := fun hdue d hd => ?_ }
    obtain ⟨head, rest, hplaces, hlt⟩ := h.ahead hdue d hd
    exact ⟨head, rest ++ [s.published.length], by rw [hplaces]; rfl, hlt⟩
  | dropped hopen hfull =>
    -- The queue was full, so it has a head, and the head was published before this drop.
    obtain ⟨head, rest, hplaces⟩ : ∃ head rest, s.queuedAt = head :: rest := by
      refine List.exists_cons_of_ne_nil fun hnil => ?_
      have hlength := haccounted.queuedAt_length
      rw [hnil, List.length_nil] at hlength
      omega
    have hhead : head < s.published.length :=
      haccounted.bound head (List.mem_append_right _ (by simp [hplaces]))
    refine ⟨fun d hd e he => ?_, fun hdue d hd => ?_, h.spent, h.idle⟩
    · rcases List.mem_append.mp hd with hd | hd
      · exact h.behind d hd e he
      · rw [List.mem_singleton.mp hd]
        exact haccounted.bound e (List.mem_append_left _ he)
    · rcases List.mem_append.mp hd with hd | hd
      · exact h.ahead hdue d hd
      · rw [List.mem_singleton.mp hd]
        exact ⟨head, rest, hplaces, hhead⟩
  | reported _ hidle _ _ =>
    refine ⟨nofun, fun _ => nofun, fun hreceiving => ?_, h.idle⟩
    exact absurd (hidle.symm.trans hreceiving) Bool.false_ne_true
  | waited hopen hidle hclear =>
    have hnever (hclosed : s.sub.closed = true) : true = false :=
      absurd (hopen.symm.trans hclosed) Bool.false_ne_true
    refine { h with ahead := fun _ d (hd : d ∈ s.unreported) => ?_, spent := fun _ => rfl,
                    idle := hnever }
    rcases hclear with hafter | hzero
    · exact h.ahead (.inr hafter) d hd
    · -- The counter was read as zero, so there is no unreported drop.
      have hlagged := haccounted.lagged
      rw [hzero] at hlagged
      have hpos := List.length_pos_of_mem hd
      have hcounter : (0 : UInt64).toNat = 0 := rfl
      omega
  | @delivered event rest hreceiving hqueue =>
    have hspent := h.spent hreceiving
    refine ⟨fun d hd e he => ?_, fun hdue => ?_, nofun, fun _ => rfl⟩
    · obtain ⟨head, rest, hplaces, hlt⟩ := h.ahead (.inl hreceiving) d hd
      rcases List.mem_append.mp he with he | he
      · exact h.behind d hd e he
      · rw [hplaces, List.take_succ_cons, List.take_zero, List.mem_singleton] at he
        rw [he]
        exact hlt
    · exact absurd hdue (by simp [hspent])
  | ended hreceiving _ _ | cancelled hreceiving =>
    have hspent := h.spent hreceiving
    refine { h with ahead := fun hdue => ?_, spent := nofun, idle := fun _ => rfl }
    exact absurd hdue (by simp [hspent])

theorem invariant_of_reachable {capacity : Nat} (hcapacity : 1 ≤ capacity) {id : SubscriptionId}
    {filter : EventFilter} {s : BusState} (h : (system capacity id filter).Reachable s) :
    s.Accounted ∧ s.NotOvertaken := by
  refine h.invariant (I := fun s => s.Accounted ∧ s.NotOvertaken) (fun s hinit => ?_)
    fun s s' hinv hstep => ?_
  · rw [show s = new id filter from hinit]
    exact ⟨.new id filter, .new id filter⟩
  · obtain ⟨action, result, hstep⟩ := hstep
    have hmove := moves_of_step hstep
    exact ⟨hinv.1.moves hmove, hinv.2.moves hcapacity hinv.1 hmove⟩

/-- The counter is below its maximum, and was at every read: a counter that reaches the
maximum keeps it until it is read. -/
def CounterBelowMax (s : BusState) : Prop :=
  s.sub.lagged.toNat < 2 ^ 64 - 1 ∧ ∀ report ∈ s.reports, report.missed.toNat < 2 ^ 64 - 1

theorem Accounted.sum_missed {s : BusState} (h : s.Accounted)
    (hmax : ∀ report ∈ s.reports, report.missed.toNat < 2 ^ 64 - 1) :
    (s.reports.map fun report => report.missed.toNat).sum =
      (s.reports.map fun report => report.drops.length).sum := by
  refine congrArg List.sum (List.map_congr_left fun report hreport => ?_)
  have hmissed := h.reports report hreport
  have hlt := hmax report hreport
  omega

/-- The subscription is closed, and nothing counts as published since the state `start`. -/
structure ClosedSince (start s : BusState) : Prop where
  closed : s.sub.closed = true
  idle : s.receiving = false
  published : s.published = start.published

theorem closedSince_of_close {capacity : Nat} {opened closed : BusState}
    {result : Option (Except SyncError (Option Event))}
    (h : opened.step capacity .close = some (closed, result)) : closed.ClosedSince closed := by
  simp only [step] at h
  split_ifs at h with hreceiving
  cases h
  exact ⟨rfl, Bool.eq_false_iff.mpr hreceiving, rfl⟩

theorem ClosedSince.moves {capacity : Nat} {start s s' : BusState}
    {result : Option (Except SyncError (Option Event))} (h : start.ClosedSince s)
    (hmove : Moves capacity s s' result) : start.ClosedSince s' := by
  have hnotOpen (hopen : s.sub.closed = false) : False :=
    Bool.false_ne_true (hopen.symm.trans h.closed)
  have hnotReceiving (hreceiving : s.receiving = true) : False :=
    Bool.false_ne_true (h.idle.symm.trans hreceiving)
  cases hmove with
  | ignored | refused => exact h
  | busDropped => exact { h with }
  | closed => exact { h with closed := rfl }
  | queued hopen | dropped hopen | reported hopen | waited hopen => exact (hnotOpen hopen).elim
  | delivered hreceiving | ended hreceiving | cancelled hreceiving =>
    exact (hnotReceiving hreceiving).elim

theorem ClosedSince.of_run {capacity : Nat} {id : SubscriptionId} {filter : EventFilter}
    {start s s' : BusState} (h : start.ClosedSince s)
    (hrun : Relation.ReflTransGen (system capacity id filter).step s s') :
    start.ClosedSince s' := by
  induction hrun with
  | refl => exact h
  | tail _ hstep ih =>
    obtain ⟨action, result, hstep⟩ := hstep
    exact ih.moves (moves_of_step hstep)

theorem step_nextEvent_of_closed {s : BusState} (capacity : Nat) (hclosed : s.sub.closed = true)
    (hidle : s.receiving = false) :
    s.step capacity .nextEvent = some (s, some (.error (.subscriptionClosed s.sub.id))) := by
  have hnext : s.sub.nextEvent = (s.sub, some (.error (.subscriptionClosed s.sub.id))) := by
    unfold MemorySubscription.nextEvent
    rw [if_pos hclosed]
  unfold step
  rw [hidle, hnext]
  exact congrArg (fun idle => some ({ s with receiving := idle }, _)) hidle.symm

/-- The bus never hides a gap: deliveries are in publish order, none overtakes a drop that was
not reported, every published event is accounted for, the end is only seen at the end, and after
a close nothing counts as published and every `next_event` returns `SubscriptionClosed`. -/
theorem bus_never_hides_a_gap (capacity : Nat) (id : SubscriptionId) (filter : EventFilter)
    (s : BusState) (hcapacity : 1 ≤ capacity) (h : (system capacity id filter).Reachable s) :
    s.delivered.Sublist s.published ∧
    (s.deliveredAt.map (fun i => s.published[i]?) = s.delivered.map some ∧
      s.deliveredAt.Pairwise (· < ·) ∧
      ∀ d e, d < s.published.length → d ∉ s.deliveredAt → d ∉ s.queuedAt → e ∈ s.deliveredAt →
        d < e → ∃ report ∈ s.reports, d ∈ report.drops ∧
          report.missed.toNat = min report.drops.length (2 ^ 64 - 1)) ∧
    (s.CounterBelowMax → s.delivered.length + s.sub.queue.length +
      (s.reports.map fun report => report.missed.toNat).sum + s.sub.lagged.toNat =
        s.published.length) ∧
    (∀ action s', s.step capacity action = some (s', some (.ok none)) →
      s.busAlive = false ∧ s.sub.queue = [] ∧ s.unreported = []) ∧
    (s.sub.closed = true → s.step capacity .nextEvent =
      some (s, some (.error (.subscriptionClosed s.sub.id)))) ∧
    (∀ (opened closed : BusState) result, opened.step capacity .close = some (closed, result) →
      Relation.ReflTransGen (system capacity id filter).step closed s →
        s.published = closed.published ∧ s.step capacity .nextEvent =
          some (s, some (.error (.subscriptionClosed s.sub.id)))) := by
  obtain ⟨haccounted, hnot⟩ := invariant_of_reachable hcapacity h
  refine ⟨?_, ⟨haccounted.delivered, ?_, ?_⟩, ?_, ?_, ?_, ?_⟩
  · exact (List.sublist_append_left ..).trans haccounted.sublist
  · exact haccounted.order.sublist (List.sublist_append_left ..)
  · intro d e hd hdelivered hqueued he hlt
    rcases haccounted.cover d hd with hd | hd | hd | ⟨report, hreport, hd⟩
    · exact absurd hd hdelivered
    · exact absurd hd hqueued
    · have hbehind := hnot.behind d hd e he
      omega
    · exact ⟨report, hreport, hd, haccounted.reports report hreport⟩
  · intro hbelow
    have htotal := haccounted.total
    have hlagged := haccounted.lagged
    have hlt := hbelow.1
    rw [haccounted.sum_missed hbelow.2]
    omega
  · intro action s' hstep
    cases moves_of_step hstep with
    | ended hreceiving hqueue hgone =>
      refine ⟨hgone, hqueue, List.eq_nil_iff_forall_not_mem.mpr fun d hd => ?_⟩
      obtain ⟨head, rest, hplaces, -⟩ := hnot.ahead (.inl hreceiving) d hd
      have hlength := haccounted.queuedAt_length
      rw [hplaces, hqueue] at hlength
      cases hlength
  · intro hclosed
    exact step_nextEvent_of_closed capacity hclosed (hnot.idle hclosed)
  · intro opened closed result hclose hrun
    have hsince := (closedSince_of_close hclose).of_run hrun
    exact ⟨hsince.published, step_nextEvent_of_closed capacity hsince.closed hsince.idle⟩

def sampleEvent : Event where
  id := ⟨⟨⟨Vector.replicate 16 1⟩⟩⟩
  sessionId := ⟨⟨⟨Vector.replicate 16 2⟩⟩⟩
  actorId := ⟨⟨⟨Vector.replicate 16 3⟩⟩⟩
  actionId := ⟨⟨⟨Vector.replicate 16 4⟩⟩⟩
  eventType := ⟨"session.updated"⟩
  occurredAt := ⟨1700000000000000000⟩
  payload := ⟨[]⟩
  metadata := ⟨[]⟩

/-- Two events into a queue of one: the second is dropped, reported, and the first delivered.
A third one comes after the close and does not count. -/
theorem bus_never_hides_a_gap_sample : ∃ s closed s' : BusState,
    (system 1 ⟨⟨⟨Vector.replicate 16 9⟩⟩⟩ ⟨none, [], none⟩).Reachable s ∧
      s.deliveredAt = [0] ∧ s.reports.map (·.missed) = [1] ∧ s.delivered.Sublist s.published ∧
      (∃ result, s.step 1 .close = some (closed, result)) ∧
      Relation.ReflTransGen (system 1 ⟨⟨⟨Vector.replicate 16 9⟩⟩⟩ ⟨none, [], none⟩).step closed s' ∧
      s'.published.length = 2 ∧ s'.step 1 .nextEvent =
        some (s', some (.error (.subscriptionClosed s'.sub.id))) := by
  have h0 := @Transition.System.Reachable.init _
    (system 1 ⟨⟨⟨Vector.replicate 16 9⟩⟩⟩ ⟨none, [], none⟩) _ rfl
  have h1 := h0.step ⟨.publish sampleEvent, none, rfl⟩
  have h2 := h1.step ⟨.publish sampleEvent, none, rfl⟩
  have h3 := h2.step ⟨.nextEvent, _, rfl⟩
  have h4 := h3.step ⟨.nextEvent, none, rfl⟩
  have h5 := h4.step ⟨.receive, _, rfl⟩
  obtain ⟨s, closed, s', h, hclose, hpublish, hlength, hdelivered, hreports⟩ :
      ∃ s closed s' : BusState,
        (system 1 ⟨⟨⟨Vector.replicate 16 9⟩⟩⟩ ⟨none, [], none⟩).Reachable s ∧
        s.step 1 .close = some (closed, none) ∧
        closed.step 1 (.publish sampleEvent) = some (s', none) ∧ closed.published.length = 2 ∧
        s.deliveredAt = [0] ∧ s.reports.map (·.missed) = [1] :=
    ⟨_, _, _, h5, rfl, rfl, rfl, rfl, rfl⟩
  have h' := (h.step ⟨.close, none, hclose⟩).step ⟨.publish sampleEvent, none, hpublish⟩
  obtain ⟨hsublist, -⟩ := bus_never_hides_a_gap 1 _ _ s (Nat.le_refl 1) h
  obtain ⟨-, -, -, -, -, hclosed⟩ := bus_never_hides_a_gap 1 _ _ s' (Nat.le_refl 1) h'
  obtain ⟨hpublished, hnext⟩ :=
    hclosed s closed none hclose (.single ⟨.publish sampleEvent, none, hpublish⟩)
  refine ⟨s, closed, s', h, hdelivered, hreports, hsublist, ⟨none, hclose⟩, ?_, ?_, hnext⟩
  · exact .single ⟨.publish sampleEvent, none, hpublish⟩
  · rw [hpublished, hlength]

end BusState
end OrbitRelay
