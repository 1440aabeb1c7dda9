import OrbitRelay.Storage.Record

/-! Structured, backend-portable event queries. -/
namespace OrbitRelay

/-- Conditions and pagination controls for append-ordered event queries. The set of event
types is a list: only emptiness and membership are asked of it. -/
structure EventQuery where
  sessionId : Option SessionId
  actorId : Option ActorId
  eventTypes : List EventType
  occurredFrom : Option Timestamp
  occurredUntil : Option Timestamp
  after : Option EventCursor
  upperBound : Option EventStoreCheckpoint
  limit : Nat

namespace EventQuery

def defaultLimit : Nat := 100

/-- The largest page that a store accepts through this abstraction. -/
def maxLimit : Nat := 1000

def all : EventQuery where
  sessionId := none
  actorId := none
  eventTypes := []
  occurredFrom := none
  occurredUntil := none
  after := none
  upperBound := none
  limit := defaultLimit

/-- Both bounds are given and the interval is empty. -/
def emptyTimeRange (query : EventQuery) : Bool :=
  match query.occurredFrom, query.occurredUntil with
  | some «from», some until_ => decide (until_ ≤ «from»)
  | _, _ => false

/-- Validates all backend-independent query invariants. -/
def validate (query : EventQuery) : Except StorageError Unit :=
  if query.limit = 0 ∨ query.limit > maxLimit then
    .error (.invalidQuery s!"limit must be between 1 and {maxLimit}")
  else if query.eventTypes.any fun eventType => Text.isBlank eventType.value then
    .error (.invalidQuery "event type cannot be empty")
  else if query.emptyTimeRange then
    .error (.invalidQuery "occurred_from must be earlier than occurred_until")
  else if query.after.any EventCursor.isEmpty then
    .error (.invalidCursor "cursor cannot be empty")
  else if query.upperBound.any EventStoreCheckpoint.isEmpty then
    .error (.invalidCheckpoint "checkpoint cannot be empty")
  else .ok ()

/-- The event satisfies the query's non-pagination filters. -/
def «matches» (query : EventQuery) (event : Event) : Bool :=
  query.sessionId.all (· == event.sessionId) && query.actorId.all (· == event.actorId) &&
    (query.eventTypes.isEmpty || query.eventTypes.contains event.eventType) &&
    query.occurredFrom.all (fun «from» => decide («from» ≤ event.occurredAt)) &&
    query.occurredUntil.all (fun until_ => decide (event.occurredAt < until_))

/-- The filter part is valid, whatever the pagination controls are. -/
structure ValidFilter (query : EventQuery) : Prop where
  eventTypes : (query.eventTypes.any fun eventType => Text.isBlank eventType.value) = false
  timeRange : query.emptyTimeRange = false

/-- The page size is one that a store accepts. -/
def ValidLimit (limit : Nat) : Prop := 1 ≤ limit ∧ limit ≤ maxLimit

/-- One page request: the same filter with its own cursor and limit. -/
def page (query : EventQuery) (after : Option EventCursor) (limit : Nat) : EventQuery :=
  { query with after := after, limit := limit }

@[simp] theorem page_matches (query : EventQuery) (after : Option EventCursor) (limit : Nat) :
    (query.page after limit).matches = query.matches := rfl

theorem ValidLimit.page {limit : Nat} (hlimit : ValidLimit limit) (query : EventQuery)
    (after : Option EventCursor) :
    ¬ ((query.page after limit).limit = 0 ∨ (query.page after limit).limit > maxLimit) := by
  obtain ⟨hone, hmax⟩ := hlimit
  change ¬ (limit = 0 ∨ limit > maxLimit)
  omega

theorem validate_page {query : EventQuery} {after : Option EventCursor} {limit : Nat}
    (hfilter : query.ValidFilter) (hlimit : ValidLimit limit)
    (hafter : ∀ cursor ∈ after, cursor.isEmpty = false)
    (hbound : ∀ checkpoint ∈ query.upperBound, checkpoint.isEmpty = false) :
    (query.page after limit).validate = .ok () := by
  have hafter' : after.any EventCursor.isEmpty = false := by
    cases after with
    | none => rfl
    | some cursor => exact hafter cursor rfl
  have hbound' : query.upperBound.any EventStoreCheckpoint.isEmpty = false := by
    cases hupper : query.upperBound with
    | none => rfl
    | some checkpoint => exact hbound checkpoint hupper
  unfold validate
  rw [if_neg (hlimit.page query after), if_neg, if_neg, if_neg, if_neg]
  · simpa [page] using hbound'
  · simpa [page] using hafter'
  · simpa [page, emptyTimeRange] using hfilter.timeRange
  · simpa [page] using hfilter.eventTypes

/-- An invalid filter is rejected before the cursor and the checkpoint are looked at. -/
theorem validate_page_of_not_validFilter {query : EventQuery} (h : ¬ query.ValidFilter)
    (after : Option EventCursor) {limit : Nat} (hlimit : ValidLimit limit) :
    ∃ reason, (query.page after limit).validate = .error (.invalidQuery reason) := by
  unfold validate
  rw [if_neg (hlimit.page query after)]
  by_cases htypes : (query.eventTypes.any fun eventType => Text.isBlank eventType.value) = true
  · exact ⟨_, if_pos htypes⟩
  · by_cases htime : query.emptyTimeRange = true
    · exact ⟨_, (if_neg htypes).trans (if_pos htime)⟩
    · exact absurd ⟨Bool.eq_false_iff.mpr htypes, Bool.eq_false_iff.mpr htime⟩ h

end EventQuery
end OrbitRelay
