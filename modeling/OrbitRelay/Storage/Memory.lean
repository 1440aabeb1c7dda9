import Mathlib.Data.List.Nodup
import OrbitRelay.Lib.Transition
import OrbitRelay.Storage.Query

/-! The in-memory event store: a vector of records and an index from event identifiers to
positions. Every call runs under the store's lock and is one step. -/
namespace OrbitRelay

/-- The state under the lock. -/
structure MemoryEventStore where
  storeId : EntityId
  records : List StoredEvent
  eventIndices : EventId → Option Nat

namespace MemoryEventStore

def new (storeId : EntityId) : MemoryEventStore := ⟨storeId, [], fun _ => none⟩

/-- `HashMap::insert` on the index, after which the record is pushed. -/
def insertIndex (store : MemoryEventStore) (eventId : EventId) (index : Nat) :
    EventId → Option Nat :=
  fun id => if id = eventId then some index else store.eventIndices id

def captureCheckpoint (store : MemoryEventStore) : Except Panic EventStoreCheckpoint :=
  EventStoreCheckpoint.forMemory store.storeId store.records.length

def append (event : Event) (store : MemoryEventStore) :
    Except Panic (Except StorageError StoredEvent × MemoryEventStore) := do
  match store.eventIndices event.id with
  | some index =>
    let existing ← store.records.index index
    if existing.event == event then .ok (.ok existing, store)
    else .ok (.error (.eventConflict event.id), store)
  | none =>
    let cursor ← EventCursor.forMemory store.storeId (store.records.length + 1)
    let record : StoredEvent := ⟨cursor, event⟩
    let index := store.records.length
    let eventIndices := store.insertIndex record.event.id index
    let records ← store.records.push record
    .ok (.ok record, { store with records := records, eventIndices := eventIndices })

def get (eventId : EventId) (store : MemoryEventStore) : Except Panic (Option StoredEvent) :=
  match store.eventIndices eventId with
  | some index => some <$> store.records.index index
  | none => .ok none

def queryUpperBound (query : EventQuery) (store : MemoryEventStore) : Except StorageError Nat :=
  match query.upperBound with
  | some checkpoint => checkpoint.memoryPosition store.storeId store.records.length
  | none => .ok store.records.length

def queryStart (query : EventQuery) (store : MemoryEventStore) : Except StorageError Nat :=
  match query.after with
  | some cursor => cursor.memoryPosition store.storeId store.records.length
  | none => .ok 0

/-- The positions that a query reads between, after its validation. -/
def queryRange (query : EventQuery) (store : MemoryEventStore) :
    Except StorageError (Nat × Nat) := do
  query.validate
  let upperBound ← store.queryUpperBound query
  let start ← store.queryStart query
  if start > upperBound then .error (.invalidCursor "cursor is beyond the query checkpoint")
  else .ok (start, upperBound)

/-- Keeps one match more than the limit to see whether a further page exists. -/
def pageOf (query : EventQuery) (records : List StoredEvent) : EventPage :=
  let found := (records.filter fun record => query.matches record.event).take (query.limit + 1)
  if found.length > query.limit then
    let kept := found.take query.limit
    ⟨kept, kept.getLast?.map StoredEvent.cursor⟩
  else ⟨found, none⟩

def query (query : EventQuery) (store : MemoryEventStore) :
    Except Panic (Except StorageError EventPage) :=
  match store.queryRange query with
  | .error e => .ok (.error e)
  | .ok (start, upperBound) =>
    if upperBound ≤ store.records.length then
      .ok (.ok (pageOf query ((store.records.take upperBound).drop start)))
    else .error (.expect "validated checkpoint must be within the record range")

/-- A call on the store. -/
inductive Call
  | captureCheckpoint
  | append (event : Event)
  | get (eventId : EventId)
  | query (query : EventQuery)

/-- What a call returned. -/
inductive Reply
  | checkpoint (checkpoint : EventStoreCheckpoint)
  | appended (result : Except StorageError StoredEvent)
  | got (record : Option StoredEvent)
  | queried (result : Except StorageError EventPage)

/-- One call; only `append` writes. -/
def perform (store : MemoryEventStore) : Call → Except Panic (Reply × MemoryEventStore)
  | .captureCheckpoint => do .ok (.checkpoint (← store.captureCheckpoint), store)
  | .append event => do
    let (result, store') ← store.append event
    .ok (.appended result, store')
  | .get eventId => do .ok (.got (← store.get eventId), store)
  | .query query => do .ok (.queried (← store.query query), store)

/-- The calls of a run with their replies, and the state they lead to. -/
inductive Run (storeId : EntityId) : List (Call × Reply) → MemoryEventStore → Prop
  | new : Run storeId [] (.new storeId)
  | call {trace : List (Call × Reply)} {store store' : MemoryEventStore} {call : Call}
      {reply : Reply} : Run storeId trace store → store.perform call = .ok (reply, store') →
      Run storeId (trace ++ [(call, reply)]) store'

/-- The index and the cursors say where the records are. -/
structure WellFormed (store : MemoryEventStore) : Prop where
  size : store.records.length ≤ isizeMax
  indexed : ∀ (id : EventId) (i : Nat), store.eventIndices id = some i ↔
    ∃ record, store.records[i]? = some record ∧ record.event.id = id
  cursors : ∀ (i : Nat) (record : StoredEvent), store.records[i]? = some record →
    EventCursor.forMemory store.storeId (i + 1) = .ok record.cursor

/-- The store after a new record was added. -/
def push (store : MemoryEventStore) (record : StoredEvent) : MemoryEventStore where
  storeId := store.storeId
  records := store.records ++ [record]
  eventIndices := store.insertIndex record.event.id store.records.length

theorem WellFormed.new (storeId : EntityId) : (new storeId).WellFormed where
  size := Nat.zero_le _
  indexed _ _ := iff_of_false nofun (by rintro ⟨_, ⟨⟩, _⟩)
  cursors := nofun

namespace WellFormed
variable {store : MemoryEventStore}

/-- The identifier of a stored event leads to its position and to no other. -/
theorem index_of_mem (h : store.WellFormed) {record : StoredEvent} (hmem : record ∈ store.records) :
    ∃ i, store.records[i]? = some record ∧ store.eventIndices record.event.id = some i := by
  obtain ⟨i, hi⟩ := List.mem_iff_getElem?.mp hmem
  exact ⟨i, hi, (h.indexed _ i).mpr ⟨record, hi, rfl⟩⟩

theorem eq_of_id_eq (h : store.WellFormed) {a b : StoredEvent} (ha : a ∈ store.records)
    (hb : b ∈ store.records) (hid : a.event.id = b.event.id) : a = b := by
  obtain ⟨i, hi, hindex⟩ := h.index_of_mem ha
  obtain ⟨j, hj, hindex'⟩ := h.index_of_mem hb
  rw [hid, hindex'] at hindex
  obtain rfl : j = i := Option.some.inj hindex
  exact Option.some.inj (hi.symm.trans hj)

theorem nodup_ids (h : store.WellFormed) : (store.records.map fun r => r.event.id).Nodup := by
  rw [List.nodup_iff_getElem?_ne_getElem?]
  intro i j hij hj heq
  rw [List.length_map] at hj
  have hi : i < store.records.length := Nat.lt_trans hij hj
  have hid : store.records[i].event.id = store.records[j].event.id := by
    simpa [List.getElem?_eq_getElem hi, List.getElem?_eq_getElem hj] using heq
  have hindex := (h.indexed _ i).mpr ⟨_, List.getElem?_eq_getElem hi, hid⟩
  have hindex' := (h.indexed _ j).mpr ⟨_, List.getElem?_eq_getElem hj, rfl⟩
  have hsame : i = j := Option.some.inj (hindex.symm.trans hindex')
  omega

/-- No record carries an identifier that the index does not know. -/
theorem id_ne_of_none (h : store.WellFormed) {id : EventId} (hnone : store.eventIndices id = none)
    {record : StoredEvent} (hmem : record ∈ store.records) : record.event.id ≠ id := by
  intro heq
  obtain ⟨i, -, hindex⟩ := h.index_of_mem hmem
  rw [heq, hnone] at hindex
  cases hindex

theorem push (h : store.WellFormed) {record : StoredEvent}
    (hnone : store.eventIndices record.event.id = none)
    (hsize : store.records.length < isizeMax)
    (hcursor : EventCursor.forMemory store.storeId (store.records.length + 1) =
      .ok record.cursor) : (store.push record).WellFormed := by
  have hget (i : Nat) (r : StoredEvent) : (store.push record).records[i]? = some r ↔
      store.records[i]? = some r ∨ (i = store.records.length ∧ r = record) := by
    change (store.records ++ [record])[i]? = some r ↔ _
    by_cases hlt : i < store.records.length
    · have hne : i ≠ store.records.length := Nat.ne_of_lt hlt
      simp [List.getElem?_append_left hlt, hne]
    · rw [List.getElem?_append_right (Nat.not_lt.mp hlt), List.getElem?_eq_none (Nat.not_lt.mp hlt)]
      by_cases heq : i = store.records.length
      · simp [heq, eq_comm]
      · have hone : [record][i - store.records.length]? = none :=
          List.getElem?_eq_none (by simp; omega)
        simp [hone, heq]
  constructor
  · have hlength : (store.push record).records.length = store.records.length + 1 := by
      simp [MemoryEventStore.push]
    omega
  · intro id i
    simp only [hget]
    change store.insertIndex _ _ id = some i ↔ _
    unfold insertIndex
    split_ifs with hid
    · subst hid
      constructor
      · rintro ⟨⟩
        exact ⟨record, .inr ⟨rfl, rfl⟩, rfl⟩
      · rintro ⟨r, hr | ⟨rfl, rfl⟩, hrid⟩
        · exact absurd hrid (h.id_ne_of_none hnone (List.mem_of_getElem? hr))
        · rfl
    · rw [h.indexed]
      constructor
      · rintro ⟨r, hr, hrid⟩
        exact ⟨r, .inl hr, hrid⟩
      · rintro ⟨r, hr | ⟨rfl, rfl⟩, hrid⟩
        · exact ⟨r, hr, hrid⟩
        · exact absurd hrid.symm hid
  · intro i r hr
    rcases (hget i r).mp hr with hr | ⟨rfl, rfl⟩
    · exact h.cursors i r hr
    · exact hcursor

/-- An event whose identifier is stored is compared with the stored one; nothing changes. -/
theorem append_of_mem (h : store.WellFormed) {stored : StoredEvent} {event : Event}
    (hmem : stored ∈ store.records) (hid : stored.event.id = event.id) :
    store.append event = .ok (if stored.event == event then .ok stored
      else .error (.eventConflict event.id), store) := by
  obtain ⟨i, hi, hindex⟩ := h.index_of_mem hmem
  rw [hid] at hindex
  simp only [append, hindex, List.index, hi, Except.ok_bind]
  split_ifs <;> rfl

/-- Any other event becomes one new record at the end, as long as the vector can grow. -/
theorem append_of_new (h : store.WellFormed) {event : Event}
    (hnone : store.eventIndices event.id = none) :
    (store.records.length = isizeMax ∧ store.append event = .error .outOfMemory) ∨
    (store.records.length < isizeMax ∧ ∃ record : StoredEvent, record.event = event ∧
      EventCursor.forMemory store.storeId (store.records.length + 1) = .ok record.cursor ∧
      store.append event = .ok (.ok record, store.push record)) := by
  have hsize := h.size
  have hfits : store.records.length + 1 < 2 ^ 64 := by
    unfold isizeMax at hsize
    omega
  obtain ⟨cursor, hcursor⟩ : ∃ cursor,
      EventCursor.forMemory store.storeId (store.records.length + 1) = .ok cursor := by
    unfold EventCursor.forMemory encodeMemoryToken
    rw [if_pos hfits]
    exact ⟨_, rfl⟩
  by_cases hfull : store.records.length < isizeMax
  · refine .inr ⟨hfull, ⟨cursor, event⟩, rfl, hcursor, ?_⟩
    simp only [append, hnone, hcursor, List.push, if_pos hfull, Except.ok_bind]
    rfl
  · refine .inl ⟨Nat.le_antisymm hsize (Nat.not_lt.mp hfull), ?_⟩
    simp only [append, hnone, hcursor, List.push, if_neg hfull, Except.ok_bind, Except.error_bind]

/-- Looking up an identifier finds exactly its record. -/
theorem get_eq (h : store.WellFormed) (id : EventId) :
    ∃ found, store.get id = .ok found ∧
      ∀ record, found = some record ↔ record ∈ store.records ∧ record.event.id = id := by
  unfold MemoryEventStore.get
  cases hindex : store.eventIndices id with
  | none =>
    refine ⟨none, rfl, fun record => iff_of_false nofun ?_⟩
    rintro ⟨hmem, hid⟩
    exact h.id_ne_of_none hindex hmem hid
  | some i =>
    obtain ⟨stored, hi, hid⟩ := (h.indexed id i).mp hindex
    refine ⟨some stored, by simp only [List.index, hi]; rfl, fun record => ?_⟩
    have hmem := List.mem_of_getElem? hi
    constructor
    · rintro ⟨⟩
      exact ⟨hmem, hid⟩
    · rintro ⟨hmem', hid'⟩
      rw [h.eq_of_id_eq hmem hmem' (hid.trans hid'.symm)]

/-- A query that passed its checks reads within the records. -/
theorem query_eq (store : MemoryEventStore) (query : EventQuery) :
    ∃ result, store.query query = .ok result := by
  unfold MemoryEventStore.query
  cases hrange : store.queryRange query with
  | error e => exact ⟨_, rfl⟩
  | ok range =>
    obtain ⟨start, upperBound⟩ := range
    have hle : upperBound ≤ store.records.length := by
      simp only [queryRange, Except.bind_eq_ok] at hrange
      obtain ⟨⟨⟩, -, bound, hbound, position, -, hrange⟩ := hrange
      split_ifs at hrange
      obtain ⟨rfl, rfl⟩ := Prod.mk.inj (Except.ok.inj hrange)
      unfold queryUpperBound at hbound
      split at hbound
      · exact EventStoreCheckpoint.le_of_memoryPosition hbound
      · exact Nat.le_of_eq (Except.ok.inj hbound).symm
    exact ⟨_, if_pos hle⟩

end WellFormed

section
variable {store store' : MemoryEventStore} {call : Call} {reply : Reply}

/-- What a call does: it reads, it answers an append from what is stored, it adds a record,
or the vector cannot grow. -/
theorem WellFormed.perform_cases (h : store.WellFormed) (call : Call) :
    (∃ reply, store.perform call = .ok (reply, store) ∧ ∀ event, call ≠ .append event) ∨
    (∃ event stored, call = .append event ∧ stored ∈ store.records ∧
      stored.event.id = event.id ∧ store.perform call = .ok (.appended
        (if stored.event == event then .ok stored else .error (.eventConflict event.id)), store)) ∨
    (∃ event record, call = .append event ∧ record.event = event ∧
      store.eventIndices event.id = none ∧ (store.push record).WellFormed ∧
      store.perform call = .ok (.appended (.ok record), store.push record)) ∨
    (store.records.length = isizeMax ∧ store.perform call = .error .outOfMemory) := by
  cases call with
  | captureCheckpoint =>
    have hfits : store.records.length < 2 ^ 64 := by
      have hsize := h.size
      unfold isizeMax at hsize
      omega
    refine .inl ?_
    simp only [perform, captureCheckpoint, EventStoreCheckpoint.forMemory, encodeMemoryToken,
      if_pos hfits]
    exact ⟨_, rfl, nofun⟩
  | append event =>
    right
    cases hindex : store.eventIndices event.id with
    | some i =>
      obtain ⟨stored, hi, hid⟩ := (h.indexed _ i).mp hindex
      have hmem := List.mem_of_getElem? hi
      refine .inl ⟨event, stored, rfl, hmem, hid, ?_⟩
      simp only [perform, h.append_of_mem hmem hid, Except.ok_bind]
    | none =>
      obtain ⟨hfull, happend⟩ | ⟨hsize, record, rfl, hcursor, happend⟩ := h.append_of_new hindex
      · refine .inr (.inr ⟨hfull, ?_⟩)
        simp only [perform, happend, Except.error_bind]
      · refine .inr (.inl ⟨_, record, rfl, rfl, hindex, h.push hindex hsize hcursor, ?_⟩)
        simp only [perform, happend, Except.ok_bind]
  | get eventId =>
    obtain ⟨found, hfound, -⟩ := h.get_eq eventId
    exact .inl ⟨.got found, by simp only [perform, hfound, Except.ok_bind], nofun⟩
  | query query =>
    obtain ⟨result, hresult⟩ := WellFormed.query_eq store query
    exact .inl ⟨.queried result, by simp only [perform, hresult, Except.ok_bind], nofun⟩

theorem WellFormed.perform (h : store.WellFormed)
    (hcall : store.perform call = .ok (reply, store')) :
    store'.WellFormed ∧ store'.storeId = store.storeId ∧ store.records <+: store'.records := by
  obtain ⟨_, hperform, -⟩ | ⟨_, _, -, -, -, hperform⟩ | ⟨_, record, -, -, -, hwf, hperform⟩ |
    ⟨-, hperform⟩ := h.perform_cases call <;> rw [hperform] at hcall <;> cases hcall
  · exact ⟨h, rfl, List.prefix_rfl⟩
  · exact ⟨h, rfl, List.prefix_rfl⟩
  · exact ⟨hwf, rfl, List.prefix_append ..⟩

end

theorem Run.wellFormed {storeId : EntityId} {trace : List (Call × Reply)}
    {store : MemoryEventStore} (h : Run storeId trace store) :
    store.WellFormed ∧ store.storeId = storeId := by
  induction h with
  | new => exact ⟨.new storeId, rfl⟩
  | call _ hcall ih =>
    obtain ⟨hwf, hid, -⟩ := ih.1.perform hcall
    exact ⟨hwf, hid.trans ih.2⟩

/-- The records are what the successful appends of the run returned. -/
theorem Run.mem_records_iff {storeId : EntityId} {trace : List (Call × Reply)}
    {store : MemoryEventStore} (h : Run storeId trace store) (record : StoredEvent) :
    (record ∈ store.records ↔
      ∃ event, (.append event, .appended (.ok record)) ∈ trace) ∧
    ∀ event, (.append event, .appended (.ok record)) ∈ trace → record.event.id = event.id := by
  induction h with
  | new => exact ⟨iff_of_false nofun (by rintro ⟨_, ⟨⟩⟩), nofun⟩
  | @call trace store store' call reply hrun hcall ih =>
    obtain ⟨ihmem, ihid⟩ := ih
    obtain ⟨reply', hperform, hread⟩ | ⟨event, stored, rfl, hmem, hid, hperform⟩ |
      ⟨event, new, rfl, rfl, -, -, hperform⟩ | ⟨-, hperform⟩ :=
      hrun.wellFormed.1.perform_cases call <;> rw [hperform] at hcall <;> cases hcall
    · -- A read leaves the records and adds no append to the trace.
      have htrace (event : Event) : (Call.append event, Reply.appended (.ok record)) ∈
          trace ++ [(call, reply)] ↔ (.append event, .appended (.ok record)) ∈ trace := by
        have hne := hread event
        simp only [List.mem_append, List.mem_singleton, Prod.mk.injEq]
        exact or_iff_left fun heq => hne heq.1.symm
      simp only [htrace]
      exact ⟨ihmem, ihid⟩
    · -- A stored identifier: the reply is the stored record or a conflict.
      have hstored (event' : Event) (hlast : (Call.append event', Reply.appended (.ok record)) =
          (.append event, .appended (if stored.event == event then .ok stored
            else .error (.eventConflict event.id)))) : record = stored ∧ event' = event := by
        split_ifs at hlast with heq
        · cases hlast
          exact ⟨rfl, rfl⟩
        · cases hlast
      constructor
      · rw [ihmem]
        constructor
        · rintro ⟨event', hevent'⟩
          exact ⟨event', List.mem_append_left _ hevent'⟩
        · rintro ⟨event', hevent'⟩
          rcases List.mem_append.mp hevent' with hold | hlast
          · exact ⟨event', hold⟩
          · obtain ⟨rfl, rfl⟩ := hstored event' (List.mem_singleton.mp hlast)
            exact ihmem.mp hmem
      · intro event' hevent'
        rcases List.mem_append.mp hevent' with hold | hlast
        · exact ihid event' hold
        · obtain ⟨rfl, rfl⟩ := hstored event' (List.mem_singleton.mp hlast)
          exact hid
    · -- A new record.
      simp only [List.mem_append, List.mem_singleton, Prod.mk.injEq, Call.append.injEq,
        Reply.appended.injEq, Except.ok.injEq, push]
      constructor
      · rw [ihmem]
        constructor
        · rintro (⟨event, hevent⟩ | rfl)
          · exact ⟨event, .inl hevent⟩
          · exact ⟨record.event, .inr ⟨rfl, rfl⟩⟩
        · rintro ⟨event, hevent | ⟨rfl, rfl⟩⟩
          · exact .inl ⟨event, hevent⟩
          · exact .inr rfl
      · rintro event (hevent | ⟨rfl, rfl⟩)
        · exact ihid event hevent
        · rfl

/-- Any further calls, each of which returned. -/
def Grows : MemoryEventStore → MemoryEventStore → Prop :=
  Relation.ReflTransGen fun store store' => ∃ call reply, store.perform call = .ok (reply, store')

theorem Grows.spec {store store' : MemoryEventStore} (hgrows : Grows store store')
    (h : store.WellFormed) :
    store'.WellFormed ∧ store'.storeId = store.storeId ∧ store.records <+: store'.records := by
  induction hgrows with
  | refl => exact ⟨h, rfl, List.prefix_rfl⟩
  | tail _ hstep ih =>
    obtain ⟨call, reply, hcall⟩ := hstep
    obtain ⟨hwf, hid, hpre⟩ := ih
    obtain ⟨hwf', hid', hpre'⟩ := hwf.perform hcall
    exact ⟨hwf', hid'.trans hid, hpre.trans hpre'⟩

/-- The store is a duplicate-free append-only log, in every state of every run. -/
theorem run_is_append_only_log (storeId : EntityId) (trace : List (Call × Reply))
    (store : MemoryEventStore) (h : Run storeId trace store) :
    (∀ id i, store.eventIndices id = some i ↔
      ∃ record, store.records[i]? = some record ∧ record.event.id = id) ∧
    (store.records.map fun record => record.event.id).Nodup ∧
    (∀ later, Grows store later → store.records <+: later.records) ∧
    (∀ i record, store.records[i]? = some record →
      EventCursor.forMemory storeId (i + 1) = .ok record.cursor) ∧
    (∀ event stored, stored ∈ store.records → (stored.event == event) = true →
      store.append event = .ok (.ok stored, store)) ∧
    (∀ event stored, stored ∈ store.records → stored.event.id = event.id →
      (stored.event == event) = false →
      store.append event = .ok (.error (.eventConflict event.id), store)) ∧
    (∀ event, (∀ stored ∈ store.records, stored.event.id ≠ event.id) →
      (store.records.length = isizeMax ∧ store.append event = .error .outOfMemory) ∨
      ∃ record store', store.append event = .ok (.ok record, store') ∧ record.event = event ∧
        store'.records = store.records ++ [record]) ∧
    (∀ id record, store.get id = .ok (some record) ↔
      ∃ event, event.id = id ∧ (.append event, .appended (.ok record)) ∈ trace) ∧
    (∀ call, store.perform call ≠ .error .indexOutOfBounds ∧
      ∀ message, store.perform call ≠ .error (.expect message)) := by
  obtain ⟨hwf, hid⟩ := h.wellFormed
  refine ⟨hwf.indexed, hwf.nodup_ids, fun later hlater => (hlater.spec hwf).2.2, ?_, ?_, ?_, ?_,
    ?_, ?_⟩
  · intro i record hrecord
    rw [← hid]
    exact hwf.cursors i record hrecord
  · intro event stored hmem heq
    rw [hwf.append_of_mem hmem (Event.id_eq_of_beq heq), if_pos heq]
  · intro event stored hmem hsame hne
    rw [hwf.append_of_mem hmem hsame, hne]
    rfl
  · intro event hnew
    have hnone : store.eventIndices event.id = none := by
      cases hindex : store.eventIndices event.id with
      | none => rfl
      | some i =>
        obtain ⟨stored, hi, hstored⟩ := (hwf.indexed _ i).mp hindex
        exact absurd hstored (hnew stored (List.mem_of_getElem? hi))
    obtain hfull | ⟨-, record, hevent, -, happend⟩ := hwf.append_of_new hnone
    · exact .inl hfull
    · exact .inr ⟨record, _, happend, hevent, rfl⟩
  · intro id record
    obtain ⟨found, hget, hfound⟩ := hwf.get_eq id
    obtain ⟨hmem, hids⟩ := h.mem_records_iff record
    rw [hget, Except.ok.injEq, hfound, hmem]
    constructor
    · rintro ⟨⟨event, hevent⟩, rfl⟩
      exact ⟨event, (hids event hevent).symm, hevent⟩
    · rintro ⟨event, rfl, hevent⟩
      exact ⟨⟨event, hevent⟩, hids event hevent⟩
  · intro call
    obtain ⟨_, hperform, -⟩ | ⟨_, _, -, -, -, hperform⟩ | ⟨_, _, -, -, -, -, hperform⟩ |
      ⟨-, hperform⟩ := hwf.perform_cases call <;> rw [hperform] <;>
      exact ⟨nofun, nofun⟩

/-- An event with an empty payload. -/
def sampleEvent : Event where
  id := ⟨⟨⟨Vector.replicate 16 1⟩⟩⟩
  sessionId := ⟨⟨⟨Vector.replicate 16 2⟩⟩⟩
  actorId := ⟨⟨⟨Vector.replicate 16 3⟩⟩⟩
  actionId := ⟨⟨⟨Vector.replicate 16 4⟩⟩⟩
  eventType := ⟨"sample"⟩
  occurredAt := ⟨0⟩
  payload := ⟨[]⟩
  metadata := ⟨[]⟩

/-- Another event. -/
def sampleSecond : Event := { sampleEvent with id := ⟨⟨⟨Vector.replicate 16 5⟩⟩⟩ }

/-- Other content under the identity of the first event. -/
def sampleConflict : Event := { sampleEvent with eventType := ⟨"other"⟩ }

/-- Two events, then a duplicate of the first one and a conflict with it. -/
theorem run_is_append_only_log_sample :
    ∃ trace store stored, Run ⟨⟨Vector.replicate 16 9⟩⟩ trace store ∧
      trace.map Prod.fst = [.append sampleEvent, .append sampleSecond, .append sampleEvent,
        .append sampleConflict] ∧
      (store.records.map fun record => record.event.id).Nodup ∧ store.records.length = 2 ∧
      stored ∈ store.records ∧ store.append sampleEvent = .ok (.ok stored, store) ∧
      store.append sampleConflict = .ok (.error (.eventConflict sampleEvent.id), store) := by
  have hnew : Run ⟨⟨Vector.replicate 16 9⟩⟩ [] (new ⟨⟨Vector.replicate 16 9⟩⟩) := .new
  have hfirst := @Run.call _ _ _ _ (.append sampleEvent) _ hnew rfl
  have hsecond := @Run.call _ _ _ _ (.append sampleSecond) _ hfirst rfl
  have hduplicate := @Run.call _ _ _ _ (.append sampleEvent) _ hsecond rfl
  have hconflict := @Run.call _ _ _ _ (.append sampleConflict) _ hduplicate rfl
  obtain ⟨trace, store, stored, hrun, hcalls, hlength, hmem, hevent⟩ :
      ∃ trace store stored, Run ⟨⟨Vector.replicate 16 9⟩⟩ trace store ∧
        trace.map Prod.fst = [.append sampleEvent, .append sampleSecond, .append sampleEvent,
          .append sampleConflict] ∧
        store.records.length = 2 ∧ stored ∈ store.records ∧ stored.event = sampleEvent :=
    ⟨_, _, _, hconflict, rfl, rfl, .head _, rfl⟩
  obtain ⟨-, hnodup, -, -, hagain, hrefused, -⟩ := run_is_append_only_log _ _ _ hrun
  refine ⟨trace, store, stored, hrun, hcalls, hnodup, hlength, hmem,
    hagain _ stored hmem ?_, hrefused _ stored hmem ?_ ?_⟩
  · rw [hevent]
    rfl
  · rw [hevent]
    rfl
  · rw [hevent]
    rfl

end MemoryEventStore
end OrbitRelay
