import OrbitRelay.Lib.Bytes
import OrbitRelay.Lib.Result
import OrbitRelay.Protocol.Basic

/-! Stored event records, query pages and the opaque position tokens of the memory store.
Sizes are those of a 64-bit target. -/
namespace OrbitRelay

/-- Database-neutral storage errors. -/
inductive StorageError
  | invalidQuery (reason : String)
  | invalidCursor (reason : String)
  | invalidCheckpoint (reason : String)
  | eventConflict (eventId : EventId)
  | backendUnavailable (message : String)
  | backendFailure (message : String)
deriving DecidableEq

inductive TokenKind
  | cursor | checkpoint
deriving DecidableEq

/-- The discriminant of the representation. -/
def TokenKind.toByte : TokenKind → UInt8
  | .cursor => 1
  | .checkpoint => 2

def tokenVersion : UInt8 := 1
def tokenLength : Nat := 26

/-- Version, kind, store identifier and big-endian position, in Base64. -/
def encodeMemoryToken (kind : TokenKind) (storeId : EntityId) (position : Nat) :
    Except Panic String :=
  if position < 2 ^ 64 then
    .ok (Base64.encode ([tokenVersion, kind.toByte] ++ storeId.uuid.bytes.toList ++
      Bytes.toBeBytes 8 position))
  else .error (.expect "memory append position must fit in u64")

def decodeMemoryToken (token : String) (expectedKind : TokenKind) (storeId : EntityId) :
    Option Nat := do
  let bytes ← Base64.decode token
  if bytes.length ≠ tokenLength ∨ bytes[0]? ≠ some tokenVersion ∨
      bytes[1]? ≠ some expectedKind.toByte ∨
      (bytes.drop 2).take 16 ≠ storeId.uuid.bytes.toList then none
  else some (Bytes.fromBeBytes (bytes.drop 18))

theorem decodeMemoryToken_of_encode {kind : TokenKind} {storeId : EntityId} {position : Nat}
    {token : String} (h : encodeMemoryToken kind storeId position = .ok token) :
    decodeMemoryToken token kind storeId = some position := by
  unfold encodeMemoryToken at h
  split_ifs at h with hposition
  have hid : storeId.uuid.bytes.toList.length = 16 := by simp
  have hbytes : Bytes.fromBeBytes (Bytes.toBeBytes 8 position) = position :=
    Bytes.fromBeBytes_toBeBytes (Nat.lt_of_lt_of_eq hposition (by decide))
  obtain rfl := Except.ok.inj h
  unfold decodeMemoryToken
  generalize storeId.uuid.bytes.toList = id at hid ⊢
  simp [tokenLength, hid, hbytes]

/-- A token is never the empty string, which queries reject on sight. -/
theorem isEmpty_of_encode {kind : TokenKind} {storeId : EntityId} {position : Nat}
    {token : String} (h : encodeMemoryToken kind storeId position = .ok token) :
    token.isEmpty = false := by
  have hdecoded := decodeMemoryToken_of_encode h
  rw [Bool.eq_false_iff]
  intro hempty
  rw [String.isEmpty_iff.mp hempty] at hdecoded
  cases hdecoded

/-- An opaque, backend-owned position in append order. -/
structure EventCursor where
  token : String
deriving DecidableEq

namespace EventCursor

def forMemory (storeId : EntityId) (position : Nat) : Except Panic EventCursor :=
  EventCursor.mk <$> encodeMemoryToken .cursor storeId position

def memoryPosition (cursor : EventCursor) (storeId : EntityId) (recordCount : Nat) :
    Except StorageError Nat :=
  ((decodeMemoryToken cursor.token .cursor storeId).filter
    fun position => 0 < position && position ≤ recordCount).okOr
    (.invalidCursor "cursor position is outside the stored event range")

def isEmpty (cursor : EventCursor) : Bool := cursor.token.isEmpty

theorem forMemory_eq_ok {storeId : EntityId} {position : Nat} {cursor : EventCursor} :
    forMemory storeId position = .ok cursor ↔
      encodeMemoryToken .cursor storeId position = .ok cursor.token := by
  unfold forMemory
  rw [Except.map_eq_ok]
  constructor
  · rintro ⟨token, htoken, rfl⟩
    exact htoken
  · intro htoken
    exact ⟨_, htoken, rfl⟩

theorem memoryPosition_of_forMemory {storeId : EntityId} {position recordCount : Nat}
    {cursor : EventCursor} (h : forMemory storeId position = .ok cursor) (hpos : 0 < position)
    (hle : position ≤ recordCount) :
    cursor.memoryPosition storeId recordCount = .ok position := by
  rw [memoryPosition, decodeMemoryToken_of_encode (forMemory_eq_ok.mp h)]
  simp [hpos, hle]

theorem isEmpty_of_forMemory {storeId : EntityId} {position : Nat} {cursor : EventCursor}
    (h : forMemory storeId position = .ok cursor) : cursor.isEmpty = false :=
  isEmpty_of_encode (forMemory_eq_ok.mp h)

end EventCursor

/-- A stable, store-owned exclusive upper bound for a replay query. -/
structure EventStoreCheckpoint where
  token : String
deriving DecidableEq

namespace EventStoreCheckpoint

def forMemory (storeId : EntityId) (position : Nat) : Except Panic EventStoreCheckpoint :=
  EventStoreCheckpoint.mk <$> encodeMemoryToken .checkpoint storeId position

def memoryPosition (checkpoint : EventStoreCheckpoint) (storeId : EntityId) (recordCount : Nat) :
    Except StorageError Nat :=
  ((decodeMemoryToken checkpoint.token .checkpoint storeId).filter
    fun position => position ≤ recordCount).okOr
    (.invalidCheckpoint "checkpoint does not belong to this store or is outside its range")

def isEmpty (checkpoint : EventStoreCheckpoint) : Bool := checkpoint.token.isEmpty

theorem forMemory_eq_ok {storeId : EntityId} {position : Nat}
    {checkpoint : EventStoreCheckpoint} :
    forMemory storeId position = .ok checkpoint ↔
      encodeMemoryToken .checkpoint storeId position = .ok checkpoint.token := by
  unfold forMemory
  rw [Except.map_eq_ok]
  constructor
  · rintro ⟨token, htoken, rfl⟩
    exact htoken
  · intro htoken
    exact ⟨_, htoken, rfl⟩

theorem memoryPosition_of_forMemory {storeId : EntityId} {position recordCount : Nat}
    {checkpoint : EventStoreCheckpoint} (h : forMemory storeId position = .ok checkpoint)
    (hle : position ≤ recordCount) :
    checkpoint.memoryPosition storeId recordCount = .ok position := by
  rw [memoryPosition, decodeMemoryToken_of_encode (forMemory_eq_ok.mp h)]
  simp [hle]

theorem isEmpty_of_forMemory {storeId : EntityId} {position : Nat}
    {checkpoint : EventStoreCheckpoint} (h : forMemory storeId position = .ok checkpoint) :
    checkpoint.isEmpty = false :=
  isEmpty_of_encode (forMemory_eq_ok.mp h)

/-- A decoded checkpoint lies within the records. -/
theorem le_of_memoryPosition {storeId : EntityId} {position recordCount : Nat}
    {checkpoint : EventStoreCheckpoint}
    (h : checkpoint.memoryPosition storeId recordCount = .ok position) :
    position ≤ recordCount := by
  have hsome := Except.okOr_eq_ok.mp h
  simpa using (Option.filter_eq_some_iff.mp hsome).2

end EventStoreCheckpoint

/-- An immutable event paired with its backend append cursor. -/
structure StoredEvent where
  cursor : EventCursor
  event : Event

/-- One append-ordered page of stored events. -/
structure EventPage where
  events : List StoredEvent
  nextCursor : Option EventCursor

end OrbitRelay
