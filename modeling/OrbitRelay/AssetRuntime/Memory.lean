import OrbitRelay.AssetRuntime.ReadAll

/-! The in-memory Asset adapter. The bounds of its slices come from stored metadata, which
insertion has verified against the bytes and nothing changes afterwards. -/
namespace OrbitRelay

structure MemoryAssetRecord where
  descriptor : SourceAssetDescriptor
  bytes : List UInt8
deriving DecidableEq

/-- The state under the lock. -/
structure MemoryAssetStore where
  records : AssetId → Option MemoryAssetRecord

/-- Result of inserting verified bytes. -/
inductive AssetInsertOutcome
  | inserted
  | existing
deriving DecidableEq

/-- A failure while verifying or inserting data. -/
inductive MemoryAssetStoreError
  | lengthMismatch (assetId : AssetId) (expected actual : UInt64)
  | hashMismatch (assetId : AssetId) (expected actual : ContentHash)
  | lengthOverflow (actual : Nat)
  | assetConflict (assetId : AssetId)
deriving DecidableEq

namespace MemoryAssetStore

def new : MemoryAssetStore := ⟨fun _ => none⟩

/-- `HashMap::insert` on the records. -/
def insert (store : MemoryAssetStore) (record : MemoryAssetRecord) : MemoryAssetStore :=
  ⟨fun id => if id = record.descriptor.assetId then some record else store.records id⟩

section
variable (digest : List UInt8 → Vector UInt8 32)

def sha256 (bytes : List UInt8) : ContentHash := ContentHash.fromBytes (digest bytes)

/-- The checks before the lock is taken. -/
def verify (descriptor : SourceAssetDescriptor) (bytes : List UInt8) :
    Except MemoryAssetStoreError Unit := do
  let actualLength ← (UInt64.tryFrom bytes.length).okOr (.lengthOverflow bytes.length)
  if descriptor.byteLength ≠ actualLength then
    .error (.lengthMismatch descriptor.assetId descriptor.byteLength actualLength)
  else if descriptor.contentHash ≠ sha256 digest bytes then
    .error (.hashMismatch descriptor.assetId descriptor.contentHash (sha256 digest bytes))
  else .ok ()

/-- Inserts an Asset only when its length and SHA-256 hash verify; never overwrites. -/
def insertVerified (descriptor : SourceAssetDescriptor) (bytes : List UInt8)
    (store : MemoryAssetStore) :
    Except MemoryAssetStoreError AssetInsertOutcome × MemoryAssetStore :=
  match verify digest descriptor bytes with
  | .error e => (.error e, store)
  | .ok () =>
    match store.records descriptor.assetId with
    | some existing =>
      if existing.descriptor = descriptor ∧ existing.bytes = bytes then (.ok .existing, store)
      else (.error (.assetConflict descriptor.assetId), store)
    | none => (.ok .inserted, store.insert ⟨descriptor, bytes⟩)

end

def getAsset (assetId : AssetId) (store : MemoryAssetStore) :
    Except AssetCatalogError (Option SourceAssetDescriptor) :=
  .ok ((store.records assetId).map MemoryAssetRecord.descriptor)

/-- The slice of a stored Asset that a range asks for, cut off at its end. -/
def readRange (assetId : AssetId) (range : AssetByteRange) (store : MemoryAssetStore) :
    Except Panic (Except AssetReadError AssetByteChunk) :=
  match store.records assetId with
  | none => .ok (.error (.notFound assetId))
  | some record =>
    let totalLength := record.descriptor.byteLength
    if range.offset > totalLength then
      .ok (.error (.rangeOutOfBounds assetId range.offset totalLength))
    else if range.offset = totalLength then
      .ok ((AssetByteChunk.new range.offset [] totalLength).mapError fun _ =>
        .unavailable "memory asset produced an invalid EOF chunk")
    else
      match range.endOffset with
      | none => .ok (.error (.unavailable "memory asset range overflowed unexpectedly"))
      | some requestedEnd =>
        match usizeTryFrom range.offset with
        | none =>
          .ok (.error (.unavailable "asset offset cannot be represented on this platform"))
        | some start =>
          match usizeTryFrom (min requestedEnd totalLength) with
          | none =>
            .ok (.error (.unavailable "asset range end cannot be represented on this platform"))
          | some stop => do
            let bytes ← record.bytes.slice start stop
            .ok ((AssetByteChunk.new range.offset bytes totalLength).mapError fun _ =>
              .unavailable "memory asset produced an invalid range chunk")

/-- A call on the store. -/
inductive Call
  | insertVerified (descriptor : SourceAssetDescriptor) (bytes : List UInt8)
  | getAsset (assetId : AssetId)
  | readRange (assetId : AssetId) (range : AssetByteRange)

/-- What a call returned. -/
inductive Reply
  | inserted (result : Except MemoryAssetStoreError AssetInsertOutcome)
  | found (result : Except AssetCatalogError (Option SourceAssetDescriptor))
  | read (result : Except AssetReadError AssetByteChunk)

/-- One call; only an insertion writes. -/
def perform (digest : List UInt8 → Vector UInt8 32) (store : MemoryAssetStore) :
    Call → Except Panic (Reply × MemoryAssetStore)
  | .insertVerified descriptor bytes =>
    let (result, store') := store.insertVerified digest descriptor bytes
    .ok (.inserted result, store')
  | .getAsset assetId => .ok (.found (store.getAsset assetId), store)
  | .readRange assetId range => do .ok (.read (← store.readRange assetId range), store)

/-- The store under any sequence of calls. -/
def system (digest : List UInt8 → Vector UInt8 32) : Transition.System MemoryAssetStore where
  init store := store = new
  step store store' := ∃ call reply, store.perform digest call = .ok (reply, store')

/-! ### Verified content -/

section
variable {digest : List UInt8 → Vector UInt8 32} {store store' : MemoryAssetStore}

/-- The record is filed under its own identity, and its metadata describes its bytes. -/
structure Verified (digest : List UInt8 → Vector UInt8 32) (assetId : AssetId)
    (record : MemoryAssetRecord) : Prop where
  assetId : record.descriptor.assetId = assetId
  byteLength : record.descriptor.byteLength.toNat = record.bytes.length
  contentHash : record.descriptor.contentHash = ContentHash.fromBytes (digest record.bytes)

theorem verify_eq_ok {descriptor : SourceAssetDescriptor} {bytes : List UInt8}
    (h : verify digest descriptor bytes = .ok ()) :
    Verified digest descriptor.assetId ⟨descriptor, bytes⟩ := by
  obtain ⟨actualLength, hlength, h⟩ := Except.bind_eq_ok.mp h
  split_ifs at h with hmismatch hhash
  have hactual := UInt64.tryFrom_eq_some.mp (Except.okOr_eq_ok.mp hlength)
  constructor
  · rfl
  · show descriptor.byteLength.toNat = bytes.length
    rw [not_not.mp hmismatch, hactual]
  · exact not_not.mp hhash

/-- What an insertion does: nothing, unless the identity is new and the content verifies. -/
theorem insertVerified_cases (digest : List UInt8 → Vector UInt8 32) (store : MemoryAssetStore)
    (descriptor : SourceAssetDescriptor) (bytes : List UInt8) :
    (∃ e, store.insertVerified digest descriptor bytes = (.error e, store)) ∨
    (store.insertVerified digest descriptor bytes = (.ok .existing, store) ∧
      store.records descriptor.assetId = some ⟨descriptor, bytes⟩) ∨
    (store.insertVerified digest descriptor bytes =
        (.ok .inserted, store.insert ⟨descriptor, bytes⟩) ∧
      store.records descriptor.assetId = none ∧
      Verified digest descriptor.assetId ⟨descriptor, bytes⟩) := by
  unfold insertVerified
  cases hverify : verify digest descriptor bytes with
  | error e => exact .inl ⟨e, rfl⟩
  | ok _ =>
    cases hfound : store.records descriptor.assetId with
    | none => exact .inr (.inr ⟨rfl, rfl, verify_eq_ok hverify⟩)
    | some existing =>
      by_cases hsame : existing.descriptor = descriptor ∧ existing.bytes = bytes
      · obtain ⟨rfl, rfl⟩ := hsame
        exact .inr (.inl ⟨if_pos ⟨rfl, rfl⟩, rfl⟩)
      · exact .inl ⟨_, if_neg hsame⟩

@[simp] theorem insert_records_self (record : MemoryAssetRecord) :
    (store.insert record).records record.descriptor.assetId = some record := if_pos rfl

theorem insert_records_of_ne {record : MemoryAssetRecord} {id : AssetId}
    (h : id ≠ record.descriptor.assetId) :
    (store.insert record).records id = store.records id := if_neg h

/-- What a call does to the records. -/
theorem perform_cases {call : Call} {reply : Reply}
    (h : store.perform digest call = .ok (reply, store')) :
    store' = store ∨ ∃ record, store.records record.descriptor.assetId = none ∧
      Verified digest record.descriptor.assetId record ∧ store' = store.insert record := by
  cases call with
  | insertVerified descriptor bytes =>
    obtain ⟨e, hcase⟩ | ⟨hcase, -⟩ | ⟨hcase, hnone, hverified⟩ :=
      insertVerified_cases digest store descriptor bytes
    · simp only [perform, hcase] at h
      cases h
      exact .inl rfl
    · simp only [perform, hcase] at h
      cases h
      exact .inl rfl
    · simp only [perform, hcase] at h
      cases h
      exact .inr ⟨⟨descriptor, bytes⟩, hnone, hverified, rfl⟩
  | getAsset assetId =>
    cases h
    exact .inl rfl
  | readRange assetId range =>
    obtain ⟨result, -, h⟩ := Except.bind_eq_ok.mp h
    cases h
    exact .inl rfl

/-- One call keeps every record. -/
theorem step_records (h : (system digest).step store store') {id : AssetId}
    {record : MemoryAssetRecord} (hrecord : store.records id = some record) :
    store'.records id = some record := by
  obtain ⟨call, reply, hperform⟩ := h
  obtain rfl | ⟨added, hnone, -, rfl⟩ := perform_cases hperform
  · exact hrecord
  · have hne : id ≠ added.descriptor.assetId := by
      rintro rfl
      rw [hnone] at hrecord
      cases hrecord
    rw [insert_records_of_ne hne, hrecord]

/-- A record is never changed or removed. -/
theorem records_immutable (h : Relation.ReflTransGen (system digest).step store store')
    {id : AssetId} {record : MemoryAssetRecord} (hrecord : store.records id = some record) :
    store'.records id = some record := by
  induction h with
  | refl => exact hrecord
  | tail _ hstep ih => exact step_records hstep ih

/-- Every record of a reachable store is verified. -/
theorem verified_of_reachable (h : (system digest).Reachable store) :
    ∀ id record, store.records id = some record → Verified digest id record := by
  apply h.invariant (I := fun store => ∀ id record, store.records id = some record →
    Verified digest id record)
  · rintro _ rfl id record hrecord
    cases hrecord
  · rintro store store' ih ⟨call, reply, hperform⟩ id record hrecord
    obtain rfl | ⟨added, -, hverified, rfl⟩ := perform_cases hperform
    · exact ih id record hrecord
    · by_cases hid : id = added.descriptor.assetId
      · subst hid
        rw [insert_records_self] at hrecord
        cases hrecord
        exact hverified
      · rw [insert_records_of_ne hid] at hrecord
        exact ih id record hrecord

/-! ### Exact slices -/

/-- The end of a range, cut off at the end of the Asset. -/
theorem stop_toNat {range : AssetByteRange} {stop : UInt64} (totalLength : UInt64)
    (h : stop.toNat = range.offset.toNat + range.length.toNat) :
    (min stop totalLength).toNat =
      min (range.offset.toNat + range.length.toNat) totalLength.toNat := by
  rw [UInt64.min_toNat, h]

/-- Inside an Asset a range is answered with the slice that it names. -/
theorem readRange_inside {assetId : AssetId} {record : MemoryAssetRecord} {range : AssetByteRange}
    (hrecord : store.records assetId = some record) (hverified : Verified digest assetId record)
    (hlt : range.offset < record.descriptor.byteLength) :
    ∃ chunk, store.readRange assetId range = .ok (.ok chunk) ∧ chunk.offset = range.offset ∧
      chunk.totalLength = record.descriptor.byteLength ∧
      chunk.bytes = (record.bytes.drop range.offset.toNat).take
        (min (range.offset.toNat + range.length.toNat) record.bytes.length -
          range.offset.toNat) := by
  obtain ⟨requestedEnd, hend, hvalue⟩ := range.exists_endOffset
  have hlength := hverified.byteLength
  have hpositive := range.length_pos
  have hstop := stop_toNat record.descriptor.byteLength hvalue
  have hlt' := UInt64.lt_iff_toNat_lt.mp hlt
  have hslice : record.bytes.slice range.offset.toNat
      (min requestedEnd record.descriptor.byteLength).toNat = .ok _ :=
    List.slice_of_le (by omega) (by omega)
  generalize hbytes : (record.bytes.drop range.offset.toNat).take
    ((min requestedEnd record.descriptor.byteLength).toNat - range.offset.toNat) = bytes at hslice
  have hcount : bytes.length =
      (min requestedEnd record.descriptor.byteLength).toNat - range.offset.toNat := by
    rw [← hbytes, List.length_take, List.length_drop]
    omega
  have hwithin : range.offset.toNat + bytes.length ≤ record.descriptor.byteLength.toNat := by omega
  have hprogress : bytes = [] → range.offset = record.descriptor.byteLength := by
    rintro rfl
    rw [List.length_nil] at hcount
    omega
  refine ⟨⟨range.offset, bytes, record.descriptor.byteLength, hwithin, hprogress⟩, ?_, rfl, rfl, ?_⟩
  · have hnotgt : ¬ range.offset > record.descriptor.byteLength := by
      rw [gt_iff_lt, UInt64.lt_iff_toNat_lt]
      omega
    have hne : range.offset ≠ record.descriptor.byteLength := UInt64.ne_of_lt hlt
    have hnew : AssetByteChunk.new range.offset bytes record.descriptor.byteLength =
        .ok ⟨_, bytes, _, hwithin, hprogress⟩ :=
      AssetByteChunk.new_eq_ok.mpr ⟨rfl, rfl, rfl⟩
    unfold readRange
    simp only [hrecord, if_neg hnotgt, if_neg hne, hend, usizeTryFrom_eq, hslice, Except.ok_bind,
      hnew, Except.mapError_ok]
  · show bytes = _
    rw [← hbytes, hstop, hlength]

/-- At the end of an Asset a range is answered with an empty chunk. -/
theorem readRange_at_end {assetId : AssetId} {record : MemoryAssetRecord} {range : AssetByteRange}
    (hrecord : store.records assetId = some record)
    (hend : range.offset = record.descriptor.byteLength) :
    ∃ chunk, store.readRange assetId range = .ok (.ok chunk) ∧ chunk.offset = range.offset ∧
      chunk.totalLength = record.descriptor.byteLength ∧ chunk.bytes = [] := by
  have hwithin : range.offset.toNat + ([] : List UInt8).length ≤
      record.descriptor.byteLength.toNat := by
    rw [hend]
    exact Nat.le_refl _
  refine ⟨⟨range.offset, [], record.descriptor.byteLength, hwithin, fun _ => hend⟩, ?_,
    rfl, rfl, rfl⟩
  have hnotgt : ¬ range.offset > record.descriptor.byteLength := by
    rw [gt_iff_lt, UInt64.lt_iff_toNat_lt, hend]
    omega
  have hnew : AssetByteChunk.new range.offset [] record.descriptor.byteLength =
      .ok ⟨_, [], _, hwithin, fun _ => hend⟩ :=
    AssetByteChunk.new_eq_ok.mpr ⟨rfl, rfl, rfl⟩
  unfold readRange
  simp only [hrecord, if_neg hnotgt, if_pos hend, hnew, Except.mapError_ok]

theorem readRange_beyond {assetId : AssetId} {record : MemoryAssetRecord} {range : AssetByteRange}
    (hrecord : store.records assetId = some record)
    (hgt : record.descriptor.byteLength < range.offset) :
    store.readRange assetId range =
      .ok (.error (.rangeOutOfBounds assetId range.offset record.descriptor.byteLength)) := by
  unfold readRange
  simp only [hrecord, gt_iff_lt, if_pos hgt]

theorem readRange_unknown {assetId : AssetId} {range : AssetByteRange}
    (hnone : store.records assetId = none) :
    store.readRange assetId range = .ok (.error (.notFound assetId)) := by
  unfold readRange
  simp only [hnone]

/-- The slice never panics, and the store is never unavailable. -/
theorem exists_readRange (h : ∀ id record, store.records id = some record →
    Verified digest id record) (assetId : AssetId) (range : AssetByteRange) :
    ∃ result, store.readRange assetId range = .ok result ∧
      ∀ detail, result ≠ .error (.unavailable detail) := by
  cases hrecord : store.records assetId with
  | none => exact ⟨_, readRange_unknown hrecord, by simp⟩
  | some record =>
    have hverified := h assetId record hrecord
    by_cases hlt : range.offset < record.descriptor.byteLength
    · obtain ⟨chunk, hread, -⟩ := readRange_inside hrecord hverified hlt
      exact ⟨_, hread, by simp⟩
    by_cases hend : range.offset = record.descriptor.byteLength
    · obtain ⟨chunk, hread, -⟩ := readRange_at_end hrecord hend
      exact ⟨_, hread, by simp⟩
    · have hgt : record.descriptor.byteLength < range.offset :=
        UInt64.lt_of_le_of_ne (UInt64.not_lt.mp hlt) (Ne.symm hend)
      exact ⟨_, readRange_beyond hrecord hgt, by simp⟩

/-! ### Full reads -/

/-- The states that the store can be in from now on. -/
def Later (digest : List UInt8 → Vector UInt8 32) : MemoryAssetStore → MemoryAssetStore → Prop :=
  Relation.ReflTransGen (system digest).step

/-- The store as a reader: other calls may run between the ranges of one read. -/
def ServesReads (digest : List UInt8 → Vector UInt8 32) (store : MemoryAssetStore)
    (reader : AssetReader) : Prop :=
  ∀ asked id range, ∃ now, Later digest store now ∧
    now.readRange id range = .ok (reader asked id range)

/-- A reader backed by the store answers a range inside a record with its slice. -/
theorem ServesReads.answer {reader : AssetReader} (h : ServesReads digest store reader)
    {assetId : AssetId} {record : MemoryAssetRecord} (asked : List AssetByteRange)
    {range : AssetByteRange} (hrecord : store.records assetId = some record)
    (hverified : Verified digest assetId record)
    (hwithin : range.offset.toNat + range.length.toNat ≤ record.descriptor.byteLength.toNat) :
    ∃ chunk, reader asked assetId range = .ok chunk ∧
      chunk.Fits range record.descriptor.byteLength ∧
      chunk.bytes = (record.bytes.drop range.offset.toNat).take range.length.toNat := by
  obtain ⟨now, hlater, hanswer⟩ := h asked assetId range
  have hpositive := range.length_pos
  have hlength := hverified.byteLength
  have hlt : range.offset < record.descriptor.byteLength := by
    rw [UInt64.lt_iff_toNat_lt]
    omega
  obtain ⟨chunk, hread, hoffset, htotal, hbytes⟩ :=
    readRange_inside (records_immutable hlater hrecord) hverified hlt
  have hcut : min (range.offset.toNat + range.length.toNat) record.bytes.length -
      range.offset.toNat = range.length.toNat := by omega
  rw [hcut] at hbytes
  refine ⟨chunk, Except.ok.inj (hanswer.symm.trans hread), ⟨hoffset, htotal, ?_⟩, hbytes⟩
  rw [hbytes, List.length_take, List.length_drop]
  omega

/-- A full read through the store returns the bytes of the record. -/
theorem readAssetFully_eq {reader : AssetReader} {assetId : AssetId} {record : MemoryAssetRecord}
    {maxBytes : UInt64} (hreader : ServesReads digest store reader)
    (hrecord : store.records assetId = some record) (hverified : Verified digest assetId record)
    (hmax : record.descriptor.byteLength ≤ maxBytes) :
    (readAssetFully (fun id => store.getAsset id) reader assetId maxBytes).result =
      .ok record.bytes := by
  have hfound : store.getAsset assetId = .ok (some record.descriptor) := by
    rw [getAsset, hrecord]
    rfl
  have hsafe : (readAssetFully (fun id => store.getAsset id) reader assetId maxBytes).Safe reader
      assetId record.descriptor.byteLength := readAssetFully_safe hfound hmax
  generalize readAssetFully (fun id => store.getAsset id) reader assetId maxBytes = read at hsafe ⊢
  cases hresult : read.result with
  | ok bytes =>
    rw [hsafe.conforming record.bytes hverified.byteLength.symm ?_ bytes hresult]
    intro front range rest chunk hsplit hanswer
    have hmem : range ∈ read.asked := by simp [hsplit]
    obtain ⟨chunk', hanswer', -, hbytes⟩ := hreader.answer front hrecord hverified
      (within_of_spans hsafe.consecutive hmem)
    cases hanswer.symm.trans hanswer'
    exact hbytes
  | error e =>
    obtain ⟨front, range, hasked, hrefused⟩ := hsafe.refused e hresult
    have hmem : range ∈ read.asked := by simp [hasked]
    obtain ⟨chunk, hanswer, hfits, -⟩ := hreader.answer front hrecord hverified
      (within_of_spans hsafe.consecutive hmem)
    rw [hanswer] at hrefused
    cases hrefused with
    | chunk misfit reason_eq => exact absurd hfits misfit

/-- What the store guarantees in a state. -/
structure Sound (digest : List UInt8 → Vector UInt8 32) (store : MemoryAssetStore) : Prop where
  verified : ∀ id record, store.records id = some record → Verified digest id record
  immutable : ∀ id record now, store.records id = some record → Later digest store now →
    now.records id = some record
  returns : ∀ call, ∃ reply now, store.perform digest call = .ok (reply, now)
  stored : ∀ descriptor bytes outcome now,
    store.insertVerified digest descriptor bytes = (.ok outcome, now) →
    now.records descriptor.assetId = some ⟨descriptor, bytes⟩
  unchanged : ∀ descriptor bytes result now,
    store.insertVerified digest descriptor bytes = (result, now) → result ≠ .ok .inserted →
    now = store
  inside : ∀ id record range, store.records id = some record →
    range.offset < record.descriptor.byteLength →
    ∃ chunk, store.readRange id range = .ok (.ok chunk) ∧ chunk.offset = range.offset ∧
      chunk.totalLength = record.descriptor.byteLength ∧
      chunk.bytes = (record.bytes.drop range.offset.toNat).take
        (min (range.offset.toNat + range.length.toNat) record.bytes.length - range.offset.toNat)
  atEnd : ∀ id record range, store.records id = some record →
    range.offset = record.descriptor.byteLength →
    ∃ chunk, store.readRange id range = .ok (.ok chunk) ∧ chunk.offset = range.offset ∧
      chunk.totalLength = record.descriptor.byteLength ∧ chunk.bytes = []
  beyond : ∀ id record range, store.records id = some record →
    record.descriptor.byteLength < range.offset → store.readRange id range =
      .ok (.error (.rangeOutOfBounds id range.offset record.descriptor.byteLength))
  available : ∀ id range detail,
    store.readRange id range ≠ .ok (.error (.unavailable detail))
  full : ∀ reader id record maxBytes, ServesReads digest store reader →
    store.records id = some record → record.descriptor.byteLength ≤ maxBytes →
    (readAssetFully (fun id => store.getAsset id) reader id maxBytes).result = .ok record.bytes

end

/-- Over every run the store holds verified, immutable content and serves exact slices. -/
theorem memory_assets_sound {digest : List UInt8 → Vector UInt8 32} {store : MemoryAssetStore}
    (h : (system digest).Reachable store) : store.Sound digest := by
  have hverified := verified_of_reachable h
  constructor
  · exact hverified
  · exact fun id record now hrecord hlater => records_immutable hlater hrecord
  · intro call
    cases call with
    | insertVerified descriptor bytes => exact ⟨_, _, rfl⟩
    | getAsset id => exact ⟨_, _, rfl⟩
    | readRange id range =>
      obtain ⟨result, hread, -⟩ := exists_readRange hverified id range
      refine ⟨.read result, store, ?_⟩
      simp only [perform, hread, Except.ok_bind]
  · intro descriptor bytes outcome now hinsert
    obtain ⟨e, hcase⟩ | ⟨hcase, hstored⟩ | ⟨hcase, -, -⟩ :=
      insertVerified_cases digest store descriptor bytes
    · cases hcase.symm.trans hinsert
    · cases hcase.symm.trans hinsert
      exact hstored
    · cases hcase.symm.trans hinsert
      exact insert_records_self _
  · intro descriptor bytes result now hinsert hnot
    obtain ⟨e, hcase⟩ | ⟨hcase, -⟩ | ⟨hcase, -, -⟩ :=
      insertVerified_cases digest store descriptor bytes
    · cases hcase.symm.trans hinsert
      rfl
    · cases hcase.symm.trans hinsert
      rfl
    · cases hcase.symm.trans hinsert
      exact absurd rfl hnot
  · exact fun id record range hrecord => readRange_inside hrecord (hverified id record hrecord)
  · exact fun id record range hrecord => readRange_at_end hrecord
  · exact fun id record range hrecord => readRange_beyond hrecord
  · intro id range detail hunavailable
    obtain ⟨result, hread, hnot⟩ := exists_readRange hverified id range
    exact hnot detail (Except.ok.inj (hread.symm.trans hunavailable))
  · intro reader id record maxBytes hreader hrecord hmax
    exact readAssetFully_eq hreader hrecord (hverified id record hrecord) hmax

/-- The SHA-256 digest of `abc`. -/
def abcDigest : Vector UInt8 32 :=
  #v[0xba, 0x78, 0x16, 0xbf, 0x8f, 0x01, 0xcf, 0xea, 0x41, 0x41, 0x40, 0xde, 0x5d, 0xae, 0x22,
    0x23, 0xb0, 0x03, 0x61, 0xa3, 0x96, 0x17, 0x7a, 0x9c, 0xb4, 0x10, 0xff, 0x61, 0xf2, 0x00,
    0x15, 0xad]

def abcRecord : MemoryAssetRecord where
  descriptor :=
    { assetId := ⟨⟨⟨Vector.replicate 16 1⟩⟩⟩
      mediaType := "text/plain"
      byteLength := 3
      contentHash := ContentHash.fromBytes abcDigest
      originalFilename := none
      mediaType_valid := by decide
      originalFilename_valid := by simp }
  bytes := [97, 98, 99]

theorem memory_assets_sound_sample :
    (new.insert abcRecord).Sound fun _ => abcDigest :=
  memory_assets_sound (.step (.init rfl) ⟨.insertVerified abcRecord.descriptor abcRecord.bytes,
    .inserted (.ok .inserted), by
      have hverify : verify (fun _ => abcDigest) abcRecord.descriptor abcRecord.bytes =
          .ok () := by rfl
      simp only [perform, insertVerified, hverify]
      rfl⟩)

end MemoryAssetStore
end OrbitRelay
