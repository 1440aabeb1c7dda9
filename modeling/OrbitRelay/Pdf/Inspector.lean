import OrbitRelay.AssetRuntime.Memory
import OrbitRelay.Pdf.Fault

/-! Inspection of a stored Asset. The catalog is asked before the read and again by the read, and
may answer differently; the ranges are those of one bounded read. -/
namespace OrbitRelay

def mapReadError (error : AssetReadAllError) (assetId : AssetId) : PdfError :=
  match error with
  | .notFound _ => .assetNotFound assetId
  | .assetTooLarge _ length maxBytes => .assetTooLarge length maxBytes
  | .catalogUnavailable _ => .assetUnavailable
  | .reader _ | .lengthOverflow _ _ | .invalidChunk _ _ => .readFailed

/-- How an inspection ended, and the ranges it asked the reader for. -/
structure Inspection where
  asked : List AssetByteRange
  result : Except Panic (Except PdfError PdfDocumentMetadata)

/-- Reads and parses one PDF; `catalog` is indexed by the lookups made before. -/
def inspect {Document Dictionary Object : Type} (lopdf : Lopdf Document Dictionary Object)
    (limits : PdfInspectionLimits) (catalog : Nat → AssetCatalog) (reader : AssetReader)
    (assetId : AssetId) : Inspection :=
  match catalog 0 assetId with
  | .error _ => ⟨[], .ok (.error .assetUnavailable)⟩
  | .ok none => ⟨[], .ok (.error (.assetNotFound assetId))⟩
  | .ok (some descriptor) =>
    if descriptor.byteLength > limits.maxAssetBytes then
      ⟨[], .ok (.error (.assetTooLarge descriptor.byteLength limits.maxAssetBytes))⟩
    else
      let read := readAssetFully (catalog 1) reader assetId limits.maxAssetBytes
      match read.result with
      | .error error => ⟨read.asked, .ok (.error (mapReadError error assetId))⟩
      | .ok bytes => ⟨read.asked, inspectBytes lopdf assetId bytes limits⟩

section
variable {Document Dictionary Object : Type} {lopdf : Lopdf Document Dictionary Object}
  {limits : PdfInspectionLimits}

/-- Accepted metadata keeps to the limit on pages. -/
theorem pages_of_inspectBytes {assetId : AssetId} {bytes : List UInt8}
    {metadata : PdfDocumentMetadata}
    (h : inspectBytes lopdf assetId bytes limits = .ok (.ok metadata)) :
    metadata.assetId = assetId ∧ metadata.pages.length ≤ limits.maxPages.toNat := by
  obtain ⟨marker, -, h⟩ := Except.bind_eq_ok.mp h
  split_ifs at h
  · cases h
  obtain ⟨document, -, h⟩ := Except.bind_eq_ok.mp (Except.ok.inj h)
  split_ifs at h
  obtain ⟨pages, hpages, h⟩ := Except.bind_eq_ok.mp h
  split_ifs at h
  obtain ⟨described, hdescribed, h⟩ := Except.bind_eq_ok.mp h
  cases h
  have hlength := (collectPages_length hpages).2
  have hsame := (Except.mapM_zipIdx_eq_ok.mp hdescribed).1
  exact ⟨rfl, hsame ▸ hlength⟩

/-- Only the scan before the parser can panic. -/
theorem inspectBytes_panics {assetId : AssetId} {bytes : List UInt8} {panic : Panic}
    (h : inspectBytes lopdf assetId bytes limits = .error panic) :
    containsEncryptMarker bytes = .error panic := by
  rcases Except.bind_eq_error.mp h with hpanic | ⟨marker, -, h⟩
  · exact hpanic
  · cases marker <;> cases h

end

/-! ### Any catalog, any reader -/

/-- The bytes are what the reader answered to the ranges, and as many as the second lookup
promised. -/
structure Fetched (limits : PdfInspectionLimits) (catalog : Nat → AssetCatalog)
    (reader : AssetReader) (assetId : AssetId) (asked : List AssetByteRange)
    (descriptor : SourceAssetDescriptor) (bytes : List UInt8) : Prop where
  found : catalog 1 assetId = .ok (some descriptor)
  bounded : descriptor.byteLength ≤ limits.maxAssetBytes
  length : bytes.length = descriptor.byteLength.toNat
  answered : ∃ chunks, Answered reader assetId descriptor.byteLength asked chunks ∧
    bytes = chunks.flatMap AssetByteChunk.bytes

/-- Why an inspection fails: one of the two lookups, the last range, or the bytes. -/
inductive InspectionFailure {Document Dictionary Object : Type}
    (lopdf : Lopdf Document Dictionary Object) (limits : PdfInspectionLimits)
    (catalog : Nat → AssetCatalog) (reader : AssetReader) (assetId : AssetId)
    (asked : List AssetByteRange) : PdfError → Prop
  | unavailable {lookup : Nat} {e : AssetCatalogError} (lookup_lt : lookup < 2)
      (answer : catalog lookup assetId = .error e) :
      InspectionFailure lopdf limits catalog reader assetId asked .assetUnavailable
  | notFound {lookup : Nat} (lookup_lt : lookup < 2)
      (answer : catalog lookup assetId = .ok none) :
      InspectionFailure lopdf limits catalog reader assetId asked (.assetNotFound assetId)
  | tooLarge {lookup : Nat} {descriptor : SourceAssetDescriptor} (lookup_lt : lookup < 2)
      (answer : catalog lookup assetId = .ok (some descriptor))
      (exceeds : limits.maxAssetBytes < descriptor.byteLength) :
      InspectionFailure lopdf limits catalog reader assetId asked
        (.assetTooLarge descriptor.byteLength limits.maxAssetBytes)
  | refused {descriptor : SourceAssetDescriptor} {front : List AssetByteRange}
      {range : AssetByteRange} {e : AssetReadAllError}
      (found : catalog 1 assetId = .ok (some descriptor)) (asked_eq : asked = front ++ [range])
      (refused : AnswerRefused assetId descriptor.byteLength range
        (reader front assetId range) e) :
      InspectionFailure lopdf limits catalog reader assetId asked .readFailed
  | parser {descriptor : SourceAssetDescriptor} {bytes : List UInt8} {error : PdfError}
      (fetched : Fetched limits catalog reader assetId asked descriptor bytes)
      (failure : ParserFailure lopdf limits bytes error) :
      InspectionFailure lopdf limits catalog reader assetId asked error

/-- What an inspection guarantees, whatever the catalog, the reader and the parser answer. -/
structure Inspection.Safe {Document Dictionary Object : Type}
    (lopdf : Lopdf Document Dictionary Object) (limits : PdfInspectionLimits)
    (catalog : Nat → AssetCatalog) (reader : AssetReader) (assetId : AssetId)
    (inspection : Inspection) : Prop where
  count : inspection.asked.length ≤ (limits.maxAssetBytes.toNat + 65535) / 65536
  within : ∀ range ∈ inspection.asked,
    range.offset.toNat + range.length.toNat ≤ limits.maxAssetBytes.toNat
  admitted : inspection.asked ≠ [] → ∀ lookup < 2, ∃ descriptor,
    catalog lookup assetId = .ok (some descriptor) ∧
      descriptor.byteLength ≤ limits.maxAssetBytes
  described : ∀ metadata, inspection.result = .ok (.ok metadata) →
    metadata.assetId = assetId ∧ metadata.pages ≠ [] ∧
    metadata.pages.length ≤ limits.maxPages.toNat ∧
    (∀ (i : Nat) (page : PdfPageMetadata), metadata.pages[i]? = some page →
      page.pageIndex.toNat = i) ∧
    ∃ descriptor bytes,
      Fetched limits catalog reader assetId inspection.asked descriptor bytes ∧
      inspectBytes lopdf assetId bytes limits = .ok (.ok metadata)
  failed : ∀ error, inspection.result = .ok (.error error) →
    InspectionFailure lopdf limits catalog reader assetId inspection.asked error
  panics : ∀ panic, inspection.result = .error panic → ∃ descriptor bytes,
    Fetched limits catalog reader assetId inspection.asked descriptor bytes ∧
      containsEncryptMarker bytes = .error panic

section
variable {Document Dictionary Object : Type} {lopdf : Lopdf Document Dictionary Object}
  {limits : PdfInspectionLimits} {catalog : Nat → AssetCatalog} {reader : AssetReader}
  {assetId : AssetId}

theorem AnswerRefused.readFailed {totalLength : UInt64} {range : AssetByteRange}
    {answer : Except AssetReadError AssetByteChunk} {e : AssetReadAllError}
    (h : AnswerRefused assetId totalLength range answer e) :
    mapReadError e assetId = .readFailed := by
  cases h with
  | reader source => rfl
  | chunk misfit reason_eq => rfl

/-- An inspection that ends before the first range is safe if its failure has a cause. -/
theorem Inspection.Safe.unasked {error : PdfError}
    (h : InspectionFailure lopdf limits catalog reader assetId [] error) :
    Inspection.Safe lopdf limits catalog reader assetId ⟨[], .ok (.error error)⟩ := by
  constructor
  · exact Nat.zero_le _
  · intro range hrange
    cases hrange
  · intro hasked
    exact absurd rfl hasked
  · intro metadata hresult
    cases hresult
  · intro error' hresult
    cases hresult
    exact h
  · intro panic hresult
    cases hresult

/-- The inspection after the read, of an Asset that both lookups admit. -/
theorem Inspection.Safe.of_read {first second : SourceAssetDescriptor}
    (hfirst : catalog 0 assetId = .ok (some first))
    (hadmitted : first.byteLength ≤ limits.maxAssetBytes)
    (hsecond : catalog 1 assetId = .ok (some second))
    (hbounded : second.byteLength ≤ limits.maxAssetBytes) {read : FullRead}
    (hread : read.Safe reader assetId second.byteLength) :
    Inspection.Safe lopdf limits catalog reader assetId
      (match read.result with
        | .error error => ⟨read.asked, .ok (.error (mapReadError error assetId))⟩
        | .ok bytes => ⟨read.asked, inspectBytes lopdf assetId bytes limits⟩) := by
  have hmax := UInt64.le_iff_toNat_le.mp hbounded
  have hcount : read.asked.length ≤ (limits.maxAssetBytes.toNat + 65535) / 65536 := by
    have h := hread.count
    omega
  have hwithin : ∀ range ∈ read.asked,
      range.offset.toNat + range.length.toNat ≤ limits.maxAssetBytes.toNat := by
    intro range hrange
    exact Nat.le_trans (within_of_spans hread.consecutive hrange) hmax
  have hlookups : read.asked ≠ [] → ∀ lookup < 2, ∃ descriptor,
      catalog lookup assetId = .ok (some descriptor) ∧
        descriptor.byteLength ≤ limits.maxAssetBytes := by
    intro _ lookup hlookup
    match lookup, hlookup with
    | 0, _ => exact ⟨first, hfirst, hadmitted⟩
    | 1, _ => exact ⟨second, hsecond, hbounded⟩
  cases hresult : read.result with
  | error e =>
    obtain ⟨front, range, hasked, hrefused⟩ := hread.refused e hresult
    refine ⟨hcount, hwithin, hlookups, ?_, ?_, ?_⟩
    · intro metadata hmetadata
      cases hmetadata
    · intro error herror
      cases herror
      rw [hrefused.readFailed]
      exact .refused hsecond hasked hrefused
    · intro panic hpanic
      cases hpanic
  | ok bytes =>
    obtain ⟨hlength, -, hanswered⟩ := hread.output bytes hresult
    have hfetched : Fetched limits catalog reader assetId read.asked second bytes :=
      ⟨hsecond, hbounded, hlength, hanswered⟩
    refine ⟨hcount, hwithin, hlookups, ?_, ?_, ?_⟩
    · intro metadata hmetadata
      have hpages := pages_of_inspectBytes hmetadata
      have hindexes := pageIndexes_of_inspectBytes hmetadata
      exact ⟨hpages.1, hindexes.1, hpages.2, hindexes.2, second, bytes, hfetched, hmetadata⟩
    · intro error herror
      exact .parser hfetched (inspectBytes_ends herror)
    · intro panic hpanic
      exact ⟨second, bytes, hfetched, inspectBytes_panics hpanic⟩

/-- An inspection reads within its limits, describes what was read, and fails for a cause. -/
theorem inspections_are_safe (lopdf : Lopdf Document Dictionary Object)
    (limits : PdfInspectionLimits) (catalog : Nat → AssetCatalog) (reader : AssetReader)
    (assetId : AssetId) :
    Inspection.Safe lopdf limits catalog reader assetId
      (inspect lopdf limits catalog reader assetId) := by
  unfold inspect
  cases hfirst : catalog 0 assetId with
  | error e => exact .unasked (.unavailable Nat.zero_lt_two hfirst)
  | ok found =>
    cases found with
    | none => exact .unasked (.notFound Nat.zero_lt_two hfirst)
    | some first =>
      by_cases hlarge : limits.maxAssetBytes < first.byteLength
      · simp only [gt_iff_lt, if_pos hlarge]
        exact .unasked (.tooLarge Nat.zero_lt_two hfirst hlarge)
      have hadmitted := UInt64.not_lt.mp hlarge
      simp only [gt_iff_lt, if_neg hlarge]
      cases hsecond : catalog 1 assetId with
      | error e =>
        simp only [readAssetFully, hsecond]
        exact .unasked (.unavailable Nat.one_lt_two hsecond)
      | ok found =>
        cases found with
        | none =>
          simp only [readAssetFully, hsecond]
          exact .unasked (.notFound Nat.one_lt_two hsecond)
        | some second =>
          by_cases hgrown : limits.maxAssetBytes < second.byteLength
          · simp only [readAssetFully, hsecond, gt_iff_lt, if_pos hgrown]
            exact .unasked (.tooLarge Nat.one_lt_two hsecond hgrown)
          · have hbounded := UInt64.not_lt.mp hgrown
            exact .of_read hfirst hadmitted hsecond hbounded (readAssetFully_safe hsecond hbounded)

/-- An Asset that was inspected is not too large. -/
theorem byteLength_le_of_inspect {descriptor : SourceAssetDescriptor}
    {metadata : PdfDocumentMetadata} (hfound : catalog 0 assetId = .ok (some descriptor))
    (hinspected : (inspect lopdf limits catalog reader assetId).result = .ok (.ok metadata)) :
    descriptor.byteLength ≤ limits.maxAssetBytes := by
  apply UInt64.not_lt.mp
  intro hlarge
  unfold inspect at hinspected
  simp only [hfound, gt_iff_lt, if_pos hlarge] at hinspected
  cases hinspected

end

/-! ### The in-memory store -/

namespace MemoryAssetStore

/-- The store as a catalog: other calls may run between the two lookups. -/
def ServesLookups (digest : List UInt8 → Vector UInt8 32) (store : MemoryAssetStore)
    (catalog : Nat → AssetCatalog) : Prop :=
  ∀ lookup id, ∃ now, Later digest store now ∧ catalog lookup id = now.getAsset id

section
variable {digest : List UInt8 → Vector UInt8 32} {store : MemoryAssetStore}
  {assetId : AssetId} {record : MemoryAssetRecord}

theorem ServesLookups.found {catalog : Nat → AssetCatalog} (h : ServesLookups digest store catalog)
    (hrecord : store.records assetId = some record) (lookup : Nat) :
    catalog lookup assetId = .ok (some record.descriptor) := by
  obtain ⟨now, hlater, hanswer⟩ := h lookup assetId
  rw [hanswer, getAsset, records_immutable hlater hrecord]
  rfl

/-- Inspecting a stored Asset inspects its bytes, whatever else is stored meanwhile. -/
theorem inspect_stored {Document Dictionary Object : Type}
    (lopdf : Lopdf Document Dictionary Object) {limits : PdfInspectionLimits}
    {catalog : Nat → AssetCatalog} {reader : AssetReader} (hstore : (system digest).Reachable store)
    (hcatalog : ServesLookups digest store catalog) (hreader : ServesReads digest store reader)
    (hrecord : store.records assetId = some record)
    (hmax : record.descriptor.byteLength ≤ limits.maxAssetBytes) :
    (inspect lopdf limits catalog reader assetId).result =
      inspectBytes lopdf assetId record.bytes limits := by
  have hverified := verified_of_reachable hstore assetId record hrecord
  have hsame : catalog 1 assetId = store.getAsset assetId := by
    rw [hcatalog.found hrecord, getAsset, hrecord]
    rfl
  have hread : (readAssetFully (catalog 1) reader assetId limits.maxAssetBytes).result =
      .ok record.bytes := by
    rw [← readAssetFully_eq hreader hrecord hverified hmax]
    unfold readAssetFully
    rw [hsame]
  unfold inspect
  simp only [hcatalog.found hrecord, gt_iff_lt, if_neg (UInt64.not_lt.mpr hmax), hread]

end
end MemoryAssetStore
end OrbitRelay
