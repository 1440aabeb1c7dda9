import OrbitRelay.Asset.Basic
import OrbitRelay.Lib.Result

/-! Range access to immutable Assets: validated ranges, validated chunks and the bounded loop
that reads a whole Asset through them. -/
namespace OrbitRelay

/-- A failure while looking up immutable Asset metadata. -/
inductive AssetCatalogError
  | unavailable (detail : String)
deriving DecidableEq

/-- The displayed text of the error. -/
def AssetCatalogError.toString : AssetCatalogError → String
  | .unavailable detail => "asset catalog unavailable: " ++ detail

/-- A failure while reading immutable Asset bytes. -/
inductive AssetReadError
  | notFound (assetId : AssetId)
  | rangeOutOfBounds (assetId : AssetId) (offset totalLength : UInt64)
  | unavailable (detail : String)
deriving DecidableEq

/-- A malformed range supplied to an Asset reader. -/
inductive AssetRangeError
  | zeroLength
  | offsetOverflow (offset length : UInt64)
deriving DecidableEq

/-- A malformed chunk returned by an Asset reader. -/
inductive AssetChunkError
  | offsetBeyondTotal (offset totalLength : UInt64)
  | lengthOverflow (byteLength : Nat)
  | offsetOverflow (offset byteLength : UInt64)
  | bytesBeyondTotal (offset byteLength totalLength : UInt64)
  | emptyBeforeEof (offset totalLength : UInt64)
deriving DecidableEq

/-- Failure while reading one Asset completely through bounded ranges. -/
inductive AssetReadAllError
  | catalogUnavailable (detail : String)
  | notFound (assetId : AssetId)
  | assetTooLarge (assetId : AssetId) (length maxBytes : UInt64)
  | lengthOverflow (assetId : AssetId) (length : UInt64)
  | reader (source : AssetReadError)
  | invalidChunk (assetId : AssetId) (reason : String)
deriving DecidableEq

/-- `usize::try_from` of a `u64`, on a 64-bit target. -/
def usizeTryFrom (n : UInt64) : Option Nat := if n.toNat < 2 ^ 64 then some n.toNat else none

@[simp] theorem usizeTryFrom_eq (n : UInt64) : usizeTryFrom n = some n.toNat := if_pos n.toNat_lt

/-- A non-empty immutable byte range. -/
structure AssetByteRange where
  offset : UInt64
  length : UInt64
  length_ne_zero : length ≠ 0
  end_isSome : (offset.checkedAdd length).isSome = true
deriving DecidableEq

namespace AssetByteRange

/-- Creates `[offset, offset + length)`, rejecting empty or overflowing ranges. -/
def new (offset length : UInt64) : Except AssetRangeError AssetByteRange :=
  if hz : length = 0 then .error .zeroLength
  else if he : (offset.checkedAdd length).isSome = true then .ok ⟨offset, length, hz, he⟩
  else .error (.offsetOverflow offset length)

/-- The exclusive end offset. -/
def endOffset (range : AssetByteRange) : Option UInt64 := range.offset.checkedAdd range.length

theorem new_eq_ok {offset length : UInt64} {range : AssetByteRange} :
    new offset length = .ok range ↔ range.offset = offset ∧ range.length = length := by
  obtain ⟨o, l, hz, he⟩ := range
  unfold new
  constructor
  · intro h
    split_ifs at h
    cases h
    exact ⟨rfl, rfl⟩
  · rintro ⟨rfl, rfl⟩
    rw [dif_neg hz, dif_pos he]

theorem length_pos (range : AssetByteRange) : 0 < range.length.toNat := by
  have hne : range.length.toNat ≠ 0 := fun hzero =>
    range.length_ne_zero (UInt64.toNat_inj.mp hzero)
  omega

/-- The end offset of a constructed range is representable. -/
theorem exists_endOffset (range : AssetByteRange) :
    ∃ stop : UInt64, range.endOffset = some stop ∧
      stop.toNat = range.offset.toNat + range.length.toNat := by
  obtain ⟨stop, hstop⟩ := Option.isSome_iff_exists.mp range.end_isSome
  exact ⟨stop, hstop, UInt64.checkedAdd_eq_some.mp hstop⟩

end AssetByteRange

/-- One immutable range-read result. -/
structure AssetByteChunk where
  offset : UInt64
  bytes : List UInt8
  totalLength : UInt64
  within : offset.toNat + bytes.length ≤ totalLength.toNat
  progress : bytes = [] → offset = totalLength
deriving DecidableEq

namespace AssetByteChunk

/-- The checks on a chunk for an Asset with `totalLength` bytes, in order. -/
def check (offset : UInt64) (bytes : List UInt8) (totalLength : UInt64) :
    Except AssetChunkError Unit :=
  if offset > totalLength then .error (.offsetBeyondTotal offset totalLength)
  else do
    let byteLength ← (UInt64.tryFrom bytes.length).okOr (.lengthOverflow bytes.length)
    let nextOffset ← (offset.checkedAdd byteLength).okOr (.offsetOverflow offset byteLength)
    if nextOffset > totalLength then
      .error (.bytesBeyondTotal offset byteLength totalLength)
    else if bytes.isEmpty ∧ offset < totalLength then
      .error (.emptyBeforeEof offset totalLength)
    else .ok ()

theorem check_eq_ok {offset totalLength : UInt64} {bytes : List UInt8} :
    check offset bytes totalLength = .ok () ↔
      offset.toNat + bytes.length ≤ totalLength.toNat ∧ (bytes = [] → offset = totalLength) := by
  unfold check
  simp only [gt_iff_lt, UInt64.lt_iff_toNat_lt, List.isEmpty_iff, ← UInt64.toNat_inj]
  constructor
  · intro h
    by_cases hoffset : totalLength.toNat < offset.toNat
    · rw [if_pos hoffset] at h
      cases h
    rw [if_neg hoffset] at h
    simp only [Except.bind_eq_ok, Except.okOr_eq_ok, UInt64.tryFrom_eq_some,
      UInt64.checkedAdd_eq_some] at h
    obtain ⟨byteLength, hlength, next, hnext, h⟩ := h
    split_ifs at h with hbytes hempty
    refine ⟨by omega, fun hnil => ?_⟩
    rw [hnil, List.length_nil] at hlength
    have hnotlt : ¬ offset.toNat < totalLength.toNat := fun hlt => hempty ⟨hnil, hlt⟩
    omega
  · rintro ⟨hwithin, hprogress⟩
    have ht := totalLength.toNat_lt
    have hlength : (UInt64.ofNat bytes.length).toNat = bytes.length :=
      UInt64.toNat_ofNat_of_lt' (show _ < 2 ^ 64 by omega)
    have hsum : (offset + UInt64.ofNat bytes.length).toNat = offset.toNat + bytes.length := by
      rw [UInt64.toNat_add, hlength]
      exact Nat.mod_eq_of_lt (by omega)
    have hempty : ¬ (bytes = [] ∧ offset.toNat < totalLength.toNat) := by
      rintro ⟨hnil, hlt⟩
      have heq := hprogress hnil
      omega
    rw [if_neg (by omega), UInt64.tryFrom_eq_some.mpr hlength, Except.okOr_some, Except.ok_bind,
      UInt64.checkedAdd_eq_some.mpr (by rw [hsum, hlength]), Except.okOr_some, Except.ok_bind,
      if_neg (by omega), if_neg hempty]

/-- Creates a validated chunk. -/
def new (offset : UInt64) (bytes : List UInt8) (totalLength : UInt64) :
    Except AssetChunkError AssetByteChunk :=
  match h : check offset bytes totalLength with
  | .error e => .error e
  | .ok () => .ok ⟨offset, bytes, totalLength, (check_eq_ok.mp h).1, (check_eq_ok.mp h).2⟩

/-- The offset immediately after the chunk. -/
def nextOffset (chunk : AssetByteChunk) : Option UInt64 := do
  chunk.offset.checkedAdd (← UInt64.tryFrom chunk.bytes.length)

/-- Any bytes that fit make a chunk, and no others. -/
theorem new_eq_ok {offset totalLength : UInt64} {bytes : List UInt8} {chunk : AssetByteChunk} :
    new offset bytes totalLength = .ok chunk ↔
      chunk.offset = offset ∧ chunk.bytes = bytes ∧ chunk.totalLength = totalLength := by
  obtain ⟨o, b, t, hwithin, hprogress⟩ := chunk
  unfold new
  constructor
  · intro h
    split at h
    · cases h
    · cases h
      exact ⟨rfl, rfl, rfl⟩
  · rintro ⟨rfl, rfl, rfl⟩
    have hok := check_eq_ok.mpr ⟨hwithin, hprogress⟩
    split
    · rename_i e he
      cases hok.symm.trans he
    · rfl

/-- The next offset of a chunk is representable. -/
theorem exists_nextOffset (chunk : AssetByteChunk) :
    ∃ next : UInt64, chunk.nextOffset = some next ∧
      next.toNat = chunk.offset.toNat + chunk.bytes.length := by
  have ht := chunk.totalLength.toNat_lt
  have hwithin := chunk.within
  have hlength : UInt64.tryFrom chunk.bytes.length = some (.ofNat chunk.bytes.length) :=
    if_pos (by omega)
  have hofNat := UInt64.tryFrom_eq_some.mp hlength
  have hnext : chunk.offset.checkedAdd (.ofNat chunk.bytes.length) =
      some (chunk.offset + .ofNat chunk.bytes.length) := by
    unfold UInt64.checkedAdd
    exact if_pos (by omega)
  refine ⟨chunk.offset + .ofNat chunk.bytes.length, ?_, ?_⟩
  · unfold nextOffset
    rw [hlength]
    exact hnext
  · rw [UInt64.checkedAdd_eq_some.mp hnext, hofNat]

end AssetByteChunk
end OrbitRelay
