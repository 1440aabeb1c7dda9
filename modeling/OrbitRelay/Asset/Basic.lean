import OrbitRelay.Core

/-! Pure Asset values: identities, content hashes and source descriptors. -/
namespace OrbitRelay

abbrev AssetId := DomainId .asset

/-- An invariant violation while constructing an Asset value. -/
inductive AssetError
  | invalidContentHash (reason : String)
  | invalidMediaType
  | invalidOriginalFilename
deriving DecidableEq

/-- A canonical lowercase hexadecimal SHA-256 digest. -/
structure ContentHash where
  text : String
  length_eq : text.toList.length = 64
  lowercase : ∀ c ∈ text.toList, ∃ n, c = Text.hexDigit n
deriving DecidableEq

namespace ContentHash

/-- Creates a hash from its exact 32-byte digest representation. -/
def fromBytes (value : Vector UInt8 32) : ContentHash where
  text := String.ofList (Text.hexBytes value.toList)
  length_eq := by rw [String.toList_ofList, Text.hexBytes_length, Vector.length_toList]
  lowercase := by
    intro c hc
    rw [String.toList_ofList] at hc
    obtain ⟨b, -, hc⟩ := List.mem_flatMap.mp hc
    simp only [Text.hexByte, List.mem_cons, List.not_mem_nil, or_false] at hc
    rcases hc with rfl | rfl <;> exact ⟨_, rfl⟩

def asStr (hash : ContentHash) : String := hash.text

end ContentHash

/-- Metadata describing one immutable source Asset. -/
structure SourceAssetDescriptor where
  assetId : AssetId
  mediaType : String
  byteLength : UInt64
  contentHash : ContentHash
  originalFilename : Option String
  mediaType_valid : Text.isBlank mediaType = false
  originalFilename_valid : ∀ filename ∈ originalFilename, Text.isBlank filename = false
deriving DecidableEq

/-- Creates validated metadata for an immutable source Asset. -/
def SourceAssetDescriptor.new (assetId : AssetId) (mediaType : String) (byteLength : UInt64)
    (contentHash : ContentHash) (originalFilename : Option String) :
    Except AssetError SourceAssetDescriptor :=
  if hm : Text.isBlank mediaType = false then
    if hf : ∀ filename ∈ originalFilename, Text.isBlank filename = false then
      .ok ⟨assetId, mediaType, byteLength, contentHash, originalFilename, hm, hf⟩
    else .error .invalidOriginalFilename
  else .error .invalidMediaType

end OrbitRelay
