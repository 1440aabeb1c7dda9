import Mathlib.Data.List.Lex
import OrbitRelay.Lib.Json

/-! Foundational values: entity identifiers, timestamps, versions and metadata. -/
namespace OrbitRelay
open Json

/-- A random, opaque identifier for a core entity. -/
structure EntityId where
  uuid : Uuid
deriving DecidableEq

instance : Serialize EntityId := ⟨fun id => toValue id.uuid⟩

instance : Deserialize EntityId := ⟨fun v => EntityId.mk <$> fromValue v⟩

instance : LawfulSerde EntityId := ⟨fun id => by simp [toValue, fromValue]⟩

/-- The domains that wrap an entity identifier in a type of their own. -/
inductive IdKind
  | actor | session | action | event | message
  | canvas | layer | stroke
  | subscription | transportSubscription | connection
  | asset | document | page
deriving DecidableEq

/-- The newtype that `define_domain_id!` and `define_canvas_id!` expand to. -/
structure DomainId (kind : IdKind) where
  entityId : EntityId
deriving DecidableEq

abbrev ActorId := DomainId .actor
abbrev SessionId := DomainId .session
abbrev ActionId := DomainId .action
abbrev EventId := DomainId .event
abbrev MessageId := DomainId .message

namespace DomainId
variable {kind : IdKind}

/-- Displays as the wrapped UUID. -/
def toString (id : DomainId kind) : String := id.entityId.uuid.hyphenated

/-- The derived order compares byte by byte. -/
def rank (id : DomainId kind) : List ℕ := id.entityId.uuid.bytes.toList.map UInt8.toNat

theorem rank_injective : Function.Injective (@rank kind) := by
  rintro ⟨⟨⟨a⟩⟩⟩ ⟨⟨⟨b⟩⟩⟩ h
  have hbytes : a = b :=
    Vector.toList_inj.mp ((List.map_inj_right fun x y hxy => UInt8.toNat_inj.mp hxy).mp h)
  rw [hbytes]

instance : LinearOrder (DomainId kind) := LinearOrder.lift' rank rank_injective

instance : Serialize (DomainId kind) := ⟨fun id => toValue id.entityId⟩

instance : Deserialize (DomainId kind) := ⟨fun v => DomainId.mk <$> fromValue v⟩

instance : LawfulSerde (DomainId kind) := ⟨fun id => by
  change DomainId.mk <$> fromValue (toValue id.entityId) = some id
  simp⟩

end DomainId

/-- A UTC instant, in nanoseconds from the Unix epoch. -/
structure Timestamp where
  unixNanoseconds : Int
deriving DecidableEq

instance : LT Timestamp := ⟨fun a b => a.unixNanoseconds < b.unixNanoseconds⟩
instance : LE Timestamp := ⟨fun a b => a.unixNanoseconds ≤ b.unixNanoseconds⟩
instance (a b : Timestamp) : Decidable (a < b) :=
  inferInstanceAs (Decidable (a.unixNanoseconds < b.unixNanoseconds))
instance (a b : Timestamp) : Decidable (a ≤ b) :=
  inferInstanceAs (Decidable (a.unixNanoseconds ≤ b.unixNanoseconds))

/-- String key-value metadata in key order. -/
structure Metadata where
  entries : List (String × String)
deriving DecidableEq

instance : Serialize Metadata :=
  ⟨fun metadata => .object (metadata.entries.map fun entry => (entry.1, toValue entry.2))⟩

instance : Deserialize Metadata where
  fromValue
    | .object m => Metadata.mk <$> m.mapM fun entry => (entry.1, ·) <$> fromValue entry.2
    | _ => none

instance : LawfulSerde Metadata where
  fromValue_toValue metadata := by
    have hentries : ∀ entries : List (String × String),
        (entries.map fun entry => (entry.1, toValue entry.2)).mapM
          (fun entry => (entry.1, ·) <$> fromValue entry.2) = some entries := by
      intro entries
      induction entries with
      | nil => rfl
      | cons entry entries ih =>
        rw [List.map_cons, List.mapM_cons, ih, fromValue_toValue]
        rfl
    exact congrArg (Metadata.mk <$> ·) (hentries metadata.entries)

/-- A compact three-part version value. -/
structure Version where
  major : UInt16
  minor : UInt16
  patch : UInt16
deriving DecidableEq

instance : Serialize Version :=
  ⟨fun version => structValue [("major", toValue version.major),
    ("minor", toValue version.minor), ("patch", toValue version.patch)]⟩

def Version.fieldNames : List String := ["major", "minor", "patch"]

private def Version.ofFields : List Value → Option Version
  | [major, minor, patch] => do
    some ⟨← fromValue major, ← fromValue minor, ← fromValue patch⟩
  | _ => none

instance : Deserialize Version :=
  ⟨fromOpenStruct Version.fieldNames Version.ofFields⟩

instance : LawfulSerde Version where
  fromValue_toValue version := by
    refine (fromOpenStruct_structValue Version.ofFields rfl (by simp)).trans ?_
    simp [Version.ofFields]

end OrbitRelay
