import Mathlib.Data.String.Basic
import OrbitRelay.Core

/-! Descriptions of nodes: identity, state and an ordered set of capabilities. Reading a
description sorts its capabilities and does not validate them; a registry does. -/
namespace OrbitRelay
open Json

/-- Identifies one service instance. -/
structure NodeId where
  entityId : EntityId
deriving DecidableEq

namespace NodeId

/-- By the bytes of the UUID, the first one first. -/
instance : Ord NodeId := ⟨fun a b => compare a.entityId.uuid.bytes b.entityId.uuid.bytes⟩

instance : Std.TransOrd NodeId where
  eq_swap := Std.OrientedOrd.eq_swap (α := Vector UInt8 16)
  isLE_trans := Std.TransOrd.isLE_trans (α := Vector UInt8 16)

instance : Std.LawfulEqOrd NodeId where
  eq_of_compare {a b} h := by
    have hbytes : a.entityId.uuid.bytes = b.entityId.uuid.bytes :=
      Std.LawfulEqOrd.eq_of_compare h
    obtain ⟨⟨⟨bytes⟩⟩⟩ := a
    cases hbytes
    rfl

instance : Serialize NodeId := ⟨fun id => toValue id.entityId⟩

instance : Deserialize NodeId := ⟨fun v => NodeId.mk <$> fromValue v⟩

instance : LawfulSerde NodeId := ⟨fun id => by
  change NodeId.mk <$> fromValue (toValue id.entityId) = some id
  simp⟩

end NodeId

/-- An extensible capability advertised by a node. -/
structure Capability where
  value : String

namespace Capability

theorem value_injective : Function.Injective Capability.value := by
  rintro ⟨a⟩ ⟨b⟩ h
  cases h
  rfl

/-- In lexical order. -/
instance : LinearOrder Capability := LinearOrder.lift' Capability.value value_injective

instance : Serialize Capability := ⟨fun capability => .string capability.value⟩

instance : Deserialize Capability := ⟨fun v => Capability.mk <$> fromValue v⟩

instance : LawfulSerde Capability := ⟨fun _ => rfl⟩

end Capability

/-- The externally visible lifecycle state of a node. -/
inductive NodeState
  | starting
  | ready
  | draining
  | offline
deriving DecidableEq

namespace NodeState

def name : NodeState → String
  | starting => "starting"
  | ready => "ready"
  | draining => "draining"
  | offline => "offline"

def all : List NodeState := [starting, ready, draining, offline]

instance : Serialize NodeState := ⟨fun state => .string state.name⟩

instance : Deserialize NodeState := ⟨fromUnitVariant all name⟩

instance : LawfulSerde NodeState where
  fromValue_toValue state := by
    apply fromUnitVariant_name
    · cases state <;> decide
    · cases state <;> decide

end NodeState

/-- A failure while validating or registering node descriptions. -/
inductive NodeError
  | invalidNode (reason : String)
  | registryUnavailable (message : String)
  | registryFailure (message : String)
deriving DecidableEq

/-- A snapshot describing one node. -/
structure Node where
  id : NodeId
  metadata : Metadata
  state : NodeState
  capabilities : List Capability
  capabilities_ordered : capabilities.Pairwise (· < ·)
deriving DecidableEq

namespace Node

/-- Creates a snapshot, sorting and deduplicating its capabilities. -/
def new (id : NodeId) (metadata : Metadata) (state : NodeState)
    (capabilities : List Capability) : Node :=
  ⟨id, metadata, state, orderedSet capabilities, pairwise_orderedSet capabilities⟩

/-- Empty, or surrounded by white space. -/
def misspelt (capability : Capability) : Bool :=
  let chars := capability.value.toList
  (Text.trim chars).isEmpty || Text.trim chars != chars

def misspeltReason (capability : Capability) : String :=
  "capability `" ++ capability.value ++ "` must be non-empty and contain no surrounding whitespace"

/-- The first misspelt capability, if any, is reported. -/
def validate (node : Node) : Except NodeError Unit :=
  match node.capabilities.find? misspelt with
  | some capability => .error (.invalidNode (misspeltReason capability))
  | none => .ok ()

def fieldNames : List String := ["id", "metadata", "state", "capabilities"]

instance : Serialize Node :=
  ⟨fun node => structValue [("id", toValue node.id), ("metadata", toValue node.metadata),
    ("state", toValue node.state), ("capabilities", toValue node.capabilities)]⟩

def ofFields : List Value → Option Node
  | [id, metadata, state, capabilities] => do
    some (new (← fromValue id) (← fromValue metadata) (← fromValue state)
      (← fromValue capabilities))
  | _ => none

instance : Deserialize Node := ⟨fromOpenStruct fieldNames ofFields⟩

/-- A snapshot is what its parts make, as long as the capabilities are the same set. -/
theorem new_eq_iff {node : Node} {id : NodeId} {metadata : Metadata} {state : NodeState}
    {capabilities : List Capability} :
    new id metadata state capabilities = node ↔ id = node.id ∧ metadata = node.metadata ∧
      state = node.state ∧ ∀ capability, capability ∈ capabilities ↔
        capability ∈ node.capabilities := by
  have hself : orderedSet node.capabilities = node.capabilities :=
    orderedSet_eq_self node.capabilities_ordered
  rw [← orderedSet_eq_iff, hself]
  obtain ⟨id', metadata', state', capabilities', ordered⟩ := node
  constructor
  · intro h
    cases h
    exact ⟨rfl, rfl, rfl, rfl⟩
  · rintro ⟨rfl, rfl, rfl, rfl⟩
    rfl

theorem new_self (node : Node) :
    new node.id node.metadata node.state node.capabilities = node :=
  new_eq_iff.mpr ⟨rfl, rfl, rfl, fun _ => Iff.rfl⟩

instance : LawfulSerde Node where
  fromValue_toValue node := by
    refine (fromOpenStruct_structValue ofFields rfl (by simp)).trans ?_
    simp [ofFields, new_self]

/-- Nothing is misspelt exactly in what passes. -/
theorem validate_eq_ok {node : Node} :
    node.validate = .ok () ↔ ∀ capability ∈ node.capabilities, misspelt capability = false := by
  have hnone : node.capabilities.find? misspelt = none ↔
      ∀ capability ∈ node.capabilities, misspelt capability = false := by
    rw [List.find?_eq_none]
    simp only [Bool.not_eq_true]
  rw [← hnone]
  unfold validate
  cases node.capabilities.find? misspelt with
  | none => exact iff_of_true rfl rfl
  | some capability => exact iff_of_false nofun nofun

/-- The capability is the first of the node that is misspelt. -/
structure FirstMisspelt (node : Node) (capability : Capability) : Prop where
  mem : capability ∈ node.capabilities
  misspelt : misspelt capability = true
  first : ∀ other ∈ node.capabilities, Node.misspelt other = true → capability ≤ other

/-- A node that does not pass has a first misspelt capability, and the error names it. -/
theorem validate_eq_error {node : Node} {error : NodeError} (h : node.validate = .error error) :
    ∃ capability, node.FirstMisspelt capability ∧
      error = .invalidNode (misspeltReason capability) := by
  unfold validate at h
  cases hfound : node.capabilities.find? misspelt with
  | none =>
    rw [hfound] at h
    cases h
  | some capability =>
    rw [hfound] at h
    cases h
    obtain ⟨hmisspelt, before, after, hcapabilities, hbefore⟩ :=
      List.find?_eq_some_iff_append.mp hfound
    refine ⟨capability, ⟨List.mem_of_find?_eq_some hfound, hmisspelt, ?_⟩, rfl⟩
    intro other hmem hother
    have hordered := node.capabilities_ordered
    rw [hcapabilities] at hmem hordered
    rcases List.mem_append.mp hmem with hmem | hmem
    · have hspelt := hbefore other hmem
      rw [hother] at hspelt
      cases hspelt
    · rcases List.mem_cons.mp hmem with rfl | hmem
      · exact le_refl _
      · have hafter := (List.pairwise_append.mp hordered).2.1
        exact ((List.pairwise_cons.mp hafter).1 other hmem).le

/-- The fields of the object describe the node; other fields do not count, and neither do the
order and the repetition of the capabilities. -/
structure Describes (fields : Json.Map) (node : Node) : Prop where
  id : fields.get? "id" >>= fromValue = some node.id
  metadata : fields.get? "metadata" >>= fromValue = some node.metadata
  state : fields.get? "state" >>= fromValue = some node.state
  capabilities : ∃ capabilities : List Capability,
    fields.get? "capabilities" >>= fromValue = some capabilities ∧
      ∀ capability, capability ∈ capabilities ↔ capability ∈ node.capabilities

/-- The parts of an object, read one after the other. -/
theorem fromValue_object (fields : Json.Map) :
    (fromValue (.object fields) : Option Node) =
      (fields.get? "id").bind fun id => (fields.get? "metadata").bind fun metadata =>
        (fields.get? "state").bind fun state => (fields.get? "capabilities").bind
          fun capabilities => ofFields [id, metadata, state, capabilities] := by
  show (fieldNames.mapM fields.get?).bind ofFields = _
  unfold fieldNames
  simp only [List.mapM_cons, List.mapM_nil, Option.bind_eq_bind, Option.pure_def,
    Option.bind_assoc, Option.bind_some]

/-- Every written snapshot is read back, and an object is read as a node exactly if it describes
that node. -/
theorem snapshots_read_back :
    (∀ node : Node, fromValue (toValue node) = some node) ∧
    ∀ (fields : Json.Map) (node : Node),
      fromValue (.object fields) = some node ↔ Describes fields node := by
  constructor
  · exact fromValue_toValue
  · intro fields node
    rw [fromValue_object]
    simp only [ofFields, Option.bind_eq_bind, Option.bind_eq_some_iff, Option.some_inj]
    constructor
    · rintro ⟨id, hid, metadata, hmetadata, state, hstate, capabilities, hcapabilities, id', hid',
        metadata', hmetadata', state', hstate', capabilities', hcapabilities', h⟩
      obtain ⟨rfl, rfl, rfl, hsame⟩ := new_eq_iff.mp h
      constructor
      · exact Option.bind_eq_some_iff.mpr ⟨id, hid, hid'⟩
      · exact Option.bind_eq_some_iff.mpr ⟨metadata, hmetadata, hmetadata'⟩
      · exact Option.bind_eq_some_iff.mpr ⟨state, hstate, hstate'⟩
      · exact ⟨capabilities', Option.bind_eq_some_iff.mpr
          ⟨capabilities, hcapabilities, hcapabilities'⟩, hsame⟩
    · rintro ⟨hid, hmetadata, hstate, capabilities', hcapabilities, hsame⟩
      obtain ⟨id, hid, hid'⟩ := Option.bind_eq_some_iff.mp hid
      obtain ⟨metadata, hmetadata, hmetadata'⟩ := Option.bind_eq_some_iff.mp hmetadata
      obtain ⟨state, hstate, hstate'⟩ := Option.bind_eq_some_iff.mp hstate
      obtain ⟨capabilities, hcapabilities, hcapabilities'⟩ :=
        Option.bind_eq_some_iff.mp hcapabilities
      exact ⟨id, hid, metadata, hmetadata, state, hstate, capabilities, hcapabilities, _, hid', _,
        hmetadata', _, hstate', capabilities', hcapabilities', new_eq_iff.mpr ⟨rfl, rfl, rfl, hsame⟩⟩

end Node
end OrbitRelay
