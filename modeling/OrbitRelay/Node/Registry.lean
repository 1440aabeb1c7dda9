import OrbitRelay.Lib.Registry
import OrbitRelay.Node.Basic
import Std.Data.TreeMap.Lemmas

/-! The in-memory node registry: an ordered map of the latest valid snapshots. Every call runs
under the registry's lock, so a run is a sequence of calls. -/
namespace OrbitRelay

/-- The state under the lock. -/
structure MemoryNodeRegistry where
  nodes : Std.TreeMap NodeId Node

namespace MemoryNodeRegistry

def new : MemoryNodeRegistry := ⟨∅⟩

/-- Creates or replaces a snapshot, after its validation. -/
def register (node : Node) (registry : MemoryNodeRegistry) :
    Except NodeError Unit × MemoryNodeRegistry :=
  match node.validate with
  | .error error => (.error error, registry)
  | .ok () => (.ok (), ⟨registry.nodes.insert node.id node⟩)

/-- Removes a snapshot; absence is treated as success. -/
def unregister (nodeId : NodeId) (registry : MemoryNodeRegistry) :
    Except NodeError Unit × MemoryNodeRegistry :=
  (.ok (), ⟨registry.nodes.erase nodeId⟩)

def get (nodeId : NodeId) (registry : MemoryNodeRegistry) : Except NodeError (Option Node) :=
  .ok registry.nodes[nodeId]?

def list (registry : MemoryNodeRegistry) : Except NodeError (List Node) :=
  .ok (registry.nodes.toList.map Prod.snd)

/-- A call on the registry. -/
inductive Call
  | register (node : Node)
  | unregister (nodeId : NodeId)
  | get (nodeId : NodeId)
  | list

/-- The state that a call leaves. -/
def perform (registry : MemoryNodeRegistry) : Call → MemoryNodeRegistry
  | .register node => (registry.register node).2
  | .unregister nodeId => (registry.unregister nodeId).2
  | .get _ | .list => registry

/-- The state after a sequence of calls. -/
def performAll (calls : List Call) : MemoryNodeRegistry := calls.foldl perform new

theorem performAll_concat (calls : List Call) (call : Call) :
    performAll (calls ++ [call]) = (performAll calls).perform call := by
  unfold performAll
  rw [List.foldl_append]
  rfl

/-! ### The latest snapshots -/

/-- What a call changes; an invalid snapshot changes nothing. -/
def change : Call → Option (Registry.Change NodeId Node)
  | .register node => if node.validate = .ok () then some (.offer node.id node) else none
  | .unregister nodeId => some (.withdraw nodeId)
  | .get _ | .list => none

/-- The last valid snapshot that was registered for a node since it was last removed. -/
def latest (calls : List Call) (nodeId : NodeId) : Option Node :=
  (Registry.standing nodeId (calls.filterMap change)).getLast?

theorem register_of_valid {node : Node} (h : node.validate = .ok ())
    (registry : MemoryNodeRegistry) :
    registry.register node = (.ok (), ⟨registry.nodes.insert node.id node⟩) := by
  unfold register
  rw [h]

theorem register_of_invalid {node : Node} {error : NodeError} (h : node.validate = .error error)
    (registry : MemoryNodeRegistry) : registry.register node = (.error error, registry) := by
  unfold register
  rw [h]

/-- A call applies its change to the map, if it has one. -/
theorem nodes_perform (registry : MemoryNodeRegistry) (call : Call) :
    (registry.perform call).nodes = (change call).elim registry.nodes
      (Registry.applyTo registry.nodes) := by
  cases call with
  | register node =>
    cases hvalid : node.validate with
    | error error =>
      have hchange : change (.register node) = none := if_neg (hvalid ▸ nofun)
      rw [hchange, perform, register_of_invalid hvalid]
      rfl
    | ok =>
      have hchange : change (.register node) = some (.offer node.id node) := if_pos hvalid
      rw [hchange, perform, register_of_valid hvalid]
      rfl
  | unregister nodeId => rfl
  | get nodeId => rfl
  | list => rfl

/-- After any run the map holds the latest snapshots. -/
theorem getElem?_performAll (calls : List Call) (nodeId : NodeId) :
    (performAll calls).nodes[nodeId]? = latest calls nodeId := by
  unfold latest
  rw [← Registry.replaceAll_eq]
  induction calls using List.reverseRecOn generalizing nodeId with
  | nil => exact Std.TreeMap.getElem?_emptyc
  | append_singleton calls call ih =>
    rw [performAll_concat, nodes_perform, List.filterMap_append]
    cases hchange : change call with
    | none => simpa [hchange] using ih nodeId
    | some change =>
      have hsingle : List.filterMap MemoryNodeRegistry.change [call] = [change] := by
        simp [hchange]
      have hheld : (fun nodeId : NodeId => (performAll calls).nodes[nodeId]?) =
          Registry.replaceAll (calls.filterMap MemoryNodeRegistry.change) := funext ih
      rw [hsingle, Registry.replaceAll_concat, ← hheld]
      exact Registry.getElem?_applyTo _ change nodeId

/-- What was registered latest for a node is a valid snapshot of that node. -/
theorem valid_of_latest {calls : List Call} {nodeId : NodeId} {node : Node}
    (h : latest calls nodeId = some node) : node.id = nodeId ∧ node.validate = .ok () := by
  have hoffer := Registry.offer_mem_of_mem_standing (List.mem_of_getLast? h)
  obtain ⟨call, -, hchange⟩ := List.mem_filterMap.mp hoffer
  cases call with
  | register registered =>
    by_cases hvalid : registered.validate = .ok ()
    · have hoffered : change (.register registered) = some (.offer registered.id registered) :=
        if_pos hvalid
      cases hoffered.symm.trans hchange
      exact ⟨rfl, hvalid⟩
    · have hnone : change (.register registered) = none := if_neg hvalid
      cases hnone.symm.trans hchange
  | unregister removed => cases hchange
  | get requested => cases hchange
  | list => cases hchange

theorem mem_toList {calls : List Call} {nodeId : NodeId} {node : Node} :
    (nodeId, node) ∈ (performAll calls).nodes.toList ↔ latest calls nodeId = some node := by
  rw [Std.TreeMap.mem_toList_iff_getElem?_eq_some, getElem?_performAll]

/-- The listed snapshots are the latest ones. -/
theorem mem_values {calls : List Call} {node : Node} :
    node ∈ (performAll calls).nodes.toList.map Prod.snd ↔ latest calls node.id = some node := by
  rw [List.mem_map]
  constructor
  · rintro ⟨⟨nodeId, listed⟩, hmem, rfl⟩
    have hlatest := mem_toList.mp hmem
    rw [(valid_of_latest hlatest).1]
    exact hlatest
  · intro hlatest
    exact ⟨(node.id, node), mem_toList.mpr hlatest, rfl⟩

/-- They are listed in the order of the keys, which are their identities. -/
theorem values_ordered (calls : List Call) :
    ((performAll calls).nodes.toList.map Prod.snd).Pairwise
      fun a b => compare a.id b.id = .lt := by
  rw [List.pairwise_map]
  apply List.Pairwise.imp_of_mem _ Std.TreeMap.ordered_keys_toList
  intro a b ha hb hlt
  rw [(valid_of_latest (mem_toList.mp ha)).1, (valid_of_latest (mem_toList.mp hb)).1]
  exact hlt

/-- What the registry answers after a run. -/
structure Answers (calls : List Call) (registry : MemoryNodeRegistry) : Prop where
  get : ∀ nodeId, registry.get nodeId = .ok (latest calls nodeId)
  list : ∃ nodes, registry.list = .ok nodes ∧
    nodes.Pairwise (fun a b => compare a.id b.id = .lt) ∧
    ∀ node, node ∈ nodes ↔ latest calls node.id = some node
  valid : ∀ nodeId node, latest calls nodeId = some node → node.id = nodeId ∧
    ∀ capability ∈ node.capabilities, Node.misspelt capability = false
  register : ∀ node, (∀ capability ∈ node.capabilities, Node.misspelt capability = false) →
    (registry.register node).1 = .ok ()
  refuse : ∀ node, (∃ capability ∈ node.capabilities, Node.misspelt capability = true) →
    ∃ capability, node.FirstMisspelt capability ∧ registry.register node =
      (.error (.invalidNode (Node.misspeltReason capability)), registry)
  unregister : ∀ nodeId, (registry.unregister nodeId).1 = .ok ()

/-- After any sequence of calls the registry finds the latest valid snapshot of every node, lists
these snapshots in the order of their identities, and holds nothing else. -/
theorem registry_serves_latest (calls : List Call) : (performAll calls).Answers calls := by
  constructor
  · intro nodeId
    exact congrArg _ (getElem?_performAll calls nodeId)
  · exact ⟨_, rfl, values_ordered calls, fun node => mem_values⟩
  · intro nodeId node h
    obtain ⟨hid, hvalid⟩ := valid_of_latest h
    exact ⟨hid, Node.validate_eq_ok.mp hvalid⟩
  · intro node h
    rw [register_of_valid (Node.validate_eq_ok.mpr h)]
  · rintro node ⟨misspelt, hmem, hmisspelt⟩
    cases hvalid : node.validate with
    | ok =>
      have hspelt := Node.validate_eq_ok.mp hvalid misspelt hmem
      rw [hmisspelt] at hspelt
      cases hspelt
    | error error =>
      obtain ⟨capability, hfirst, rfl⟩ := Node.validate_eq_error hvalid
      exact ⟨capability, hfirst, register_of_invalid hvalid _⟩
  · exact fun _ => rfl

end MemoryNodeRegistry
end OrbitRelay
