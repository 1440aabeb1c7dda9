import Mathlib.Data.List.Induction
import Mathlib.Data.List.Nodup
import Mathlib.Data.List.Sort
import Mathlib.Order.Lattice
import OrbitRelay.Lib.Float
import OrbitRelay.Lib.Uuid

/-! JSON values with `serde_json` semantics, and the part of derived
(de)serialization that structs use. Maps are key-ordered association lists, as
`serde_json::Map` iterates its default `BTreeMap`. -/

namespace Json

/-- A number keeps the representation in which it was written. -/
inductive Number
  | posInt (value : UInt64)
  | negInt (value : Int64) (negative : value < 0)
  | float (value : Float) (finite : value.isFinite = true)
deriving DecidableEq

inductive Value
  | null
  | bool (value : Bool)
  | number (value : Number)
  | string (value : String)
  | array (items : List Value)
  | object (fields : List (String × Value))

abbrev Map := List (String × Value)

namespace Map

def get? (m : Map) (key : String) : Option Value := m.lookup key

def keys (m : Map) : List String := m.map Prod.fst

/-- Ordered insertion that replaces the value of an existing key. -/
def insert (m : Map) (key : String) (value : Value) : Map :=
  match m with
  | [] => [(key, value)]
  | (k, v) :: rest =>
    if key < k then (key, value) :: (k, v) :: rest
    else if key = k then (key, value) :: rest
    else (k, v) :: insert rest key value

@[simp] theorem get?_nil (key : String) : get? [] key = none := rfl

theorem get?_cons (k : String) (v : Value) (m : Map) (key : String) :
    get? ((k, v) :: m) key = if key = k then some v else get? m key := by
  by_cases hk : key = k
  · simp [get?, hk]
  · have hb : (key == k) = false := by simpa using hk
    rw [if_neg hk, get?, List.lookup_cons, hb]
    rfl

theorem get?_eq_none {m : Map} {key : String} (h : key ∉ m.keys) : m.get? key = none := by
  induction m with
  | nil => rfl
  | cons entry rest ih =>
    simp only [keys, List.map_cons, List.mem_cons, not_or] at h
    rw [get?_cons, if_neg h.1]
    exact ih h.2

theorem mem_keys_of_get? {m : Map} {key : String} {value : Value} (h : m.get? key = some value) :
    key ∈ m.keys := by
  by_contra hkey
  rw [get?_eq_none hkey] at h
  cases h

/-- The map has the given keys and no others. -/
def HasExactly (m : Map) (fields : List String) : Prop := ∀ key, key ∈ m.keys ↔ key ∈ fields

theorem get?_insert (m : Map) (key : String) (value : Value) (k : String) :
    (m.insert key value).get? k = if k = key then some value else m.get? k := by
  induction m with
  | nil => simp [insert, get?_cons]
  | cons entry rest ih =>
    obtain ⟨k', v'⟩ := entry
    simp only [insert]
    split
    · exact get?_cons ..
    · split
      · rename_i heq
        subst heq
        simp only [get?_cons]
        split <;> rfl
      · rename_i hne
        simp only [get?_cons, ih]
        by_cases hk : k = k'
        · have hkey : k ≠ key := fun h => hne (h ▸ hk)
          simp [hk, hk ▸ hkey]
        · simp [hk]

theorem mem_keys_insert {m : Map} {key k : String} {value : Value}
    (h : k ∈ (m.insert key value).keys) : k = key ∨ k ∈ m.keys := by
  induction m with
  | nil => simpa [insert, keys] using h
  | cons entry rest ih =>
    obtain ⟨k', v'⟩ := entry
    simp only [insert] at h
    split_ifs at h with hlt heq
    · simpa [keys] using h
    · subst heq
      simp only [keys, List.map_cons, List.mem_cons] at h ⊢
      tauto
    · simp only [keys, List.map_cons, List.mem_cons] at h ih ⊢
      rcases h with h | h
      · exact Or.inr (Or.inl h)
      · rcases ih h with h | h
        · exact Or.inl h
        · exact Or.inr (Or.inr h)

/-- A map built by inserting the entries in turn. -/
def ofEntries (entries : List (String × Value)) : Map :=
  entries.foldl (fun m entry => m.insert entry.1 entry.2) []

private theorem get?_foldl_insert (entries : List (String × Value)) (m : Map) (k : String)
    (hnd : (entries.map Prod.fst).Nodup) :
    get? (entries.foldl (fun m entry => m.insert entry.1 entry.2) m) k =
      (get? entries k).or (m.get? k) := by
  induction entries generalizing m with
  | nil => simp
  | cons entry entries ih =>
    obtain ⟨key, value⟩ := entry
    simp only [List.map_cons, List.nodup_cons] at hnd
    rw [List.foldl_cons, ih _ hnd.2, get?_insert]
    by_cases hk : k = key
    · subst hk
      rw [get?_eq_none hnd.1]
      simp [get?_cons]
    · simp [get?_cons, hk]

theorem get?_ofEntries (entries : List (String × Value)) (k : String)
    (hnd : (entries.map Prod.fst).Nodup) : (ofEntries entries).get? k = get? entries k := by
  rw [ofEntries, get?_foldl_insert entries [] k hnd, get?_nil, Option.or_none]

theorem mem_keys_ofEntries {entries : List (String × Value)} {k : String}
    (h : k ∈ (ofEntries entries).keys) : k ∈ entries.map Prod.fst := by
  have key : ∀ (entries : List (String × Value)) (m : Map),
      k ∈ keys (entries.foldl (fun m entry => m.insert entry.1 entry.2) m) →
        k ∈ entries.map Prod.fst ∨ k ∈ m.keys := by
    intro entries
    induction entries with
    | nil => intro m hm; exact Or.inr hm
    | cons entry entries ih =>
      intro m hm
      rcases ih _ hm with hm | hm
      · exact Or.inl (List.mem_cons_of_mem _ hm)
      · rcases mem_keys_insert hm with hm | hm
        · exact Or.inl (by simp [hm])
        · exact Or.inr hm
  simpa [keys] using key entries [] h

theorem isSome_get? {m : Map} {key : String} : (m.get? key).isSome = true ↔ key ∈ m.keys := by
  constructor
  · intro h
    obtain ⟨value, hvalue⟩ := Option.isSome_iff_exists.mp h
    exact mem_keys_of_get? hvalue
  · intro h
    by_contra hnone
    rw [Option.not_isSome_iff_eq_none] at hnone
    obtain ⟨entry, hentry, rfl⟩ := List.mem_map.mp h
    have hfound := List.lookup_eq_none_iff.mp hnone entry hentry
    simp at hfound

theorem hasExactly_ofEntries {entries : List (String × Value)}
    (hnd : (entries.map Prod.fst).Nodup) :
    (ofEntries entries).HasExactly (entries.map Prod.fst) := by
  intro key
  refine ⟨mem_keys_ofEntries, fun hkey => ?_⟩
  rw [← isSome_get?, get?_ofEntries entries key hnd, isSome_get?]
  exact hkey

end Map

/-- Numbers are equal only in the same representation, and floats by value. -/
def Number.beq : Number → Number → Bool
  | .posInt a, .posInt b => a == b
  | .negInt a _, .negInt b _ => a == b
  | .float a _, .float b _ => a == b
  | _, _ => false

mutual

def Value.beq : Value → Value → Bool
  | .null, .null => true
  | .bool a, .bool b => a == b
  | .number a, .number b => a.beq b
  | .string a, .string b => a == b
  | .array a, .array b => beqItems a b
  | .object a, .object b => beqFields a b
  | _, _ => false

def beqItems : List Value → List Value → Bool
  | [], [] => true
  | a :: as, b :: bs => a.beq b && beqItems as bs
  | _, _ => false

def beqFields : List (String × Value) → List (String × Value) → Bool
  | [], [] => true
  | (k, a) :: as, (l, b) :: bs => k == l && a.beq b && beqFields as bs
  | _, _ => false

end

instance : BEq Value := ⟨Value.beq⟩

/-! ### Derived serialization -/

class Serialize (α : Type*) where
  toValue : α → Value

class Deserialize (α : Type*) where
  fromValue : Value → Option α

export Serialize (toValue)
export Deserialize (fromValue)

/-- Every serialized value is read back as itself. -/
class LawfulSerde (α : Type*) [Serialize α] [Deserialize α] : Prop where
  fromValue_toValue : ∀ a : α, fromValue (toValue a) = some a

export LawfulSerde (fromValue_toValue)

attribute [simp] fromValue_toValue

instance : Serialize UInt64 := ⟨fun n => .number (.posInt n)⟩

/-- A negative or fractional number is not converted to an unsigned one. -/
instance : Deserialize UInt64 where
  fromValue
    | .number (.posInt n) => some n
    | _ => none

instance : LawfulSerde UInt64 := ⟨fun _ => rfl⟩

/-- A number that fits a narrower width. -/
def narrowed {α : Type} (bound : Nat) (narrow : UInt64 → α) : Value → Option α
  | .number (.posInt n) => if n.toNat < bound then some (narrow n) else none
  | _ => none

theorem narrowed_of_lt {α : Type} {bound : Nat} {narrow : UInt64 → α} {n : UInt64} {a : α}
    (hlt : n.toNat < bound) (hnarrow : narrow n = a) :
    narrowed bound narrow (.number (.posInt n)) = some a := by
  rw [narrowed, if_pos hlt, hnarrow]

instance : Serialize UInt8 := ⟨fun n => .number (.posInt n.toUInt64)⟩
instance : Serialize UInt16 := ⟨fun n => .number (.posInt n.toUInt64)⟩
instance : Serialize UInt32 := ⟨fun n => .number (.posInt n.toUInt64)⟩

instance : Deserialize UInt8 := ⟨narrowed (2 ^ 8) UInt64.toUInt8⟩
instance : Deserialize UInt16 := ⟨narrowed (2 ^ 16) UInt64.toUInt16⟩
instance : Deserialize UInt32 := ⟨narrowed (2 ^ 32) UInt64.toUInt32⟩

instance : LawfulSerde UInt8 := ⟨fun n => narrowed_of_lt (by simpa using n.toNat_lt) (by simp)⟩
instance : LawfulSerde UInt16 := ⟨fun n => narrowed_of_lt (by simpa using n.toNat_lt) (by simp)⟩
instance : LawfulSerde UInt32 := ⟨fun n => narrowed_of_lt (by simpa using n.toNat_lt) (by simp)⟩

/-- A non-finite float has no JSON number and is written as `null`. -/
instance : Serialize Float where
  toValue x := if h : x.isFinite = true then .number (.float x h) else .null

/-- Integers are converted as by `as f64`. -/
instance : Deserialize Float where
  fromValue
    | .number (.posInt n) => some n.toFloat
    | .number (.negInt n _) => some n.toFloat
    | .number (.float x _) => some x
    | _ => none

theorem fromValue_toValue_float {x : Float} (h : x.isFinite = true) :
    (fromValue (toValue x) : Option Float) = some x := by
  simp [toValue, h, fromValue]

instance : Serialize Bool := ⟨.bool⟩

instance : Deserialize Bool where
  fromValue
    | .bool b => some b
    | _ => none

instance : LawfulSerde Bool := ⟨fun _ => rfl⟩

instance : Serialize String := ⟨.string⟩

instance : Deserialize String where
  fromValue
    | .string s => some s
    | _ => none

instance : LawfulSerde String := ⟨fun _ => rfl⟩

theorem eq_string_of_fromValue {v : Value} {s : String} (h : fromValue v = some s) :
    v = .string s := by
  cases v with
  | string value => exact congrArg Value.string (Option.some.inj h)
  | _ => cases h

instance : Serialize Uuid := ⟨fun u => .string u.hyphenated⟩

instance : Deserialize Uuid where
  fromValue
    | .string s => Uuid.parseStr s
    | _ => none

instance : LawfulSerde Uuid := ⟨Uuid.parseStr_hyphenated⟩

section Option
variable {α : Type*}

instance [Serialize α] : Serialize (Option α) where
  toValue
    | none => .null
    | some a => toValue a

instance [Deserialize α] : Deserialize (Option α) where
  fromValue
    | .null => some none
    | value => some <$> fromValue value

end Option

instance : LawfulSerde (Option String) where
  fromValue_toValue
    | none => rfl
    | some _ => rfl

/-- An optional value is read back if it is never written as `null` itself. -/
theorem LawfulSerde.option {α : Type*} [Serialize α] [Deserialize α] [LawfulSerde α]
    (hnull : ∀ a : α, toValue a ≠ .null) : LawfulSerde (Option α) where
  fromValue_toValue
    | none => rfl
    | some a => by
      have hread := fromValue_toValue a
      have hwritten := hnull a
      show fromValue (toValue a) = some (some a)
      generalize toValue a = value at hread hwritten
      cases value with
      | null => exact absurd rfl hwritten
      | _ => exact congrArg (some <$> ·) hread

section List
variable {α : Type*} [Serialize α] [Deserialize α]

instance : Serialize (List α) := ⟨fun xs => .array (xs.map toValue)⟩

instance : Deserialize (List α) where
  fromValue
    | .array items => items.mapM fromValue
    | _ => none

instance [LawfulSerde α] : LawfulSerde (List α) where
  fromValue_toValue xs := by
    change (xs.map toValue).mapM fromValue = some xs
    induction xs with
    | nil => rfl
    | cons x xs ih => simp [List.mapM_cons, ih]

end List

section Set
variable {α : Type*} [LinearOrder α]

/-- `BTreeSet::insert`: a value that is there already stays as it is. -/
def insertNew (a : α) : List α → List α
  | [] => [a]
  | head :: rest =>
    if a < head then a :: head :: rest
    else if a = head then head :: rest
    else head :: insertNew a rest

/-- The ordered set of the read values. -/
def orderedSet (xs : List α) : List α := xs.foldl (fun set a => insertNew a set) []

theorem insertNew_of_forall_lt {a : α} {set : List α} (h : ∀ b ∈ set, b < a) :
    insertNew a set = set ++ [a] := by
  induction set with
  | nil => rfl
  | cons head rest ih =>
    rw [List.forall_mem_cons] at h
    rw [insertNew, if_neg h.1.not_gt, if_neg h.1.ne', ih h.2, List.cons_append]

theorem foldl_insertNew {xs set : List α} (h : (set ++ xs).Pairwise (· < ·)) :
    xs.foldl (fun set a => insertNew a set) set = set ++ xs := by
  induction xs generalizing set with
  | nil => exact (List.append_nil set).symm
  | cons x xs ih =>
    have hlt : ∀ b ∈ set, b < x := fun b hb =>
      (List.pairwise_append.mp h).2.2 b hb x List.mem_cons_self
    rw [List.append_cons] at h
    rw [List.foldl_cons, insertNew_of_forall_lt hlt, ih h, ← List.append_cons]

theorem mem_insertNew {a b : α} {set : List α} : b ∈ insertNew a set ↔ b = a ∨ b ∈ set := by
  induction set with
  | nil => rw [insertNew, List.mem_singleton, or_iff_left List.not_mem_nil]
  | cons head rest ih =>
    rw [insertNew]
    by_cases hlt : a < head
    · rw [if_pos hlt, List.mem_cons]
    · rw [if_neg hlt]
      by_cases heq : a = head
      · subst heq
        rw [if_pos rfl, List.mem_cons, or_self_left]
      · rw [if_neg heq, List.mem_cons, ih, List.mem_cons, or_left_comm]

/-- An insertion keeps the order. -/
theorem pairwise_insertNew (a : α) {set : List α} (h : set.Pairwise (· < ·)) :
    (insertNew a set).Pairwise (· < ·) := by
  induction set with
  | nil => exact List.pairwise_singleton _ a
  | cons head rest ih =>
    obtain ⟨hhead, hrest⟩ := List.pairwise_cons.mp h
    rw [insertNew]
    by_cases hlt : a < head
    · rw [if_pos hlt]
      apply List.pairwise_cons.mpr
      refine ⟨?_, h⟩
      intro b hb
      rcases List.mem_cons.mp hb with rfl | hb
      · exact hlt
      · exact hlt.trans (hhead b hb)
    · rw [if_neg hlt]
      by_cases heq : a = head
      · rw [if_pos heq]
        exact h
      · rw [if_neg heq]
        apply List.pairwise_cons.mpr
        refine ⟨?_, ih hrest⟩
        intro b hb
        rcases mem_insertNew.mp hb with rfl | hb
        · exact lt_of_le_of_ne (not_lt.mp hlt) (Ne.symm heq)
        · exact hhead b hb

theorem orderedSet_concat (xs : List α) (x : α) :
    orderedSet (xs ++ [x]) = insertNew x (orderedSet xs) := by
  unfold orderedSet
  rw [List.foldl_append]
  rfl

theorem mem_orderedSet {xs : List α} {a : α} : a ∈ orderedSet xs ↔ a ∈ xs := by
  induction xs using List.reverseRecOn with
  | nil => rfl
  | append_singleton xs x ih =>
    rw [orderedSet_concat, mem_insertNew, ih, List.mem_append, List.mem_singleton, or_comm]

theorem pairwise_orderedSet (xs : List α) : (orderedSet xs).Pairwise (· < ·) := by
  induction xs using List.reverseRecOn with
  | nil => exact .nil
  | append_singleton xs x ih =>
    rw [orderedSet_concat]
    exact pairwise_insertNew x ih

/-- An ordered set knows neither the order nor the number of what was read. -/
theorem orderedSet_eq_iff {xs ys : List α} :
    orderedSet xs = orderedSet ys ↔ ∀ a, a ∈ xs ↔ a ∈ ys := by
  constructor
  · intro h a
    rw [← mem_orderedSet, h, mem_orderedSet]
  · intro h
    apply (pairwise_orderedSet xs).eq_of_mem_iff (pairwise_orderedSet ys)
    intro a
    rw [mem_orderedSet, mem_orderedSet, h]

/-- An ordered set is read back as itself. -/
theorem orderedSet_eq_self {xs : List α} (h : xs.Pairwise (· < ·)) : orderedSet xs = xs :=
  foldl_insertNew h

end Set

/-- A derived struct serializer inserts its fields into a fresh object. -/
def structValue (entries : List (String × Value)) : Value :=
  .object (Map.ofEntries entries)

/-- The field values of a derived struct with `deny_unknown_fields`: an object with
exactly the named keys, or an array with one item per field. -/
def structFields (fields : List String) : Value → Option (List Value)
  | .object m =>
    if (Map.keys m).all (fields.contains ·) then fields.mapM (Map.get? m) else none
  | .array items => if items.length = fields.length then some items else none
  | _ => none

/-- A derived struct deserializer: collect the fields, then decode each of them. -/
def fromStruct {α : Type*} (fields : List String) (build : List Value → Option α) (v : Value) :
    Option α :=
  (structFields fields v).bind build

/-- The field values of a derived struct that ignores unknown keys. -/
def openFields (fields : List String) : Value → Option (List Value)
  | .object m => fields.mapM (Map.get? m)
  | .array items => if items.length = fields.length then some items else none
  | _ => none

/-- A derived struct deserializer without `deny_unknown_fields`. -/
def fromOpenStruct {α : Type*} (fields : List String) (build : List Value → Option α)
    (v : Value) : Option α :=
  (openFields fields v).bind build

/-- The value of a field, which may be left out if it is an `Option`. -/
def optionField (options : List String) (m : Map) (field : String) : Option Value :=
  match m.get? field with
  | some value => some value
  | none => if options.contains field then some .null else none

/-- The field values of a derived struct with `deny_unknown_fields` and some `Option` fields. -/
def optionFields (fields options : List String) : Value → Option (List Value)
  | .object m =>
    if (Map.keys m).all (fields.contains ·) then fields.mapM (optionField options m) else none
  | .array items => if items.length = fields.length then some items else none
  | _ => none

/-- A derived struct deserializer for a struct with `Option` fields. -/
def fromOptionStruct {α : Type*} (fields options : List String)
    (build : List Value → Option α) (v : Value) : Option α :=
  (optionFields fields options v).bind build

/-- A unit variant is its name, or an object with the name as its single key. -/
def unitVariant : Value → Option String
  | .string name => some name
  | .object [(name, .null)] => some name
  | _ => none

/-- A derived enum of unit variants, given by all of them and their names. -/
def fromUnitVariant {α : Type*} (variants : List α) (name : α → String) (v : Value) : Option α :=
  (unitVariant v).bind fun text => variants.find? fun variant => name variant = text

/-- Names that tell the variants apart are read back. -/
theorem fromUnitVariant_name {α : Type*} {variants : List α} {name : α → String} {a : α}
    (hmem : a ∈ variants) (hname : ∀ b ∈ variants, name b = name a → b = a) :
    fromUnitVariant variants name (.string (name a)) = some a := by
  show variants.find? (fun variant => name variant = name a) = some a
  cases hfound : variants.find? fun variant => name variant = name a with
  | none =>
    rw [List.find?_eq_none] at hfound
    exact absurd (decide_eq_true rfl) (hfound a hmem)
  | some b =>
    have hsame : name b = name a := by simpa using List.find?_some hfound
    rw [hname b (List.mem_of_find?_eq_some hfound) hsame]

private theorem mapM_get? (entries : List (String × Value)) (m : Map)
    (h : ∀ entry ∈ entries, m.get? entry.1 = some entry.2) :
    (entries.map Prod.fst).mapM m.get? = some (entries.map Prod.snd) := by
  induction entries with
  | nil => rfl
  | cons entry entries ih =>
    have htail := ih fun e he => h e (List.mem_cons_of_mem _ he)
    simp [List.mapM_cons, h entry List.mem_cons_self, htail]

private theorem get?_of_mem {entries : List (String × Value)} (hnd : (entries.map Prod.fst).Nodup)
    {entry : String × Value} (h : entry ∈ entries) : Map.get? entries entry.1 = some entry.2 := by
  induction entries with
  | nil => cases h
  | cons head entries ih =>
    simp only [List.map_cons, List.nodup_cons] at hnd
    rw [Map.get?_cons]
    rcases List.mem_cons.mp h with rfl | htail
    · simp
    · have hne : entry.1 ≠ head.1 := fun he => hnd.1 (he ▸ List.mem_map_of_mem htail)
      rw [if_neg hne]
      exact ih hnd.2 htail

/-- A written struct is an object with exactly its fields and their values. -/
theorem structValue_eq_object {entries : List (String × Value)} {fields : List String}
    (hfields : entries.map Prod.fst = fields) (hnd : fields.Nodup) :
    ∃ m : Map, structValue entries = .object m ∧ m.HasExactly fields ∧
      ∀ field value, (field, value) ∈ entries → m.get? field = some value := by
  subst hfields
  refine ⟨_, rfl, Map.hasExactly_ofEntries hnd, fun field value hmem => ?_⟩
  rw [Map.get?_ofEntries entries field hnd]
  exact get?_of_mem hnd hmem

theorem structFields_structValue {entries : List (String × Value)} {fields : List String}
    (hfields : entries.map Prod.fst = fields) (hnd : fields.Nodup) :
    structFields fields (structValue entries) = some (entries.map Prod.snd) := by
  subst hfields
  have hkeys : (Map.ofEntries entries).keys.all ((entries.map Prod.fst).contains ·) = true := by
    rw [List.all_eq_true]
    intro k hk
    simpa using Map.mem_keys_ofEntries hk
  rw [structValue, structFields, if_pos hkeys]
  exact mapM_get? entries _ fun entry he =>
    (Map.get?_ofEntries entries entry.1 hnd).trans (get?_of_mem hnd he)

/-- A derived struct reads back the field values its serializer wrote. -/
theorem fromStruct_structValue {α : Type*} {entries : List (String × Value)} {fields : List String}
    (build : List Value → Option α) (hfields : entries.map Prod.fst = fields)
    (hnd : fields.Nodup) :
    fromStruct fields build (structValue entries) = build (entries.map Prod.snd) := by
  rw [fromStruct, structFields_structValue hfields hnd]
  rfl

theorem fromOpenStruct_structValue {α : Type*} {entries : List (String × Value)}
    {fields : List String} (build : List Value → Option α)
    (hfields : entries.map Prod.fst = fields) (hnd : fields.Nodup) :
    fromOpenStruct fields build (structValue entries) = build (entries.map Prod.snd) := by
  subst hfields
  have hvalues : (entries.map Prod.fst).mapM (Map.get? (Map.ofEntries entries)) =
      some (entries.map Prod.snd) :=
    mapM_get? entries _ fun entry he =>
      (Map.get?_ofEntries entries entry.1 hnd).trans (get?_of_mem hnd he)
  unfold fromOpenStruct
  rw [structValue, openFields, hvalues]
  rfl

/-- Nothing changes for an object that leaves no field out. -/
theorem optionFields_of_structFields {fields : List String} (options : List String) {v : Value}
    {values : List Value} (h : structFields fields v = some values) :
    optionFields fields options v = some values := by
  cases v with
  | object m =>
    simp only [structFields] at h
    split_ifs at h with hkeys
    simp only [optionFields, if_pos hkeys]
    clear hkeys
    induction fields generalizing values with
    | nil => exact h
    | cons field fields ih =>
      simp only [List.mapM_cons, Option.bind_eq_bind, Option.bind_eq_some_iff] at h
      obtain ⟨value, hvalue, rest, hrest, hvalues⟩ := h
      have hfield : optionField options m field = some value := by
        unfold optionField
        rw [hvalue]
      rw [List.mapM_cons, hfield, ih hrest]
      exact hvalues
  | _ => exact h

theorem fromOptionStruct_structValue {α : Type*} {entries : List (String × Value)}
    {fields : List String} (options : List String) (build : List Value → Option α)
    (hfields : entries.map Prod.fst = fields) (hnd : fields.Nodup) :
    fromOptionStruct fields options build (structValue entries) =
      build (entries.map Prod.snd) := by
  have hvalues := optionFields_of_structFields options (structFields_structValue hfields hnd)
  unfold fromOptionStruct
  rw [hvalues]
  rfl

private theorem get?_of_mapM {m : Map} {fields : List String} {values : List Value}
    (h : fields.mapM m.get? = some values) {field : String} (hfield : field ∈ fields) :
    ∃ value, m.get? field = some value := by
  induction fields generalizing values with
  | nil => cases hfield
  | cons head fields ih =>
    simp only [List.mapM_cons, Option.bind_eq_bind, Option.bind_eq_some_iff] at h
    obtain ⟨value, hvalue, rest, hrest, -⟩ := h
    rcases List.mem_cons.mp hfield with rfl | htail
    · exact ⟨value, hvalue⟩
    · exact ih hrest htail

/-- A struct is read from an object with exactly its fields. -/
theorem fromStruct_object_eq_some {α : Type*} {fields : List String}
    {build : List Value → Option α} {m : Map} {a : α} :
    fromStruct fields build (.object m) = some a ↔
      m.HasExactly fields ∧ ∃ values, fields.mapM m.get? = some values ∧ build values = some a := by
  unfold fromStruct
  rw [Option.bind_eq_some_iff]
  simp only [structFields]
  constructor
  · rintro ⟨values, h, hbuild⟩
    split_ifs at h with hkeys
    refine ⟨fun key => ⟨fun hkey => ?_, fun hfield => ?_⟩, values, h, hbuild⟩
    · simpa using List.all_eq_true.mp hkeys key hkey
    · obtain ⟨value, hvalue⟩ := get?_of_mapM h hfield
      exact Map.mem_keys_of_get? hvalue
  · rintro ⟨hexactly, values, h, hbuild⟩
    refine ⟨values, ?_, hbuild⟩
    rw [if_pos, h]
    exact List.all_eq_true.mpr fun key hkey => by simpa using (hexactly key).mp hkey

/-! ### Strictness -/

def Value.isArray : Value → Bool
  | .array _ => true
  | _ => false

/-- No key of an object is outside the fields. -/
def NoExtraKeys (fields : List String) (v : Value) : Prop :=
  ∀ m, v = .object m → ∀ key ∈ Map.keys m, key ∈ fields

/-- An object that has no key outside the fields. -/
def Strict (fields : List String) (v : Value) : Prop :=
  ∃ m : Map, v = .object m ∧ ∀ key ∈ m.keys, key ∈ fields

theorem Map.HasExactly.strict {m : Map} {fields : List String} (h : m.HasExactly fields) :
    Strict fields (.object m) :=
  ⟨m, rfl, fun key hkey => (h key).mp hkey⟩

/-- With `deny_unknown_fields` only the array representation is not strict. -/
theorem strict_iff_of_fromStruct {α : Type*} {fields : List String}
    {build : List Value → Option α} {v : Value} {a : α} (h : fromStruct fields build v = some a) :
    Strict fields v ↔ v.isArray = false := by
  cases v with
  | object m => exact iff_of_true (fromStruct_object_eq_some.mp h).1.strict rfl
  | array items =>
    refine iff_of_false ?_ (by simp [Value.isArray])
    rintro ⟨m, hm, -⟩
    cases hm
  | null => cases h
  | bool value => cases h
  | number value => cases h
  | string value => cases h

/-- Without it, unknown keys have to be ruled out as well. -/
theorem strict_iff_of_fromOpenStruct {α : Type*} {fields : List String}
    {build : List Value → Option α} {v : Value} {a : α}
    (h : fromOpenStruct fields build v = some a) :
    Strict fields v ↔ v.isArray = false ∧ NoExtraKeys fields v := by
  cases v with
  | object m =>
    constructor
    · rintro ⟨m', hm, hkeys⟩
      refine ⟨rfl, fun m'' hm'' => ?_⟩
      cases hm
      cases hm''
      exact hkeys
    · intro hplain
      exact ⟨m, rfl, hplain.2 m rfl⟩
  | array items =>
    refine iff_of_false ?_ (by simp [Value.isArray])
    rintro ⟨m, hm, -⟩
    cases hm
  | null => cases h
  | bool value => cases h
  | number value => cases h
  | string value => cases h

/-- The value of a field, in either representation of a struct. -/
def member (fields : List String) (field : String) : Value → Option Value
  | .object m => Map.get? m field
  | .array items => items[fields.idxOf field]?
  | _ => none

theorem member_of_structFields {fields : List String} {v : Value} {values : List Value}
    (h : structFields fields v = some values) {field : String} (hfield : field ∈ fields) :
    member fields field v = values[fields.idxOf field]? := by
  cases v with
  | object m =>
    simp only [structFields] at h
    split_ifs at h
    show Map.get? m field = _
    clear * - h hfield
    induction fields generalizing values with
    | nil => cases hfield
    | cons head fields ih =>
      simp only [List.mapM_cons, Option.bind_eq_bind, Option.bind_eq_some_iff] at h
      obtain ⟨value, hvalue, rest, hrest, hvalues⟩ := h
      cases hvalues
      by_cases hhead : head = field
      · subst hhead
        rw [List.idxOf_cons_self]
        exact hvalue
      · have hmem := (List.mem_cons.mp hfield).resolve_left (Ne.symm hhead)
        rw [List.idxOf_cons_ne fields hhead, List.getElem?_cons_succ]
        exact ih hmem hrest
  | array items =>
    simp only [structFields] at h
    split_ifs at h
    cases h
    rfl
  | null => cases h
  | bool value => cases h
  | number value => cases h
  | string value => cases h

/-- Every item of an array that is read is read itself. -/
theorem fromValue_of_mem_items {α : Type*} [Deserialize α] {items : List Value} {xs : List α}
    (h : (fromValue (.array items) : Option (List α)) = some xs) {item : Value}
    (hitem : item ∈ items) : ∃ x : α, fromValue item = some x := by
  have h : items.mapM (fromValue (α := α)) = some xs := h
  induction items generalizing xs with
  | nil => cases hitem
  | cons head items ih =>
    simp only [List.mapM_cons, Option.bind_eq_bind, Option.bind_eq_some_iff] at h
    obtain ⟨x, hx, rest, hrest, -⟩ := h
    rcases List.mem_cons.mp hitem with rfl | htail
    · exact ⟨x, hx⟩
    · exact ih hrest htail hrest

end Json
