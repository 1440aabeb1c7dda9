import Mathlib.Data.List.Induction
import Mathlib.Logic.Function.Basic
import Std.Data.TreeMap.Lemmas

/-! Registries of values under keys. The one kind keeps the first value that is offered until it is
withdrawn, the other the last. -/
namespace Registry
variable {κ α : Type*} [DecidableEq κ]

/-- A request to change a registry. -/
inductive Change (κ α : Type*)
  | offer (key : κ) (value : α)
  | withdraw (key : κ)

def Change.key : Change κ α → κ
  | .offer key _ | .withdraw key => key

/-- In the first kind an offer does not replace what is held. -/
def apply (held : κ → Option α) : Change κ α → κ → Option α
  | .offer key value => if (held key).isSome then held else Function.update held key (some value)
  | .withdraw key => Function.update held key none

def applyAll (changes : List (Change κ α)) : κ → Option α :=
  changes.foldl apply fun _ => none

/-- The changes of one key since it was withdrawn last, as offered values. -/
def standing (key : κ) (changes : List (Change κ α)) : List α :=
  changes.foldl (fun offers change => match change with
    | .offer other value => if other = key then offers ++ [value] else offers
    | .withdraw other => if other = key then [] else offers) []

theorem apply_offer (held : κ → Option α) (key : κ) (value : α) :
    apply held (.offer key value) =
      if (held key).isSome then held else Function.update held key (some value) := rfl

theorem apply_withdraw (held : κ → Option α) (key : κ) :
    apply held (.withdraw key) = Function.update held key none := rfl

theorem applyAll_concat (changes : List (Change κ α)) (change : Change κ α) :
    applyAll (changes ++ [change]) = apply (applyAll changes) change := by
  unfold applyAll
  rw [List.foldl_append]
  rfl

theorem standing_offer (key other : κ) (value : α) (changes : List (Change κ α)) :
    standing key (changes ++ [.offer other value]) =
      if other = key then standing key changes ++ [value] else standing key changes := by
  unfold standing
  rw [List.foldl_append]
  rfl

theorem standing_withdraw (key other : κ) (changes : List (Change κ α)) :
    standing key (changes ++ [.withdraw other]) =
      if other = key then [] else standing key changes := by
  unfold standing
  rw [List.foldl_append]
  rfl

theorem apply_of_ne (held : κ → Option α) {change : Change κ α} {key : κ} (h : change.key ≠ key) :
    apply held change key = held key := by
  cases change with
  | offer other value =>
    rw [apply_offer]
    by_cases hheld : (held other).isSome = true
    · rw [if_pos hheld]
    · rw [if_neg hheld]
      exact Function.update_of_ne (Ne.symm h) ..
  | withdraw other => exact Function.update_of_ne (Ne.symm h) ..

/-- The changes of other keys do not matter. -/
theorem standing_of_ne (changes : List (Change κ α)) {change : Change κ α} {key : κ}
    (h : change.key ≠ key) : standing key (changes ++ [change]) = standing key changes := by
  cases change with
  | offer other value =>
    rw [standing_offer]
    exact if_neg h
  | withdraw other =>
    rw [standing_withdraw]
    exact if_neg h

/-- A key holds the first value that was offered since its last withdrawal. -/
theorem applyAll_eq (changes : List (Change κ α)) (key : κ) :
    applyAll changes key = (standing key changes).head? := by
  induction changes using List.reverseRecOn with
  | nil => rfl
  | append_singleton changes change ih =>
    rw [applyAll_concat]
    by_cases hkey : change.key = key
    · cases change with
      | offer other value =>
        obtain rfl : other = key := hkey
        rw [apply_offer, standing_offer, if_pos rfl, ih]
        cases hoffers : standing other changes with
        | nil =>
          rw [if_neg (by simp), Function.update_self]
          rfl
        | cons first rest =>
          rw [if_pos (by simp), ih, hoffers]
          rfl
      | withdraw other =>
        obtain rfl : other = key := hkey
        rw [apply_withdraw, standing_withdraw, if_pos rfl, Function.update_self]
        rfl
    · rw [apply_of_ne _ hkey, standing_of_ne _ hkey]
      exact ih

/-! ### Replacement -/

/-- The other kind of registry: an offer replaces what is held. -/
def replace (held : κ → Option α) : Change κ α → κ → Option α
  | .offer key value => Function.update held key (some value)
  | .withdraw key => Function.update held key none

def replaceAll (changes : List (Change κ α)) : κ → Option α :=
  changes.foldl replace fun _ => none

theorem replaceAll_concat (changes : List (Change κ α)) (change : Change κ α) :
    replaceAll (changes ++ [change]) = replace (replaceAll changes) change := by
  unfold replaceAll
  rw [List.foldl_append]
  rfl

theorem replace_of_ne (held : κ → Option α) {change : Change κ α} {key : κ}
    (h : change.key ≠ key) : replace held change key = held key := by
  cases change with
  | offer other value => exact Function.update_of_ne (Ne.symm h) ..
  | withdraw other => exact Function.update_of_ne (Ne.symm h) ..

/-- A key holds the last value that was offered since its last withdrawal. -/
theorem replaceAll_eq (changes : List (Change κ α)) (key : κ) :
    replaceAll changes key = (standing key changes).getLast? := by
  induction changes using List.reverseRecOn with
  | nil => rfl
  | append_singleton changes change ih =>
    rw [replaceAll_concat]
    by_cases hkey : change.key = key
    · cases change with
      | offer other value =>
        obtain rfl : other = key := hkey
        rw [standing_offer, if_pos rfl, List.getLast?_concat]
        exact Function.update_self ..
      | withdraw other =>
        obtain rfl : other = key := hkey
        rw [standing_withdraw, if_pos rfl]
        exact Function.update_self ..
    · rw [replace_of_ne _ hkey, standing_of_ne _ hkey]
      exact ih

section Map
variable {cmp : κ → κ → Ordering} [Std.TransCmp cmp] [Std.LawfulEqCmp cmp]

/-- An ordered map as a registry of the second kind. -/
def applyTo (map : Std.TreeMap κ α cmp) : Change κ α → Std.TreeMap κ α cmp
  | .offer key value => map.insert key value
  | .withdraw key => map.erase key

theorem getElem?_applyTo (map : Std.TreeMap κ α cmp) (change : Change κ α) (key : κ) :
    (applyTo map change)[key]? = replace (fun key => map[key]?) change key := by
  have hsame : ∀ other, cmp other key = .eq ↔ key = other := fun other =>
    Std.LawfulEqCmp.compare_eq_iff_eq.trans eq_comm
  cases change with
  | offer other value =>
    rw [applyTo, replace, Std.TreeMap.getElem?_insert, Function.update_apply]
    simp only [hsame]
  | withdraw other =>
    rw [applyTo, replace, Std.TreeMap.getElem?_erase, Function.update_apply]
    simp only [hsame]

end Map

/-- What stands was offered. -/
theorem offer_mem_of_mem_standing {changes : List (Change κ α)} {key : κ} {value : α}
    (h : value ∈ standing key changes) : Change.offer key value ∈ changes := by
  induction changes using List.reverseRecOn with
  | nil => cases h
  | append_singleton changes change ih =>
    by_cases hkey : change.key = key
    · cases change with
      | offer other offered =>
        obtain rfl : other = key := hkey
        rw [standing_offer, if_pos rfl] at h
        rcases List.mem_append.mp h with h | h
        · exact List.mem_append_left _ (ih h)
        · rw [List.mem_singleton.mp h]
          exact List.mem_append_right _ (List.mem_singleton_self _)
      | withdraw other =>
        obtain rfl : other = key := hkey
        rw [standing_withdraw, if_pos rfl] at h
        cases h
    · rw [standing_of_ne _ hkey] at h
      exact List.mem_append_left _ (ih h)

end Registry
