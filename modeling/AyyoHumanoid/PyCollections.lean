import AyyoHumanoid.Transactions
import Mathlib.Data.List.Sort
import Mathlib.Data.List.Dedup
import Mathlib.Data.Prod.Lex

/-!
# Sorted and unique sequences

The source keeps tuples in the order of a key and refuses repeated keys. The
stable sort, the sorted set and the checks built from them are collected here,
over arbitrary element and key types.
-/

namespace AyyoHumanoid
namespace PyCollections

variable {α κ ε : Type} [LinearOrder κ]

/-- `sorted(values, key=key)`. -/
def sortBy (key : α → κ) (values : List α) : List α :=
  values.insertionSort fun left right => key left ≤ key right

/-- `tuple(sorted(set(values)))`. -/
def sortedSet (values : List κ) : List κ :=
  values.dedup.insertionSort (· ≤ ·)

/-- Values in the order of their keys, refused when a key repeats. -/
def orderedUnique (key : α → κ) (values : List α) (repeated : ε) : Except ε (List α) := do
  require ((sortBy key values).map key).Nodup repeated
  pure (sortBy key values)

/-- Distinct keys in increasing order. -/
def KeyOrdered (key : α → κ) (values : List α) : Prop :=
  (values.map key).Pairwise (· < ·)

/-- Sorting permutes the values. -/
theorem sortBy_perm (key : α → κ) (values : List α) : (sortBy key values).Perm values :=
  List.perm_insertionSort _ _

/-- Sorting keeps the values. -/
@[simp] theorem mem_sortBy {key : α → κ} {values : List α} {value : α} :
    value ∈ sortBy key values ↔ value ∈ values :=
  (sortBy_perm key values).mem_iff

/-- Sorting keeps the number of values. -/
@[simp] theorem length_sortBy (key : α → κ) (values : List α) :
    (sortBy key values).length = values.length :=
  (sortBy_perm key values).length_eq

/-- Sorted keys do not decrease. -/
theorem pairwise_sortBy (key : α → κ) (values : List α) :
    (sortBy key values).Pairwise fun left right => key left ≤ key right := by
  have htotal : Std.Total fun left right : α => key left ≤ key right :=
    ⟨fun left right => le_total (key left) (key right)⟩
  have htrans : IsTrans α fun left right => key left ≤ key right :=
    ⟨fun _ _ _ hab hbc => le_trans hab hbc⟩
  exact List.pairwise_insertionSort _ _

/-- Key-ordered values are their own sort. -/
theorem sortBy_eq_self {key : α → κ} {values : List α} (h : KeyOrdered key values) :
    sortBy key values = values := by
  rw [KeyOrdered, List.pairwise_map] at h
  exact (h.imp fun hlt => le_of_lt hlt).insertionSort_eq

/-- A sort with distinct keys is key-ordered. -/
theorem keyOrdered_sortBy {key : α → κ} {values : List α} (h : (values.map key).Nodup) :
    KeyOrdered key (sortBy key values) := by
  have hnodup : ((sortBy key values).map key).Nodup :=
    ((sortBy_perm key values).map key).nodup_iff.mpr h
  have hsorted : ((sortBy key values).map key).Pairwise (· ≤ ·) :=
    List.pairwise_map.mpr (pairwise_sortBy key values)
  exact (hsorted.and hnodup).imp fun hboth => lt_of_le_of_ne hboth.1 hboth.2

/-- Sorting twice is sorting once, when the keys are distinct. -/
theorem sortBy_sortBy {key : α → κ} {values : List α} (h : (values.map key).Nodup) :
    sortBy key (sortBy key values) = sortBy key values :=
  sortBy_eq_self (keyOrdered_sortBy h)

/-- Sorting by distinct keys does not depend on the order of the values. -/
theorem sortBy_eq_of_perm {key : α → κ} {values others : List α} (h : values.Perm others)
    (hkeys : (values.map key).Nodup) : sortBy key values = sortBy key others := by
  have hvalues := List.pairwise_map.mp (keyOrdered_sortBy hkeys)
  have hothers := List.pairwise_map.mp (keyOrdered_sortBy ((h.map key).nodup_iff.mp hkeys))
  have hperm : (sortBy key values).Perm (sortBy key others) :=
    (sortBy_perm key values).trans (h.trans (sortBy_perm key others).symm)
  exact hperm.eq_of_pairwise (fun a b _ _ hab hba => absurd hab (lt_asymm hba)) hvalues hothers

/-- Key-ordered values have distinct keys. -/
theorem KeyOrdered.nodup {key : α → κ} {values : List α} (h : KeyOrdered key values) :
    (values.map key).Nodup :=
  h.imp fun hlt => ne_of_lt hlt

/-- The check returns the sorted values when their keys are distinct. -/
theorem orderedUnique_ok {key : α → κ} {values result : List α} {repeated : ε} :
    orderedUnique key values repeated = .ok result ↔
      (values.map key).Nodup ∧ sortBy key values = result := by
  rw [orderedUnique, Checks.unit_bind_ok, Checks.require_ok, Checks.pure_ok,
    ((sortBy_perm key values).map key).nodup_iff]

/-- Ordered values are ordered already. -/
theorem orderedUnique_self {key : α → κ} {values result : List α} {repeated other : ε}
    (h : orderedUnique key values repeated = .ok result) :
    orderedUnique key result other = .ok result := by
  rw [orderedUnique_ok] at h
  have hordered := keyOrdered_sortBy h.1
  rw [h.2] at hordered
  exact orderedUnique_ok.mpr ⟨hordered.nodup, sortBy_eq_self hordered⟩

/-- Ordering keeps the values. -/
theorem orderedUnique_perm {key : α → κ} {values result : List α} {repeated : ε}
    (h : orderedUnique key values repeated = .ok result) : result.Perm values := by
  rw [orderedUnique_ok] at h
  exact h.2 ▸ sortBy_perm key values

/-- A lookup by a distinct key finds the value with the key. -/
theorem find_of_nodup {ι : Type} [DecidableEq ι] {key : α → ι} {values : List α}
    (hnodup : (values.map key).Nodup) {value : α} (hmem : value ∈ values) :
    (values.find? fun other => key other = key value) = some value := by
  induction values with
  | nil => cases hmem
  | cons first rest ih =>
    rw [List.map_cons, List.nodup_cons] at hnodup
    rcases List.mem_cons.mp hmem with rfl | hrest
    · rw [List.find?_cons_of_pos (by simp)]
    · have hne : key first ≠ key value := by
        intro heq
        exact hnodup.1 (heq ▸ List.mem_map_of_mem hrest)
      rw [List.find?_cons_of_neg (by simpa using hne)]
      exact ih hnodup.2 hrest

/-- A lookup by a distinct key finds exactly the values with the key. -/
theorem find_eq_some_iff {ι : Type} [DecidableEq ι] {key : α → ι} {values : List α}
    (hnodup : (values.map key).Nodup) {wanted : ι} {value : α} :
    (values.find? fun other => key other = wanted) = some value ↔
      value ∈ values ∧ key value = wanted := by
  constructor
  · intro h
    exact ⟨List.mem_of_find?_eq_some h, by simpa using List.find?_some h⟩
  · rintro ⟨hmem, rfl⟩
    exact find_of_nodup hnodup hmem

/-- A sorted set holds the given values. -/
@[simp] theorem mem_sortedSet {values : List κ} {value : κ} :
    value ∈ sortedSet values ↔ value ∈ values := by
  rw [sortedSet, (List.perm_insertionSort _ _).mem_iff, List.mem_dedup]

/-- A sorted set increases. -/
theorem pairwise_sortedSet (values : List κ) : (sortedSet values).Pairwise (· < ·) := by
  have hnodup : (sortedSet values).Nodup :=
    (List.perm_insertionSort _ _).nodup_iff.mpr (List.nodup_dedup values)
  have hsorted := List.pairwise_insertionSort (· ≤ ·) values.dedup
  exact (hsorted.and hnodup).imp fun hboth => lt_of_le_of_ne hboth.1 hboth.2

/-- A list is its own sorted set when it increases. -/
theorem sortedSet_eq_self {values : List κ} : values = sortedSet values ↔
    values.Pairwise (· < ·) := by
  constructor
  · intro h
    rw [h]
    exact pairwise_sortedSet values
  · intro h
    have hnodup : values.Nodup := h.imp fun hlt => ne_of_lt hlt
    rw [sortedSet, hnodup.dedup]
    exact ((h.imp fun hlt => le_of_lt hlt).insertionSort_eq).symm

/-- A sorted set is not longer than the values. -/
theorem length_sortedSet_le (values : List κ) : (sortedSet values).length ≤ values.length := by
  rw [sortedSet, List.length_insertionSort]
  exact (List.dedup_sublist values).length_le

/-- A sorted set is as long as the values exactly when they are distinct. -/
theorem length_sortedSet_eq {values : List κ} :
    (sortedSet values).length = values.length ↔ values.Nodup := by
  rw [sortedSet, List.length_insertionSort]
  constructor
  · intro h
    rw [← (List.dedup_sublist values).eq_of_length h]
    exact List.nodup_dedup values
  · intro h
    rw [h.dedup]

/-- The sorted set of distinct values permutes them. -/
theorem sortedSet_perm {values : List κ} (h : values.Nodup) : (sortedSet values).Perm values := by
  rw [sortedSet, h.dedup]
  exact List.perm_insertionSort _ _

end PyCollections
end AyyoHumanoid
