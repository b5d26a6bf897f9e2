import AyyoHumanoid.PyCollections
import Mathlib.Algebra.GroupWithZero.Nat
import Mathlib.Data.List.Perm.Subperm
import Mathlib.Data.List.ProdSigma

/-!
# Groups by key

Values with one key form a group, and the groups are taken in the order of their
keys. The keys and the members of every group depend on which values there are,
not on the order in which they come; more values make more or larger groups.
-/

namespace AyyoHumanoid
namespace PyCollections

variable {α κ : Type} [LinearOrder κ]

/-- The values with a key, in their order. -/
def groupOf (key : α → κ) (values : List α) (wanted : κ) : List α :=
  values.filter fun value => key value = wanted

/-- The groups of the values, in the order of their keys. -/
def groupsBy (key : α → κ) (values : List α) : List (List α) :=
  (sortedSet (values.map key)).map (groupOf key values)

section Groups

variable {key : α → κ} {values others : List α} {value : α} {wanted : κ}

/-- A group holds the values with its key. -/
@[simp] theorem mem_groupOf : value ∈ groupOf key values wanted ↔
    value ∈ values ∧ key value = wanted := by
  rw [groupOf, List.mem_filter, decide_eq_true_eq]

/-- Every group is the group of the key of some value. -/
theorem mem_groupsBy {group : List α} : group ∈ groupsBy key values ↔
    ∃ value ∈ values, groupOf key values (key value) = group := by
  simp only [groupsBy, List.mem_map, mem_sortedSet, exists_exists_and_eq_and]

/-- Sorted sets are equal when they hold the same values. -/
theorem sortedSet_congr {left right : List κ} (h : ∀ value, value ∈ left ↔ value ∈ right) :
    sortedSet left = sortedSet right := by
  have hnodup : ∀ keys : List κ, (sortedSet keys).Nodup := fun keys =>
    (pairwise_sortedSet keys).imp fun hlt => ne_of_lt hlt
  have hperm : (sortedSet left).Perm (sortedSet right) := by
    refine (List.perm_ext_iff_of_nodup (hnodup left) (hnodup right)).mpr fun value => ?_
    rw [mem_sortedSet, mem_sortedSet, h]
  exact hperm.eq_of_pairwise (fun a b _ _ hab hba => absurd hab (lt_asymm hba))
    (pairwise_sortedSet left) (pairwise_sortedSet right)

/-- What is computed alike of reordered groups does not depend on the order of the values. -/
theorem map_groupsBy_perm {β : Type} {summary : List α → β} (h : values.Perm others)
    (hsummary : ∀ wanted, (groupOf key values wanted).Perm (groupOf key others wanted) →
      summary (groupOf key values wanted) = summary (groupOf key others wanted)) :
    (groupsBy key values).map summary = (groupsBy key others).map summary := by
  have hkeys : sortedSet (values.map key) = sortedSet (others.map key) :=
    sortedSet_congr fun _ => (h.map key).mem_iff
  rw [groupsBy, groupsBy, hkeys, List.map_map, List.map_map]
  refine List.map_congr_left fun wanted _ => ?_
  exact hsummary wanted (h.filter _)

/-- A value that is alone with its key among more values is alone among fewer. -/
theorem groupOf_eq_singleton (hsub : values.Subperm others) (hmem : value ∈ values)
    (halone : groupOf key others (key value) = [value]) :
    groupOf key values (key value) = [value] := by
  have hfilter : (groupOf key values (key value)).Subperm [value] := by
    rw [← halone]
    exact hsub.filter _
  have hshort : (groupOf key values (key value)).length ≤ 1 := hfilter.length_le
  have hinside : value ∈ groupOf key values (key value) := mem_groupOf.mpr ⟨hmem, rfl⟩
  have hpositive := List.length_pos_of_mem hinside
  have hone : (groupOf key values (key value)).length = 1 := by omega
  obtain ⟨only, honly⟩ := List.length_eq_one_iff.mp hone
  rw [honly, List.mem_singleton] at hinside
  rw [honly, hinside]

/-- The groups together hold every value once. -/
theorem sum_length_groupsBy (key : α → κ) (values : List α) :
    ((groupsBy key values).map List.length).sum = values.length := by
  have hkeys : ∀ value ∈ values, key value ∈ sortedSet (values.map key) := fun value hmem =>
    mem_sortedSet.mpr (List.mem_map_of_mem hmem)
  have hnodup : (sortedSet (values.map key)).Nodup :=
    (pairwise_sortedSet _).imp fun hlt => ne_of_lt hlt
  rw [groupsBy, List.map_map]
  generalize sortedSet (values.map key) = keys at hkeys hnodup
  induction keys generalizing values with
  | nil =>
    cases values with
    | nil => rfl
    | cons value rest => cases hkeys value List.mem_cons_self
  | cons wanted keys ih =>
    rw [List.nodup_cons] at hnodup
    rw [List.map_cons, List.sum_cons]
    have hrest := ih (values.filter fun value => ¬key value = wanted) (fun value hmem => by
      rw [List.mem_filter, decide_eq_true_eq] at hmem
      exact (List.mem_cons.mp (hkeys value hmem.1)).resolve_left hmem.2) hnodup.2
    have hsame : keys.map (List.length ∘ groupOf key values) =
        keys.map (List.length ∘ groupOf key (values.filter fun value => ¬key value = wanted)) := by
      refine List.map_congr_left fun other hother => ?_
      have hne : other ≠ wanted := fun heq => hnodup.1 (heq ▸ hother)
      simp only [Function.comp_apply, groupOf, List.filter_filter]
      refine congrArg List.length (List.filter_congr fun value _ => ?_)
      by_cases hvalue : key value = other
      · simp [hvalue, hne]
      · simp [hvalue]
    rw [hsame, hrest]
    have hsplit := List.length_eq_length_filter_add (l := values)
      (fun value => decide (key value = wanted))
    simp only [Function.comp_apply, groupOf]
    simp only [decide_not]
    omega

/-- No group is empty. -/
theorem groupsBy_ne_nil {group : List α} (h : group ∈ groupsBy key values) : group ≠ [] := by
  obtain ⟨value, hvalue, rfl⟩ := mem_groupsBy.mp h
  exact List.ne_nil_of_mem (mem_groupOf.mpr ⟨hvalue, rfl⟩)

/-- The groups of distinct values share no value. -/
theorem nodup_flatten_groupsBy (h : values.Nodup) : (groupsBy key values).flatten.Nodup := by
  rw [groupsBy, ← List.flatMap_def, List.nodup_flatMap]
  refine ⟨fun wanted _ => h.filter _, (pairwise_sortedSet _).imp fun hlt => ?_⟩
  intro value hleft hright
  rw [mem_groupOf] at hleft hright
  exact absurd (hleft.2.symm.trans hright.2) (ne_of_lt hlt)

end Groups

/-- The pairs of values from different groups, the value of the earlier group first. -/
def crossPairs : List (List α) → List (α × α)
  | [] => []
  | group :: later => (group ×ˢ later.flatten) ++ crossPairs later

section Pairs

variable {key : α → κ} {values : List α}

/-- How many pairs there are depends on the sizes of the groups. -/
theorem length_crossPairs_congr {β : Type} {groups : List (List α)} {others : List (List β)}
    (h : groups.map List.length = others.map List.length) :
    (crossPairs groups).length = (crossPairs others).length := by
  induction groups generalizing others with
  | nil =>
    rw [List.map_nil, eq_comm, List.map_eq_nil_iff] at h
    rw [h]
    rfl
  | cons group groups ih =>
    cases others with
    | nil => cases h
    | cons other others =>
      rw [List.map_cons, List.map_cons, List.cons.injEq] at h
      have hlater := ih h.2
      simp only [crossPairs, List.length_append, List.length_product, List.length_flatten, h.1,
        h.2, hlater]

/-- Pairs across some of the groups in key order. -/
theorem mem_crossPairs_map {keys : List κ} (hkeys : keys.Pairwise (· < ·)) {left right : α} :
    (left, right) ∈ crossPairs (keys.map (groupOf key values)) ↔
      (left ∈ values ∧ key left ∈ keys) ∧ (right ∈ values ∧ key right ∈ keys) ∧
        key left < key right := by
  induction keys with
  | nil => simp [crossPairs]
  | cons first keys ih =>
    rw [List.pairwise_cons] at hkeys
    have hflatten : right ∈ (keys.map (groupOf key values)).flatten ↔
        right ∈ values ∧ key right ∈ keys := by
      simp only [List.mem_flatten, List.mem_map, exists_exists_and_eq_and, mem_groupOf]
      constructor
      · rintro ⟨wanted, hwanted, hright, rfl⟩
        exact ⟨hright, hwanted⟩
      · rintro ⟨hright, hwanted⟩
        exact ⟨_, hwanted, hright, rfl⟩
    rw [List.map_cons, crossPairs, List.mem_append, List.mem_product, mem_groupOf, hflatten,
      ih hkeys.2]
    constructor
    · rintro (⟨⟨hleft, hfirst⟩, hright, hlater⟩ | ⟨⟨hleft, hlater⟩, ⟨hright, hlater'⟩, hlt⟩)
      · refine ⟨⟨hleft, by simp [hfirst]⟩, ⟨hright, by simp [hlater]⟩, ?_⟩
        rw [hfirst]
        exact hkeys.1 _ hlater
      · exact ⟨⟨hleft, by simp [hlater]⟩, ⟨hright, by simp [hlater']⟩, hlt⟩
    · rintro ⟨⟨hleft, hleftKey⟩, ⟨hright, hrightKey⟩, hlt⟩
      rcases List.mem_cons.mp hleftKey with hfirst | hlater <;>
        rcases List.mem_cons.mp hrightKey with hfirst' | hlater'
      · rw [hfirst, hfirst'] at hlt
        exact absurd hlt (lt_irrefl _)
      · exact Or.inl ⟨⟨hleft, hfirst⟩, hright, hlater'⟩
      · rw [hfirst'] at hlt
        exact absurd hlt (lt_asymm (hkeys.1 _ hlater))
      · exact Or.inr ⟨⟨hleft, hlater⟩, ⟨hright, hlater'⟩, hlt⟩

/-- Two values form a pair across the groups when the key of the first is smaller. -/
theorem mem_crossPairs_groupsBy {left right : α} :
    (left, right) ∈ crossPairs (groupsBy key values) ↔
      left ∈ values ∧ right ∈ values ∧ key left < key right := by
  have hkeys : ∀ value ∈ values, key value ∈ sortedSet (values.map key) := fun value hvalue =>
    mem_sortedSet.mpr (List.mem_map_of_mem hvalue)
  rw [groupsBy, mem_crossPairs_map (pairwise_sortedSet _)]
  constructor
  · rintro ⟨⟨hleft, -⟩, ⟨hright, -⟩, hlt⟩
    exact ⟨hleft, hright, hlt⟩
  · rintro ⟨hleft, hright, hlt⟩
    exact ⟨⟨hleft, hkeys _ hleft⟩, ⟨hright, hkeys _ hright⟩, hlt⟩

/-- Distinct values form distinct pairs. -/
theorem nodup_crossPairs {groups : List (List α)} (h : groups.flatten.Nodup) :
    (crossPairs groups).Nodup := by
  induction groups with
  | nil => exact List.nodup_nil
  | cons group groups ih =>
    rw [List.flatten_cons, List.nodup_append] at h
    obtain ⟨hgroup, hlater, hdisjoint⟩ := h
    have hfirst : ∀ pair ∈ crossPairs groups, pair.1 ∈ groups.flatten := by
      intro pair hpair
      clear ih hgroup hlater hdisjoint
      induction groups with
      | nil => cases hpair
      | cons other groups ih =>
        rw [crossPairs, List.mem_append, ← Prod.mk.eta (p := pair), List.mem_product] at hpair
        rw [List.flatten_cons, List.mem_append]
        rcases hpair with hpair | hpair
        · exact Or.inl hpair.1
        · exact Or.inr (ih hpair)
    rw [crossPairs, List.nodup_append]
    refine ⟨hgroup.product hlater, ih hlater, ?_⟩
    intro pair hpair other hother heq
    rw [← Prod.mk.eta (p := pair), List.mem_product] at hpair
    exact hdisjoint _ hpair.1 _ (hfirst other hother) (by rw [heq])

end Pairs

end PyCollections
end AyyoHumanoid
