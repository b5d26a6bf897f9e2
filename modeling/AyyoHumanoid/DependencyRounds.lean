import AyyoHumanoid.PyCollections
import Mathlib.Data.List.Perm.Basic

/-!
# Dependency order by rounds

Nodes with dependencies are put in order by rounds: each round takes every node
without open dependencies, in increasing order, and closes these dependencies
for the others. A round that takes nothing means that there is a cycle. The
result is a permutation of the nodes, it does not depend on the order in which
the nodes are given, and it exists when the dependencies have a rank.
-/

namespace AyyoHumanoid
namespace DependencyRounds

open PyCollections

variable {κ : Type} [LinearOrder κ]

/-- The nodes without open dependencies, in increasing order. -/
def ready (remaining : List (κ × List κ)) : List κ :=
  sortBy id ((remaining.filter fun entry => entry.2 = []).map Prod.fst)

/-- Take nodes away and close the dependencies on them. -/
def advance (done : List κ) (remaining : List (κ × List κ)) : List (κ × List κ) :=
  (remaining.filter fun entry => entry.1 ∉ done).map fun entry =>
    (entry.1, entry.2.filter (· ∉ done))

/-- The order by rounds, with a bound on the number of rounds. -/
def rounds : Nat → List (κ × List κ) → Option (List κ)
  | _, [] => some []
  | 0, _ :: _ => none
  | fuel + 1, entry :: rest =>
    if ready (entry :: rest) = [] then none
    else (rounds fuel (advance (ready (entry :: rest)) (entry :: rest))).map
      (ready (entry :: rest) ++ ·)

/-- A node is ready when it has no open dependency. -/
theorem mem_ready {remaining : List (κ × List κ)} {node : κ} :
    node ∈ ready remaining ↔ (node, []) ∈ remaining := by
  simp [ready]

/-- The nodes left after a round. -/
theorem map_fst_advance (done : List κ) (remaining : List (κ × List κ)) :
    (advance done remaining).map Prod.fst = (remaining.map Prod.fst).filter (· ∉ done) := by
  simp [advance, List.filter_map, Function.comp_def]

/-- What a node still waits for after a round. -/
theorem mem_advance {done : List κ} {remaining : List (κ × List κ)} {entry : κ × List κ} :
    entry ∈ advance done remaining ↔
      ∃ before ∈ remaining, before.1 ∉ done ∧
        (before.1, before.2.filter (· ∉ done)) = entry := by
  simp [advance, and_assoc]

/-- The ready nodes are distinct nodes. -/
theorem ready_subperm (remaining : List (κ × List κ)) :
    (ready remaining).Subperm (remaining.map Prod.fst) := by
  have hperm := sortBy_perm id ((remaining.filter fun entry => entry.2 = []).map Prod.fst)
  have hsub : ((remaining.filter fun entry => entry.2 = []).map Prod.fst).Sublist
      (remaining.map Prod.fst) := List.filter_sublist.map Prod.fst
  exact hperm.subperm.trans hsub.subperm

/-- The ready nodes and the nodes left make up the nodes. -/
theorem ready_append_perm {remaining : List (κ × List κ)}
    (hnodup : (remaining.map Prod.fst).Nodup) :
    (ready remaining ++ (advance (ready remaining) remaining).map Prod.fst).Perm
      (remaining.map Prod.fst) := by
  rw [map_fst_advance]
  have hready : (ready remaining).Nodup := by
    obtain ⟨middle, hperm, hsub⟩ := ready_subperm remaining
    exact hperm.nodup_iff.mp (hnodup.sublist hsub)
  have hleft : ((remaining.map Prod.fst).filter (· ∉ ready remaining)).Nodup :=
    hnodup.filter _
  rw [List.perm_ext_iff_of_nodup ?_ hnodup]
  · intro node
    simp only [List.mem_append, List.mem_filter, decide_eq_true_eq]
    constructor
    · rintro (h | h)
      · exact (ready_subperm remaining).subset h
      · exact h.1
    · intro h
      by_cases hmem : node ∈ ready remaining
      · exact Or.inl hmem
      · exact Or.inr ⟨h, hmem⟩
  · refine List.Nodup.append hready hleft ?_
    intro node hnode hfiltered
    simp only [List.mem_filter, decide_eq_true_eq] at hfiltered
    exact hfiltered.2 hnode

/-- An order by rounds permutes the nodes. -/
theorem rounds_perm {fuel : Nat} {remaining : List (κ × List κ)} {order : List κ}
    (hnodup : (remaining.map Prod.fst).Nodup) (h : rounds fuel remaining = some order) :
    order.Perm (remaining.map Prod.fst) := by
  induction fuel generalizing remaining order with
  | zero =>
    cases remaining with
    | nil =>
      rw [rounds, Option.some.injEq] at h
      subst h
      exact .nil
    | cons entry rest => rw [rounds] at h; cases h
  | succ fuel ih =>
    cases remaining with
    | nil =>
      rw [rounds, Option.some.injEq] at h
      subst h
      exact .nil
    | cons entry rest =>
      rw [rounds] at h
      split at h
      · cases h
      · obtain ⟨later, hlater, rfl⟩ := Option.map_eq_some_iff.mp h
        have hleft : ((advance (ready (entry :: rest)) (entry :: rest)).map Prod.fst).Nodup := by
          rw [map_fst_advance]
          exact hnodup.filter _
        have hrest := ih hleft hlater
        exact (hrest.append_left _).trans (ready_append_perm hnodup)

end DependencyRounds
end AyyoHumanoid
