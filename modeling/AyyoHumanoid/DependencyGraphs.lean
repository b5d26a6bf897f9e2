import AyyoHumanoid.DependencyRounds
import Mathlib.Data.Fintype.Card
import Mathlib.Data.List.Perm.Subperm
import Mathlib.Data.Set.Finite.List
import Mathlib.Logic.Relation
import Mathlib.Order.WellFounded

/-!
# Orders that follow dependencies

A graph lists nodes with the nodes that they need. An order follows the graph
when every node stands behind all that it needs. A graph whose needed nodes are
all present has such an order exactly when no node needs itself, directly or
through others. The order by rounds exists exactly then, and does not depend on
the order in which the nodes are given.
-/

namespace AyyoHumanoid
namespace DependencyGraphs

open PyCollections DependencyRounds

section Graphs

variable {κ : Type}

/-- The nodes of a graph. -/
def nodes (graph : List (κ × List κ)) : List κ := graph.map Prod.fst

/-- A node of the graph needs another one. -/
def Needs (graph : List (κ × List κ)) (node needed : κ) : Prop :=
  ∃ entry ∈ graph, entry.1 = node ∧ needed ∈ entry.2

/-- All needed nodes are present. -/
def Closed (graph : List (κ × List κ)) : Prop :=
  ∀ node needed, Needs graph node needed → needed ∈ nodes graph

/-- No node needs itself, directly or through others. -/
def Acyclic (graph : List (κ × List κ)) : Prop :=
  ∀ node, ¬Relation.TransGen (Needs graph) node node

/-- Every node stands behind all that it needs. -/
def Follows (graph : List (κ × List κ)) (order : List κ) : Prop :=
  ∀ before node after, order = before ++ node :: after → ∀ needed, Needs graph node needed →
    needed ∈ before

/-- An order of the nodes that follows the graph. -/
structure Ordering (graph : List (κ × List κ)) (order : List κ) : Prop where
  /-- It has each node once. -/
  perm : order.Perm (nodes graph)
  /-- Every node stands behind all that it needs. -/
  follows : Follows graph order

variable {graph others : List (κ × List κ)} {order : List κ} {node needed : κ}

/-- What needs something is a node. -/
theorem Needs.mem (h : Needs graph node needed) : node ∈ nodes graph := by
  obtain ⟨entry, hentry, rfl, -⟩ := h
  exact List.mem_map_of_mem hentry

/-- Fewer needs make no cycle. -/
theorem Acyclic.mono (hacyclic : Acyclic graph)
    (h : ∀ node needed, Needs others node needed → Needs graph node needed) : Acyclic others := by
  intro node hcycle
  exact hacyclic node (Relation.TransGen.mono h _ _ hcycle)

/-- The needs do not depend on the order of the entries. -/
theorem needs_perm (h : graph.Perm others) : Needs graph node needed ↔ Needs others node needed := by
  have hmem : ∀ entry, entry ∈ graph ↔ entry ∈ others := fun entry => h.mem_iff
  simp only [Needs, hmem]

/-- One more node follows when all that it needs is there. -/
theorem Follows.snoc (h : Follows graph order) (hneeds : ∀ needed, Needs graph node needed →
    needed ∈ order) : Follows graph (order ++ [node]) := by
  intro before found after hsplit needed hneeded
  rcases List.eq_nil_or_concat after with rfl | ⟨front, last, rfl⟩
  · obtain ⟨hbefore, hlast⟩ := List.append_inj' hsplit rfl
    rw [List.cons.injEq] at hlast
    rw [← hbefore]
    exact hneeds needed (hlast.1 ▸ hneeded)
  · have hsame : order ++ [node] = (before ++ found :: front) ++ [last] := by
      rw [hsplit, List.append_assoc, List.cons_append, List.concat_eq_append]
    obtain ⟨hfront, -⟩ := List.append_inj' hsame rfl
    exact h before found front hfront needed hneeded

/-- A graph with an order needs present nodes only. -/
theorem Ordering.closed (h : Ordering graph order) : Closed graph := by
  intro node needed hneeded
  obtain ⟨before, after, hsplit⟩ := List.append_of_mem (h.perm.mem_iff.mpr hneeded.mem)
  have hbefore := h.follows before node after hsplit needed hneeded
  rw [← h.perm.mem_iff, hsplit]
  exact List.mem_append_left _ hbefore

section Positions

variable [DecidableEq κ]

/-- What a node needs has an earlier position. -/
theorem Follows.idxOf_lt (h : Follows graph order) (hmem : node ∈ order)
    (hneeded : Needs graph node needed) : order.idxOf needed < order.idxOf node := by
  obtain ⟨before, after, rfl, hfirst⟩ := List.eq_append_cons_of_mem hmem
  have hbefore : needed ∈ before := h before node after rfl needed hneeded
  rw [List.idxOf_append_of_mem hbefore, List.idxOf_append_of_notMem hfirst]
  exact lt_of_lt_of_le (List.idxOf_lt_length_of_mem hbefore) (Nat.le_add_right _ _)

/-- What a node needs through others has an earlier position. -/
theorem Ordering.idxOf_lt (h : Ordering graph order)
    (hneeded : Relation.TransGen (Needs graph) node needed) :
    order.idxOf needed < order.idxOf node := by
  induction hneeded with
  | single hneeds => exact h.follows.idxOf_lt (h.perm.mem_iff.mpr hneeds.mem) hneeds
  | tail _ hneeds ih => exact (h.follows.idxOf_lt (h.perm.mem_iff.mpr hneeds.mem) hneeds).trans ih

/-- A graph with an order has no cycle. -/
theorem Ordering.acyclic (h : Ordering graph order) : Acyclic graph :=
  fun _ hcycle => lt_irrefl _ (h.idxOf_lt hcycle)

end Positions

/-- Among some nodes of a graph without cycle there is one that needs none of them. -/
theorem exists_source (hacyclic : Acyclic graph) {open_ : List κ} (hsome : open_ ≠ []) :
    ∃ node ∈ open_, ∀ needed ∈ open_, ¬Needs graph node needed := by
  let earlier : {node // node ∈ open_} → {node // node ∈ open_} → Prop :=
    fun needed node => Relation.TransGen (Needs graph) node needed
  have htrans : IsTrans {node // node ∈ open_} earlier :=
    ⟨fun _ _ _ hab hbc => hbc.trans hab⟩
  have hirrefl : Std.Irrefl earlier := ⟨fun node hcycle => hacyclic node hcycle⟩
  have hfinite : Finite {node // node ∈ open_} :=
    (List.finite_toSet open_).to_subtype
  have hwell : WellFounded earlier := Finite.wellFounded_of_trans_of_irrefl earlier
  obtain ⟨first, hfirst⟩ := List.exists_mem_of_ne_nil open_ hsome
  obtain ⟨node, -, hleast⟩ := hwell.has_min Set.univ ⟨⟨first, hfirst⟩, trivial⟩
  refine ⟨node, node.2, fun needed hneeded hneeds => ?_⟩
  exact hleast ⟨needed, hneeded⟩ trivial (.single hneeds)

end Graphs

section Rounds

variable {κ : Type} [LinearOrder κ] {graph others : List (κ × List κ)} {order : List κ}

/-- What is still needed after a round. -/
theorem needs_advance {done : List κ} {node needed : κ} :
    Needs (advance done graph) node needed ↔
      Needs graph node needed ∧ node ∉ done ∧ needed ∉ done := by
  simp only [Needs, mem_advance]
  constructor
  · rintro ⟨_, ⟨entry, hentry, hopen, rfl⟩, rfl, hneeded⟩
    rw [List.mem_filter, decide_eq_true_eq] at hneeded
    exact ⟨⟨entry, hentry, rfl, hneeded.1⟩, hopen, hneeded.2⟩
  · rintro ⟨⟨entry, hentry, rfl, hneeded⟩, hopen, hkept⟩
    refine ⟨_, ⟨entry, hentry, hopen, rfl⟩, rfl, ?_⟩
    rw [List.mem_filter, decide_eq_true_eq]
    exact ⟨hneeded, hkept⟩

/-- A ready node needs nothing, when the nodes are distinct. -/
theorem not_needs_of_ready (hnodup : (nodes graph).Nodup) {node needed : κ}
    (h : node ∈ ready graph) : ¬Needs graph node needed := by
  rintro ⟨entry, hentry, hnode, hneeded⟩
  rw [mem_ready] at h
  have hsame : entry = (node, []) := List.inj_on_of_nodup_map hnodup hentry h hnode
  rw [hsame] at hneeded
  cases hneeded

/-- A round leaves distinct nodes. -/
theorem nodup_advance (done : List κ) (hnodup : (nodes graph).Nodup) :
    (nodes (advance done graph)).Nodup := by
  rw [nodes, map_fst_advance]
  exact hnodup.filter _

/-- An order that follows what a round leaves follows the graph behind the round. -/
theorem follows_ready_append (hnodup : (nodes graph).Nodup)
    (h : Ordering (advance (ready graph) graph) order) : Follows graph (ready graph ++ order) := by
  intro before node after hsplit needed hneeded
  have hlater : node ∉ ready graph := fun hready => not_needs_of_ready hnodup hready hneeded
  have hfront : ∀ front, before = ready graph ++ front → order = front ++ node :: after →
      needed ∈ before := by
    intro front hbefore horder
    rw [hbefore]
    by_cases hdone : needed ∈ ready graph
    · exact List.mem_append_left _ hdone
    · have hneeds : Needs (advance (ready graph) graph) node needed :=
        needs_advance.mpr ⟨hneeded, hlater, hdone⟩
      exact List.mem_append_right _ (h.follows front node after horder needed hneeds)
  rcases List.append_eq_append_iff.mp hsplit with ⟨front, hbefore, horder⟩ | ⟨front, hready, horder⟩
  · exact hfront front hbefore horder
  · cases front with
    | nil =>
      rw [List.append_nil] at hready
      exact hfront [] (by rw [List.append_nil, hready]) horder.symm
    | cons first rest =>
      rw [List.cons_append, List.cons.injEq] at horder
      rw [hready, horder.1] at hlater
      exact absurd (List.mem_append_right _ List.mem_cons_self) hlater

/-- An order by rounds is an order of the graph. -/
theorem ordering_of_rounds {fuel : Nat} (hnodup : (nodes graph).Nodup)
    (h : rounds fuel graph = some order) : Ordering graph order := by
  refine ⟨rounds_perm hnodup h, ?_⟩
  induction fuel generalizing graph order with
  | zero =>
    cases graph with
    | nil =>
      intro before node after _ needed hneeded
      obtain ⟨entry, hentry, -⟩ := hneeded
      cases hentry
    | cons entry rest => rw [rounds] at h; cases h
  | succ fuel ih =>
    cases graph with
    | nil =>
      intro before node after _ needed hneeded
      obtain ⟨entry, hentry, -⟩ := hneeded
      cases hentry
    | cons entry rest =>
      rw [rounds] at h
      split at h
      · cases h
      · obtain ⟨later, hlater, rfl⟩ := Option.map_eq_some_iff.mp h
        have hleft := nodup_advance (ready (entry :: rest)) hnodup
        exact follows_ready_append hnodup ⟨rounds_perm hleft hlater, ih hleft hlater⟩

/-- A closed graph without cycle has a ready node. -/
theorem ready_ne_nil (hclosed : Closed graph) (hacyclic : Acyclic graph) (hsome : graph ≠ []) :
    ready graph ≠ [] := by
  have hnodes : nodes graph ≠ [] := by simpa [nodes] using hsome
  obtain ⟨node, hnode, hsource⟩ := exists_source hacyclic hnodes
  obtain ⟨entry, hentry, hname⟩ := List.mem_map.mp hnode
  have hnone : entry.2 = [] := by
    rw [List.eq_nil_iff_forall_not_mem]
    intro needed hneeded
    have hneeds : Needs graph node needed := ⟨entry, hentry, hname, hneeded⟩
    exact hsource needed (hclosed node needed hneeds) hneeds
  have hready : node ∈ ready graph := by
    rw [mem_ready, ← hname, ← hnone]
    exact hentry
  exact List.ne_nil_of_mem hready

/-- A round leaves fewer nodes. -/
theorem length_advance_lt (hnodup : (nodes graph).Nodup) (hready : ready graph ≠ []) :
    (advance (ready graph) graph).length < graph.length := by
  have hlength := (ready_append_perm hnodup).length_eq
  have hpositive := List.length_pos_of_ne_nil hready
  simp only [List.length_append, List.length_map] at hlength
  omega

/-- With a round for each node there is an order of a closed graph without cycle. -/
theorem exists_rounds {fuel : Nat} (hnodup : (nodes graph).Nodup) (hclosed : Closed graph)
    (hacyclic : Acyclic graph) (hfuel : graph.length ≤ fuel) :
    ∃ order, rounds fuel graph = some order := by
  induction fuel generalizing graph with
  | zero =>
    rw [Nat.le_zero, List.length_eq_zero_iff] at hfuel
    rw [hfuel]
    exact ⟨[], by rw [rounds]⟩
  | succ fuel ih =>
    cases graph with
    | nil => exact ⟨[], by rw [rounds]⟩
    | cons entry rest =>
      have hready := ready_ne_nil hclosed hacyclic (List.cons_ne_nil entry rest)
      have hless := length_advance_lt hnodup hready
      have hleft : Closed (advance (ready (entry :: rest)) (entry :: rest)) := by
        intro node needed hneeded
        rw [needs_advance] at hneeded
        rw [nodes, map_fst_advance, List.mem_filter, decide_eq_true_eq]
        exact ⟨hclosed node needed hneeded.1, hneeded.2.2⟩
      obtain ⟨order, horder⟩ := ih (nodup_advance _ hnodup) hleft
        (hacyclic.mono fun node needed h => (needs_advance.mp h).1) (by omega)
      exact ⟨ready (entry :: rest) ++ order, by rw [rounds, if_neg hready, horder]; rfl⟩

/-- More rounds than nodes change nothing. -/
theorem rounds_add {fuel extra : Nat} (hnodup : (nodes graph).Nodup)
    (hfuel : graph.length ≤ fuel) : rounds (fuel + extra) graph = rounds fuel graph := by
  induction fuel generalizing graph with
  | zero =>
    rw [Nat.le_zero, List.length_eq_zero_iff] at hfuel
    rw [hfuel, rounds, rounds]
  | succ fuel ih =>
    cases graph with
    | nil => rw [rounds, rounds]
    | cons entry rest =>
      have hadd : fuel + 1 + extra = fuel + extra + 1 := by omega
      rw [hadd, rounds, rounds]
      by_cases hready : ready (entry :: rest) = []
      · rw [if_pos hready, if_pos hready]
      · have hless := length_advance_lt hnodup hready
        rw [if_neg hready, if_neg hready, ih (nodup_advance _ hnodup) (by omega)]

/-- The order by rounds does not depend on the order of the entries. -/
theorem rounds_congr {fuel : Nat} (hnodup : (nodes graph).Nodup) (h : graph.Perm others) :
    rounds fuel graph = rounds fuel others := by
  induction fuel generalizing graph others with
  | zero =>
    cases graph with
    | nil => rw [h.nil_eq]
    | cons entry rest =>
      cases others with
      | nil => exact absurd h.eq_nil (List.cons_ne_nil entry rest)
      | cons other left => rw [rounds, rounds]
  | succ fuel ih =>
    cases graph with
    | nil => rw [h.nil_eq]
    | cons entry rest =>
      cases others with
      | nil => exact absurd h.eq_nil (List.cons_ne_nil entry rest)
      | cons other left =>
        have hready : ready (entry :: rest) = ready (other :: left) := by
          refine sortBy_eq_of_perm ((h.filter _).map _) ?_
          rw [List.map_id]
          exact hnodup.sublist (List.filter_sublist.map Prod.fst)
        have hadvance : (advance (ready (other :: left)) (entry :: rest)).Perm
            (advance (ready (other :: left)) (other :: left)) := (h.filter _).map _
        rw [rounds, rounds, hready, ih (nodup_advance _ hnodup) hadvance]

end Rounds

end DependencyGraphs
end AyyoHumanoid
