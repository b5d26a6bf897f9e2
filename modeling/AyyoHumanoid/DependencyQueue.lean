import AyyoHumanoid.DependencyGraphs
import Mathlib.Logic.Function.Basic

/-!
# Dependency order by a queue

A node is queued when its last open dependency is closed. The queue is kept in
increasing order; the first node is taken, and the count of open dependencies
drops for every node that needs it, once for each time it is listed. All nodes
are taken exactly when a closed graph has no cycle, the result follows the graph,
and it does not depend on the order in which the nodes are given.
-/

namespace AyyoHumanoid
namespace DependencyQueue

open PyCollections DependencyGraphs

variable {κ : Type} [LinearOrder κ]

section Queue

/-- The state of the loop. -/
structure Work (κ : Type) where
  /-- The queued nodes. -/
  ready : List κ
  /-- The number of open dependencies of a node. -/
  indegree : κ → Int
  /-- The nodes taken so far. -/
  ordered : List κ

/-- The nodes that need a node, once for each time they list it. -/
def dependents (graph : List (κ × List κ)) (node : κ) : List κ :=
  graph.flatMap fun entry => (entry.2.filter (· = node)).map fun _ => entry.1

/-- The number of dependencies that a node lists. -/
def degree (graph : List (κ × List κ)) (node : κ) : Int :=
  ((graph.find? fun entry => entry.1 = node).map fun entry => (entry.2.length : Int)).getD 0

/-- The state before the loop. -/
def start (graph : List (κ × List κ)) : Work κ where
  ready := sortBy id ((graph.filter fun entry => entry.2.length = 0).map Prod.fst)
  indegree := degree graph
  ordered := []

/-- Lower the count of each listed node and queue it when none is left. -/
def release : List κ → (κ → Int) → List κ → (κ → Int) × List κ
  | [], indegree, ready => (indegree, ready)
  | node :: nodes, indegree, ready =>
    let lowered := Function.update indegree node (indegree node - 1)
    release nodes lowered (if lowered node = 0 then sortBy id (ready ++ [node]) else ready)

/-- The state after the first queued node is taken. -/
def take (graph : List (κ × List κ)) (work : Work κ) (current : κ) (rest : List κ) : Work κ :=
  let released := release (sortBy id (dependents graph current)) work.indegree rest
  { ready := released.2
    indegree := released.1
    ordered := work.ordered ++ [current] }

/-- The loop, with a bound on the number of nodes that are taken. -/
def run (graph : List (κ × List κ)) : Nat → Work κ → Option (List κ)
  | fuel, work =>
    match work.ready with
    | [] => some work.ordered
    | current :: rest =>
      match fuel with
      | 0 => none
      | fuel + 1 => run graph fuel (take graph work current rest)

end Queue

section Release

variable {nodes ready : List κ} {indegree : κ → Int}

/-- The counts after a release. -/
theorem release_indegree (nodes : List κ) (indegree : κ → Int) (ready : List κ) (node : κ) :
    (release nodes indegree ready).1 node = indegree node - nodes.count node := by
  induction nodes generalizing indegree ready with
  | nil => simp [release]
  | cons first rest ih =>
    rw [release, ih]
    by_cases hsame : node = first
    · subst hsame
      rw [Function.update_self, List.count_cons_self]
      push_cast
      omega
    · have hcount : (first :: rest).count node = rest.count node :=
        List.count_cons_of_ne (Ne.symm hsame)
      rw [Function.update_of_ne hsame, hcount]

/-- The counts stay large enough when one is lowered. -/
theorem count_le_lowered {first : κ} {rest : List κ}
    (hcount : ∀ node ∈ first :: rest, ((first :: rest).count node : Int) ≤ indegree node) :
    ∀ node ∈ rest, (rest.count node : Int) ≤
      Function.update indegree first (indegree first - 1) node := by
  intro node hmem
  have hbound := hcount node (List.mem_cons_of_mem _ hmem)
  by_cases hsame : node = first
  · subst hsame
    rw [List.count_cons_self] at hbound
    push_cast at hbound
    rw [Function.update_self]
    omega
  · rw [List.count_cons_of_ne (Ne.symm hsame)] at hbound
    rwa [Function.update_of_ne hsame]

/-- What the queue holds after a release. -/
theorem mem_release (hcount : ∀ node ∈ nodes, (nodes.count node : Int) ≤ indegree node)
    {node : κ} : node ∈ (release nodes indegree ready).2 ↔
      node ∈ ready ∨ (0 < nodes.count node ∧ indegree node = nodes.count node) := by
  induction nodes generalizing indegree ready with
  | nil => simp [release]
  | cons first rest ih =>
    have hfirst := hcount first List.mem_cons_self
    rw [List.count_cons_self] at hfirst
    push_cast at hfirst
    rw [release, ih (count_le_lowered hcount)]
    by_cases hsame : node = first
    · subst hsame
      rw [Function.update_self, List.count_cons_self]
      push_cast
      by_cases hzero : indegree node - 1 = 0
      · rw [if_pos hzero, mem_sortBy, List.mem_append, List.mem_singleton]
        have hnone : rest.count node = 0 := by omega
        rw [hnone]
        simp only [or_true, true_or, true_iff]
        exact Or.inr ⟨by omega, by omega⟩
      · rw [if_neg hzero]
        refine or_congr Iff.rfl ⟨fun h => ⟨by omega, by omega⟩, fun h => ⟨by omega, by omega⟩⟩
    · rw [Function.update_of_ne hsame, List.count_cons_of_ne (Ne.symm hsame)]
      split
      · rw [mem_sortBy, List.mem_append, List.mem_singleton, or_iff_left hsame]
      · rfl

/-- The queue has no node twice after a release. -/
theorem nodup_release (hcount : ∀ node ∈ nodes, (nodes.count node : Int) ≤ indegree node)
    (hfresh : ∀ node ∈ nodes, node ∉ ready) (hnodup : ready.Nodup) :
    (release nodes indegree ready).2.Nodup := by
  induction nodes generalizing indegree ready with
  | nil => exact hnodup
  | cons first rest ih =>
    have hfirst : first ∉ ready := hfresh first List.mem_cons_self
    rw [release]
    refine ih (count_le_lowered hcount) ?_ ?_
    · intro node hmem
      have hother : node ∉ ready := hfresh node (List.mem_cons_of_mem _ hmem)
      split
      · next hzero =>
        have hbound := count_le_lowered hcount node hmem
        have hpositive := List.count_pos_iff.mpr hmem
        have hne : node ≠ first := by
          rintro rfl
          omega
        rw [mem_sortBy, List.mem_append, List.mem_singleton, or_iff_left hne]
        exact hother
      · exact hother
    · split
      · rw [(sortBy_perm id _).nodup_iff]
        rw [← List.concat_eq_append]
        exact hnodup.concat hfirst
      · exact hnodup

end Release

section Counts

variable {graph : List (κ × List κ)} {node : κ}

/-- The dependents of a node are those that need it. -/
theorem mem_dependents {other : κ} : other ∈ dependents graph node ↔ Needs graph other node := by
  simp only [dependents, Needs, List.mem_flatMap, List.mem_map, List.mem_filter, decide_eq_true_eq]
  constructor
  · rintro ⟨entry, hentry, needed, ⟨hneeded, rfl⟩, rfl⟩
    exact ⟨entry, hentry, rfl, hneeded⟩
  · rintro ⟨entry, hentry, rfl, hneeded⟩
    exact ⟨entry, hentry, node, ⟨hneeded, rfl⟩, rfl⟩

/-- A dependent is listed once for each time that it lists the node. -/
theorem count_dependents (hnodup : (nodes graph).Nodup) {entry : κ × List κ}
    (hentry : entry ∈ graph) : (dependents graph node).count entry.1 = entry.2.count node := by
  induction graph with
  | nil => cases hentry
  | cons first rest ih =>
    rw [nodes, List.map_cons, List.nodup_cons] at hnodup
    have hown : ∀ other : κ, ((first.2.filter (· = node)).map fun _ => first.1).count other =
        if other = first.1 then first.2.count node else 0 := by
      intro other
      rw [List.map_const', List.count_replicate, ← List.countP_eq_length_filter, List.count]
      by_cases hsame : other = first.1
      · simp [hsame, beq_eq_decide]
      · simp [hsame, Ne.symm hsame]
    rw [dependents, List.flatMap_cons, List.count_append, hown]
    rcases List.mem_cons.mp hentry with rfl | hrest
    · have hnone : (dependents rest node).count entry.1 = 0 := by
        rw [List.count_eq_zero, mem_dependents]
        exact fun hneeds => hnodup.1 hneeds.mem
      rw [if_pos rfl]
      rw [dependents] at hnone
      omega
    · have hne : entry.1 ≠ first.1 := by
        intro hsame
        exact hnodup.1 (hsame ▸ List.mem_map_of_mem hrest)
      have hlater := ih hnodup.2 hrest
      rw [dependents] at hlater
      rw [if_neg hne, hlater, Nat.zero_add]

/-- Taking a node closes the dependencies on it. -/
theorem length_open_snoc {listed ordered : List κ} (hfresh : node ∉ ordered) :
    (listed.filter (· ∉ ordered)).length =
      (listed.filter (· ∉ ordered ++ [node])).length + listed.count node := by
  induction listed with
  | nil => rfl
  | cons first rest ih =>
    by_cases hsame : first = node
    · subst hsame
      rw [List.filter_cons_of_pos (by simpa using hfresh), List.count_cons_self,
        List.filter_cons_of_neg (by simp), List.length_cons, ih]
      omega
    · rw [List.count_cons_of_ne hsame]
      by_cases hmem : first ∈ ordered
      · rw [List.filter_cons_of_neg (by simpa using hmem),
          List.filter_cons_of_neg (by simp [hmem]), ih]
      · rw [List.filter_cons_of_pos (by simpa using hmem),
          List.filter_cons_of_pos (by simp [hmem, hsame]), List.length_cons, List.length_cons, ih]
        omega

end Counts

section Invariant

variable {graph others : List (κ × List κ)} {work : Work κ} {current : κ} {rest : List κ}

/-- What the loop keeps. -/
structure Kahn (graph : List (κ × List κ)) (work : Work κ) : Prop where
  /-- No node is taken or queued twice. -/
  nodup : (work.ordered ++ work.ready).Nodup
  /-- Nodes of the graph are taken and queued. -/
  within : ∀ node ∈ work.ordered ++ work.ready, node ∈ nodes graph
  /-- The counts are those of the dependencies that are not taken. -/
  counts : ∀ entry ∈ graph, work.indegree entry.1 = (entry.2.filter (· ∉ work.ordered)).length
  /-- A node is taken or queued when it has no open dependency. -/
  queued : ∀ entry ∈ graph,
    entry.1 ∈ work.ordered ++ work.ready ↔ work.indegree entry.1 = 0
  /-- What is taken follows the graph. -/
  follows : Follows graph work.ordered

/-- The count of a node before the loop. -/
theorem degree_of_mem (hnodup : (nodes graph).Nodup) {entry : κ × List κ}
    (hentry : entry ∈ graph) : degree graph entry.1 = entry.2.length := by
  rw [degree, find_of_nodup hnodup hentry]
  rfl

/-- The loop starts well. -/
theorem kahn_start (hnodup : (nodes graph).Nodup) : Kahn graph (start graph) where
  nodup := by
    rw [start, List.nil_append, (sortBy_perm id _).nodup_iff]
    exact hnodup.sublist (List.filter_sublist.map Prod.fst)
  within := by
    intro node hnode
    rw [start, List.nil_append, mem_sortBy] at hnode
    exact (List.filter_sublist.map Prod.fst).subset hnode
  counts := by
    intro entry hentry
    simp [start, degree_of_mem hnodup hentry]
  queued := by
    intro entry hentry
    simp only [start, List.nil_append, mem_sortBy, List.mem_map, List.mem_filter,
      decide_eq_true_eq, degree_of_mem hnodup hentry]
    constructor
    · rintro ⟨found, ⟨hfound, hnone⟩, hsame⟩
      rw [List.inj_on_of_nodup_map hnodup hfound hentry hsame] at hnone
      omega
    · exact fun hnone => ⟨entry, ⟨hentry, by omega⟩, rfl⟩
  follows := by
    intro before node after hsplit
    cases before <;> cases hsplit

/-- A queued node has no open dependency. -/
theorem Kahn.closed_of_queued (h : Kahn graph work) {node needed : κ}
    (hqueued : node ∈ work.ordered ++ work.ready) (hneeds : Needs graph node needed) :
    needed ∈ work.ordered := by
  obtain ⟨entry, hentry, rfl, hneeded⟩ := hneeds
  have hnone := h.counts entry hentry
  rw [(h.queued entry hentry).mp hqueued] at hnone
  by_contra hopen
  have hmem : needed ∈ entry.2.filter (· ∉ work.ordered) := by simpa using ⟨hneeded, hopen⟩
  have hpositive := List.length_pos_of_mem hmem
  omega

/-- The loop goes on well. -/
theorem Kahn.proceed (hnodup : (nodes graph).Nodup) (h : Kahn graph work)
    (hready : work.ready = current :: rest) : Kahn graph (take graph work current rest) := by
  have hdistinct := h.nodup
  rw [hready, List.nodup_append, List.nodup_cons] at hdistinct
  obtain ⟨hordered, ⟨hcurrent, hrest⟩, hapart⟩ := hdistinct
  have hfresh : current ∉ work.ordered := fun hmem => hapart current hmem current List.mem_cons_self rfl
  have hcount : ∀ entry ∈ graph,
      (sortBy id (dependents graph current)).count entry.1 = entry.2.count current := by
    intro entry hentry
    rw [(sortBy_perm id _).count_eq, count_dependents hnodup hentry]
  have hlowered : ∀ entry ∈ graph, work.indegree entry.1 - entry.2.count current =
      (entry.2.filter (· ∉ work.ordered ++ [current])).length := by
    intro entry hentry
    rw [h.counts entry hentry, length_open_snoc hfresh]
    push_cast
    omega
  have hbound : ∀ node ∈ sortBy id (dependents graph current),
      ((sortBy id (dependents graph current)).count node : Int) ≤ work.indegree node := by
    intro node hmem
    rw [mem_sortBy, mem_dependents] at hmem
    obtain ⟨entry, hentry, rfl, -⟩ := hmem
    rw [hcount entry hentry]
    have hleft := hlowered entry hentry
    omega
  have hopen : ∀ node ∈ sortBy id (dependents graph current),
      node ∉ work.ordered ++ work.ready := by
    intro node hmem hqueued
    rw [mem_sortBy, mem_dependents] at hmem
    exact hfresh (h.closed_of_queued hqueued hmem)
  have hreleased : ∀ node, node ∈ (take graph work current rest).ready ↔ node ∈ rest ∨
      (0 < (sortBy id (dependents graph current)).count node ∧
        work.indegree node = (sortBy id (dependents graph current)).count node) :=
    fun node => mem_release hbound
  have hindegree : ∀ entry ∈ graph, (take graph work current rest).indegree entry.1 =
      work.indegree entry.1 - entry.2.count current := by
    intro entry hentry
    rw [← hcount entry hentry]
    exact release_indegree _ _ _ _
  have hold : ∀ node, node ∈ work.ordered ++ work.ready ↔
      node ∈ work.ordered ++ [current] ∨ node ∈ rest := by
    intro node
    rw [hready, List.mem_append, List.mem_append, List.mem_cons, List.mem_singleton, or_assoc]
  have hdependent : ∀ node, 0 < (sortBy id (dependents graph current)).count node →
      node ∉ work.ordered ++ work.ready :=
    fun node hpositive => hopen node (List.count_pos_iff.mp hpositive)
  exact {
    nodup := by
      refine List.nodup_append.mpr ⟨?_, ?_, ?_⟩
      · exact List.nodup_append.mpr ⟨hordered, List.nodup_singleton _, by
          intro node hnode other hother
          rw [List.mem_singleton] at hother
          rintro rfl
          exact hfresh (hother ▸ hnode)⟩
      · refine nodup_release hbound (fun node hmem hrested => ?_) hrest
        exact hopen node hmem ((hold node).mpr (Or.inr hrested))
      · intro node hnode other hother
        rintro rfl
        rcases (hreleased node).mp hother with hrested | ⟨hpositive, -⟩
        · rcases List.mem_append.mp hnode with hnode | hnode
          · exact hapart node hnode node (List.mem_cons_of_mem _ hrested) rfl
          · rw [List.mem_singleton] at hnode
            exact hcurrent (hnode ▸ hrested)
        · exact hdependent node hpositive ((hold node).mpr (Or.inl hnode))
    within := by
      intro node hnode
      rcases List.mem_append.mp hnode with hnode | hnode
      · exact h.within node ((hold node).mpr (Or.inl hnode))
      · rcases (hreleased node).mp hnode with hrested | ⟨hpositive, -⟩
        · exact h.within node ((hold node).mpr (Or.inr hrested))
        · have hmem := List.count_pos_iff.mp hpositive
          rw [mem_sortBy, mem_dependents] at hmem
          exact hmem.mem
    counts := by
      intro entry hentry
      rw [hindegree entry hentry, hlowered entry hentry]
      rfl
    queued := by
      intro entry hentry
      have hleft := hlowered entry hentry
      have hbefore := h.queued entry hentry
      rw [hindegree entry hentry, List.mem_append, hreleased, hcount entry hentry, ← or_assoc]
      have hsame : entry.1 ∈ (take graph work current rest).ordered ∨ entry.1 ∈ rest ↔
          entry.1 ∈ work.ordered ++ work.ready := (hold entry.1).symm
      rw [hsame, hbefore]
      omega
    follows := h.follows.snoc fun needed hneeds =>
      h.closed_of_queued ((hold current).mpr (Or.inl (by simp))) hneeds }

/-- With a turn for each node that is not taken the loop ends with nothing queued. -/
theorem Kahn.finish {fuel : Nat} (hnodup : (nodes graph).Nodup) (h : Kahn graph work)
    (hfuel : graph.length ≤ work.ordered.length + fuel) :
    ∃ last : Work κ, run graph fuel work = some last.ordered ∧ Kahn graph last ∧
      last.ready = [] := by
  induction fuel generalizing work with
  | zero =>
    have hlength : (work.ordered ++ work.ready).length ≤ (nodes graph).length :=
      (h.nodup.subperm h.within).length_le
    have hnone : work.ready = [] := by
      rw [List.length_append, nodes, List.length_map] at hlength
      exact List.length_eq_zero_iff.mp (by omega)
    exact ⟨work, by rw [run, hnone], h, hnone⟩
  | succ fuel ih =>
    cases hready : work.ready with
    | nil => exact ⟨work, by rw [run, hready], h, hready⟩
    | cons current rest =>
      have htaken : (take graph work current rest).ordered.length =
          work.ordered.length + 1 := by
        rw [take, List.length_append, List.length_singleton]
      obtain ⟨last, hlast, hkahn, hnone⟩ := ih (h.proceed hnodup hready) (by omega)
      exact ⟨last, by rw [run, hready]; exact hlast, hkahn, hnone⟩

/-- At the end every node is taken exactly when the closed graph has no cycle. -/
theorem Kahn.complete_iff (hnodup : (nodes graph).Nodup) (hclosed : Closed graph)
    (h : Kahn graph work) (hnone : work.ready = []) :
    work.ordered.length = (nodes graph).length ↔ Acyclic graph := by
  have hordered : work.ordered.Nodup ∧ ∀ node ∈ work.ordered, node ∈ nodes graph := by
    have hdistinct := h.nodup
    have hwithin := h.within
    rw [hnone, List.append_nil] at hdistinct hwithin
    exact ⟨hdistinct, hwithin⟩
  have hsubperm : work.ordered.Subperm (nodes graph) := hordered.1.subperm hordered.2
  constructor
  · intro hlength
    exact Ordering.acyclic ⟨hsubperm.perm_of_length_le hlength.ge, h.follows⟩
  · intro hacyclic
    by_contra hlength
    have hleft : (nodes graph).filter (· ∉ work.ordered) ≠ [] := by
      intro hall
      rw [List.filter_eq_nil_iff] at hall
      have hback : (nodes graph).Subperm work.ordered :=
        hnodup.subperm fun node hnode => by simpa using hall node hnode
      exact hlength (le_antisymm hsubperm.length_le hback.length_le)
    obtain ⟨node, hnode, hsource⟩ := exists_source hacyclic hleft
    rw [List.mem_filter, decide_eq_true_eq] at hnode
    obtain ⟨entry, hentry, rfl⟩ := List.mem_map.mp hnode.1
    have hqueued := h.queued entry hentry
    rw [hnone, List.append_nil] at hqueued
    have hcount := h.counts entry hentry
    have hpositive : (entry.2.filter (· ∉ work.ordered)) ≠ [] := by
      intro hempty
      rw [hempty] at hcount
      exact hnode.2 (hqueued.mpr hcount)
    obtain ⟨needed, hneeded⟩ := List.exists_mem_of_ne_nil _ hpositive
    rw [List.mem_filter, decide_eq_true_eq] at hneeded
    have hneeds : Needs graph entry.1 needed := ⟨entry, hentry, rfl, hneeded.1⟩
    refine hsource needed ?_ hneeds
    rw [List.mem_filter, decide_eq_true_eq]
    exact ⟨hclosed _ needed hneeds, hneeded.2⟩

end Invariant

section Orders

variable {graph others : List (κ × List κ)}

/-- Sorting nodes does not depend on their order. -/
theorem sortBy_id_congr {left right : List κ} (h : left.Perm right) :
    sortBy id left = sortBy id right := by
  have hperm : (sortBy id left).Perm (sortBy id right) :=
    (sortBy_perm id left).trans (h.trans (sortBy_perm id right).symm)
  exact hperm.eq_of_pairwise (fun a b _ _ hab hba => le_antisymm hab hba)
    (pairwise_sortBy id left) (pairwise_sortBy id right)

/-- The count of a node does not depend on the order of the entries. -/
theorem degree_congr (hnodup : (nodes graph).Nodup) (h : graph.Perm others) :
    degree graph = degree others := by
  have hothers : (nodes others).Nodup := (h.map Prod.fst).nodup_iff.mp hnodup
  funext node
  by_cases hnode : node ∈ nodes graph
  · obtain ⟨entry, hentry, rfl⟩ := List.mem_map.mp hnode
    rw [degree_of_mem hnodup hentry, degree_of_mem hothers (h.mem_iff.mp hentry)]
  · have hnone : ∀ list : List (κ × List κ), node ∉ nodes list → degree list node = 0 := by
      intro list hmissing
      have hfind : (list.find? fun entry => entry.1 = node) = none := by
        rw [List.find?_eq_none]
        intro entry hentry hsame
        rw [decide_eq_true_eq] at hsame
        exact hmissing (hsame ▸ List.mem_map_of_mem hentry)
      rw [degree, hfind]
      rfl
    have hmissing : node ∉ nodes others := by
      rw [nodes, ← (h.map Prod.fst).mem_iff]
      exact hnode
    rw [hnone graph hnode, hnone others hmissing]

/-- The loop does not depend on the order of the entries. -/
theorem run_congr {fuel : Nat} {work : Work κ} (h : graph.Perm others) :
    run graph fuel work = run others fuel work := by
  have htake : ∀ (work : Work κ) current rest,
      take graph work current rest = take others work current rest := by
    intro work current rest
    have hsorted : sortBy id (dependents graph current) = sortBy id (dependents others current) :=
      sortBy_id_congr (h.flatMap_right _)
    rw [take, take, hsorted]
  induction fuel generalizing work with
  | zero => cases hready : work.ready <;> rw [run, run, hready]
  | succ fuel ih =>
    cases hready : work.ready with
    | nil => rw [run, run, hready]
    | cons current rest =>
      rw [run, run, hready]
      dsimp only
      rw [htake, ih]

/-- The start does not depend on the order of the entries. -/
theorem start_congr (hnodup : (nodes graph).Nodup) (h : graph.Perm others) :
    start graph = start others := by
  rw [start, start, degree_congr hnodup h, sortBy_id_congr ((h.filter _).map _)]

end Orders

end DependencyQueue
end AyyoHumanoid
