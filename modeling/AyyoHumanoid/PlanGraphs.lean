import AyyoHumanoid.DependencyQueue
import AyyoHumanoid.SafetyFacts

/-!
# Dependency graphs of a plan

The Executive puts the steps of a plan in order with a queue, the Safety Kernel
by rounds. Both accept a graph exactly when every dependency is present and
there is no cycle, and each returns an order of the steps that follows their
dependencies and does not depend on the order in which the steps are given. That
no step lists a dependency twice is checked where a step is built.
-/

namespace AyyoHumanoid
namespace Executive

open PyText PyCollections DependencyGraphs

section Graphs

variable {ε : Type} (error : PyStr → ε)

/-- The checks of `_validate_dependency_graph` on one step and its dependencies. -/
def checkDependencies (stepIds : List PyStr) (step : PyStr × List PyStr) : Except ε Unit := do
  let missing := sortedSet (step.2.filter (· ∉ stepIds))
  require (missing = [])
    (error (py "step " ++ step.1 ++ py " references missing dependencies: " ++
      Safety.identifierListText missing))
  require (step.1 ∉ step.2)
    (error (py "step " ++ step.1 ++ py " cannot depend on itself"))

/-- `_validate_dependency_graph` of the steps and their dependencies. -/
def validateDependencyGraph (stepDependencies : List (PyStr × List PyStr)) :
    Except ε (List PyStr) := do
  stepDependencies.forM (checkDependencies error (nodes stepDependencies))
  match DependencyQueue.run stepDependencies stepDependencies.length
      (DependencyQueue.start stepDependencies) with
  | none => .error (error (py "step dependencies contain a cycle"))
  | some ordered => do
    require (ordered.length = (nodes stepDependencies).length)
      (error (py "step dependencies contain a cycle"))
    pure ordered

end Graphs

section Facts

variable {ε : Type} {error : PyStr → ε} {graph others : List (PyStr × List PyStr)}
  {order : List PyStr}

/-- No missing dependency is listed when all are present. -/
theorem sortedSet_filter_eq_nil {values present : List PyStr} :
    sortedSet (values.filter (· ∉ present)) = [] ↔ ∀ value ∈ values, value ∈ present := by
  rw [List.eq_nil_iff_forall_not_mem]
  simp only [mem_sortedSet, List.mem_filter, decide_eq_true_eq, not_and, not_not]

/-- The checks pass when all dependencies are present and no step depends on itself. -/
theorem checkDependencies_ok : graph.forM (checkDependencies error (nodes graph)) = .ok () ↔
    Closed graph ∧ ∀ node, ¬Needs graph node node := by
  simp only [Checks.forM_ok, checkDependencies, Checks.require_bind_ok, Checks.require_ok,
    sortedSet_filter_eq_nil]
  constructor
  · intro h
    refine ⟨?_, ?_⟩
    · rintro node needed ⟨entry, hentry, -, hneeded⟩
      exact (h entry hentry).1 needed hneeded
    · rintro node ⟨entry, hentry, rfl, hneeded⟩
      exact (h entry hentry).2 hneeded
  · intro h entry hentry
    exact ⟨fun needed hneeded => h.1 entry.1 needed ⟨entry, hentry, rfl, hneeded⟩,
      fun hself => h.2 entry.1 ⟨entry, hentry, rfl, hself⟩⟩

/-- The loop ends within a turn for each step. -/
theorem run_ends (hnodup : (nodes graph).Nodup) : ∃ last : DependencyQueue.Work PyStr,
    DependencyQueue.run graph graph.length (DependencyQueue.start graph) = some last.ordered ∧
      DependencyQueue.Kahn graph last ∧ last.ready = [] :=
  (DependencyQueue.kahn_start hnodup).finish hnodup (Nat.le_add_left _ _)

/-- The Executive accepts the graphs with all dependencies and without cycle. -/
theorem validateDependencyGraph_ok (hnodup : (nodes graph).Nodup) :
    validateDependencyGraph error graph = .ok order ↔ (Closed graph ∧ Acyclic graph) ∧
      DependencyQueue.run graph graph.length (DependencyQueue.start graph) = some order := by
  obtain ⟨last, hlast, hkahn, hnone⟩ := run_ends hnodup
  rw [validateDependencyGraph, Checks.unit_bind_ok, checkDependencies_ok, hlast]
  dsimp only
  rw [Checks.require_bind_ok, Checks.pure_ok, Option.some.injEq]
  constructor
  · rintro ⟨⟨hclosed, -⟩, hlength, hsame⟩
    exact ⟨⟨hclosed, (hkahn.complete_iff hnodup hclosed hnone).mp hlength⟩, hsame⟩
  · rintro ⟨⟨hclosed, hacyclic⟩, hsame⟩
    have hself : ∀ node, ¬Needs graph node node := fun node h => hacyclic node (.single h)
    exact ⟨⟨hclosed, hself⟩, (hkahn.complete_iff hnodup hclosed hnone).mpr hacyclic, hsame⟩

/-- The Executive returns an order of the graph. -/
theorem ordering_of_validate (hnodup : (nodes graph).Nodup)
    (h : validateDependencyGraph error graph = .ok order) : Ordering graph order := by
  obtain ⟨⟨hclosed, hacyclic⟩, hrun⟩ := (validateDependencyGraph_ok hnodup).mp h
  obtain ⟨last, hlast, hkahn, hnone⟩ := run_ends hnodup
  rw [hlast, Option.some.injEq] at hrun
  subst hrun
  have hlength := (hkahn.complete_iff hnodup hclosed hnone).mpr hacyclic
  have hdistinct := hkahn.nodup
  have hwithin := hkahn.within
  rw [hnone, List.append_nil] at hdistinct hwithin
  exact ⟨(hdistinct.subperm hwithin).perm_of_length_le hlength.ge, hkahn.follows⟩

/-- The order of the Executive does not depend on the order of the steps. -/
theorem validate_congr (hnodup : (nodes graph).Nodup) (h : graph.Perm others) :
    validateDependencyGraph error graph = .ok order ↔
      validateDependencyGraph error others = .ok order := by
  have hothers : (nodes others).Nodup := (h.map Prod.fst).nodup_iff.mp hnodup
  have hclosed : Closed graph ↔ Closed others := by
    have hnodes : ∀ node, node ∈ nodes graph ↔ node ∈ nodes others :=
      fun node => (h.map Prod.fst).mem_iff
    simp only [Closed, needs_perm h, hnodes]
  have hacyclic : Acyclic graph ↔ Acyclic others := by
    have hneeds : Needs graph = Needs others := by
      funext node needed
      exact propext (needs_perm h)
    rw [Acyclic, Acyclic, hneeds]
  rw [validateDependencyGraph_ok hnodup, validateDependencyGraph_ok hothers, hclosed, hacyclic,
    h.length_eq, DependencyQueue.run_congr h, DependencyQueue.start_congr hnodup h]

end Facts

end Executive

namespace Safety

open PyText PyCollections DependencyGraphs

/-- The identifiers of steps with their dependencies. -/
def graphOf (steps : List PlanStepSnapshot) : List (PyStr × List PyStr) :=
  steps.map fun step => (step.stepId, step.dependencies)

section Facts

variable {steps others ordered : List PlanStepSnapshot}

/-- The nodes of the graph are the identifiers. -/
theorem nodes_graphOf (steps : List PlanStepSnapshot) :
    nodes (graphOf steps) = steps.map (·.stepId) := by
  rw [nodes, graphOf, List.map_map]
  rfl

/-- No dependency is missing when all are present. -/
theorem closed_graphOf : Closed (graphOf steps) ↔
    ∀ needed ∈ steps.flatMap (·.dependencies), needed ∈ steps.map (·.stepId) := by
  rw [Closed, nodes_graphOf]
  constructor
  · intro h needed hneeded
    obtain ⟨step, hstep, hneeded⟩ := List.mem_flatMap.mp hneeded
    exact h step.stepId needed ⟨_, List.mem_map_of_mem hstep, rfl, hneeded⟩
  · rintro h node needed ⟨entry, hentry, -, hneeded⟩
    obtain ⟨step, hstep, rfl⟩ := List.mem_map.mp hentry
    exact h needed (List.mem_flatMap.mpr ⟨step, hstep, hneeded⟩)

/-- The Safety Kernel accepts the graphs with all dependencies and without cycle. -/
theorem topologicalSteps_ok (hids : (steps.map (·.stepId)).Nodup) :
    topologicalSteps steps = .ok ordered ↔ (Closed (graphOf steps) ∧ Acyclic (graphOf steps)) ∧
      ∃ order, DependencyRounds.rounds steps.length (graphOf steps) = some order ∧
        order.filterMap (fun id => steps.find? fun step => step.stepId = id) = ordered := by
  have hnodup : (nodes (graphOf steps)).Nodup := by
    rw [nodes_graphOf]
    exact hids
  rw [topologicalSteps, Checks.require_bind_ok, Checks.require_bind_ok,
    Executive.sortedSet_filter_eq_nil, ← closed_graphOf, ← graphOf]
  constructor
  · rintro ⟨-, hclosed, h⟩
    split at h
    · cases h
    · next order horder =>
      rw [Checks.pure_ok] at h
      exact ⟨⟨hclosed, (ordering_of_rounds hnodup horder).acyclic⟩, order, horder, h⟩
  · rintro ⟨⟨hclosed, hacyclic⟩, order, horder, h⟩
    refine ⟨hids, hclosed, ?_⟩
    rw [horder, ← h]
    rfl

/-- The Safety Kernel returns the steps in an order of the graph. -/
theorem ordering_of_topologicalSteps (h : topologicalSteps steps = .ok ordered) :
    Ordering (graphOf steps) (ordered.map (·.stepId)) := by
  have hnodup : (nodes (graphOf steps)).Nodup := by
    rw [nodes_graphOf]
    exact (topologicalSteps_perm h).2
  exact ordering_of_rounds hnodup (topologicalSteps_order h)

/-- The order of the Safety Kernel does not depend on the order of the steps. -/
theorem topologicalSteps_congr (hids : (steps.map (·.stepId)).Nodup) (h : steps.Perm others)
    (hordered : topologicalSteps steps = .ok ordered) : topologicalSteps others = .ok ordered := by
  have hothers : (others.map (·.stepId)).Nodup := (h.map _).nodup_iff.mp hids
  have hnodup : (nodes (graphOf steps)).Nodup := by
    rw [nodes_graphOf]
    exact hids
  obtain ⟨-, order, horder, hfound⟩ := (topologicalSteps_ok hids).mp hordered
  have hordering := ordering_of_rounds hnodup horder
  have hgraphs : (graphOf steps).Perm (graphOf others) := h.map _
  have hround : DependencyRounds.rounds others.length (graphOf others) = some order := by
    rw [← h.length_eq, ← rounds_congr hnodup hgraphs]
    exact horder
  have hnodes : (nodes (graphOf others)).Nodup := by
    rw [nodes_graphOf]
    exact hothers
  have hother := ordering_of_rounds hnodes hround
  refine (topologicalSteps_ok hothers).mpr ⟨⟨hother.closed, hother.acyclic⟩, order, hround, ?_⟩
  rw [← hfound]
  refine List.filterMap_congr fun id hid => ?_
  have hmem : id ∈ steps.map (·.stepId) := by
    rw [← nodes_graphOf]
    exact hordering.perm.mem_iff.mp hid
  obtain ⟨step, hstep, rfl⟩ := List.mem_map.mp hmem
  rw [find_of_nodup hids hstep, find_of_nodup hothers (h.mem_iff.mp hstep)]

end Facts

section Agreement

/-- The Executive and the Safety Kernel agree about the dependencies of steps. -/
structure GraphsAgree {ε : Type} (error : PyStr → ε) (steps : List PlanStepSnapshot) : Prop where
  /-- The queue is empty after a turn for each step. -/
  executive_ends : (DependencyQueue.run (graphOf steps) steps.length
    (DependencyQueue.start (graphOf steps))).isSome = true
  /-- The rounds are over after one for each step. -/
  safety_ends : ∀ extra, DependencyRounds.rounds (steps.length + extra) (graphOf steps) =
    DependencyRounds.rounds steps.length (graphOf steps)
  /-- The Executive accepts exactly the graphs with all dependencies and without cycle. -/
  executive : (∃ order, Executive.validateDependencyGraph error (graphOf steps) = .ok order) ↔
    Closed (graphOf steps) ∧ Acyclic (graphOf steps)
  /-- So does the Safety Kernel. -/
  safety : (∃ ordered, topologicalSteps steps = .ok ordered) ↔
    Closed (graphOf steps) ∧ Acyclic (graphOf steps)
  /-- The Executive returns an order that follows the dependencies. -/
  executive_order : ∀ order,
    Executive.validateDependencyGraph error (graphOf steps) = .ok order →
      Ordering (graphOf steps) order
  /-- The Safety Kernel returns the steps in such an order. -/
  safety_order : ∀ ordered, topologicalSteps steps = .ok ordered →
    ordered.Perm steps ∧ Ordering (graphOf steps) (ordered.map (·.stepId))
  /-- Neither order depends on the order of the steps. -/
  independent : ∀ others, steps.Perm others →
    (∀ order, Executive.validateDependencyGraph error (graphOf steps) = .ok order →
      Executive.validateDependencyGraph error (graphOf others) = .ok order) ∧
    ∀ ordered, topologicalSteps steps = .ok ordered → topologicalSteps others = .ok ordered

/-- For steps with distinct identifiers the two agree. -/
theorem graphs_agree {ε : Type} (error : PyStr → ε) (steps : List PlanStepSnapshot)
    (hids : (steps.map (·.stepId)).Nodup) : GraphsAgree error steps := by
  have hnodup : (nodes (graphOf steps)).Nodup := by
    rw [nodes_graphOf]
    exact hids
  have hlength : (graphOf steps).length = steps.length := by
    rw [graphOf, List.length_map]
  obtain ⟨last, hlast, -⟩ := Executive.run_ends hnodup
  exact {
    executive_ends := by
      rw [← hlength, hlast]
      rfl
    safety_ends := fun extra => rounds_add hnodup hlength.le
    executive := by
      simp only [Executive.validateDependencyGraph_ok hnodup, hlast]
      exact ⟨fun ⟨_, h⟩ => h.1, fun h => ⟨_, h, rfl⟩⟩
    safety := by
      simp only [topologicalSteps_ok hids]
      constructor
      · rintro ⟨_, h, -⟩
        exact h
      · intro h
        obtain ⟨order, horder⟩ := exists_rounds hnodup h.1 h.2 hlength.le
        exact ⟨_, h, order, horder, rfl⟩
    executive_order := fun order h => Executive.ordering_of_validate hnodup h
    safety_order := fun ordered h => ⟨(topologicalSteps_perm h).1, ordering_of_topologicalSteps h⟩
    independent := by
      intro others h
      refine ⟨fun order horder => ?_, fun ordered hordered => topologicalSteps_congr hids h hordered⟩
      exact (Executive.validate_congr hnodup (h.map _)).mp horder }

/-- A step with the given dependencies and nothing else. -/
def bareStep (stepId : PyStr) (dependencies : List PyStr) : PlanStepSnapshot where
  stepId := stepId
  capabilityId := py "calendar.read"
  canonicalParameters := py "{}"
  dependencies := dependencies
  preconditions := []
  requiredContext := []
  requiredApprovals := []
  constraints := []
  expectedResult := .information
  failurePolicy := .stopPlan

/-- Two steps, of which the second lists the first twice. -/
def repeatingSteps : List PlanStepSnapshot :=
  [bareStep (py "a") [], bareStep (py "b") [py "a", py "a"]]

/-- The two agree about the steps with a repeated dependency. -/
theorem graphs_agree_repeating : GraphsAgree (id : PyStr → PyStr) repeatingSteps :=
  graphs_agree id repeatingSteps (by decide)

/-- Steps that list a dependency twice are accepted by both. -/
theorem not_forall_unique_dependencies : ¬ ∀ steps : List PlanStepSnapshot,
    (steps.map (·.stepId)).Nodup →
      ((∃ order, Executive.validateDependencyGraph (id : PyStr → PyStr) (graphOf steps) =
          .ok order) ↔
        (∀ step ∈ steps, step.dependencies.Nodup ∧ step.stepId ∉ step.dependencies) ∧
          Closed (graphOf steps) ∧ Acyclic (graphOf steps)) ∧
      ((∃ ordered, topologicalSteps steps = .ok ordered) ↔
        (∀ step ∈ steps, step.dependencies.Nodup ∧ step.stepId ∉ step.dependencies) ∧
          Closed (graphOf steps) ∧ Acyclic (graphOf steps)) := by
  intro hall
  obtain ⟨-, hsafety⟩ := hall repeatingSteps (by decide)
  have haccepted : topologicalSteps repeatingSteps = .ok repeatingSteps := by decide
  have hrepeats : ¬(bareStep (py "b") [py "a", py "a"]).dependencies.Nodup := by decide
  exact hrepeats ((hsafety.mp ⟨_, haccepted⟩).1 _ (by simp [repeatingSteps])).1

end Agreement

end Safety
end AyyoHumanoid
