import AyyoHumanoid.MemoryRevisions
import AyyoHumanoid.PerceptionOrder
import AyyoHumanoid.PerceptionSeals
import AyyoHumanoid.RgbdSessions
import AyyoHumanoid.SafetyMonotonicity
import AyyoHumanoid.SafetyRevalidation
import AyyoHumanoid.ValidationDuplicates
import AyyoHumanoid.SelectionOrder
import AyyoHumanoid.ContextReads
import AyyoHumanoid.PromotionSoundness
import AyyoHumanoid.SimulationDispatch
import AyyoHumanoid.WorkingChronology
import AyyoHumanoid.ContractCanonical
import AyyoHumanoid.RuntimeAgreement
import AyyoHumanoid.DependencyGraphs
import AyyoHumanoid.DependencyQueue
import AyyoHumanoid.MemoryRoundTrip
import AyyoHumanoid.ObjectGraphs
import AyyoHumanoid.PlanGraphs
import AyyoHumanoid.RuntimeControl
import AyyoHumanoid.RuntimeDelivery
import AyyoHumanoid.SchemaLimits
import AyyoHumanoid.SkillCopies
import AyyoHumanoid.PerceptionEffectiveness
import AyyoHumanoid.RgbdCompleteness
import AyyoHumanoid.SafetyBudget
import AyyoHumanoid.SafetyTotality
import AyyoHumanoid.CanonicalJson
import AyyoHumanoid.CameraAdapter
import AyyoHumanoid.CameraAgreement
import AyyoHumanoid.DemonstrationSessions
import AyyoHumanoid.DevelopmentScenarios
import AyyoHumanoid.DocumentSizes
import AyyoHumanoid.ScenarioAdapter
import AyyoHumanoid.ScenarioCapture
import AyyoHumanoid.CameraConfiguration
import AyyoHumanoid.CameraLifecycle
import AyyoHumanoid.WorkingFreshness
