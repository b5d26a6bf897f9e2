import AyyoHumanoid.WorldObservations

/-!
# The joint catalog

A reviewed catalog says which joints a robot has and within which limits they
may be observed. The limits are widened by a small tolerance; the runtime
supplies that floating point arithmetic.
-/

namespace AyyoHumanoid
namespace World

open PyText JsonText PyCollections

/-- The floats `limit - 1e-8` and `limit + 1e-8`. -/
structure LimitRuntime where
  /-- `limit - JOINT_LIMIT_OBSERVATION_TOLERANCE`. -/
  minus : Rat → Rat
  /-- `limit + JOINT_LIMIT_OBSERVATION_TOLERANCE`. -/
  plus : Rat → Rat

/-- `joint_type`. -/
inductive JointType where
  | fixed | revolute | continuous | prismatic
  deriving DecidableEq, Repr

/-- `JointContract`. -/
structure JointContract where
  jointName : Name
  jointType : JointType
  lower : Option Rat
  upper : Option Rat
  velocityLimit : Option Rat
  effortLimit : Option Rat
  /-- Exactly the joints with a range have both limits. -/
  ranged : (jointType = .revolute ∨ jointType = .prismatic) ↔
    (lower.isSome = true ∧ upper.isSome = true)
  /-- A range is not empty. -/
  proper : jointType = .revolute ∨ jointType = .prismatic →
    ∀ low ∈ lower, ∀ high ∈ upper, low < high
  positive : (∀ limit ∈ velocityLimit, 0 < limit) ∧ ∀ limit ∈ effortLimit, 0 < limit
  deriving DecidableEq

/-- `RobotJointCatalog`. -/
structure RobotJointCatalog where
  robotId : Name
  /-- The joints, in the order of their names. -/
  joints : List JointContract
  /-- The catalog is bounded and not empty. -/
  bounded : joints ≠ [] ∧ joints.length ≤ 256
  /-- The names are distinct. -/
  ordered : KeyOrdered (fun joint => joint.jointName.text) joints
  deriving DecidableEq

/-- `catalog.contract_for(joint_name)`. -/
def RobotJointCatalog.contractFor (catalog : RobotJointCatalog) (jointName : Name) :
    Option JointContract :=
  catalog.joints.find? fun contract => contract.jointName = jointName

/-- `f"joint {joint_name!r}{rest}"`; an identifier is printed between quotes. -/
def jointError (code : FailureCode) (jointName : Name) (rest : String) : WorldError :=
  ⟨.validation, code, py "joint '" ++ jointName.text ++ py "'" ++ py rest⟩

/-- `catalog.validate_joint`. -/
def RobotJointCatalog.validateJoint (limits : LimitRuntime) (catalog : RobotJointCatalog)
    (joint : JointObservation) : Except WorldError Unit :=
  match catalog.contractFor joint.jointName with
  | none => .error (jointError .unknownJoint joint.jointName
      " is absent from the authoritative catalog")
  | some contract => do
    require (contract.jointType ≠ .fixed) (jointError .fixedJoint joint.jointName " is fixed")
    require (∀ lower ∈ contract.lower, ¬joint.position.toRat < limits.minus lower)
      (jointError .jointBelowMinimum joint.jointName " position is below its URDF minimum")
    require (∀ upper ∈ contract.upper, ¬joint.position.toRat > limits.plus upper)
      (jointError .jointAboveMaximum joint.jointName " position is above its URDF maximum")
    require (∀ velocity ∈ joint.velocity, ∀ limit ∈ contract.velocityLimit,
        ¬velocity.toRat.abs > limits.plus limit)
      (jointError .jointVelocityExceeded joint.jointName " velocity exceeds its URDF limit")
    require (∀ effort ∈ joint.effort, ∀ limit ∈ contract.effortLimit,
        ¬effort.toRat.abs > limits.plus limit)
      (jointError .jointEffortExceeded joint.jointName " effort exceeds its URDF limit")

/-- `catalog.validate_observation`. -/
def RobotJointCatalog.validateObservation (limits : LimitRuntime) (catalog : RobotJointCatalog)
    (observation : RobotStateObservation) : Except WorldError Unit := do
  require (observation.robotId = catalog.robotId)
    (invalid .wrongRobotIdentity "robot observation does not belong to this World Model")
  observation.joints.forM (catalog.validateJoint limits)

end World
end AyyoHumanoid
