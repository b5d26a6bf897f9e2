import AyyoHumanoid.Platform

/-!
# Context domains, states and snapshot versions

The public vocabulary of the personal context package that the planning and
safety packages read.
-/

namespace AyyoHumanoid
namespace PersonalContext

open PyText

/-- The domains of personal context. -/
inductive ContextDomain where
  | semantic | preference | social | spatial | procedural
  deriving DecidableEq, Repr

/-- The text of a domain. -/
def ContextDomain.value : ContextDomain → PyStr
  | .semantic => py "semantic"
  | .preference => py "preference"
  | .social => py "social"
  | .spatial => py "spatial"
  | .procedural => py "procedural"

/-- What is known about a context key. -/
inductive ContextState where
  | unknown | resolved | conflicted
  deriving DecidableEq, Repr

/-- The text of a state. -/
def ContextState.value : ContextState → PyStr
  | .unknown => py "unknown"
  | .resolved => py "resolved"
  | .conflicted => py "conflicted"

/-- `ContextSnapshotVersion`. -/
structure ContextSnapshotVersion where
  digest : PyStr
  algorithm : PyStr := py "sha256"
  schemaVersion : Int := 1
  deriving DecidableEq

/-- `str(version)`. -/
def ContextSnapshotVersion.text (version : ContextSnapshotVersion) : PyStr :=
  version.algorithm ++ py ":" ++ version.digest

end PersonalContext
end AyyoHumanoid
