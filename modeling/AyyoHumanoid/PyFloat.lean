import AyyoHumanoid.JsonText
import Mathlib.Algebra.Group.Int.Defs
import Mathlib.Data.Int.Log
import Mathlib.Data.Rat.Floor

/-!
# Values of printed floats

A finite float is known by the token that `repr` prints. The decimal number that
the token denotes orders floats as Python does: distinct floats print distinct
tokens, each nearer to its own float than to any other.
-/

namespace AyyoHumanoid

open PyText JsonText

/-- The number that decimal digits denote. -/
def digitsValue (digits : PyStr) : Nat :=
  digits.foldl (fun value c => value * 10 + (c.val - 48)) 0

/-- The number that an exponent denotes: `e`, an optional sign and digits. -/
def exponentValue (exponent : PyStr) : Int :=
  match exponent with
  | [] => 0
  | _ :: signed =>
    let (sign, digits) := lexExponentSign signed
    if sign = [minus] then -digitsValue digits else digitsValue digits

/-- The digits times the given power of ten. -/
def scaledDigits (digits : PyStr) : Int → Rat
  | .ofNat n => mkRat (digitsValue digits * 10 ^ n) 1
  | .negSucc n => mkRat (digitsValue digits) (10 ^ (n + 1))

/-- The number that a printed float denotes. -/
def FloatToken.toRat (token : FloatToken) : Rat :=
  let (sign, afterSign) := lexSign token.text
  let (whole, afterWhole) := lexWhole afterSign
  let (fraction, afterFraction) := lexFraction afterWhole
  let (exponent, _) := lexExponent afterFraction
  let magnitude := scaledDigits (whole ++ fraction.tail)
    (exponentValue exponent - fraction.tail.length)
  if sign = [] then magnitude else -magnitude

/-- The nearest integer, the even one of two. -/
def roundHalfEven (value : Rat) : Int :=
  let rest := value - value.floor
  if rest < 1 / 2 then value.floor
  else if 1 / 2 < rest then value.floor + 1
  else if value.floor % 2 = 0 then value.floor else value.floor + 1

/-- The distance of neighbouring doubles at a magnitude. -/
def doubleStep (magnitude : Rat) : Rat := 2 ^ max (Int.log 2 magnitude - 52) (-1074)

/-- The value of the double that a printed float denotes: the nearest one. -/
def FloatToken.exact (token : FloatToken) : Rat :=
  let value := token.toRat
  roundHalfEven (value / doubleStep |value|) * doubleStep |value|

/-- A finite float from zero to one. -/
structure UnitFloat where
  token : FloatToken
  /-- It is not negative. -/
  nonneg : 0 ≤ token.toRat
  /-- It is at most one. -/
  le_one : token.toRat ≤ 1
  deriving DecidableEq

/-- The document of a float that may be absent. -/
def optionalFloat (value : Option FloatToken) : Json := value.elim .null .float

/-- The document of a share that may be absent. -/
def optionalShare (value : Option UnitFloat) : Json := optionalFloat (value.map (·.token))

end AyyoHumanoid
