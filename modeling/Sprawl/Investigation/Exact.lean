/-
This file gives the severity engine over the real numbers.
-/

import Mathlib.Algebra.Order.Floor.Semiring
import Sprawl.Investigation.Severity
import Sprawl.Numeric.Rounding

namespace Sprawl

/-- Real numbers in the place of floats. -/
noncomputable instance : Scalar ℝ where
  hundredths count := count / 100
  ofNat count := count
  add := (· + ·)
  mul := (· * ·)
  div := (· / ·)
  min := min
  log2 := Numeric.log2
  round := Numeric.roundHalfEven
  json value := jsonHundredths ⌊value * 100⌋₊

/-- The factor of an environment in hundredths. -/
def envHundredths (environment : String) : Nat :=
  (envFactors.lookup (lowerText environment)).getD 50

/-- The factor of an exposure status in hundredths, without the bump of the type. -/
def exposureBase (exposureStatus : String) : Nat :=
  (exposureFactors.lookup (lowerText exposureStatus)).getD 50

/-- The bump of a secret type in hundredths. -/
def typeBump (secretType : String) : Nat := (secretTypeBump.lookup (lowerText secretType)).getD 0

/-- The share of the scope, by the resources with those of high privilege counted twice. -/
noncomputable def scopeShare (effective : Nat) : ℝ :=
  min 1 (Numeric.log2 (effective + 1 : Nat) / 7)

/-- What the environment, the exposure and the type add to a score, in hundredths. -/
def attributeHundredths (environment exposureStatus secretType : String) : Nat :=
  25 * envHundredths environment +
    35 * min 100 (exposureBase exposureStatus + typeBump secretType)

/-- A score before its rounding. -/
noncomputable def severityLevel (effective attributes : Nat) : ℝ :=
  40 * scopeShare effective + attributes / 100

/-- The buckets from low to critical. -/
def SeverityBucket.rank : SeverityBucket → Nat
  | .low => 0
  | .medium => 1
  | .high => 2
  | .critical => 3

end Sprawl
