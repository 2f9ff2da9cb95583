/-
This file gives the deterministic severity engine.
-/

import Sprawl.Investigation.State

namespace Sprawl

/-- These are the float operations of the engine. A literal is a number of hundredths. -/
class Scalar (F : Type) where
  hundredths : Nat → F
  ofNat : Nat → F
  add : F → F → F
  mul : F → F → F
  div : F → F → F
  min : F → F → F
  log2 : F → F
  round : F → Int
  json : F → Json

section Exact

/-- A float of up to 17 digits. -/
def PyFloat.decimal (significand : Nat) (exponent : Int) : PyFloat :=
  if fits : significand < 100000000000000000 ∧ significand % 10 ≠ 0 then
    ⟨false, significand, exponent, fits.1, Or.inl fits.2⟩
  else ⟨false, 0, 0, by decide, Or.inr ⟨rfl, rfl⟩⟩

/-- A number of hundredths as a JSON number. -/
def jsonHundredths (count : Nat) : Json :=
  .float (if count % 10 ≠ 0 then .decimal count (-2)
    else if count % 100 ≠ 0 then .decimal (count / 10) (-1)
    else .decimal (count / 100) 0)

/-- `round` takes the even number between two that are equally near. -/
def roundHalfEven (value : Rat) : Int :=
  let below := value.floor
  let above := value - below
  if above < 1 / 2 then below
  else if 1 / 2 < above then below + 1
  else if below % 2 = 0 then below else below + 1

/-- Exact numbers in the place of floats. Their logarithm is exact on the powers of two. -/
abbrev exactScalar : Scalar Rat where
  hundredths count := count / 100
  ofNat count := count
  add := (· + ·)
  mul := (· * ·)
  div := (· / ·)
  min first second := if first ≤ second then first else second
  log2 value := value.floor.toNat.log2
  round := roundHalfEven
  json value := jsonHundredths (value * 100).floor.toNat

end Exact

section Engine

variable {F : Type} [Scalar F]

/-- The engine names these weights `W_SCOPE`, `W_ENV` and `W_EXP`. -/
def wScope : F := Scalar.hundredths 40

def wEnv : F := Scalar.hundredths 25

def wExp : F := Scalar.hundredths 35

/-- The engine names this table `BUCKET_THRESHOLDS`. -/
def bucketThresholds : List (Int × SeverityBucket) :=
  [(80, .critical), (60, .high), (35, .medium), (0, .low)]

/-- The engine names this table `_ENV_FACTORS`, in hundredths. -/
def envFactors : List (String × Nat) :=
  [("prod", 100), ("staging", 60), ("dev", 30), ("unknown", 50), ("production", 100),
    ("development", 30), ("test", 20)]

/-- The engine names this table `_EXPOSURE_FACTORS`, in hundredths. -/
def exposureFactors : List (String × Nat) :=
  [("public_leak", 100), ("live_inferred", 70), ("inactive", 10), ("unknown", 50),
    ("confirmed", 80), ("suspected", 50)]

/-- The engine names this table `_SECRET_TYPE_BUMP`, in hundredths. -/
def secretTypeBump : List (String × Nat) :=
  [("aws_access_key", 15), ("iam_access_key", 15), ("database_url", 10), ("database", 10),
    ("api_key", 5), ("oauth_token", 5), ("github_token", 10), ("private_key", 15)]

/-- This is `_to_bucket`. -/
def toBucket (score : Int) : SeverityBucket :=
  ((bucketThresholds.find? fun entry => entry.1 ≤ score).map (·.2)).getD .low

def envFactor (environment : String) : F :=
  Scalar.hundredths ((envFactors.lookup (lowerText environment)).getD 50)

/-- This is `_scope_factor`. Resources of high privilege count twice. -/
def scopeFactor (resourceCount highPriv : Nat) : F :=
  let effective := resourceCount + highPriv
  if effective = 0 then Scalar.ofNat 0
  else Scalar.min (Scalar.ofNat 1)
    (Scalar.div (Scalar.log2 (Scalar.ofNat (effective + 1))) (Scalar.ofNat 7))

/-- This is `_exposure_factor`. -/
def exposureFactor (exposureStatus secretType : String) : F :=
  let base := (exposureFactors.lookup (lowerText exposureStatus)).getD 50
  let bump := (secretTypeBump.lookup (lowerText secretType)).getD 0
  Scalar.min (Scalar.ofNat 1) (Scalar.add (Scalar.hundredths base) (Scalar.hundredths bump))

/-- This is `SeverityEngine.score`. -/
def severityScore (resourceCount highPrivilegeResources : Nat)
    (environment exposureStatus secretType : String) : SeverityResult F :=
  let sf : F := scopeFactor resourceCount highPrivilegeResources
  let ef : F := envFactor environment
  let xf : F := exposureFactor exposureStatus secretType
  let raw := Scalar.add (Scalar.add (Scalar.mul wScope sf) (Scalar.mul wEnv ef))
    (Scalar.mul wExp xf)
  let score := min 100 (Scalar.round (Scalar.mul raw (Scalar.ofNat 100)))
  { score
    bucket := toBucket score
    factors := some {
      scopeFactor := sf
      envFactor := ef
      exposureFactor := xf
      resourceCount
      hasHighPriv := 0 < highPrivilegeResources
      environment
      exposureStatus
      secretType } }

end Engine

section Result

variable {F : Type}

/-- The bucket of a result is the one that the engine assigns to its score. -/
def SeverityResult.Bucketed (result : SeverityResult F) : Prop := result.bucket = toBucket result.score

theorem severityScore_bucketed [Scalar F] (resourceCount highPrivilegeResources : Nat)
    (environment exposureStatus secretType : String) :
    (severityScore (F := F) resourceCount highPrivilegeResources environment exposureStatus
      secretType).Bucketed := rfl

end Result

end Sprawl
