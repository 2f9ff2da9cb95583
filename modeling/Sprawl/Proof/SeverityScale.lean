/-
This file proves that the severity of a secret is bounded and grows with its inputs.
-/

import Sprawl.Investigation.Exact

namespace Sprawl

section Factors

theorem scopeShare_zero : scopeShare 0 = 0 := by
  rw [scopeShare, zero_add, Nat.cast_one, Numeric.log2_one, zero_div]
  exact min_eq_right zero_le_one

theorem scopeFactor_eq (resourceCount highPriv : Nat) :
    scopeFactor resourceCount highPriv = scopeShare (resourceCount + highPriv) := by
  unfold scopeFactor
  dsimp only
  split
  · next none =>
      rw [none, scopeShare_zero]
      exact Nat.cast_zero
  · change min ((1 : Nat) : ℝ)
      (Numeric.log2 (resourceCount + highPriv + 1 : Nat) / ((7 : Nat) : ℝ)) = _
    rw [scopeShare, Nat.cast_one, Nat.cast_ofNat]

theorem envFactor_eq (environment : String) :
    envFactor environment = (envHundredths environment : ℝ) / 100 := rfl

theorem exposureFactor_eq (exposureStatus secretType : String) :
    exposureFactor exposureStatus secretType =
      ((min 100 (exposureBase exposureStatus + typeBump secretType) : Nat) : ℝ) / 100 := by
  change min ((1 : Nat) : ℝ)
    ((exposureBase exposureStatus : ℝ) / 100 + (typeBump secretType : ℝ) / 100) = _
  rw [← add_div, Nat.cast_min, Nat.cast_add, Nat.cast_one, ← min_div_div_right (by norm_num)]
  norm_num

/-- A value that a table holds, or the default, satisfies what all of them satisfy. -/
theorem lookup_getD_le {table : List (String × Nat)} {key : String} {default bound : Nat}
    (entries : ∀ entry ∈ table, entry.2 ≤ bound) (small : default ≤ bound) :
    (table.lookup key).getD default ≤ bound := by
  cases found : table.lookup key with
  | none => exact small
  | some value =>
      obtain ⟨before, after, rfl, _⟩ := List.lookup_eq_some_iff.mp found
      exact entries (key, value) (by simp)

theorem envHundredths_le (environment : String) : envHundredths environment ≤ 100 :=
  lookup_getD_le (by decide) (by decide)

theorem scopeShare_nonneg (effective : Nat) : 0 ≤ scopeShare effective := by
  have one : (1 : ℝ) ≤ ((effective + 1 : Nat) : ℝ) := by
    exact_mod_cast Nat.le_add_left 1 effective
  exact le_min zero_le_one (div_nonneg (Numeric.log2_nonneg one) (by norm_num))

theorem scopeShare_le_one (effective : Nat) : scopeShare effective ≤ 1 := min_le_left _ _

theorem scopeShare_mono {first second : Nat} (less : first ≤ second) :
    scopeShare first ≤ scopeShare second := by
  have positive : (0 : ℝ) < ((first + 1 : Nat) : ℝ) := by exact_mod_cast Nat.succ_pos first
  have more : ((first + 1 : Nat) : ℝ) ≤ ((second + 1 : Nat) : ℝ) := by
    exact_mod_cast Nat.succ_le_succ less
  apply min_le_min_left
  exact div_le_div_of_nonneg_right (Numeric.log2_mono positive more) (by norm_num)

/-- The whole share is reached exactly from 127 resources on. -/
theorem scopeShare_eq_one_iff {effective : Nat} : scopeShare effective = 1 ↔ 127 ≤ effective := by
  have positive : (0 : ℝ) < ((effective + 1 : Nat) : ℝ) := by exact_mod_cast Nat.succ_pos effective
  calc scopeShare effective = 1
      ↔ ((7 : Nat) : ℝ) ≤ Numeric.log2 (effective + 1 : Nat) := by
        rw [scopeShare, min_eq_left_iff, one_le_div (by norm_num), Nat.cast_ofNat]
    _ ↔ ((2 ^ 7 : Nat) : ℝ) ≤ ((effective + 1 : Nat) : ℝ) := by
        rw [Numeric.le_log2_iff positive, Nat.cast_pow, Nat.cast_ofNat]
    _ ↔ 127 ≤ effective := by
        rw [Nat.cast_le]
        omega

end Factors

section Score

variable (resourceCount highPriv : Nat) (environment exposureStatus secretType : String)

/-- The score is the level rounded to the nearest integer, up to 100. -/
theorem severityScore_score :
    (severityScore (F := ℝ) resourceCount highPriv environment exposureStatus secretType).score =
      min 100 (Numeric.roundHalfEven (severityLevel (resourceCount + highPriv)
        (attributeHundredths environment exposureStatus secretType))) := by
  have weighted : (((40 : Nat) : ℝ) / 100 * scopeFactor resourceCount highPriv +
      ((25 : Nat) : ℝ) / 100 * envFactor environment +
        ((35 : Nat) : ℝ) / 100 * exposureFactor exposureStatus secretType) * ((100 : Nat) : ℝ) =
      severityLevel (resourceCount + highPriv)
        (attributeHundredths environment exposureStatus secretType) := by
    rw [scopeFactor_eq, envFactor_eq, exposureFactor_eq, severityLevel, attributeHundredths]
    push_cast
    ring
  change min 100 (Numeric.roundHalfEven _) = _
  rw [← weighted]
  rfl

end Score

theorem severityLevel_mono {first second less more : Nat} (counts : first ≤ second)
    (attributes : less ≤ more) : severityLevel first less ≤ severityLevel second more := by
  have shares := scopeShare_mono counts
  have hundredths : (less : ℝ) ≤ more := Nat.cast_le.mpr attributes
  unfold severityLevel
  linarith

/-- The attributes add more when none of their table values is smaller. -/
theorem attributeHundredths_mono {environment other exposureStatus otherStatus secretType
    otherType : String} (environments : envHundredths environment ≤ envHundredths other)
    (exposures : exposureBase exposureStatus ≤ exposureBase otherStatus)
    (bumps : typeBump secretType ≤ typeBump otherType) :
    attributeHundredths environment exposureStatus secretType ≤
      attributeHundredths other otherStatus otherType := by
  unfold attributeHundredths
  omega

section Buckets

/-- The first threshold that a score reaches gives its bucket. -/
theorem toBucket_eq (score : Int) : toBucket score =
    if 80 ≤ score then .critical else if 60 ≤ score then .high
      else if 35 ≤ score then .medium else .low := by
  unfold toBucket bucketThresholds
  by_cases critical : 80 ≤ score
  · simp [critical]
  by_cases high : 60 ≤ score
  · simp [critical, high]
  by_cases medium : 35 ≤ score
  · simp [critical, high, medium]
  by_cases low : 0 ≤ score <;> simp [critical, high, medium, low]

theorem toBucket_low_iff {score : Int} : toBucket score = .low ↔ score < 35 := by
  rw [toBucket_eq]
  split_ifs <;> simp <;> omega

theorem toBucket_mono {first second : Int} (less : first ≤ second) :
    (toBucket first).rank ≤ (toBucket second).rank := by
  rw [toBucket_eq, toBucket_eq]
  split_ifs <;> first | omega | decide

end Buckets

section Scale

/-- The score is between 0 and 100, and every factor is between 0 and 1. -/
structure SeverityResult.Bounded (result : SeverityResult ℝ) : Prop where
  score : 0 ≤ result.score ∧ result.score ≤ 100
  factors : ∃ factors, result.factors = some factors ∧
    factors.scopeFactor ∈ Set.Icc 0 1 ∧ factors.envFactor ∈ Set.Icc 0 1 ∧
      factors.exposureFactor ∈ Set.Icc 0 1

/-- Each bucket begins at its threshold. -/
structure SeverityResult.Graded (result : SeverityResult ℝ) : Prop where
  critical : result.bucket = .critical ↔ 80 ≤ result.score
  high : result.bucket = .high ↔ 60 ≤ result.score ∧ result.score < 80
  medium : result.bucket = .medium ↔ 35 ≤ result.score ∧ result.score < 60
  low : result.bucket = .low ↔ result.score < 35

variable (resourceCount highPriv : Nat) (environment exposureStatus secretType : String)

theorem severityScore_bounded :
    (severityScore (F := ℝ) resourceCount highPriv environment exposureStatus
      secretType).Bounded := by
  have level : 0 ≤ severityLevel (resourceCount + highPriv)
      (attributeHundredths environment exposureStatus secretType) :=
    add_nonneg (mul_nonneg (by norm_num) (scopeShare_nonneg _)) (by positivity)
  have fraction {hundredths : Nat} (small : hundredths ≤ 100) :
      (hundredths : ℝ) / 100 ∈ Set.Icc 0 1 := by
    have cast : (hundredths : ℝ) ≤ 100 := by exact_mod_cast small
    exact ⟨by positivity, (div_le_one (by norm_num)).mpr cast⟩
  constructor
  · rw [severityScore_score]
    have natural : 0 ≤ Numeric.roundHalfEven (severityLevel (resourceCount + highPriv)
        (attributeHundredths environment exposureStatus secretType)) := by
      calc 0 = Numeric.roundHalfEven (((0 : Int) : ℝ)) := (Numeric.roundHalfEven_intCast 0).symm
        _ ≤ _ := Numeric.roundHalfEven_mono (by rw [Int.cast_zero]; exact level)
    exact ⟨le_min (by norm_num) natural, min_le_left _ _⟩
  · refine ⟨_, rfl, ?_, ?_, ?_⟩
    · change scopeFactor resourceCount highPriv ∈ _
      rw [scopeFactor_eq]
      exact ⟨scopeShare_nonneg _, scopeShare_le_one _⟩
    · exact fraction (envHundredths_le environment)
    · change exposureFactor exposureStatus secretType ∈ _
      rw [exposureFactor_eq]
      exact fraction (min_le_left _ _)

theorem severityScore_graded :
    (severityScore (F := ℝ) resourceCount highPriv environment exposureStatus
      secretType).Graded := by
  have bucketed := severityScore_bucketed (F := ℝ) resourceCount highPriv environment
    exposureStatus secretType
  rw [SeverityResult.Bucketed, toBucket_eq] at bucketed
  constructor <;> rw [bucketed] <;> split_ifs <;> simp <;> omega

/-- The score grows with the level. -/
theorem severityScore_mono {less more first second : Nat} {environment other exposureStatus
    otherStatus secretType otherType : String} (resources : less ≤ more)
    (highPrivs : first ≤ second) (environments : envHundredths environment ≤ envHundredths other)
    (exposures : exposureBase exposureStatus ≤ exposureBase otherStatus)
    (bumps : typeBump secretType ≤ typeBump otherType) :
    (severityScore (F := ℝ) less first environment exposureStatus secretType).score ≤
      (severityScore (F := ℝ) more second other otherStatus otherType).score := by
  rw [severityScore_score, severityScore_score]
  apply min_le_min_left
  apply Numeric.roundHalfEven_mono
  exact severityLevel_mono (Nat.add_le_add resources highPrivs)
    (attributeHundredths_mono environments exposures bumps)

/-- The severity is bounded, it grows with each of its inputs, and its bucket with its score. -/
theorem severity_bounded_monotone :
    let result : SeverityResult ℝ :=
      severityScore resourceCount highPriv environment exposureStatus secretType
    result.Bounded ∧ result.Graded ∧
      ∀ moreResources moreHighPriv other otherStatus otherType,
        let later : SeverityResult ℝ :=
          severityScore moreResources moreHighPriv other otherStatus otherType
        (resourceCount ≤ moreResources → highPriv ≤ moreHighPriv →
          (envFactor environment : ℝ) ≤ envFactor other →
          exposureBase exposureStatus ≤ exposureBase otherStatus →
          typeBump secretType ≤ typeBump otherType → result.score ≤ later.score) ∧
        (result.score ≤ later.score → result.bucket.rank ≤ later.bucket.rank) := by
  refine ⟨severityScore_bounded _ _ _ _ _, severityScore_graded _ _ _ _ _, ?_⟩
  intro moreResources moreHighPriv other otherStatus otherType
  constructor
  · intro resources highPrivs environments exposures bumps
    have hundredths : envHundredths environment ≤ envHundredths other := by
      rw [envFactor_eq, envFactor_eq, div_le_div_iff_of_pos_right (by norm_num)] at environments
      exact Nat.cast_le.mp environments
    exact severityScore_mono resources highPrivs hundredths exposures bumps
  · exact toBucket_mono

/-- A public leak in production with a resource of high privilege scores no lower than an unknown
exposure in development without resources. -/
theorem leak_scores_higher :
    (severityScore (F := ℝ) 0 0 "dev" "unknown" "password").score ≤
      (severityScore (F := ℝ) 3 1 "prod" "public_leak" "private_key").score := by
  have grows := (severity_bounded_monotone 0 0 "dev" "unknown" "password").2.2 3 1 "prod"
    "public_leak" "private_key"
  refine grows.1 (by decide) (by decide) ?_ (by decide) (by decide)
  rw [envFactor_eq, envFactor_eq, div_le_div_iff_of_pos_right (by norm_num)]
  exact Nat.cast_le.mpr (by decide)

end Scale

end Sprawl
