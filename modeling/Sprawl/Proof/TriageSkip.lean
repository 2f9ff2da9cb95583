/-
This file proves which secrets that triage skips have a low severity.
-/

import Sprawl.Investigation.Nodes
import Sprawl.Proof.SeverityScale

namespace Sprawl

section Level

/-- A power lies below a bound exactly up to the last base whose power does. -/
theorem succ_pow_le_iff {root bound limit : Nat} (within : (limit + 1) ^ root ≤ bound)
    (beyond : bound < (limit + 2) ^ root) (value : Nat) :
    (value + 1) ^ root ≤ bound ↔ value ≤ limit := by
  constructor
  · intro small
    by_contra more
    have grows : (limit + 2) ^ root ≤ (value + 1) ^ root := Nat.pow_le_pow_left (by omega) root
    omega
  · intro small
    exact (Nat.pow_le_pow_left (Nat.succ_le_succ small) root).trans within

/-- A level is at most 34.5 exactly up to a power of two. -/
theorem severityLevel_le_iff {effective attributes power root : Nat} (some : 0 < root)
    (room : 7 * (3450 - attributes) * root = 4000 * power) (fits : attributes ≤ 3450) :
    severityLevel effective attributes ≤ 69 / 2 ↔ (effective + 1) ^ root ≤ 2 ^ power := by
  have rootPositive : (0 : ℝ) < root := Nat.cast_pos.mpr some
  have same : (7 : ℝ) * (3450 - attributes) / 4000 = power / root := by
    rw [div_eq_div_iff (by norm_num) rootPositive.ne']
    have cast : ((7 * (3450 - attributes) * root : Nat) : ℝ) = ((4000 * power : Nat) : ℝ) :=
      congrArg Nat.cast room
    push_cast [Nat.cast_sub fits] at cast
    linarith
  have below : (7 : ℝ) * (3450 - attributes) / 4000 < 7 := by
    have natural : (0 : ℝ) ≤ attributes := Nat.cast_nonneg attributes
    linarith
  rw [← Numeric.log2_le_div_iff (Nat.succ_pos effective) some, ← same, severityLevel,
    scopeShare]
  constructor
  · intro small
    obtain capped | share := min_choice (1 : ℝ) (Numeric.log2 (effective + 1 : Nat) / 7)
    · rw [capped] at small
      linarith
    · rw [share] at small
      linarith
  · intro small
    have share := min_le_right (1 : ℝ) (Numeric.log2 (effective + 1 : Nat) / 7)
    linarith

/-- A level is at most 34.5 up to a number of resources. -/
theorem lowLevel_iff {effective attributes limit : Nat} (power root : Nat) (some : 0 < root)
    (room : 7 * (3450 - attributes) * root = 4000 * power) (fits : attributes ≤ 3450)
    (within : (limit + 1) ^ root ≤ 2 ^ power) (beyond : 2 ^ power < (limit + 2) ^ root) :
    severityLevel effective attributes ≤ 69 / 2 ↔ effective ≤ limit :=
  (severityLevel_le_iff some room fits).trans (succ_pow_le_iff within beyond effective)

/-- A secret is in the lowest bucket up to the level of 34.5, which rounds to the even 34. -/
theorem severityScore_low_iff (resourceCount highPriv : Nat)
    (environment exposureStatus secretType : String) :
    (severityScore (F := ℝ) resourceCount highPriv environment exposureStatus
      secretType).bucket = .low ↔
      severityLevel (resourceCount + highPriv)
        (attributeHundredths environment exposureStatus secretType) ≤ 69 / 2 := by
  have bucketed := severityScore_bucketed (F := ℝ) resourceCount highPriv environment
    exposureStatus secretType
  rw [SeverityResult.Bucketed] at bucketed
  rw [bucketed, toBucket_low_iff, severityScore_score, min_lt_iff]
  have whole (rounded : Int) : (100 < (35 : Int) ∨ rounded < 35) ↔ rounded ≤ 34 := by omega
  rw [whole, Numeric.roundHalfEven_le_iff, le_iff_lt_or_eq]
  norm_num

end Level

section Attributes

/-- The secret is not exposed any more, of no type that is always investigated and not in
production. -/
structure SecretContext.Skippable (context : SecretContext) : Prop where
  inactive : lowerText context.exposureStatus = "inactive"
  plain : lowerText context.secretType ∉ alwaysInvestigate
  outside : lowerText context.environment ∉ ["prod", "production"]

instance (context : SecretContext) : Decidable context.Skippable :=
  decidable_of_iff
    (lowerText context.exposureStatus = "inactive" ∧
      lowerText context.secretType ∉ alwaysInvestigate ∧
        lowerText context.environment ∉ ["prod", "production"])
    ⟨fun given => ⟨given.1, given.2.1, given.2.2⟩,
      fun given => ⟨given.inactive, given.plain, given.outside⟩⟩

/-- The resources of a skipped secret, with those of high privilege counted twice, that keep its
severity low. -/
def skipLimit (environment secretType : String) : Nat :=
  let env := lowerText environment
  let bumped := ["api_key", "oauth_token"].contains (lowerText secretType)
  if env = "staging" then if bumped then 4 else 5
  else if ["dev", "development"].contains env then if bumped then 12 else 16
  else if env = "test" then if bumped then 17 else 22
  else if bumped then 6 else 8

/-- An entry that a table finds is one of its entries. -/
theorem mem_of_lookup {table : List (String × Int)} {key : String} {value : Int}
    (found : table.lookup key = some value) : (key, value) ∈ table := by
  obtain ⟨before, after, rfl, _⟩ := List.lookup_eq_some_iff.mp found
  simp

/-- Only an inactive exposure has a triage score below the threshold. -/
theorem exposureScores_cases (exposure : String) :
    exposure = "inactive" ∧ (exposureScores.lookup exposure).getD 30 = 10 ∨
      exposure ≠ "inactive" ∧ 30 ≤ (exposureScores.lookup exposure).getD 30 := by
  by_cases inactive : exposure = "inactive"
  · left
    rw [inactive]
    decide
  · right
    refine ⟨inactive, ?_⟩
    cases found : exposureScores.lookup exposure with
    | none => decide
    | some score =>
        have inside := mem_of_lookup found
        simp only [exposureScores, List.mem_cons, Prod.mk.injEq, List.not_mem_nil, or_false,
          inactive, false_and, false_or] at inside
        change 30 ≤ score
        omega

section Plain

variable {context : SecretContext} (plain : lowerText context.secretType ∉ alwaysInvestigate)

include plain

theorem alwaysInvestigate_contains :
    alwaysInvestigate.contains (lowerText context.secretType) = false := by
  rw [← Bool.not_eq_true, List.contains_iff_mem]
  exact plain

/-- A type that is not always investigated is skipped below the threshold. -/
theorem triageRouting_plain : triageRouting context = .skip ↔ triageScore context < 20 := by
  rw [triageRouting, alwaysInvestigate_contains plain, Bool.or_false]
  by_cases high : skipThreshold ≤ triageScore context
  · rw [if_pos (decide_eq_true high)]
    change 20 ≤ triageScore context at high
    simp only [reduceCtorEq, false_iff]
    omega
  · rw [if_neg (by simpa using high)]
    change ¬ 20 ≤ triageScore context at high
    simp only [true_iff]
    omega

theorem triageScore_plain : triageScore context =
    if ["prod", "production"].contains (lowerText context.environment) then
      min 100 ((exposureScores.lookup (lowerText context.exposureStatus)).getD 30 + 20)
    else (exposureScores.lookup (lowerText context.exposureStatus)).getD 30 := by
  simp only [triageScore, alwaysInvestigate_contains plain, if_neg Bool.false_ne_true]

end Plain

/-- A type that is always investigated is not skipped. -/
theorem triageRouting_listed {context : SecretContext}
    (listed : lowerText context.secretType ∈ alwaysInvestigate) : triageRouting context ≠ .skip := by
  intro skipped
  rw [triageRouting, List.contains_iff_mem.mpr listed, Bool.or_true, if_pos rfl] at skipped
  cases skipped

/-- Triage skips exactly the skippable secrets. -/
theorem triageRouting_skip_iff (context : SecretContext) :
    triageRouting context = .skip ↔ context.Skippable := by
  by_cases listed : lowerText context.secretType ∈ alwaysInvestigate
  · exact iff_of_false (triageRouting_listed listed) fun given => given.plain listed
  have exposed := exposureScores_cases (lowerText context.exposureStatus)
  rw [triageRouting_plain listed, triageScore_plain listed]
  by_cases production : lowerText context.environment ∈ ["prod", "production"]
  · rw [if_pos (List.contains_iff_mem.mpr production)]
    constructor
    · intro small
      omega
    · exact fun given => absurd production given.outside
  · rw [if_neg (fun given => production (List.contains_iff_mem.mp given))]
    constructor
    · intro small
      refine ⟨?_, listed, production⟩
      obtain ⟨inactive, _⟩ | ⟨_, more⟩ := exposed
      · exact inactive
      · omega
    · intro given
      obtain ⟨_, same⟩ | ⟨other, _⟩ := exposed
      · omega
      · exact absurd given.inactive other

/-- What a type adds that is not always investigated. -/
theorem typeBump_plain {secretType : String} (plain : lowerText secretType ∉ alwaysInvestigate) :
    typeBump secretType =
      if ["api_key", "oauth_token"].contains (lowerText secretType) then 5 else 0 := by
  simp only [alwaysInvestigate, List.mem_cons, List.not_mem_nil, or_false, not_or] at plain
  obtain ⟨first, second, third, fourth, fifth, sixth⟩ := plain
  unfold typeBump
  by_cases api : lowerText secretType = "api_key"
  · rw [api]
    decide
  by_cases oauth : lowerText secretType = "oauth_token"
  · rw [oauth]
    decide
  have unlisted : secretTypeBump.lookup (lowerText secretType) = none := by
    rw [List.lookup_eq_none_iff]
    simp [secretTypeBump, *]
  rw [unlisted]
  simp [api, oauth]

/-- The factor of an environment outside production. -/
theorem envHundredths_outside {environment : String}
    (outside : lowerText environment ∉ ["prod", "production"]) :
    envHundredths environment =
      if lowerText environment = "staging" then 60
      else if ["dev", "development"].contains (lowerText environment) then 30
      else if lowerText environment = "test" then 20 else 50 := by
  simp only [List.mem_cons, List.not_mem_nil, or_false, not_or] at outside
  obtain ⟨first, second⟩ := outside
  unfold envHundredths
  by_cases staging : lowerText environment = "staging"
  · rw [staging]
    decide
  by_cases dev : lowerText environment = "dev"
  · rw [dev]
    decide
  by_cases development : lowerText environment = "development"
  · rw [development]
    decide
  by_cases test : lowerText environment = "test"
  · rw [test]
    decide
  by_cases unknown : lowerText environment = "unknown"
  · rw [unknown]
    decide
  have unlisted : envFactors.lookup (lowerText environment) = none := by
    rw [List.lookup_eq_none_iff]
    simp [envFactors, *]
  rw [unlisted]
  simp [staging, dev, development, test]

end Attributes

section Skip

variable {context : SecretContext} (resourceCount highPriv : Nat)

/-- The severity of a skipped secret is low up to the limit of its environment and its type. -/
theorem skippable_low_iff (skippable : context.Skippable) :
    (severityScore (F := ℝ) resourceCount highPriv context.environment context.exposureStatus
      context.secretType).bucket = .low ↔
      resourceCount + highPriv ≤ skipLimit context.environment context.secretType := by
  have base : exposureBase context.exposureStatus = 10 := by
    rw [exposureBase, skippable.inactive]
    decide
  rw [severityScore_low_iff, attributeHundredths, base, typeBump_plain skippable.plain,
    envHundredths_outside skippable.outside, skipLimit]
  split_ifs
  · exact lowLevel_iff 399 160 (by decide) (by decide) (by decide) (by decide +kernel)
      (by decide +kernel)
  · exact lowLevel_iff 14 5 (by decide) (by decide) (by decide) (by decide +kernel)
      (by decide +kernel)
  · exact lowLevel_iff 609 160 (by decide) (by decide) (by decide) (by decide +kernel)
      (by decide +kernel)
  · exact lowLevel_iff 329 80 (by decide) (by decide) (by decide) (by decide +kernel)
      (by decide +kernel)
  · exact lowLevel_iff 679 160 (by decide) (by decide) (by decide) (by decide +kernel)
      (by decide +kernel)
  · exact lowLevel_iff 91 20 (by decide) (by decide) (by decide) (by decide +kernel)
      (by decide +kernel)
  · exact lowLevel_iff 469 160 (by decide) (by decide) (by decide) (by decide +kernel)
      (by decide +kernel)
  · exact lowLevel_iff 259 80 (by decide) (by decide) (by decide) (by decide +kernel)
      (by decide +kernel)

/-- A secret that triage skips has a low severity with these resources. -/
def SecretContext.SkipIsLow (context : SecretContext) (resourceCount highPriv : Nat) : Prop :=
  triageRouting context = .skip →
    (severityScore (F := ℝ) resourceCount highPriv context.environment context.exposureStatus
      context.secretType).bucket = .low

/-- Triage skips only secrets of low severity as long as their resources stay within the limit. -/
theorem skipIsLow_iff (context : SecretContext) :
    context.SkipIsLow resourceCount highPriv ↔
      ¬ context.Skippable ∨
        resourceCount + highPriv ≤ skipLimit context.environment context.secretType := by
  rw [SecretContext.SkipIsLow, triageRouting_skip_iff, ← imp_iff_not_or]
  exact forall_congr' fun skippable => skippable_low_iff resourceCount highPriv skippable

end Skip

section Example

/-- An inactive password of the staging environment. -/
def stagingPassword : SecretContext where
  secretId := 1
  workspaceId := 2
  investigationId := 3
  secretType := "password"
  environment := "staging"
  exposureStatus := "inactive"

/-- Triage skips it although it scores higher with six resources. -/
theorem stagingPassword_skipped : ¬ stagingPassword.SkipIsLow 6 0 := by
  intro low
  have skippable : stagingPassword.Skippable := by decide
  have within := (skippable_low_iff 6 0 skippable).mp
    (low ((triageRouting_skip_iff stagingPassword).mpr skippable))
  exact absurd within (by decide)

end Example

end Sprawl
