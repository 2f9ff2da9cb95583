/-
This file gives the rounding to the nearest integer and compares binary logarithms with fractions.
-/

import Mathlib.Algebra.Order.Floor.Ring
import Mathlib.Analysis.SpecialFunctions.Log.Base

namespace Numeric

section Rounding

variable {K : Type} [Field K] [LinearOrder K] [IsStrictOrderedRing K] [FloorRing K]

/-- Of two integers that are equally near, the even one is taken. -/
def roundHalfEven (value : K) : Int :=
  let below := ⌊value⌋
  let above := value - below
  if above < 1 / 2 then below
  else if 1 / 2 < above then below + 1
  else if below % 2 = 0 then below else below + 1

/-- A value is next to its nearest integer. In the middle of two integers it goes to an even one. -/
theorem roundHalfEven_near (value : K) :
    (roundHalfEven value - 1 / 2 < value ∧ value < roundHalfEven value + 1 / 2) ∨
      roundHalfEven value % 2 = 0 ∧
        (value = roundHalfEven value - 1 / 2 ∨ value = roundHalfEven value + 1 / 2) := by
  have lower : (⌊value⌋ : K) ≤ value := Int.floor_le value
  have upper : value < ⌊value⌋ + 1 := Int.lt_floor_add_one value
  unfold roundHalfEven
  dsimp only
  split
  · next small => exact Or.inl ⟨by linarith, by linarith⟩
  split
  · next small large =>
      push_cast
      exact Or.inl ⟨by linarith, by linarith⟩
  · next small large =>
      have middle : value = ⌊value⌋ + 1 / 2 := by linarith [not_lt.mp small, not_lt.mp large]
      right
      split
      · next even => exact ⟨even, Or.inr middle⟩
      · next odd =>
          refine ⟨by omega, Or.inl ?_⟩
          push_cast
          linarith

/-- A value rounds to at most an integer up to the middle behind it, which goes to an even one. -/
theorem roundHalfEven_le_iff {value : K} {bound : Int} :
    roundHalfEven value ≤ bound ↔
      value < bound + 1 / 2 ∨ value = bound + 1 / 2 ∧ bound % 2 = 0 := by
  have near := roundHalfEven_near value
  obtain less | rfl | more := lt_trichotomy (roundHalfEven value) bound
  · have far : (roundHalfEven value : K) + 1 ≤ bound := by exact_mod_cast less
    refine iff_of_true less.le (Or.inl ?_)
    rcases near with ⟨_, before⟩ | ⟨_, same | same⟩ <;> linarith
  · refine iff_of_true le_rfl ?_
    rcases near with ⟨_, before⟩ | ⟨even, same | same⟩
    · exact Or.inl before
    · left
      linarith
    · exact Or.inr ⟨same, even⟩
  · have far : (bound : K) + 1 ≤ roundHalfEven value := by exact_mod_cast more
    refine iff_of_false (not_le.mpr more) ?_
    rintro (before | ⟨same, even⟩)
    · rcases near with ⟨behind, _⟩ | ⟨_, middle | middle⟩ <;> linarith
    · rcases near with ⟨behind, _⟩ | ⟨evenToo, middle | middle⟩
      · linarith
      · have next : (roundHalfEven value : K) = (bound + 1 : Int) := by
          push_cast
          linarith
        have successor := Int.cast_inj.mp next
        omega
      · linarith

theorem roundHalfEven_mono {first second : K} (less : first ≤ second) :
    roundHalfEven first ≤ roundHalfEven second := by
  rw [roundHalfEven_le_iff]
  obtain before | ⟨same, even⟩ := roundHalfEven_le_iff.mp (le_refl (roundHalfEven second))
  · exact Or.inl (less.trans_lt before)
  · obtain before | equal := lt_or_eq_of_le (less.trans_eq same)
    · exact Or.inl before
    · exact Or.inr ⟨equal, even⟩

/-- An integer is its own nearest integer. -/
theorem roundHalfEven_intCast (value : Int) : roundHalfEven (value : K) = value := by
  unfold roundHalfEven
  simp

end Rounding

section Logarithm

/-- The binary logarithm. -/
noncomputable def log2 (value : ℝ) : ℝ := Real.logb 2 value

theorem log2_one : log2 1 = 0 := Real.logb_one

theorem log2_two : log2 2 = 1 := Real.logb_self_eq_one one_lt_two

theorem log2_nonneg {value : ℝ} (one : 1 ≤ value) : 0 ≤ log2 value := Real.logb_nonneg one_lt_two one

theorem log2_mono {first second : ℝ} (positive : 0 < first) (less : first ≤ second) :
    log2 first ≤ log2 second :=
  Real.logb_le_logb_of_le one_lt_two positive less

/-- A binary logarithm reaches a number exactly if the value reaches the power of two. -/
theorem le_log2_iff {power : Nat} {value : ℝ} (positive : 0 < value) :
    (power : ℝ) ≤ log2 value ↔ 2 ^ power ≤ value := by
  rw [log2, Real.le_logb_iff_rpow_le one_lt_two positive, Real.rpow_natCast]

/-- A binary logarithm is at most a fraction exactly if the power is at most the power of two. -/
theorem log2_le_div_iff {value power root : Nat} (positive : 0 < value) (some : 0 < root) :
    log2 value ≤ (power : ℝ) / root ↔ value ^ root ≤ 2 ^ power := by
  have rootPositive : (0 : ℝ) < root := Nat.cast_pos.mpr some
  have valuePositive : (0 : ℝ) < (value : ℝ) ^ root := pow_pos (Nat.cast_pos.mpr positive) root
  calc log2 value ≤ (power : ℝ) / root
      ↔ root * Real.logb 2 value ≤ power := by rw [log2, le_div_iff₀ rootPositive, mul_comm]
    _ ↔ Real.logb 2 ((value : ℝ) ^ root) ≤ power := by rw [Real.logb_pow]
    _ ↔ (value : ℝ) ^ root ≤ 2 ^ (power : ℝ) :=
        Real.logb_le_iff_le_rpow one_lt_two valuePositive
    _ ↔ value ^ root ≤ 2 ^ power := by
        rw [Real.rpow_natCast]
        exact_mod_cast Iff.rfl

end Logarithm

end Numeric
