/-
This file gives the canonical texts of objects, and proves when a float survives a `jsonb` column.
-/

import Mathlib.Data.List.Nodup
import Mathlib.Data.String.Basic
import Sprawl.Audit.Jsonb
import Sprawl.Text.Meeting

namespace Sprawl

open Text

section Lists

theorem canonicalItems_eq (items : List Json) : canonicalItems items = items.map canonicalJson := by
  induction items with
  | nil => rfl
  | cons item rest ih => rw [canonicalItems, ih, List.map_cons]

theorem canonicalFields_eq (fields : List (String × Json)) :
    canonicalFields fields = fields.map fun field => (field.1, canonicalJson field.2) := by
  induction fields with
  | nil => rfl
  | cons field rest ih => rw [canonicalFields, ih, List.map_cons]

theorem jsonbItems_eq (items : List Json) : jsonbItems items = items.map jsonb := by
  induction items with
  | nil => rfl
  | cons item rest ih => rw [jsonbItems, ih, List.map_cons]

theorem jsonbFields_eq (fields : List (String × Json)) :
    jsonbFields fields = fields.map fun field => (field.1, jsonb field.2) := by
  induction fields with
  | nil => rfl
  | cons field rest ih => rw [jsonbFields, ih, List.map_cons]

end Lists

section Fields

instance : Std.Total byName := ⟨fun first second => le_total first.1 second.1⟩

instance : IsTrans (String × Json) byName := ⟨fun _ _ _ => le_trans⟩

/-- One field of a canonical object. -/
def fieldText (field : String × Json) : String :=
  quoteString field.1 ++ ":" ++ canonicalJson field.2

/-- A canonical object renders its sorted fields. -/
theorem canonicalJson_obj (fields : List (String × Json)) :
    canonicalJson (.obj fields) =
      "\x7b" ++ String.intercalate "," ((fields.insertionSort byName).map fieldText) ++ "\x7d" := by
  have sorted : (canonicalFields fields).insertionSort byKey =
      (fields.insertionSort byName).map fun field => (field.1, canonicalJson field.2) := by
    rw [canonicalFields_eq]
    exact (List.map_insertionSort byName byKey _ fields fun _ _ _ _ => Iff.rfl).symm
  rw [canonicalJson, sorted, List.map_map]
  rfl

/-- The order in which a column keeps distinct keys makes no difference to the sorted fields. -/
theorem insertionSort_jsonb {fields : List (String × Json)}
    (distinct : (fields.map (·.1)).Nodup) :
    ((jsonbFields fields).insertionSort byKeyLength).insertionSort byName =
      (fields.insertionSort byName).map fun field => (field.1, jsonb field.2) := by
  have same : (fields.insertionSort byName).map (fun field => (field.1, jsonb field.2)) =
      (jsonbFields fields).insertionSort byName := by
    rw [jsonbFields_eq]
    exact List.map_insertionSort byName byName _ fields fun _ _ _ _ => Iff.rfl
  rw [same]
  apply @List.Perm.eq_of_pairwise _ byName
  · intro first second inFirst inSecond before after
    simp only [List.mem_insertionSort] at inFirst inSecond
    have keys : ((jsonbFields fields).map (·.1)).Nodup := by
      rw [jsonbFields_eq, List.map_map]
      exact distinct
    exact List.inj_on_of_nodup_map keys inFirst inSecond (le_antisymm before after)
  · exact List.pairwise_insertionSort byName _
  · exact List.pairwise_insertionSort byName _
  · exact ((List.perm_insertionSort byName _).trans (List.perm_insertionSort byKeyLength _)).trans
      (List.perm_insertionSort byName _).symm

end Fields

section Floats

variable (value : PyFloat)

/-- The second character of a number with an exponent is no digit. -/
theorem scientific_second {digits : List Char} (some : digits ≠ []) (exponent : Int) :
    ∃ mark, (scientific digits exponent)[1]? = .some mark ∧ mark.isDigit = false := by
  match digits, some with
  | [first], _ => exact ⟨'e', rfl, rfl⟩
  | first :: second :: rest, _ => exact ⟨'.', rfl, rfl⟩

/-- A float with a positive exponent is at least ten. -/
theorem PyFloat.ten_le_of_large (large : 16 < value.point) :
    10 ≤ value.significand * Nat.pow 10 value.exponent.toNat := by
  have normal := value.normal
  unfold PyFloat.point at large
  by_cases small : value.significand < 10
  · rw [Nat.toDigits_of_lt_base small] at large
    have positive : 1 ≤ value.significand := by
      by_contra zero
      have isZero : value.significand = 0 := by omega
      rw [isZero] at normal
      simp only [List.length_singleton] at large
      omega
    have exponent : 1 ≤ value.exponent.toNat := by
      simp only [List.length_singleton] at large
      omega
    calc 10 = 1 * 10 ^ 1 := rfl
      _ ≤ value.significand * Nat.pow 10 value.exponent.toNat :=
        Nat.mul_le_mul positive (Nat.pow_le_pow_right (by decide) exponent)
  · calc 10 ≤ value.significand := Nat.le_of_not_lt small
      _ ≤ value.significand * Nat.pow 10 value.exponent.toNat :=
        Nat.le_mul_of_pos_right _ (Nat.pow_pos (by decide))

/-- The digits of a large integer never meet a number with an exponent. -/
theorem toDigits_meets_scientific {magnitude : Nat} (large : 10 ≤ magnitude) {digits : List Char}
    (some : digits ≠ []) (exponent : Int) :
    Meets (Nat.toDigits 10 magnitude) (scientific digits exponent) False := by
  obtain ⟨mark, atSecond, noDigit⟩ := scientific_second some exponent
  have long : 1 < (Nat.toDigits 10 magnitude).length := by
    by_contra short
    have bounded := (Nat.length_toDigits_le_iff (by decide) Nat.one_pos).mp (Nat.le_of_not_lt short)
    omega
  apply meets_never (List.getElem?_eq_getElem long) atSecond
  have digit := Nat.isDigit_of_mem_toDigits (by decide) (by decide) (List.getElem_mem long)
  rintro same
  rw [same, noDigit] at digit
  exact Bool.false_ne_true digit

theorem PyFloat.toList_repr :
    value.repr.toList = (if value.negative then ['-'] else []) ++ value.digits := by
  unfold PyFloat.repr
  split <;> simp

theorem toList_natural (number : Nat) :
    (toString (number : Int)).toList = Nat.toDigits 10 number := by
  rw [Int.toString_eq_repr, Int.repr_eq_if, if_pos (Int.natCast_nonneg number), Int.toNat_natCast,
    Nat.toList_repr]

theorem toList_negative {number : Nat} (positive : 0 < number) :
    (toString (-(number : Int))).toList = '-' :: Nat.toDigits 10 number := by
  rw [Int.toString_eq_repr, Int.repr_eq_if, if_neg (by omega), Int.neg_neg, Int.toNat_natCast,
    String.toList_append, Nat.toList_repr]
  rfl

/-- A large float is read back as an integer, with another text. -/
theorem large_meets (large : 16 < value.point) :
    Meets (canonicalJson value.stored).toList (canonicalJson (.float value)).toList False := by
  have magnitude := value.ten_le_of_large large
  have digits : value.digits = scientific (Nat.toDigits 10 value.significand) (value.point - 1) := by
    unfold PyFloat.digits
    rw [if_pos (Or.inr large)]
  have never := toDigits_meets_scientific magnitude
    (Nat.toDigits_ne_nil (n := value.significand) (b := 10)) (value.point - 1)
  have stored : value.stored = .int (if value.negative
      then -(value.significand * Nat.pow 10 value.exponent.toNat : Nat)
      else (value.significand * Nat.pow 10 value.exponent.toNat : Nat)) := if_pos large
  rw [stored, canonicalJson, canonicalJson, value.toList_repr, digits]
  cases value.negative with
  | true =>
      rw [if_pos rfl, if_pos rfl, toList_negative (by omega)]
      exact never.cons '-'
  | false =>
      rw [if_neg Bool.false_ne_true, if_neg Bool.false_ne_true, toList_natural]
      exact never

/-- The negative zero loses its sign. -/
theorem negativeZero_meets (negative : value.negative = true) (nothing : value.significand = 0) :
    Meets (canonicalJson value.stored).toList (canonicalJson (.float value)).toList False := by
  have exponent : value.exponent = 0 := by
    have normal := value.normal
    omega
  have digits (sign : Bool) : ({ value with negative := sign } : PyFloat).digits =
      ['0', '.', '0'] := by
    simp [PyFloat.digits, PyFloat.point, nothing, exponent]
  have small : ¬ 16 < value.point := by simp [PyFloat.point, nothing, exponent]
  have stored : value.stored = .float { value with negative := false } := by
    simp [PyFloat.stored, small, nothing]
  rw [stored, canonicalJson, canonicalJson, PyFloat.toList_repr, PyFloat.toList_repr, digits false,
    show value.digits = _ from digits value.negative, negative]
  exact @meets_never _ _ _ 0 '0' '-' rfl rfl (by decide)

/-- A float that survives is given back. -/
theorem stored_of_survives (alive : value.survives = true) : value.stored = .float value := by
  simp only [PyFloat.survives, Bool.and_eq_true, decide_eq_true_eq, Bool.not_eq_true',
    Bool.and_eq_false_iff, decide_eq_false_iff_not] at alive
  obtain ⟨small, positive⟩ := alive
  have sign : (value.negative && decide (value.significand ≠ 0)) = value.negative := by
    obtain negative | some := positive
    · rw [negative, Bool.false_and]
    · simp [some]
  unfold PyFloat.stored
  rw [if_neg (Int.not_lt.mpr small), sign]

/-- A float survives exactly if its text does. -/
theorem stored_meets :
    Meets (canonicalJson value.stored).toList (canonicalJson (.float value)).toList
      (value.survives = true) := by
  cases alive : value.survives with
  | true =>
      rw [stored_of_survives value alive]
      exact (meets_self _).congr (by simp)
  | false =>
      have doomed : 16 < value.point ∨ value.negative = true ∧ value.significand = 0 := by
        simp only [PyFloat.survives, Bool.and_eq_false_iff, decide_eq_false_iff_not,
          Bool.not_eq_false', Bool.and_eq_true, decide_eq_true_eq] at alive
        exact alive.imp_left Int.not_le.mp
      obtain large | ⟨negative, nothing⟩ := doomed
      · exact (large_meets value large).congr (by simp)
      · exact (negativeZero_meets value negative nothing).congr (by simp)

end Floats

end Sprawl
