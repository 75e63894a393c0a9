import Mathlib.Data.List.GetD
import Mathlib.Data.List.Sort
import H3Bench.Python.Float

/-! # The numeric helpers of collect_results.py

`safe_float`, `safe_int`, `median_ignore_nan` and `parse_cpu_percent` read the loose values of
summaries and resource logs as numbers and never raise: whatever they cannot read becomes NaN, or
the default. `statistics.median` sorts the numbers, and a sorted permutation of a list of exact
rationals is unique, so `medianIgnoreNan_perm` shows the median does not depend on the order of
its values.
-/

namespace H3Bench

def PyFloat.num? : PyFloat → Option ℚ
  | .num q => some q
  | .nan _ => none

@[simp] theorem PyFloat.num?_num (q : ℚ) : (PyFloat.num q).num? = some q := rfl
@[simp] theorem PyFloat.num?_nan (o : Option Nat) : (PyFloat.nan o).num? = none := rfl

theorem PyFloat.num?_eq_none_iff {x : PyFloat} : x.num? = none ↔ x.isNan := by
  cases x <;> simp

/-- `safe_float(x)`. A `float` comes back as the very object; every other NaN is new. The text of a
list or a dict starts with a bracket, which `float()` rejects. -/
def safeFloat : PyVal → PyFloat
  | .none => .nan none
  | .bool b => .num (if b then 1 else 0)
  | .int i => .num i
  | .float x => x
  | .str s => if strip s.data = [] then .nan none else (floatOfText (strip s.data)).getD (.nan none)
  | .list _ => .nan none
  | .dict _ => .nan none

/-- `safe_int(x, default)`. An `int` comes back as it is, a `bool` included. The text of a float
reads back as the same float, which `int()` truncates. -/
def safeInt (x : PyVal) (default : Int) : PyVal :=
  match x with
  | .none => .int default
  | .bool b => .bool b
  | .int i => .int i
  | .float f => .int (f.toInt?.getD default)
  | .str s =>
      if strip s.data = [] then .int default
      else .int (((floatOfText (strip s.data)).bind PyFloat.toInt?).getD default)
  | .list _ => .int default
  | .dict _ => .int default

/-- `statistics.median` of a non-empty list: the middle of the sorted list, or the mean of its two
middles. -/
def median (xs : List ℚ) : ℚ :=
  let s := xs.mergeSort fun a b => decide (a ≤ b)
  if s.length % 2 = 1 then s.getD (s.length / 2) 0
  else (s.getD (s.length / 2 - 1) 0 + s.getD (s.length / 2) 0) / 2

/-- The numbers `safe_float` reads from the values. -/
def safeNumbers (values : List PyVal) : List ℚ :=
  values.filterMap fun v => (safeFloat v).num?

def medianIgnoreNan (values : List PyVal) : PyFloat :=
  if safeNumbers values = [] then .nan none else .num (median (safeNumbers values))

/-- `parse_cpu_percent(s)`: the number before an optional final `%`. -/
def parseCpuPercent (s : Option String) : PyFloat :=
  let t := strip (s.getD "").data
  (floatOfText (if t.getLast? = some '%' then strip t.dropLast else t)).getD (.nan none)

/-! ## Medians -/

private theorem sorted_mergeSort_le (xs : List ℚ) :
    (xs.mergeSort fun a b => decide (a ≤ b)).Sorted (· ≤ ·) := by
  have h := @List.sorted_mergeSort ℚ (fun a b => decide (a ≤ b))
    (fun a b c hab hbc => by simp only [decide_eq_true_eq] at *; exact le_trans hab hbc)
    (fun a b => by simpa using le_total a b) xs
  exact h.imp (by simp)

/-- Sorting a permutation gives the same list, so the median ignores the order of its values. -/
theorem median_perm {xs ys : List ℚ} (h : xs.Perm ys) : median xs = median ys := by
  have hs : (xs.mergeSort fun a b => decide (a ≤ b)) = ys.mergeSort fun a b => decide (a ≤ b) :=
    List.eq_of_perm_of_sorted (((List.mergeSort_perm _ _).trans h).trans (List.mergeSort_perm _ _).symm)
      (sorted_mergeSort_le xs) (sorted_mergeSort_le ys)
  simp only [median, hs]

theorem safeNumbers_perm {vs ws : List PyVal} (h : vs.Perm ws) : (safeNumbers vs).Perm (safeNumbers ws) :=
  h.filterMap _

theorem medianIgnoreNan_perm {vs ws : List PyVal} (h : vs.Perm ws) :
    medianIgnoreNan vs = medianIgnoreNan ws := by
  have hp := safeNumbers_perm h
  have hnil : safeNumbers vs = [] ↔ safeNumbers ws = [] := by
    simp only [← List.length_eq_zero, hp.length_eq]
  simp only [medianIgnoreNan, hnil, median_perm hp]

/-! ## Reading numbers -/

@[simp] theorem safeFloat_float (x : PyFloat) : safeFloat (.float x) = x := rfl

@[simp] theorem safeInt_int (i d : Int) : safeInt (.int i) d = .int i := rfl

end H3Bench
