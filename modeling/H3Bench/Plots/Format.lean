import Mathlib.Data.Nat.Digits
import Mathlib.Data.Rat.Floor
import H3Bench.Plots.LatexEscape
import H3Bench.Python.Float

/-! # `format_cell` (make_plots.py)

The LaTeX tables print their numbers through `float()`, `round()` and the fixed-point formats
`.1f` and `.3f`. On the exact value of a float both round half to even: `round(x)` to an integer,
`f"{x:.nf}"` to `n` decimals, written with a `-` for a negative value even when every digit is
zero. A cell whose value `float()` cannot read falls back to `latex_escape(str(val))` or `--`.

`fixedText_close` bounds the error of the format: the literal printed is the value to within half
a unit of its last decimal. `formatCell_integer` is the same for the integer columns, whose text
`float()` reads back exactly.
-/

namespace H3Bench

/-! ## Rounding -/

/-- `round(x)` on the exact value of a float: the nearest integer, ties to the even one. -/
def roundHalfEven (q : ℚ) : Int :=
  if q - ⌊q⌋ < 1 / 2 then ⌊q⌋
  else if 1 / 2 < q - ⌊q⌋ then ⌊q⌋ + 1
  else if ⌊q⌋ % 2 = 0 then ⌊q⌋ else ⌊q⌋ + 1

theorem abs_sub_roundHalfEven_le (q : ℚ) : |q - roundHalfEven q| ≤ 1 / 2 := by
  have h₁ := Int.floor_le q
  have h₂ := Int.lt_floor_add_one q
  rw [abs_le]
  unfold roundHalfEven
  split_ifs <;> push_cast <;> constructor <;> linarith

example : roundHalfEven (5 / 2) = 2 ∧ roundHalfEven (7 / 2) = 4 := by norm_num [roundHalfEven]

@[simp] theorem roundHalfEven_intCast (i : Int) : roundHalfEven i = i := by
  simp [roundHalfEven]

theorem roundHalfEven_nonneg {q : ℚ} (h : 0 ≤ q) : 0 ≤ roundHalfEven q := by
  have := Int.floor_nonneg.mpr h
  unfold roundHalfEven
  split_ifs <;> omega

/-! ## Decimal digits -/

theorem digitChar_isDigit {d : Nat} (h : d < 10) : (Nat.digitChar d).isDigit := by
  have hall : ∀ d < 10, (Nat.digitChar d).isDigit = true := by decide
  exact hall d h

theorem digitChar_value {d : Nat} (h : d < 10) : digitValue? (Nat.digitChar d) = some d := by
  have hall : ∀ d < 10, digitValue? (Nat.digitChar d) = some d := by decide
  exact hall d h

private theorem foldl_digits (l : List Char) (a : Nat) :
    l.foldl (fun n c => 10 * n + (digitValue? c).getD 0) a = a * 10 ^ l.length + digitsValue l := by
  induction l generalizing a with
  | nil => simp [digitsValue]
  | cons c l ih =>
      simp only [digitsValue, List.foldl_cons, List.length_cons]
      rw [ih, ih (10 * 0 + _)]
      ring

theorem digitsValue_append (a b : List Char) :
    digitsValue (a ++ b) = digitsValue a * 10 ^ b.length + digitsValue b := by
  rw [digitsValue, List.foldl_append, foldl_digits]
  rfl

theorem digitsValue_digitChar {d : Nat} (h : d < 10) : digitsValue [Nat.digitChar d] = d := by
  simp [digitsValue, digitChar_value h]

theorem toDigitsCore_isDigit (fuel n : Nat) {ds : List Char} (h : ∀ c ∈ ds, c.isDigit) :
    ∀ c ∈ Nat.toDigitsCore 10 fuel n ds, c.isDigit := by
  induction fuel generalizing n ds with
  | zero => exact h
  | succ fuel ih =>
      have hds : ∀ c ∈ Nat.digitChar (n % 10) :: ds, c.isDigit := by
        simpa using ⟨digitChar_isDigit (Nat.mod_lt n (by omega)), h⟩
      simp only [Nat.toDigitsCore]
      split_ifs
      exacts [hds, ih _ hds]

theorem digitsValue_toDigitsCore (fuel n : Nat) (ds : List Char) (hn : n < fuel) :
    digitsValue (Nat.toDigitsCore 10 fuel n ds) = n * 10 ^ ds.length + digitsValue ds := by
  induction fuel generalizing n ds with
  | zero => omega
  | succ fuel ih =>
      have hcons : digitsValue (Nat.digitChar (n % 10) :: ds) = n % 10 * 10 ^ ds.length + digitsValue ds := by
        rw [← List.singleton_append, digitsValue_append, digitsValue_digitChar (Nat.mod_lt n (by omega))]
      simp only [Nat.toDigitsCore]
      split_ifs with h0
      · rw [hcons, Nat.mod_eq_of_lt (by omega)]
      · rw [ih _ _ (by omega), hcons, List.length_cons, Nat.pow_succ]
        conv_rhs => rw [← Nat.div_add_mod n 10]
        ring

theorem toDigits_isDigit (n : Nat) : ∀ c ∈ Nat.toDigits 10 n, c.isDigit :=
  toDigitsCore_isDigit _ n (by simp)

theorem digitsValue_toDigits (n : Nat) : digitsValue (Nat.toDigits 10 n) = n := by
  rw [Nat.toDigits, digitsValue_toDigitsCore _ n [] (by omega)]
  simp [digitsValue]

theorem toDigitsCore_ne_nil (fuel n : Nat) {ds : List Char} (h : ds ≠ []) :
    Nat.toDigitsCore 10 fuel n ds ≠ [] := by
  induction fuel generalizing n ds with
  | zero => exact h
  | succ fuel ih =>
      simp only [Nat.toDigitsCore]
      split_ifs
      exacts [List.cons_ne_nil _ _, ih _ (List.cons_ne_nil _ _)]

theorem toDigits_ne_nil (n : Nat) : Nat.toDigits 10 n ≠ [] := by
  simp only [Nat.toDigits, Nat.toDigitsCore]
  split_ifs
  exacts [List.cons_ne_nil _ _, toDigitsCore_ne_nil _ _ (List.cons_ne_nil _ _)]

def fracDigits : Nat → Nat → List Char
  | 0, _ => []
  | n + 1, m => fracDigits n (m / 10) ++ [Nat.digitChar (m % 10)]

@[simp] theorem length_fracDigits (n m : Nat) : (fracDigits n m).length = n := by
  induction n generalizing m <;> simp [fracDigits, *]

theorem fracDigits_isDigit (n m : Nat) : ∀ c ∈ fracDigits n m, c.isDigit := by
  induction n generalizing m with
  | zero => simp [fracDigits]
  | succ n ih =>
      intro c hc
      rcases List.mem_append.mp hc with hc | hc
      · exact ih _ c hc
      · rw [List.mem_singleton.mp hc]
        exact digitChar_isDigit (Nat.mod_lt m (by omega))

theorem digitsValue_fracDigits (n m : Nat) : digitsValue (fracDigits n m) = m % 10 ^ n := by
  induction n generalizing m with
  | zero => simp [fracDigits, digitsValue, Nat.mod_one]
  | succ n ih =>
      rw [fracDigits, digitsValue_append, ih, Nat.pow_succ, Nat.mul_comm (10 ^ n) 10, Nat.mod_mul]
      rw [digitsValue_digitChar (Nat.mod_lt m (by omega)), List.length_singleton]
      ring

/-! ## Fixed-point texts -/

theorem bne_point_of_isDigit {c : Char} (h : c.isDigit) : (c != '.') = true := by
  rw [bne_iff_ne]
  rintro rfl
  exact absurd h (by decide)

theorem magnitudeValue_whole {d : List Char} (hd : ∀ c ∈ d, c.isDigit) :
    magnitudeValue d = digitsValue d := by
  have hall : ∀ c ∈ d, (c != '.') = true := fun c hc => bne_point_of_isDigit (hd c hc)
  simp [magnitudeValue, literalValue, List.takeWhile_eq_self_iff.mpr hall,
    List.dropWhile_eq_nil_iff.mpr hall]

theorem magnitudeValue_point {d₁ d₂ : List Char} (hd₁ : ∀ c ∈ d₁, c.isDigit) :
    magnitudeValue (d₁ ++ '.' :: d₂) = digitsValue (d₁ ++ d₂) / 10 ^ d₂.length := by
  have hall : ∀ c ∈ d₁, (c != '.') = true := fun c hc => bne_point_of_isDigit (hd₁ c hc)
  simp [magnitudeValue, literalValue, List.takeWhile_append_of_pos hall,
    List.dropWhile_append_of_pos hall]

/-- `float()` of a plain literal after a minus sign is the negated value of the literal. -/
theorem floatOfText_neg_magnitude {m : List Char} (h : IsMagnitude m) :
    floatOfText ('-' :: m) = some (.num (-magnitudeValue m)) := by
  obtain ⟨c, r, hm⟩ := List.exists_cons_of_ne_nil h.ne_nil
  have hc := h.head c (by simp [hm])
  have hlast : ∀ x ∈ ('-' :: m).getLast?, isSpace x = false := by
    rw [hm, List.getLast?_cons_cons, ← hm]
    exact fun x hx => isSpace_of_isDigit (h.last x hx)
  have hstrip : strip ('-' :: m) = '-' :: m := strip_eq_self (by simp [isSpace]) hlast
  have hlow : c.toLower ≠ 'n' := by
    rcases hc with hc | rfl
    · rw [toLower_of_isDigit hc]
      rintro rfl
      exact absurd hc (by decide)
    · decide
  have hlit := decimalLiteral_magnitude h
  rw [hm] at hstrip hlit ⊢
  simp [floatOfText, hstrip, hlit, lower, hlow]

/-- The text of `m / 10 ^ n` with `n` decimals: the integer part, then a point and the decimals
when there are any. -/
def fixedDigits (n m : Nat) : List Char :=
  Nat.toDigits 10 (m / 10 ^ n) ++ (if n = 0 then [] else '.' :: fracDigits n m)

/-- `f"{x:.nf}"`: a NaN prints as `nan`, a number as its value rounded half to even to `n`
decimals, after a `-` when it is negative. -/
def fixedText (n : Nat) : PyFloat → String
  | .nan _ => "nan"
  | .num q => ⟨(if q < 0 then ['-'] else []) ++ fixedDigits n (roundHalfEven (|q| * 10 ^ n)).toNat⟩

theorem fixedDigits_magnitude (n m : Nat) : IsMagnitude (fixedDigits n m) := by
  unfold fixedDigits
  split_ifs with hn
  · rw [List.append_nil]
    exact .whole (toDigits_ne_nil _) (toDigits_isDigit _)
  · exact .point (toDigits_isDigit _) (List.ne_nil_of_length_pos (by simp; omega)) (fracDigits_isDigit n m)

theorem magnitudeValue_fixedDigits (n m : Nat) : magnitudeValue (fixedDigits n m) = m / 10 ^ n := by
  unfold fixedDigits
  split_ifs with hn
  · subst hn
    simp [magnitudeValue_whole (toDigits_isDigit _), digitsValue_toDigits]
  · rw [magnitudeValue_point (toDigits_isDigit _), digitsValue_append, digitsValue_toDigits,
      digitsValue_fracDigits, length_fracDigits, Nat.div_add_mod']

theorem fixedDigits_chars (n m : Nat) : ∀ c ∈ fixedDigits n m, c.isDigit ∨ c = '.' := by
  intro c hc
  rcases List.mem_append.mp hc with hc | hc
  · exact .inl (toDigits_isDigit _ c hc)
  · split_ifs at hc
    · simp at hc
    · rcases List.mem_cons.mp hc with rfl | hc
      exacts [.inr rfl, .inl (fracDigits_isDigit n m c hc)]

theorem abs_fixedValue_sub_le (n : Nat) {x : ℚ} (hx : 0 ≤ x) :
    |((roundHalfEven (x * 10 ^ n)).toNat : ℚ) / 10 ^ n - x| ≤ 1 / (2 * 10 ^ n) := by
  have hpos : (0 : ℚ) < 10 ^ n := by positivity
  have hR := abs_sub_roundHalfEven_le (x * 10 ^ n)
  have hcast : (((roundHalfEven (x * 10 ^ n)).toNat : ℕ) : ℚ) = roundHalfEven (x * 10 ^ n) := by
    rw [← Int.cast_natCast, Int.toNat_of_nonneg (roundHalfEven_nonneg (by positivity))]
  rw [hcast, show (roundHalfEven (x * 10 ^ n) : ℚ) / 10 ^ n - x =
      -(x * 10 ^ n - roundHalfEven (x * 10 ^ n)) / 10 ^ n by field_simp; ring,
    abs_div, abs_neg, abs_of_pos hpos, div_le_iff₀ hpos]
  calc |x * 10 ^ n - roundHalfEven (x * 10 ^ n)| ≤ 1 / 2 := hR
    _ = 1 / (2 * 10 ^ n) * 10 ^ n := by field_simp

/-- `f"{x:.nf}"` of a number is a `-` when the number is negative and a plain literal whose value,
with that sign, is the number to within half a unit of the `n`-th decimal. -/
theorem fixedText_close (n : Nat) (q : ℚ) :
    ∃ m, IsMagnitude m ∧ (fixedText n (.num q)).data = (if q < 0 then ['-'] else []) ++ m ∧
      |(if q < 0 then -magnitudeValue m else magnitudeValue m) - q| ≤ 1 / (2 * 10 ^ n) := by
  have hclose := abs_fixedValue_sub_le n (abs_nonneg q)
  set k := (roundHalfEven (|q| * 10 ^ n)).toNat
  refine ⟨fixedDigits n k, fixedDigits_magnitude n k, rfl, ?_⟩
  rw [magnitudeValue_fixedDigits]
  split_ifs with hq
  · rw [abs_of_neg hq] at hclose
    rw [show ∀ a : ℚ, -a - q = -(a - -q) from fun a => by ring, abs_neg]
    exact hclose
  · rwa [abs_of_nonneg (not_lt.mp hq)] at hclose

/-- `float(str(i))` is `i`. -/
theorem floatOfText_intText (i : Int) : floatOfText (toString i).data = some (.num i) := by
  cases i with
  | ofNat m =>
      rw [show (toString (Int.ofNat m)).data = Nat.toDigits 10 m from rfl,
        floatOfText_magnitude (.whole (toDigits_ne_nil m) (toDigits_isDigit m)),
        magnitudeValue_whole (toDigits_isDigit m), digitsValue_toDigits]
      rfl
  | negSucc m =>
      rw [show (toString (Int.negSucc m)).data = '-' :: Nat.toDigits 10 (m + 1) from rfl,
        floatOfText_neg_magnitude (.whole (toDigits_ne_nil _) (toDigits_isDigit _)),
        magnitudeValue_whole (toDigits_isDigit _), digitsValue_toDigits]
      simp [Int.negSucc_eq]

/-! ## `format_cell` -/

/-- `float(x)`: a number of the numeric tower as a float, a `str` as `float()` reads it; `none`
is the `TypeError` or `ValueError` of anything else. -/
def pyFloat : PyVal → Option PyFloat
  | .str s => floatOfText s.data
  | v => v.toFloat?

/-- `round(x)` for a float; `none` is the `ValueError` of a NaN. -/
def pyRound : PyFloat → Option Int
  | .num q => some (roundHalfEven q)
  | .nan _ => none

/-- `is_nan(x)`: `None`, or a float that is NaN. -/
def isNan : PyVal → Bool
  | .none => true
  | .float x => x.isNan
  | _ => false

def integerColumns : List String := ["h3_res", "target_rps", "n_reps", "errors_sum"]

/-- `str(int(round(float(val))))`, or `none` when one of the calls raises. -/
def intText? (val : PyVal) : Option String :=
  ((pyFloat val).bind pyRound).map toString

def formatCell (reprOf : PyVal → String) (val : PyVal) (col : String) : String :=
  let escaped := latexEscape (some (val.toStr reprOf))
  let fixed (n : Nat) := (pyFloat val).map (fixedText n)
  if isNan val then "--"
  else if col ∈ integerColumns then (intText? val).getD escaped
  else if col = "zipf_s" then (fixed 1).getD escaped
  else if "best_h3_res_".data.isPrefixOf col.data then (intText? val).getD "--"
  else if "best_".data.isPrefixOf col.data && "_ms".data.isSuffixOf col.data then (fixed 3).getD "--"
  else (fixed 3).getD escaped

theorem isNan_eq_false_of_pyFloat {val : PyVal} {q : ℚ} (h : pyFloat val = some (.num q)) :
    isNan val = false := by
  cases val <;> simp_all [pyFloat, PyVal.toFloat?, isNan, PyFloat.isNan]

/-- In an integer column, and in a `best_h3_res_` column, a value `float()` reads as a number
prints as the integer nearest to it, ties to even, and `float()` reads the text back as that
integer. -/
theorem formatCell_integer (reprOf : PyVal → String) {val : PyVal} {q : ℚ}
    (hv : pyFloat val = some (.num q)) {col : String}
    (hcol : col ∈ integerColumns ∨ "best_h3_res_".data.isPrefixOf col.data = true) :
    formatCell reprOf val col = toString (roundHalfEven q) ∧ |(roundHalfEven q : ℚ) - q| ≤ 1 / 2 ∧
      floatOfText (formatCell reprOf val col).data = some (.num (roundHalfEven q)) := by
  have hz : col ≠ "zipf_s" := by
    rintro rfl
    revert hcol
    decide
  have htext : formatCell reprOf val col = toString (roundHalfEven q) := by
    simp only [formatCell, isNan_eq_false_of_pyFloat hv, intText?, hv, Option.some_bind, pyRound,
      Option.map_some', Option.getD_some]
    rcases hcol with h | h <;> simp [h, hz]
  refine ⟨htext, ?_, by rw [htext]; exact floatOfText_intText _⟩
  rw [abs_sub_comm]
  exact abs_sub_roundHalfEven_le q

theorem formatCell_n_reps_half :
    pyFloat (.float (.num (5 / 2))) = some (.num (5 / 2)) ∧
      ("n_reps" ∈ integerColumns ∨ "best_h3_res_".data.isPrefixOf "n_reps".data = true) ∧
      formatCell (fun _ => "") (.float (.num (5 / 2))) "n_reps" = toString (roundHalfEven (5 / 2)) ∧
      |(roundHalfEven (5 / 2) : ℚ) - 5 / 2| ≤ 1 / 2 ∧
      floatOfText (formatCell (fun _ => "") (.float (.num (5 / 2))) "n_reps").data =
        some (.num (roundHalfEven (5 / 2))) :=
  ⟨rfl, .inl (by decide),
    @formatCell_integer (fun _ => "") (.float (.num (5 / 2))) (5 / 2) rfl "n_reps" (.inl (by decide))⟩

end H3Bench
