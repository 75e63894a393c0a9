import Mathlib.Algebra.Order.Field.Rat
import H3Bench.Python.Value

/-! # `float()` and `int()` on text

`float(s)` as CPython reads a `str`: surrounding whitespace, an optional sign, then `nan` in any
case, or a decimal literal with optional point, fraction and exponent and single underscores
between digits, the digits any Unicode decimal digits. The value of a literal is exact, where
CPython rounds it to the nearest double and overflows to an infinity. CPython also reads `inf`
and `infinity`, whose values the exact model does not have; they give `none` like unreadable
text.

The regular expressions of the collection script hand `float()` only plain literals such as
`12`, `1.5` and `.5` (`IsMagnitude`); `floatOfText_magnitude` says what it returns for them.
-/

namespace H3Bench

/-- The rest of a `digitpart ::= digit (["_"] digit)*` after its first digit: the further
digits, and the text after the part. -/
def digitTail : List Char → List Char × List Char
  | '_' :: c :: rest =>
      if isDecimal c then ((c :: (digitTail rest).1), (digitTail rest).2)
      else ([], '_' :: c :: rest)
  | c :: rest =>
      if isDecimal c then ((c :: (digitTail rest).1), (digitTail rest).2) else ([], c :: rest)
  | [] => ([], [])

/-- The digits of the longest `digitpart` at the front of the text, and the text after it. -/
def digitPart (l : List Char) : List Char × List Char :=
  match l with
  | c :: _ => if isDecimal c then digitTail l else ([], l)
  | [] => ([], [])

/-- `[exponent]`, read to the end of the text: its value, `0` when there is none. -/
def exponentValue : List Char → Option Int
  | [] => some 0
  | e :: rest =>
      if e = 'e' ∨ e = 'E' then
        let signed : Bool × List Char :=
          match rest with
          | '+' :: r => (false, r)
          | '-' :: r => (true, r)
          | r => (false, r)
        let part := digitPart signed.2
        if part.1 ≠ [] ∧ part.2 = [] then
          some (if signed.1 then -(digitsValue part.1 : Int) else digitsValue part.1)
        else none
      else none

def literalValue (whole frac : List Char) (e : Int) : ℚ :=
  (digitsValue (whole ++ frac) : ℚ) / 10 ^ frac.length * 10 ^ e

/-- `floatnumber ::= number [exponent]`, `number ::= [digitpart] "." digitpart | digitpart ["."]`,
read to the end of the text. -/
def decimalLiteral (l : List Char) : Option ℚ :=
  let whole := digitPart l
  let frac : List Char × List Char :=
    match whole.2 with
    | '.' :: r => digitPart r
    | r => ([], r)
  if whole.1 = [] ∧ frac.1 = [] then none
  else (exponentValue frac.2).map (literalValue whole.1 frac.1)

/-- `float(s)` for a `str`: the float it returns, or `none` for `ValueError`. A NaN it returns
is a new object. -/
def floatOfText (s : List Char) : Option PyFloat :=
  let t := strip s
  let body := match t with
    | '+' :: r => r
    | '-' :: r => r
    | r => r
  if lower body = "nan".data then some (.nan none)
  else (decimalLiteral body).map (fun q => .num (if t.head? = some '-' then -q else q))

/-- `int(x)` for a float: truncation toward zero, or `none` for the `ValueError` of a NaN. -/
def PyFloat.toInt? : PyFloat → Option Int
  | .num q => some (q.num.tdiv q.den)
  | .nan _ => none

/-! ## Plain decimal literals -/

/-- The literals `[0-9]*\.?[0-9]+` matches: ASCII digits with at most one point and at least one
digit after it. -/
inductive IsMagnitude : List Char → Prop
  | whole {d : List Char} : d ≠ [] → (∀ c ∈ d, c.isDigit) → IsMagnitude d
  | point {d₁ d₂ : List Char} : (∀ c ∈ d₁, c.isDigit) → d₂ ≠ [] → (∀ c ∈ d₂, c.isDigit) →
      IsMagnitude (d₁ ++ '.' :: d₂)

def magnitudeValue (m : List Char) : ℚ :=
  literalValue (m.takeWhile (· != '.')) ((m.dropWhile (· != '.')).drop 1) 0

theorem digitTail_digits {d rest : List Char} (hd : ∀ c ∈ d, isDecimal c)
    (hrest : ∀ c ∈ rest.head?, isDecimal c = false ∧ c ≠ '_') :
    digitTail (d ++ rest) = (d, rest) := by
  induction d with
  | nil =>
      cases rest with
      | nil => rfl
      | cons c r =>
          obtain ⟨hc, hu⟩ := hrest c rfl
          cases r <;> simp [digitTail, hc, hu]
  | cons c d ih =>
      have hc : isDecimal c := hd c (by simp)
      have hc' : c ≠ '_' := by rintro rfl; exact absurd hc (by decide)
      simp [digitTail, hc, hc', ih (fun x hx => hd x (by simp [hx]))]

theorem digitPart_digits {d rest : List Char} (hne : d ≠ []) (hd : ∀ c ∈ d, isDecimal c)
    (hrest : ∀ c ∈ rest.head?, isDecimal c = false ∧ c ≠ '_') :
    digitPart (d ++ rest) = (d, rest) := by
  obtain ⟨c, d', rfl⟩ := List.exists_cons_of_ne_nil hne
  simp only [List.cons_append, digitPart, hd c (by simp), if_true]
  exact List.cons_append c d' rest ▸ digitTail_digits hd hrest

theorem IsMagnitude.ne_nil {m : List Char} (h : IsMagnitude m) : m ≠ [] := by
  cases h <;> simp_all

theorem IsMagnitude.head {m : List Char} (h : IsMagnitude m) :
    ∀ c ∈ m.head?, c.isDigit ∨ c = '.' := by
  cases h with
  | whole _ hd => exact fun c hc => .inl (hd c (List.mem_of_mem_head? hc))
  | @point d₁ d₂ hd₁ _ _ =>
      cases d₁ with
      | nil => simp
      | cons x d => simp_all

theorem IsMagnitude.last {m : List Char} (h : IsMagnitude m) : ∀ c ∈ m.getLast?, c.isDigit := by
  cases h with
  | whole _ hd => exact fun c hc => hd c (List.mem_of_mem_getLast? hc)
  | @point d₁ d₂ _ hne hd₂ =>
      intro c hc
      rw [show d₁ ++ '.' :: d₂ = (d₁ ++ ['.']) ++ d₂ by simp,
        List.getLast?_append_of_ne_nil _ hne] at hc
      exact hd₂ c (List.mem_of_mem_getLast? hc)

private theorem not_point_of_digit {c : Char} (h : c.isDigit) : (c != '.') = true := by
  rw [bne_iff_ne]
  rintro rfl
  exact absurd h (by decide)

theorem decimalLiteral_of_whole {l d : List Char} (hne : d ≠ []) (h : digitPart l = (d, [])) :
    decimalLiteral l = some (literalValue d [] 0) := by
  unfold decimalLiteral
  rw [h, if_neg (by simp [hne])]
  rfl

theorem decimalLiteral_of_point {l w r f : List Char} (hne : f ≠ []) (h : digitPart l = (w, '.' :: r))
    (hr : digitPart r = (f, [])) : decimalLiteral l = some (literalValue w f 0) := by
  unfold decimalLiteral
  rw [h]
  show (if w = [] ∧ (digitPart r).1 = [] then none
    else (exponentValue (digitPart r).2).map (literalValue w (digitPart r).1)) = _
  rw [hr, if_neg (by simp [hne])]
  rfl

theorem decimalLiteral_magnitude {m : List Char} (h : IsMagnitude m) :
    decimalLiteral m = some (magnitudeValue m) := by
  have hdec : ∀ {d : List Char}, (∀ c ∈ d, c.isDigit) → ∀ c ∈ d, isDecimal c :=
    fun hd c hc => isDecimal_of_isDigit (hd c hc)
  cases h with
  | whole hne hd =>
      have hpart := @digitPart_digits m [] hne (hdec hd) (by simp)
      rw [List.append_nil] at hpart
      have hall : ∀ c ∈ m, (c != '.') = true := fun c hc => not_point_of_digit (hd c hc)
      rw [decimalLiteral_of_whole hne hpart, magnitudeValue, List.takeWhile_eq_self_iff.mpr hall,
        List.dropWhile_eq_nil_iff.mpr hall]
      rfl
  | @point d₁ d₂ hd₁ hne hd₂ =>
      have h₂ := @digitPart_digits d₂ [] hne (hdec hd₂) (by simp)
      rw [List.append_nil] at h₂
      have h₁ : digitPart (d₁ ++ '.' :: d₂) = (d₁, '.' :: d₂) := by
        cases d₁ with
        | nil => simp [digitPart]
        | cons c d => exact digitPart_digits (by simp) (hdec hd₁) (by simp)
      have hall : ∀ c ∈ d₁, (c != '.') = true := fun c hc => not_point_of_digit (hd₁ c hc)
      rw [decimalLiteral_of_point hne h₁ h₂]
      simp [magnitudeValue, List.takeWhile_append_of_pos hall, List.dropWhile_append_of_pos hall]

/-- `float()` of a plain literal is the literal's value. -/
theorem floatOfText_magnitude {m : List Char} (h : IsMagnitude m) :
    floatOfText m = some (.num (magnitudeValue m)) := by
  obtain ⟨c, r, hm⟩ := List.exists_cons_of_ne_nil h.ne_nil
  have hc := h.head c (by simp [hm])
  have hsp : isSpace c = false := by
    rcases hc with hc | rfl
    exacts [isSpace_of_isDigit hc, rfl]
  have hstrip : strip m = m :=
    strip_eq_self (by simp [hm, hsp]) (fun x hx => isSpace_of_isDigit (h.last x hx))
  have hlow : c.toLower ≠ 'n' := by
    rcases hc with hc | rfl
    · rw [toLower_of_isDigit hc]
      rintro rfl
      exact absurd hc (by decide)
    · decide
  have hsign : c ≠ '+' ∧ c ≠ '-' := by
    rcases hc with hc | rfl
    · constructor <;> (rintro rfl; exact absurd hc (by decide))
    · decide
  have hlit := decimalLiteral_magnitude h
  rw [hm] at hstrip hlit ⊢
  simp [floatOfText, hstrip, hlit, lower, hlow, hsign]

end H3Bench
