import Mathlib.Data.List.Basic

/-! # Text primitives of the Python runtime

The collection scripts read every directory name, CSV cell and JSON field through a few `str`
methods: `strip`, `split`, `startswith`, `endswith`, `in` and `lower`, and through the character
classes `\s`, `\d` and `[0-9]` of their regular expressions. They are modelled on lists of
characters. Whitespace is Python's (`str.isspace`, which is also what `\s` matches in a `str`
pattern). `\d` of a `str` pattern matches every Unicode decimal digit, and `int()` and `float()`
read the same digits (`isDecimal`, `digitValue?`); `[0-9]` is `Char.isDigit`.
-/

namespace H3Bench

/-- `str.isspace` on one character; `\s` of a `str` pattern matches the same set. -/
def isSpace (c : Char) : Bool :=
  let n := c.toNat
  (0x09 ≤ n && n ≤ 0x0D) || (0x1C ≤ n && n ≤ 0x20) || n == 0x85 || n == 0xA0 ||
    n == 0x1680 || (0x2000 ≤ n && n ≤ 0x200A) || n == 0x2028 || n == 0x2029 ||
    n == 0x202F || n == 0x205F || n == 0x3000

/-- `str.lstrip()`. -/
def lstrip (l : List Char) : List Char := l.dropWhile isSpace

/-- `str.rstrip()`. -/
def rstrip (l : List Char) : List Char := (l.reverse.dropWhile isSpace).reverse

/-- `str.strip()`. -/
def strip (l : List Char) : List Char := rstrip (lstrip l)

def pyStrip (s : String) : String := ⟨strip s.data⟩

/-- `str.lower()`, on the ASCII letters. -/
def lower (l : List Char) : List Char := l.map Char.toLower

/-- `s.split(sep, 1)[0]`: the text before the first `sep`, or all of it. -/
def beforeFirst (sep : Char) (l : List Char) : List Char := l.takeWhile (· != sep)

/-- `sub in s` for two `str`s. -/
def containsText (sub : List Char) : List Char → Bool
  | [] => sub.isEmpty
  | c :: rest => sub.isPrefixOf (c :: rest) || containsText sub rest

/-- `a < b` for two `str`s: the first unequal code points decide, and a proper prefix is smaller. -/
def textLt : List Char → List Char → Bool
  | [], [] => false
  | [], _ :: _ => true
  | _ :: _, [] => false
  | a :: as, b :: bs => if a = b then textLt as bs else decide (a < b)

/-- The first code point of each run of ten decimal digits of Unicode 14.0 (category `Nd`, as in
Python 3.11), whose code points are the digits 0 to 9 in order. -/
def decimalZeros : List Nat :=
  [0x30, 0x660, 0x6F0, 0x7C0, 0x966, 0x9E6, 0xA66, 0xAE6, 0xB66, 0xBE6, 0xC66, 0xCE6, 0xD66, 0xDE6,
    0xE50, 0xED0, 0xF20, 0x1040, 0x1090, 0x17E0, 0x1810, 0x1946, 0x19D0, 0x1A80, 0x1A90, 0x1B50,
    0x1BB0, 0x1C40, 0x1C50, 0xA620, 0xA8D0, 0xA900, 0xA9D0, 0xA9F0, 0xAA50, 0xABF0, 0xFF10,
    0x104A0, 0x10D30, 0x11066, 0x110F0, 0x11136, 0x111D0, 0x112F0, 0x11450, 0x114D0, 0x11650,
    0x116C0, 0x11730, 0x118E0, 0x11950, 0x11C50, 0x11D50, 0x11DA0, 0x16A60, 0x16AC0, 0x16B50,
    0x1D7CE, 0x1D7D8, 0x1D7E2, 0x1D7EC, 0x1D7F6, 0x1E140, 0x1E2F0, 0x1E950, 0x1FBF0]

/-- The value of a decimal digit; `none` for any other character. -/
def digitValue? (c : Char) : Option Nat :=
  (decimalZeros.find? fun z => z ≤ c.toNat && c.toNat < z + 10).map (c.toNat - ·)

/-- `\d` of a `str` pattern, `str.isdecimal()` on one character. -/
def isDecimal (c : Char) : Bool := (digitValue? c).isSome

/-- The value of a run of decimal digits, as `int()` reads it. -/
def digitsValue (l : List Char) : Nat :=
  l.foldl (fun n c => 10 * n + (digitValue? c).getD 0) 0

theorem digitValue?_of_isDigit {c : Char} (h : c.isDigit) : digitValue? c = some (c.toNat - '0'.toNat) := by
  simp only [Char.isDigit, Bool.and_eq_true, decide_eq_true_eq] at h
  have h₁ : (48 : Nat) ≤ c.toNat := h.1
  have h₂ : c.toNat ≤ 57 := h.2
  rw [digitValue?, decimalZeros, List.find?_cons_of_pos _ (by simp; omega)]
  rfl

theorem isDecimal_of_isDigit {c : Char} (h : c.isDigit) : isDecimal c := by
  simp [isDecimal, digitValue?_of_isDigit h]

@[simp] theorem isDecimal_point : isDecimal '.' = false := rfl
@[simp] theorem isDecimal_colon : isDecimal ':' = false := rfl
@[simp] theorem isDecimal_newline : isDecimal '\n' = false := rfl
@[simp] theorem isDecimal_plus : isDecimal '+' = false := rfl
@[simp] theorem isDecimal_minus : isDecimal '-' = false := rfl

/-- `s.split(sep, 1)[0]` of text without `sep` is the text. -/
theorem beforeFirst_of_not_mem {sep : Char} {l : List Char} (h : sep ∉ l) : beforeFirst sep l = l :=
  List.takeWhile_eq_self_iff.mpr fun _ hc => bne_iff_ne.mpr (ne_of_mem_of_not_mem hc h)

/-- `s.split(sep, 1)[0]` is the text before the first `sep`. -/
theorem beforeFirst_append {sep : Char} {a : List Char} (h : sep ∉ a) (b : List Char) :
    beforeFirst sep (a ++ sep :: b) = a := by
  rw [beforeFirst, List.takeWhile_append_of_pos fun _ hc => bne_iff_ne.mpr (ne_of_mem_of_not_mem hc h)]
  simp

theorem lookup_of_not_mem {α β : Type} [BEq α] [LawfulBEq α] {reps : List (α × β)} {k : α}
    (h : k ∉ reps.map Prod.fst) : reps.lookup k = none := by
  induction reps with
  | nil => rfl
  | cons kv reps ih =>
      obtain ⟨a, v⟩ := kv
      have hk : k ≠ a := fun e => h (by simp [e])
      rw [List.lookup_cons, beq_false_of_ne hk]
      exact ih (fun hm => h (List.mem_cons_of_mem _ hm))

/-! ## Character classes -/

theorem isSpace_of_isDigit {c : Char} (h : c.isDigit) : isSpace c = false := by
  simp only [Char.isDigit, Bool.and_eq_true, decide_eq_true_eq] at h
  have h₁ : (48 : Nat) ≤ c.toNat := h.1
  have h₂ : c.toNat ≤ 57 := h.2
  simp only [isSpace, Bool.or_eq_false_iff, Bool.and_eq_false_iff, decide_eq_false_iff_not,
    beq_eq_false_iff_ne]
  omega

theorem isSpace_of_isAlpha {c : Char} (h : c.isAlpha) : isSpace c = false := by
  simp only [Char.isAlpha, Char.isUpper, Char.isLower, Bool.or_eq_true, Bool.and_eq_true,
    decide_eq_true_eq] at h
  have h' : (65 ≤ c.toNat ∧ c.toNat ≤ 90) ∨ (97 ≤ c.toNat ∧ c.toNat ≤ 122) := h
  simp only [isSpace, Bool.or_eq_false_iff, Bool.and_eq_false_iff, decide_eq_false_iff_not,
    beq_eq_false_iff_ne]
  omega

theorem isDigit_of_isAlpha {c : Char} (h : c.isAlpha) : c.isDigit = false := by
  simp only [Char.isAlpha, Char.isUpper, Char.isLower, Bool.or_eq_true, Bool.and_eq_true,
    decide_eq_true_eq] at h
  have h' : (65 ≤ c.toNat ∧ c.toNat ≤ 90) ∨ (97 ≤ c.toNat ∧ c.toNat ≤ 122) := h
  simp only [Char.isDigit, Bool.and_eq_false_iff, decide_eq_false_iff_not]
  change ¬(48 ≤ c.toNat) ∨ ¬(c.toNat ≤ 57)
  omega

theorem toLower_of_isDigit {c : Char} (h : c.isDigit) : c.toLower = c := by
  simp only [Char.isDigit, Bool.and_eq_true, decide_eq_true_eq] at h
  have h₁ : (48 : Nat) ≤ c.toNat := h.1
  have h₂ : c.toNat ≤ 57 := h.2
  simp only [Char.toLower]
  rw [if_neg (by omega)]

theorem span_of_head_false {p : Char → Bool} {l : List Char} (h : ∀ c ∈ l.head?, p c = false) :
    l.takeWhile p = [] ∧ l.dropWhile p = l := by
  cases l with
  | nil => simp
  | cons c rest => simp [h c rfl]

/-! ## Stripping -/

theorem lstrip_eq_self {l : List Char} (h : ∀ c ∈ l.head?, isSpace c = false) :
    lstrip l = l := by
  cases l with
  | nil => rfl
  | cons c rest => exact List.dropWhile_cons_of_neg (by simpa using h)

theorem rstrip_eq_self {l : List Char} (h : ∀ c ∈ l.getLast?, isSpace c = false) :
    rstrip l = l := by
  show (lstrip l.reverse).reverse = l
  rw [lstrip_eq_self (by simpa using h), List.reverse_reverse]

theorem strip_eq_self {l : List Char} (hhead : ∀ c ∈ l.head?, isSpace c = false)
    (hlast : ∀ c ∈ l.getLast?, isSpace c = false) : strip l = l := by
  rw [strip, lstrip_eq_self hhead, rstrip_eq_self hlast]

theorem lstrip_head {l : List Char} : ∀ c ∈ (lstrip l).head?, isSpace c = false := by
  induction l with
  | nil => simp [lstrip]
  | cons d rest ih =>
      by_cases hd : isSpace d
      · simpa [lstrip, hd] using ih
      · simp [lstrip, hd]

theorem rstrip_last {l : List Char} : ∀ c ∈ (rstrip l).getLast?, isSpace c = false := by
  simpa [rstrip, List.getLast?_reverse] using @lstrip_head l.reverse

theorem rstrip_isPrefix (l : List Char) : rstrip l <+: l := by
  simpa [rstrip] using List.reverse_prefix.mpr (@List.dropWhile_suffix _ l.reverse isSpace)

theorem rstrip_head {l : List Char} (h : ∀ c ∈ l.head?, isSpace c = false) :
    ∀ c ∈ (rstrip l).head?, isSpace c = false := by
  intro c hc
  obtain ⟨t, ht⟩ := rstrip_isPrefix l
  cases hr : rstrip l with
  | nil => simp [hr] at hc
  | cons d rest =>
      rw [hr] at hc ht
      simp only [List.head?_cons, Option.mem_def, Option.some.injEq] at hc
      subst hc
      exact h d (by simp [← ht])

theorem strip_strip (l : List Char) : strip (strip l) = strip l :=
  strip_eq_self (rstrip_head lstrip_head) rstrip_last

theorem strip_head (l : List Char) : ∀ c ∈ (strip l).head?, isSpace c = false :=
  rstrip_head lstrip_head

theorem strip_last (l : List Char) : ∀ c ∈ (strip l).getLast?, isSpace c = false :=
  rstrip_last

theorem lstrip_append_of_spaces {w l : List Char} (hw : ∀ c ∈ w, isSpace c)
    (hl : ∀ c ∈ l.head?, isSpace c = false) : lstrip (w ++ l) = l := by
  rw [lstrip, List.dropWhile_append_of_pos hw]
  exact lstrip_eq_self hl

theorem rstrip_append {x l : List Char} (hx : ∀ c ∈ x.getLast?, isSpace c = false) :
    rstrip (x ++ l) = x ++ rstrip l := by
  have hrx : x.reverse.dropWhile isSpace = x.reverse := lstrip_eq_self (by simpa using hx)
  unfold rstrip
  rw [List.reverse_append, List.dropWhile_append]
  split
  · next h => simp [List.isEmpty_iff.mp h, hrx]
  · simp

theorem strip_append {x l : List Char} (hne : x ≠ []) (hhead : ∀ c ∈ x.head?, isSpace c = false)
    (hlast : ∀ c ∈ x.getLast?, isSpace c = false) : strip (x ++ l) = x ++ rstrip l := by
  rw [strip, lstrip_eq_self (by rwa [List.head?_append_of_ne_nil _ hne]), rstrip_append hlast]

@[simp] theorem pyStrip_data (s : String) : (pyStrip s).data = strip s.data := rfl

end H3Bench
