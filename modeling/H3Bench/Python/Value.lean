import Mathlib.Algebra.Order.Ring.Rat
import Mathlib.Algebra.Order.Ring.Cast
import Mathlib.Data.String.Basic
import H3Bench.Python.Text

/-! # Python values

The values the collection scripts pass around: what `json.load` returns, the cells of the CSV
reader, and the records and keys built from them. Floats are exact rationals, so rounding,
infinities and signed zeros are outside the model. What the model keeps is a float's identity
where Python's comparisons see it: every NaN is unequal to every NaN, so a dict key or a tuple
item holding a NaN matches only the very same object.
-/

namespace H3Bench

/-- Python's order of texts is the lexicographic order of their characters. -/
theorem textLt_eq_decide (a b : String) : textLt a.data b.data = decide (a < b) := by
  rw [Bool.eq_iff_iff, decide_eq_true_iff, String.lt_iff_toList_lt]
  obtain ⟨l₁⟩ := a
  obtain ⟨l₂⟩ := b
  show textLt l₁ l₂ = true ↔ List.Lex (· < ·) l₁ l₂
  induction l₁ generalizing l₂ with
  | nil => cases l₂ <;> simp [textLt, List.Lex.nil]
  | cons a as ih =>
      cases l₂ with
      | nil => simp [textLt]
      | cons b bs =>
          by_cases h : a = b
          · subst h
            simp [textLt, ih, List.Lex.cons_iff]
          · simp only [textLt, h, if_false, decide_eq_true_eq]
            refine ⟨List.Lex.rel, fun hl => ?_⟩
            cases hl with
            | rel hab => exact hab
            | cons _ => exact absurd rfl h

/-- A Python `float` object. `nan (some i)` is the NaN object numbered `i`; `nan none` is one
made by the call at hand, identical to no other object. -/
inductive PyFloat where
  | num (q : ℚ)
  | nan (oid : Option Nat)
  deriving DecidableEq, Repr, Inhabited

namespace PyFloat

/-- `math.isnan`. -/
def isNan : PyFloat → Bool
  | num _ => false
  | nan _ => true

/-- `a is b or a == b`: how dict lookup, tuple equality and `in` compare two floats. -/
def same : PyFloat → PyFloat → Bool
  | num a, num b => a == b
  | nan (some i), nan (some j) => i == j
  | _, _ => false

/-- `a < b`; false whenever a NaN takes part. -/
def lt : PyFloat → PyFloat → Bool
  | num a, num b => decide (a < b)
  | _, _ => false

@[simp] theorem isNan_num (q : ℚ) : (num q).isNan = false := rfl
@[simp] theorem isNan_nan (o : Option Nat) : (nan o).isNan = true := rfl

end PyFloat

/-- A Python object as the scripts meet it. `dict` holds its entries in insertion order, one
per key. -/
inductive PyVal where
  | none
  | bool (b : Bool)
  | int (i : Int)
  | float (x : PyFloat)
  | str (s : String)
  | list (xs : List PyVal)
  | dict (kvs : List (String × PyVal))
  deriving Inhabited

/-- Exceptions the scripts can raise without catching them. -/
inductive PyError where
  | typeError (msg : String)
  | attributeError (msg : String)
  deriving DecidableEq, Repr

namespace PyVal

/-- Truth value testing: `if x`, `not x`, `x or y`. -/
def truthy : PyVal → Bool
  | none => false
  | bool b => b
  | int i => i != 0
  | float (.num q) => q != 0
  | float (.nan _) => true
  | str s => !s.isEmpty
  | list xs => !xs.isEmpty
  | dict kvs => !kvs.isEmpty

/-- `x or d`. -/
def orElse (x d : PyVal) : PyVal := if x.truthy then x else d

/-- The numeric tower: `bool`, `int` and `float` compare as numbers. -/
def toFloat? : PyVal → Option PyFloat
  | bool b => some (.num (if b then 1 else 0))
  | int i => some (.num i)
  | float x => some x
  | _ => Option.none

/-- `str(x)`. The text of a float, a list or a dict follows `repr`, whose digits and quoting are
left to the parameter `reprOf`. -/
def toStr (reprOf : PyVal → String) : PyVal → String
  | none => "None"
  | bool true => "True"
  | bool false => "False"
  | int i => toString i
  | str s => s
  | v => reprOf v

/-- `str(x or "")`. -/
def strOrEmpty (reprOf : PyVal → String) (x : PyVal) : String := (x.orElse (.str "")).toStr reprOf

/-- The value of an `int`, a `bool` counting as `0` or `1`, as `sum` adds them. -/
def intValue : PyVal → Int
  | bool b => if b then 1 else 0
  | int i => i
  | _ => 0

/-- `d.get(k)` on a dict: the value of the key's entry, or `None`. -/
def lookup (kvs : List (String × PyVal)) (k : String) : PyVal :=
  (kvs.lookup k).getD none

/-- `d[k] = v` on a dict: the key's entry takes the value in its place, or a new entry comes last. -/
def setItem : List (String × PyVal) → String → PyVal → List (String × PyVal)
  | [], k, v => [(k, v)]
  | (k', v') :: rest, k, v => if k' = k then (k, v) :: rest else (k', v') :: setItem rest k v

/-- `d[k] = v` for each pair in turn, as `d.update(pairs)` does. -/
def setItems (kvs pairs : List (String × PyVal)) : List (String × PyVal) :=
  pairs.foldl (fun d kv => setItem d kv.1 kv.2) kvs

/-- The dict built from pairs in order, as `json.load` builds an object: each key once, at its
first place, with its last value. -/
def dictOf (pairs : List (String × PyVal)) : List (String × PyVal) := setItems [] pairs

@[simp] theorem setItems_nil (kvs : List (String × PyVal)) : setItems kvs [] = kvs := rfl

@[simp] theorem setItems_cons (kvs : List (String × PyVal)) (p : String × PyVal)
    (pairs : List (String × PyVal)) : setItems kvs (p :: pairs) = setItems (setItem kvs p.1 p.2) pairs :=
  rfl

theorem setItems_single (kvs : List (String × PyVal)) (k : String) (v : PyVal) :
    setItems kvs [(k, v)] = setItem kvs k v := rfl

theorem setItems_append (kvs pairs pairs' : List (String × PyVal)) :
    setItems (setItems kvs pairs) pairs' = setItems kvs (pairs ++ pairs') := by
  simp [setItems, List.foldl_append]

@[simp] theorem lookup_nil (k : String) : lookup [] k = none := rfl

@[simp] theorem lookup_cons (k k' : String) (v : PyVal) (rest : List (String × PyVal)) :
    lookup ((k', v) :: rest) k = if k = k' then v else lookup rest k := by
  by_cases h : k = k'
  · simp [lookup, List.lookup_cons, h]
  · simp [lookup, List.lookup_cons, beq_eq_false_iff_ne.mpr h, h]

@[simp] theorem lookup_setItem_self (kvs : List (String × PyVal)) (k : String) (v : PyVal) :
    lookup (setItem kvs k v) k = v := by
  induction kvs with
  | nil => simp [setItem]
  | cons kv rest ih =>
      obtain ⟨k', v'⟩ := kv
      by_cases h : k' = k
      · simp [setItem, h]
      · simp [setItem, h, Ne.symm h, ih]

theorem lookup_setItem_of_ne (kvs : List (String × PyVal)) {k k' : String} (v : PyVal)
    (h : k' ≠ k) : lookup (setItem kvs k v) k' = lookup kvs k' := by
  induction kvs with
  | nil => simp [setItem, h]
  | cons kv rest ih =>
      obtain ⟨k'', v'⟩ := kv
      by_cases hk : k'' = k
      · subst hk; simp [setItem, h]
      · simp [setItem, hk, ih]

theorem keys_setItem {kvs : List (String × PyVal)} {k : String} (v : PyVal)
    (h : k ∈ kvs.map (·.1)) : (setItem kvs k v).map (·.1) = kvs.map (·.1) := by
  induction kvs with
  | nil => simp at h
  | cons kv rest ih =>
      by_cases hk : kv.1 = k
      · simp [setItem, hk]
      · have : k ∈ rest.map (·.1) := by simpa [Ne.symm hk] using h
        simp [setItem, hk, ih this]

theorem keys_setItems {kvs pairs : List (String × PyVal)} (h : ∀ p ∈ pairs, p.1 ∈ kvs.map (·.1)) :
    (setItems kvs pairs).map (·.1) = kvs.map (·.1) := by
  induction pairs generalizing kvs with
  | nil => rfl
  | cons p rest ih =>
      have hp := keys_setItem p.2 (h p (List.mem_cons_self _ _))
      rw [setItems, List.foldl_cons, ← setItems, ih fun q hq => hp ▸ h q (List.mem_cons_of_mem _ hq), hp]

theorem lookup_setItems_of_not_mem {kvs pairs : List (String × PyVal)} {k : String}
    (h : k ∉ pairs.map (·.1)) : lookup (setItems kvs pairs) k = lookup kvs k := by
  induction pairs generalizing kvs with
  | nil => rfl
  | cons p rest ih =>
      simp only [List.map_cons, List.mem_cons, not_or] at h
      rw [setItems, List.foldl_cons, ← setItems, ih h.2, lookup_setItem_of_ne _ _ h.1]

theorem lookup_setItems_of_mem {kvs pairs : List (String × PyVal)} {k : String} {v : PyVal}
    (hnd : (pairs.map (·.1)).Nodup) (h : (k, v) ∈ pairs) : lookup (setItems kvs pairs) k = v := by
  induction pairs generalizing kvs with
  | nil => simp at h
  | cons p rest ih =>
      obtain ⟨hp, hnd⟩ := List.nodup_cons.mp hnd
      rcases List.mem_cons.mp h with rfl | h
      · rw [setItems_cons, lookup_setItems_of_not_mem hp, lookup_setItem_self]
      · exact ih hnd h

mutual
/-- `a is b or a == b` (`PyObject_RichCompareBool`), for values without a custom `__eq__`. -/
def same : PyVal → PyVal → Bool
  | none, none => true
  | str a, str b => a == b
  | list xs, list ys => sameList xs ys
  | dict xs, dict ys => sameEntries xs ys && ys.all (fun kv => xs.any (·.1 == kv.1))
  | a, b =>
      match a.toFloat?, b.toFloat? with
      | some x, some y => x.same y
      | _, _ => false
def sameList : List PyVal → List PyVal → Bool
  | [], [] => true
  | x :: xs, y :: ys => same x y && sameList xs ys
  | _, _ => false
def sameEntries : List (String × PyVal) → List (String × PyVal) → Bool
  | [], _ => true
  | (k, v) :: rest, ys =>
      (match ys.lookup k with
        | some w => same v w
        | Option.none => false) && sameEntries rest ys
end

mutual
/-- `a < b`; `none` is the `TypeError` of an unordered pair of types. -/
def lt : PyVal → PyVal → Option Bool
  | str a, str b => some (textLt a.data b.data)
  | list xs, list ys => ltList xs ys
  | a, b =>
      match a.toFloat?, b.toFloat? with
      | some x, some y => some (x.lt y)
      | _, _ => Option.none
def ltList : List PyVal → List PyVal → Option Bool
  | [], [] => some false
  | [], _ :: _ => some true
  | _ :: _, [] => some false
  | x :: xs, y :: ys => if same x y then ltList xs ys else lt x y
end

@[simp] theorem same_str (a b : String) : same (str a) (str b) = (a == b) := rfl

@[simp] theorem lt_str (a b : String) : lt (str a) (str b) = some (decide (a < b)) :=
  congrArg some (textLt_eq_decide a b)

@[simp] theorem same_int (a b : Int) : same (int a) (int b) = (a == b) := by
  show PyFloat.same (.num a) (.num b) = (a == b)
  simp [PyFloat.same]

@[simp] theorem lt_int (a b : Int) : lt (int a) (int b) = some (decide (a < b)) := by
  show some (PyFloat.lt (.num a) (.num b)) = _
  simp [PyFloat.lt, Int.cast_lt]

end PyVal

/-- A JSON document as `json.load` returns it: integers stay `int`, other numbers become
`float`, and the `NaN` token is one shared object (`json.decoder.NaN`). -/
inductive Json where
  | null
  | bool (b : Bool)
  | int (i : Int)
  | float (x : Option ℚ)
  | str (s : String)
  | arr (xs : List Json)
  | obj (kvs : List (String × Json))

/-- The identity of `json.decoder.NaN`, the object every `NaN` token decodes to. -/
def jsonNanId : Nat := 0

mutual
/-- The Python object `json.load` builds for a document. -/
def Json.toPy : Json → PyVal
  | .null => .none
  | .bool b => .bool b
  | .int i => .int i
  | .float (some q) => .float (.num q)
  | .float none => .float (.nan (some jsonNanId))
  | .str s => .str s
  | .arr xs => .list (Json.toPyList xs)
  | .obj kvs => .dict (PyVal.dictOf (Json.toPyEntries kvs))
def Json.toPyList : List Json → List PyVal
  | [] => []
  | x :: xs => x.toPy :: Json.toPyList xs
def Json.toPyEntries : List (String × Json) → List (String × PyVal)
  | [] => []
  | (k, v) :: rest => (k, v.toPy) :: Json.toPyEntries rest
end

end H3Bench
