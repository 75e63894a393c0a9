import Mathlib.Tactic.Ring
import H3Bench.Python.Float

/-! # Memory strings (collect_results.py: `_MEM_RE`, `mem_to_mib`, `parse_mem_usage_to_mib`)

`docker stats` reports memory use as `"<used>/<limit>"`. The parser keeps the used side, matches
`_MEM_RE = ^\s*([0-9]*\.?[0-9]+)\s*([A-Za-z]+)\s*$` and scales the magnitude by its unit.
`parseMemUsageToMib_spec` gives the result for every string, split at its first `/`: the limit
after it is never read, and the stripped used side gives the scaled magnitude when it is a
magnitude, optional space and a known unit (`MemShape`), NaN otherwise.
-/

namespace H3Bench

/-- The class `[0-9.]`, which holds every character of the magnitude group. -/
def isNumChar (c : Char) : Bool := c.isDigit || c == '.'

/-- `[0-9]*\.?[0-9]+` over a whole run of `[0-9.]`: digits, then the end (after at least one
digit) or a point and at least one digit. -/
def magnitudeShape (l : List Char) : Bool :=
  match l.dropWhile Char.isDigit with
  | [] => !l.isEmpty
  | '.' :: r => !r.isEmpty && r.all Char.isDigit
  | _ => false

/-- `_MEM_RE.match(s)`: the magnitude and unit groups. Because the classes `\s`, `[0-9.]` and
`[A-Za-z]` are disjoint, a match fixes the groups: the magnitude is the whole run of `[0-9.]`
after the leading space, the unit the whole run of letters after the space that follows, and
only space may come after it. -/
def memMatch (s : List Char) : Option (List Char × List Char) :=
  let r₁ := lstrip s
  let num := r₁.takeWhile isNumChar
  let r₂ := lstrip (r₁.dropWhile isNumChar)
  let unit := r₂.takeWhile Char.isAlpha
  if magnitudeShape num && !unit.isEmpty && (r₂.dropWhile Char.isAlpha).all isSpace then
    some (num, unit)
  else none

/-- The `if unit == ...` chain of `mem_to_mib`: the magnitude in MiB, or `none` for the final
`return float("nan")`. -/
def mibOfUnit (unit : List Char) (val : ℚ) : Option ℚ :=
  if unit = "B".data then some (val / (1024 * 1024))
  else if unit = "KiB".data then some (val / 1024)
  else if unit = "MiB".data then some val
  else if unit = "GiB".data then some (val * 1024)
  else if unit = "TiB".data then some (val * 1024 * 1024)
  else if unit = "KB".data then some (val * 1000 / (1024 * 1024))
  else if unit = "MB".data then some (val * 1000 * 1000 / (1024 * 1024))
  else if unit = "GB".data then some (val * 1000 * 1000 * 1000 / (1024 * 1024))
  else none

/-- `mem_to_mib(mem_used_part)`; its `try` turns every failure into NaN. -/
def memToMib (memUsedPart : String) : PyFloat :=
  match memMatch (strip memUsedPart.data) with
  | none => .nan none
  | some (num, unit) =>
      match floatOfText num with
      | some (.num val) => ((mibOfUnit unit val).map .num).getD (.nan none)
      | _ => .nan none

/-- `parse_mem_usage_to_mib(mem_usage)`: the used side of `"<used>/<limit>"`. -/
def parseMemUsageToMib (memUsage : Option String) : PyFloat :=
  memToMib ⟨strip (beforeFirst '/' (memUsage.getD "").data)⟩

/-! ## The accepted shape -/

/-- Each unit's scale to MiB: `1024^k / 1024^2` for `B`, `KiB`, `MiB`, `GiB`, `TiB` and
`1000^k / 1024^2` for `KB`, `MB`, `GB`. -/
def unitScale (u : List Char) : Option ℚ :=
  if u = "B".data then some (1024 ^ 0 / 1024 ^ 2)
  else if u = "KiB".data then some (1024 ^ 1 / 1024 ^ 2)
  else if u = "MiB".data then some (1024 ^ 2 / 1024 ^ 2)
  else if u = "GiB".data then some (1024 ^ 3 / 1024 ^ 2)
  else if u = "TiB".data then some (1024 ^ 4 / 1024 ^ 2)
  else if u = "KB".data then some (1000 ^ 1 / 1024 ^ 2)
  else if u = "MB".data then some (1000 ^ 2 / 1024 ^ 2)
  else if u = "GB".data then some (1000 ^ 3 / 1024 ^ 2)
  else none

/-- `t` is a magnitude, optional space and a known unit, worth `v` MiB. -/
def MemShape (t : List Char) (v : ℚ) : Prop :=
  ∃ m w u k, t = m ++ w ++ u ∧ IsMagnitude m ∧ (∀ c ∈ w, isSpace c) ∧ unitScale u = some k ∧
    v = magnitudeValue m * k

theorem isNumChar_of_isSpace {c : Char} (h : isSpace c) : isNumChar c = false := by
  have hd : c.isDigit = false := by
    cases hc : c.isDigit
    · rfl
    · exact absurd h (by simp [isSpace_of_isDigit hc])
  have hp : c ≠ '.' := by rintro rfl; exact absurd h (by decide)
  simp [isNumChar, hd, hp]

theorem isNumChar_of_isAlpha {c : Char} (h : c.isAlpha) : isNumChar c = false := by
  have hp : c ≠ '.' := by rintro rfl; exact absurd h (by decide)
  simp [isNumChar, isDigit_of_isAlpha h, hp]

theorem IsMagnitude.numChars {m : List Char} (h : IsMagnitude m) : ∀ c ∈ m, isNumChar c := by
  cases h with
  | whole _ hd => exact fun c hc => by simp [isNumChar, hd c hc]
  | point hd₁ _ hd₂ =>
      intro c hc
      simp only [List.mem_append, List.mem_cons] at hc
      rcases hc with hc | rfl | hc <;> simp [isNumChar, *]

theorem IsMagnitude.shape {m : List Char} (h : IsMagnitude m) : magnitudeShape m = true := by
  cases h with
  | whole hne hd => simp [magnitudeShape, List.dropWhile_eq_nil_iff.mpr hd, hne]
  | point hd₁ hne hd₂ =>
      simp [magnitudeShape, List.dropWhile_append_of_pos hd₁, hne, List.all_eq_true.mpr hd₂]

theorem isMagnitude_of_shape {l : List Char} (hs : magnitudeShape l = true) : IsMagnitude l := by
  have hsplit := List.takeWhile_append_dropWhile Char.isDigit l
  have hd : ∀ c ∈ l.takeWhile Char.isDigit, c.isDigit := fun c hc => List.mem_takeWhile_imp hc
  unfold magnitudeShape at hs
  split at hs
  · rename_i hnil
    rw [hnil, List.append_nil] at hsplit
    exact .whole (by simpa using hs) (hsplit ▸ hd)
  · rename_i r hr
    simp only [Bool.and_eq_true, Bool.not_eq_true', List.isEmpty_eq_false, List.all_eq_true] at hs
    rw [hr] at hsplit
    exact hsplit ▸ .point hd hs.1 hs.2
  · exact absurd hs (by simp)

theorem memMatch_shape {m w u : List Char} (hm : IsMagnitude m) (hw : ∀ c ∈ w, isSpace c)
    (hu : u ≠ []) (hu' : ∀ c ∈ u, c.isAlpha) : memMatch (m ++ w ++ u) = some (m, u) := by
  have hhead : ∀ c ∈ (m ++ (w ++ u)).head?, isSpace c = false := by
    obtain ⟨c, r, rfl⟩ := List.exists_cons_of_ne_nil hm.ne_nil
    rcases hm.head c rfl with hc | rfl
    · simp [isSpace_of_isDigit hc]
    · simp; rfl
  have huh : ∀ c ∈ u.head?, c.isAlpha := fun c hc => hu' c (List.mem_of_mem_head? hc)
  have hrest : ∀ c ∈ (w ++ u).head?, isNumChar c = false := by
    cases w with
    | nil => exact fun c hc => isNumChar_of_isAlpha (huh c (by simpa using hc))
    | cons x w => exact fun c hc => isNumChar_of_isSpace (hw c (by simp_all))
  have hnum := span_of_head_false hrest
  have hlstrip : lstrip (w ++ u) = u :=
    lstrip_append_of_spaces hw (fun c hc => isSpace_of_isAlpha (huh c hc))
  rw [List.append_assoc]
  unfold memMatch
  simp only [lstrip_eq_self hhead, List.takeWhile_append_of_pos hm.numChars, List.dropWhile_append_of_pos hm.numChars,
    hnum.1, hnum.2, List.append_nil, hlstrip, List.takeWhile_eq_self_iff.mpr hu',
    List.dropWhile_eq_nil_iff.mpr hu', hm.shape]
  simp [hu]

theorem memMatch_eq_some {t num unit : List Char} (h : memMatch t = some (num, unit))
    (hhead : ∀ c ∈ t.head?, isSpace c = false) (hlast : ∀ c ∈ t.getLast?, isSpace c = false) :
    ∃ w, t = num ++ w ++ unit ∧ IsMagnitude num ∧ (∀ c ∈ w, isSpace c) ∧ unit ≠ [] ∧
      ∀ c ∈ unit, c.isAlpha := by
  unfold memMatch at h
  dsimp only at h
  rw [lstrip_eq_self hhead] at h
  split_ifs at h with hc
  simp only [Option.some.injEq, Prod.mk.injEq] at h
  obtain ⟨rfl, rfl⟩ := h
  simp only [Bool.and_eq_true, Bool.not_eq_true', List.isEmpty_eq_false, List.all_eq_true] at hc
  obtain ⟨⟨hshape, hne⟩, htail⟩ := hc
  set rest := t.dropWhile isNumChar
  set r₂ := lstrip rest
  have ht : t = t.takeWhile isNumChar ++ rest.takeWhile isSpace ++
      (r₂.takeWhile Char.isAlpha ++ r₂.dropWhile Char.isAlpha) := by
    rw [List.takeWhile_append_dropWhile, List.append_assoc]
    exact ((congrArg _ (List.takeWhile_append_dropWhile isSpace rest)).trans
      (List.takeWhile_append_dropWhile isNumChar t)).symm
  have hnil : r₂.dropWhile Char.isAlpha = [] := by
    by_contra hne'
    obtain ⟨c, hc⟩ := Option.ne_none_iff_exists'.mp (List.getLast?_eq_none_iff.not.mpr hne')
    have hl : t.getLast? = some c := by
      conv_lhs => rw [ht]
      rw [List.getLast?_append_of_ne_nil _ (List.append_ne_nil_of_right_ne_nil _ hne'),
        List.getLast?_append_of_ne_nil _ hne', hc]
    exact absurd (hlast c hl) (by simp [htail c (List.mem_of_mem_getLast? hc)])
  rw [hnil, List.append_nil] at ht
  exact ⟨_, ht, isMagnitude_of_shape hshape, fun c hc => List.mem_takeWhile_imp hc, hne,
    fun c hc => List.mem_takeWhile_imp hc⟩

theorem memMatch_isMagnitude {t num unit : List Char} (h : memMatch t = some (num, unit)) :
    IsMagnitude num := by
  unfold memMatch at h
  dsimp only at h
  split_ifs at h with hc
  simp only [Option.some.injEq, Prod.mk.injEq] at h
  obtain ⟨rfl, rfl⟩ := h
  simp only [Bool.and_eq_true] at hc
  exact isMagnitude_of_shape hc.1.1

/-! ## Units -/

theorem unitScale_letters {u : List Char} {k : ℚ} (h : unitScale u = some k) :
    u ≠ [] ∧ ∀ c ∈ u, c.isAlpha := by
  by_cases hu : u ∈ ["B".data, "KiB".data, "MiB".data, "GiB".data, "TiB".data, "KB".data,
      "MB".data, "GB".data]
  · simp only [List.mem_cons, List.not_mem_nil, or_false] at hu
    rcases hu with rfl | rfl | rfl | rfl | rfl | rfl | rfl | rfl <;> decide
  · simp only [List.mem_cons, List.not_mem_nil, or_false, not_or] at hu
    simp [unitScale, hu] at h

private theorem ite_map_mul {p : Prop} [Decidable p] {a b c d : Option ℚ} (val : ℚ)
    (h₁ : a = c.map (val * ·)) (h₂ : b = d.map (val * ·)) :
    (if p then a else b) = (if p then c else d).map (val * ·) := by
  split_ifs <;> assumption

/-- The code's unit chain scales by exactly the table's factors. -/
theorem mibOfUnit_eq (u : List Char) (val : ℚ) :
    mibOfUnit u val = (unitScale u).map (val * ·) := by
  unfold mibOfUnit unitScale
  repeat refine ite_map_mul val (by rw [Option.map_some']; congr 1; ring) ?_
  rfl

/-! ## Every memory string -/

theorem memShape_iff {t : List Char} (hhead : ∀ c ∈ t.head?, isSpace c = false)
    (hlast : ∀ c ∈ t.getLast?, isSpace c = false) (v : ℚ) :
    MemShape t v ↔ ∃ num unit k, memMatch t = some (num, unit) ∧ unitScale unit = some k ∧
      v = magnitudeValue num * k := by
  constructor
  · rintro ⟨m, w, u, k, rfl, hm, hw, hk, rfl⟩
    have hu := unitScale_letters hk
    exact ⟨m, u, k, memMatch_shape hm hw hu.1 hu.2, hk, rfl⟩
  · rintro ⟨num, unit, k, hmatch, hk, rfl⟩
    obtain ⟨w, rfl, hm, hw, -⟩ := memMatch_eq_some hmatch hhead hlast
    exact ⟨num, w, unit, k, rfl, hm, hw, hk, rfl⟩

theorem memToMib_of_none {t : List Char} (h : memMatch (strip t) = none) :
    memToMib ⟨t⟩ = .nan none := by
  simp [memToMib, h]

theorem memToMib_of_some {t num unit : List Char} (h : memMatch (strip t) = some (num, unit)) :
    memToMib ⟨t⟩ = ((unitScale unit).map fun k => .num (magnitudeValue num * k)).getD (.nan none) := by
  simp [memToMib, h, floatOfText_magnitude (memMatch_isMagnitude h), mibOfUnit_eq, Option.map_map,
    Function.comp_def]

/-- `mem_to_mib` of stripped text: the scaled magnitude where the text has the shape, NaN
everywhere else. -/
theorem memToMib_strip_spec (a : List Char) :
    (∀ v, memToMib ⟨strip a⟩ = .num v ↔ MemShape (strip a) v) ∧
    ((memToMib ⟨strip a⟩).isNan ↔ ¬ ∃ v, MemShape (strip a) v) := by
  have hshape := memShape_iff (strip_head a) (strip_last a)
  have hst : strip (strip a) = strip a := strip_strip _
  cases hm : memMatch (strip a) with
  | none =>
      rw [memToMib_of_none (by rw [hst, hm])]
      simp [hshape, hm]
  | some p =>
      obtain ⟨num, unit⟩ := p
      rw [memToMib_of_some (by rw [hst, hm])]
      cases hk : unitScale unit with
      | none => simp [hshape, hm, hk]
      | some k =>
          refine ⟨fun v => ?_, by simpa [hshape, hm] using ⟨_, k, hk, rfl⟩⟩
          simp only [hshape, hm, Option.map_some', Option.getD_some, PyFloat.num.injEq,
            Option.some.injEq, Prod.mk.injEq]
          constructor
          · rintro rfl
            exact ⟨num, unit, k, ⟨rfl, rfl⟩, hk, rfl⟩
          · rintro ⟨_, _, k', ⟨rfl, rfl⟩, hk', rfl⟩
            rw [hk] at hk'
            cases hk'
            rfl

/-- `parse_mem_usage_to_mib` on every input, a used side `a` with or without `/` and a limit
after it: the limit is never read, the stripped used side with a magnitude, optional space and a
known unit gives the scaled magnitude, and everything else, `None` included, gives NaN. -/
theorem parseMemUsageToMib_spec (a : List Char) (limit : Option (List Char)) (ha : '/' ∉ a) :
    (∀ v, parseMemUsageToMib (some ⟨a ++ (limit.map ('/' :: ·)).getD []⟩) = .num v ↔
      MemShape (strip a) v) ∧
    ((parseMemUsageToMib (some ⟨a ++ (limit.map ('/' :: ·)).getD []⟩)).isNan ↔
      ¬ ∃ v, MemShape (strip a) v) ∧
    (parseMemUsageToMib none).isNan := by
  have hused : beforeFirst '/' (a ++ (limit.map ('/' :: ·)).getD []) = a := by
    cases limit with
    | none => simpa using beforeFirst_of_not_mem ha
    | some b => exact beforeFirst_append ha b
  have hparse : parseMemUsageToMib (some ⟨a ++ (limit.map ('/' :: ·)).getD []⟩) =
      memToMib ⟨strip a⟩ := by
    simp only [parseMemUsageToMib, Option.getD_some, hused]
  rw [hparse]
  exact ⟨(memToMib_strip_spec a).1, (memToMib_strip_spec a).2, rfl⟩

theorem parseMemUsageToMib_used_side :
    parseMemUsageToMib (some "512MiB / 1GiB") = .num (magnitudeValue "512".data * (1024 ^ 2 / 1024 ^ 2)) :=
  ((parseMemUsageToMib_spec "512MiB ".data (some " 1GiB".data) (by decide)).1 _).mpr
    ⟨"512".data, [], "MiB".data, _, by decide, .whole (by decide) (by decide), by simp, rfl, rfl⟩

end H3Bench
