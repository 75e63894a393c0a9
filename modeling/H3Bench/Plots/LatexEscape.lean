import H3Bench.Python.Text

/-! # `latex_escape` (make_plots.py)

`latex_escape` runs `str.replace` once for each entry of its table `rep`, in the table's order,
each over the whole text produced so far. A one-character `replace` acts on every character on
its own, so the whole pass is a character-wise map: `latexEscape_eq_flatMap` computes it. The
map is the table read character by character (`texEscape`) everywhere except at the backslash,
whose replacement `\textbackslash{}` passes through the later `{` and `}` entries and comes out
as `\textbackslash\{\}`. Every escape of an entry begins with a backslash and none is a prefix
of another, so the escapes form a prefix code and `latex_escape` prints no two texts alike
(`latexEscape_injective`), the doubled braces of the backslash notwithstanding.
-/

namespace H3Bench

/-- `s.replace(k, v)` for a one-character `k`: every occurrence, left to right. -/
def replaceChar (k : Char) (v : List Char) : List Char → List Char
  | [] => []
  | c :: rest => (if c = k then v else [c]) ++ replaceChar k v rest

/-- The dict `rep` of `latex_escape`, in insertion order. -/
def latexReplacements : List (Char × List Char) :=
  [('\\', "\\textbackslash\x7b\x7d".data), ('&', "\\&".data), ('%', "\\%".data),
    ('$', "\\$".data), ('#', "\\#".data), ('_', "\\_".data), ('\x7b', "\\\x7b".data),
    ('\x7d', "\\\x7d".data), ('~', "\\textasciitilde\x7b\x7d".data),
    ('^', "\\textasciicircum\x7b\x7d".data)]

/-- `latex_escape(s)`: `None` gives the empty text; a `str` goes through every replacement of
`rep` in turn. -/
def latexEscape : Option String → String
  | none => ""
  | some s => ⟨latexReplacements.foldl (fun t kv => replaceChar kv.1 kv.2 t) s.data⟩

/-- The escape the table gives one character when read as a per-character map. -/
def texEscape (c : Char) : List Char :=
  (latexReplacements.lookup c).getD [c]

def latexCharEscape (c : Char) : List Char :=
  latexReplacements.foldl (fun t kv => replaceChar kv.1 kv.2 t) [c]

theorem replaceChar_eq_flatMap (k : Char) (v l : List Char) :
    replaceChar k v l = l.flatMap (fun c => if c = k then v else [c]) := by
  induction l with
  | nil => rfl
  | cons c rest ih => simp [replaceChar, ih]

/-- A sequence of one-character replacements is the character-wise map of its action on one
character. -/
theorem foldl_replaceChar (reps : List (Char × List Char)) (l : List Char) :
    reps.foldl (fun t kv => replaceChar kv.1 kv.2 t) l =
      l.flatMap (fun c => reps.foldl (fun t kv => replaceChar kv.1 kv.2 t) [c]) := by
  induction reps generalizing l with
  | nil => simp
  | cons kv reps ih =>
      have hl : replaceChar kv.1 kv.2 l = l.flatMap (fun c => replaceChar kv.1 kv.2 [c]) := by
        simp [replaceChar_eq_flatMap]
      rw [List.foldl_cons, ih, hl, List.flatMap_assoc]
      congr 1
      funext c
      exact (ih _).symm

theorem latexEscape_eq_flatMap (s : String) :
    (latexEscape (some s)).data = s.data.flatMap latexCharEscape := by
  rw [latexEscape, foldl_replaceChar]
  rfl

theorem foldl_replaceChar_of_not_mem {reps : List (Char × List Char)} {c : Char}
    (h : c ∉ reps.map Prod.fst) : reps.foldl (fun t kv => replaceChar kv.1 kv.2 t) [c] = [c] := by
  induction reps with
  | nil => rfl
  | cons kv reps ih =>
      have hc : c ≠ kv.1 := fun e => h (by simp [e])
      simpa [replaceChar, hc] using ih (fun hm => h (by simp [hm]))

theorem latexCharEscape_of_ne {c : Char} (h : c ≠ '\\') : latexCharEscape c = texEscape c := by
  by_cases hk : c ∈ latexReplacements.map Prod.fst
  · have hkeys : ∀ d ∈ latexReplacements.map Prod.fst, d ≠ '\\' →
        latexCharEscape d = texEscape d := by decide
    exact hkeys c hk h
  · simp [latexCharEscape, texEscape, foldl_replaceChar_of_not_mem hk, lookup_of_not_mem hk]

/-- The backslash's replacement has its braces escaped by the later entries. -/
theorem latexCharEscape_backslash :
    latexCharEscape '\\' = "\\textbackslash\\\x7b\\\x7d".data := rfl

/-- Off the backslash, `latex_escape` is the character-wise escape of the table. -/
theorem latexEscape_of_no_backslash {s : String} (h : '\\' ∉ s.data) :
    (latexEscape (some s)).data = s.data.flatMap texEscape := by
  rw [latexEscape_eq_flatMap]
  exact List.flatMap_congr fun c hc => latexCharEscape_of_ne (fun e => h (e ▸ hc))

theorem latexEscape_amp_underscore :
    (latexEscape (some "a&b_c")).data = "a&b_c".data.flatMap texEscape :=
  latexEscape_of_no_backslash (by decide)

/-- A lone backslash comes out as `\textbackslash\{\}`, where the table reads
`\textbackslash{}`. -/
theorem latexEscape_backslash :
    latexEscape (some "\\") = "\\textbackslash\\\x7b\\\x7d" ∧
      (latexEscape (some "\\")).data ≠ "\\".data.flatMap texEscape := by
  have h : (latexEscape (some "\\")).data = "\\textbackslash\\\x7b\\\x7d".data := by
    rw [latexEscape_eq_flatMap, show "\\".data = ['\\'] from rfl, List.flatMap_singleton,
      latexCharEscape_backslash]
  exact ⟨String.ext h, by rw [h]; decide⟩

/-! ## `latex_escape` loses nothing -/

theorem latexCharEscape_key {c : Char} (hc : c ∈ latexReplacements.map Prod.fst) :
    (latexCharEscape c).head? = some '\\' ∧ 2 ≤ (latexCharEscape c).length := by
  have hkeys : ∀ d ∈ latexReplacements.map Prod.fst,
      (latexCharEscape d).head? = some '\\' ∧ 2 ≤ (latexCharEscape d).length := by decide
  exact hkeys c hc

theorem latexCharEscape_of_not_key {c : Char} (hc : c ∉ latexReplacements.map Prod.fst) :
    latexCharEscape c = [c] :=
  foldl_replaceChar_of_not_mem hc

theorem latexCharEscape_ne_nil (c : Char) : latexCharEscape c ≠ [] := by
  by_cases hc : c ∈ latexReplacements.map Prod.fst
  · exact List.ne_nil_of_length_pos (by have := (latexCharEscape_key hc).2; omega)
  · simp [latexCharEscape_of_not_key hc]

theorem latexCharEscape_eq_of_isPrefix {c d : Char}
    (h : (latexCharEscape c).IsPrefix (latexCharEscape d)) : c = d := by
  have hbs : '\\' ∈ latexReplacements.map Prod.fst := by decide
  by_cases hc : c ∈ latexReplacements.map Prod.fst <;> by_cases hd : d ∈ latexReplacements.map Prod.fst
  · have hkeys : ∀ c ∈ latexReplacements.map Prod.fst, ∀ d ∈ latexReplacements.map Prod.fst,
        (latexCharEscape c).IsPrefix (latexCharEscape d) → c = d := by decide
    exact hkeys c hc d hd h
  · rw [latexCharEscape_of_not_key hd] at h
    have hlen := h.length_le
    have hkey := (latexCharEscape_key hc).2
    simp only [List.length_singleton] at hlen
    omega
  · rw [latexCharEscape_of_not_key hc] at h
    obtain ⟨t, ht⟩ := h
    have hhead := (latexCharEscape_key hd).1
    rw [← ht, List.singleton_append, List.head?_cons, Option.some.injEq] at hhead
    exact absurd (hhead ▸ hbs) hc
  · rw [latexCharEscape_of_not_key hc, latexCharEscape_of_not_key hd] at h
    obtain ⟨t, ht⟩ := h
    exact (List.cons.inj ht).1

theorem flatMap_latexCharEscape_inj :
    ∀ {s t : List Char}, s.flatMap latexCharEscape = t.flatMap latexCharEscape → s = t
  | [], [], _ => rfl
  | [], d :: t, h => absurd h.symm (by simp [latexCharEscape_ne_nil])
  | c :: s, [], h => absurd h (by simp [latexCharEscape_ne_nil])
  | c :: s, d :: t, h => by
      simp only [List.flatMap_cons] at h
      have hd : (latexCharEscape d).IsPrefix (latexCharEscape c ++ s.flatMap latexCharEscape) := by
        rw [h]
        exact List.prefix_append _ _
      have hcd : c = d := by
        rcases List.prefix_or_prefix_of_prefix (List.prefix_append _ _) hd with hp | hp
        exacts [latexCharEscape_eq_of_isPrefix hp, (latexCharEscape_eq_of_isPrefix hp).symm]
      subst hcd
      rw [flatMap_latexCharEscape_inj (List.append_cancel_left h)]

/-- `latex_escape` prints no two texts alike, though it escapes the backslash twice. -/
theorem latexEscape_injective : Function.Injective fun s => latexEscape (some s) := by
  intro s t h
  refine String.ext (flatMap_latexCharEscape_inj ?_)
  rw [← latexEscape_eq_flatMap, ← latexEscape_eq_flatMap]
  exact congrArg String.data h

end H3Bench
