import H3Bench.Plots.Format

/-! # `write_minimal_latex_table` (make_plots.py)

The table is a `tabular` with one column letter per column, a header of the escaped column names
and one line per row of the frame, its cells joined by ` & ` and closed by ` \\`. TeX ends a cell
at every `&` that no backslash takes, so a row keeps its cells apart exactly when no cell holds
such an `&` and none ends in a backslash that would take the separator's space (`texPlain`).
`latex_escape` and `format_cell` write only such cells, whatever the frame holds
(`texPlain_cellText`), so `readRow`, which cuts a line at the `&`s TeX reads as tabs, takes every
line of the table back to its cells (`latexTableLines_readRow`).
-/

namespace H3Bench

/-! ## Cells as TeX reads them -/

/-- Whether TeX reads a text inside one cell: every `&` is taken by a backslash before it, and no
backslash is left at the end to take the next character. -/
def texPlain : List Char → Bool
  | [] => true
  | '&' :: _ => false
  | ['\\'] => false
  | '\\' :: _ :: r => texPlain r
  | _ :: rest => texPlain rest

def consFirst (p : List Char) : List (List Char) → List (List Char)
  | [] => [p]
  | x :: xs => (p ++ x) :: xs

/-- A line cut at its alignment tabs: the `&`s that no backslash takes. -/
def splitTabs : List Char → List (List Char)
  | [] => [[]]
  | '&' :: rest => [] :: splitTabs rest
  | ['\\'] => [['\\']]
  | '\\' :: d :: r => consFirst ['\\', d] (splitTabs r)
  | c :: rest => consFirst [c] (splitTabs rest)

@[simp] theorem texPlain_tab (r : List Char) : texPlain ('&' :: r) = false := rfl
@[simp] theorem texPlain_backslash_nil : texPlain ['\\'] = false := rfl
@[simp] theorem texPlain_backslash_cons (d : Char) (r : List Char) :
    texPlain ('\\' :: d :: r) = texPlain r := rfl

theorem texPlain_cons_of_ne {c : Char} (h₁ : c ≠ '&') (h₂ : c ≠ '\\') (r : List Char) :
    texPlain (c :: r) = texPlain r := by
  simp [texPlain, h₁, h₂]

@[simp] theorem splitTabs_tab (r : List Char) : splitTabs ('&' :: r) = [] :: splitTabs r := rfl
@[simp] theorem splitTabs_backslash_cons (d : Char) (r : List Char) :
    splitTabs ('\\' :: d :: r) = consFirst ['\\', d] (splitTabs r) := rfl

theorem splitTabs_cons_of_ne {c : Char} (h₁ : c ≠ '&') (h₂ : c ≠ '\\') (r : List Char) :
    splitTabs (c :: r) = consFirst [c] (splitTabs r) := by
  simp [splitTabs, h₁, h₂]

theorem ne_backslash_of_cases {c : Char} {r : List Char} (h₂ : c = '\\' → r = [] → False)
    (h₃ : ∀ d r', c = '\\' → r = d :: r' → False) : c ≠ '\\' := fun e => by
  cases r with
  | nil => exact h₂ e rfl
  | cons d r' => exact h₃ d r' e rfl

theorem texPlain_append {a b : List Char} (ha : texPlain a) (hb : texPlain b) :
    texPlain (a ++ b) := by
  induction a using texPlain.induct with
  | case1 => exact hb
  | case2 r => simp at ha
  | case3 => simp at ha
  | case4 d r ih =>
      rw [texPlain_backslash_cons] at ha
      exact ih ha
  | case5 c r h₁ h₂ h₃ ih =>
      replace h₂ := ne_backslash_of_cases h₂ h₃
      rw [texPlain_cons_of_ne h₁ h₂] at ha
      rw [List.cons_append, texPlain_cons_of_ne h₁ h₂]
      exact ih ha

theorem texPlain_of_forall {l : List Char} (h : ∀ c ∈ l, c ≠ '&' ∧ c ≠ '\\') : texPlain l := by
  induction l with
  | nil => rfl
  | cons c l ih =>
      simp only [List.mem_cons, forall_eq_or_imp] at h
      rw [texPlain_cons_of_ne h.1.1 h.1.2]
      exact ih h.2

theorem splitTabs_append_tab {a : List Char} (ha : texPlain a) (b : List Char) :
    splitTabs (a ++ '&' :: b) = a :: splitTabs b := by
  induction a using texPlain.induct with
  | case1 => rfl
  | case2 r => simp at ha
  | case3 => simp at ha
  | case4 d r ih =>
      rw [texPlain_backslash_cons] at ha
      rw [List.cons_append, List.cons_append, splitTabs_backslash_cons, ih ha]
      rfl
  | case5 c r h₁ h₂ h₃ ih =>
      replace h₂ := ne_backslash_of_cases h₂ h₃
      rw [texPlain_cons_of_ne h₁ h₂] at ha
      rw [List.cons_append, splitTabs_cons_of_ne h₁ h₂, ih ha]
      rfl

theorem splitTabs_of_texPlain {a : List Char} (ha : texPlain a) : splitTabs a = [a] := by
  induction a using texPlain.induct with
  | case1 => rfl
  | case2 r => simp at ha
  | case3 => simp at ha
  | case4 d r ih =>
      rw [texPlain_backslash_cons] at ha
      rw [splitTabs_backslash_cons, ih ha]
      rfl
  | case5 c r h₁ h₂ h₃ ih =>
      replace h₂ := ne_backslash_of_cases h₂ h₃
      rw [texPlain_cons_of_ne h₁ h₂] at ha
      rw [splitTabs_cons_of_ne h₁ h₂, ih ha]
      rfl

@[simp] theorem intercalate_singleton (sep a : List Char) : List.intercalate sep [a] = a := by
  simp [List.intercalate]

theorem intercalate_cons_cons (sep a b : List Char) (l : List (List Char)) :
    List.intercalate sep (a :: b :: l) = a ++ sep ++ List.intercalate sep (b :: l) := by
  simp [List.intercalate]

theorem splitTabs_intercalate : ∀ {ps : List (List Char)}, ps ≠ [] → (∀ p ∈ ps, texPlain p) →
    splitTabs (List.intercalate ['&'] ps) = ps
  | [], h, _ => absurd rfl h
  | [p], _, hp => by simpa using splitTabs_of_texPlain (hp p (by simp))
  | p :: q :: ps, _, hp => by
      rw [intercalate_cons_cons, List.append_assoc, List.singleton_append,
        splitTabs_append_tab (hp p (by simp)),
        splitTabs_intercalate (List.cons_ne_nil q ps) fun x hx => hp x (List.mem_cons_of_mem p hx)]

/-! ## Rows -/

/-- `" & ".join(cells) + r" \\"`. -/
def texRow (cells : List (List Char)) : List Char :=
  List.intercalate " & ".data cells ++ " \\\\".data

/-- The cells a reader takes back from a row line: the line without its closing ` \\`, cut at
its alignment tabs, each piece without the space the writer puts on either side of a tab. -/
def readRow (line : List Char) : List (List Char) :=
  (splitTabs (' ' :: line.take (line.length - 3) ++ [' '])).map fun p => p.tail.dropLast

def padCell (c : List Char) : List Char := ' ' :: c ++ [' ']

theorem intercalate_padCell : ∀ {cells : List (List Char)}, cells ≠ [] →
    ' ' :: List.intercalate " & ".data cells ++ [' '] = List.intercalate ['&'] (cells.map padCell)
  | [], h => absurd rfl h
  | [c], _ => by simp [padCell]
  | c :: d :: cells, _ => by
      have ih := intercalate_padCell (List.cons_ne_nil d cells)
      rw [List.map_cons, List.map_cons, intercalate_cons_cons, intercalate_cons_cons, ← List.map_cons, ← ih]
      simp [padCell]

theorem texPlain_padCell {c : List Char} (h : texPlain c) : texPlain (padCell c) := by
  rw [padCell, List.cons_append, texPlain_cons_of_ne (by decide) (by decide)]
  exact texPlain_append h rfl

/-- The round trip of a row: a row of plain cells reads back as its cells. -/
theorem readRow_texRow {cells : List (List Char)} (hne : cells ≠ []) (h : ∀ c ∈ cells, texPlain c) :
    readRow (texRow cells) = cells := by
  have htake : (texRow cells).take ((texRow cells).length - 3) = List.intercalate " & ".data cells := by
    simp [texRow]
  rw [readRow, htake, intercalate_padCell hne,
    splitTabs_intercalate (by simpa using hne) (by simpa using fun c hc => texPlain_padCell (h c hc)),
    List.map_map]
  conv_rhs => rw [← List.map_id cells]
  exact List.map_congr_left fun c _ => by simp [padCell]

/-! ## The cells the table writes -/

theorem texPlain_latexCharEscape (c : Char) : texPlain (latexCharEscape c) := by
  by_cases hk : c ∈ latexReplacements.map Prod.fst
  · have hkeys : ∀ d ∈ latexReplacements.map Prod.fst, texPlain (latexCharEscape d) := by decide
    exact hkeys c hk
  · have hamp : c ≠ '&' := fun e => hk (by simp [e, latexReplacements])
    have hbs : c ≠ '\\' := fun e => hk (by simp [e, latexReplacements])
    rw [latexCharEscape, foldl_replaceChar_of_not_mem hk, texPlain_cons_of_ne hamp hbs]
    rfl

/-- `latex_escape` leaves no tab and no dangling backslash, whatever text it is given. -/
theorem texPlain_latexEscape (s : Option String) : texPlain (latexEscape s).data := by
  cases s with
  | none => rfl
  | some s =>
      rw [latexEscape_eq_flatMap]
      induction s.data with
      | nil => rfl
      | cons c l ih => exact texPlain_append (texPlain_latexCharEscape c) ih

theorem texPlain_of_number {l : List Char} (h : ∀ c ∈ l, c.isDigit ∨ c = '-' ∨ c = '.') :
    texPlain l :=
  texPlain_of_forall fun c hc => by
    rcases h c hc with hd | rfl | rfl
    · exact ⟨fun e => absurd (e ▸ hd) (by decide), fun e => absurd (e ▸ hd) (by decide)⟩
    all_goals decide

theorem texPlain_fixedText (n : Nat) (x : PyFloat) : texPlain (fixedText n x).data := by
  cases x with
  | nan o => rfl
  | num q =>
      refine texPlain_of_number fun c hc => ?_
      simp only [fixedText] at hc
      rcases List.mem_append.mp hc with hc | hc
      · split_ifs at hc <;> simp_all
      · rcases fixedDigits_chars _ _ c hc with h | h
        exacts [.inl h, .inr (.inr h)]

theorem texPlain_intText {val : PyVal} {s : String} (h : intText? val = some s) : texPlain s.data := by
  obtain ⟨i, -, rfl⟩ := Option.map_eq_some'.mp h
  refine texPlain_of_number fun c hc => ?_
  cases i with
  | ofNat m => exact .inl (toDigits_isDigit m c hc)
  | negSucc m =>
      rcases List.mem_cons.mp (show c ∈ '-' :: Nat.toDigits 10 (m + 1) from hc) with rfl | hc
      exacts [.inr (.inl rfl), .inl (toDigits_isDigit _ c hc)]

/-- Every text `format_cell` returns is one TeX reads inside one cell. -/
theorem texPlain_formatCell (reprOf : PyVal → String) (val : PyVal) (col : String) :
    texPlain (formatCell reprOf val col).data := by
  have hint : ∀ d : String, texPlain d.data → texPlain ((intText? val).getD d).data := fun d hd => by
    cases h : intText? val with
    | none => exact hd
    | some s => exact texPlain_intText h
  have hfix : ∀ (n : Nat) (d : String), texPlain d.data →
      texPlain (((pyFloat val).map (fixedText n)).getD d).data := fun n d hd => by
    cases pyFloat val with
    | none => exact hd
    | some x => exact texPlain_fixedText n x
  have hesc := texPlain_latexEscape (some (val.toStr reprOf))
  unfold formatCell
  split_ifs
  exacts [rfl, hint _ hesc, hfix 1 _ hesc, hint _ rfl, hfix 3 _ rfl, hfix 3 _ hesc]

/-! ## The table -/

/-- `numeric_like` of `write_minimal_latex_table`. -/
def numericLike : List String :=
  ["h3_res", "zipf_s", "target_rps", "p50_ms_median", "p95_ms_median", "p99_ms_median",
    "throughput_rps_median", "errors_sum", "postgis_cpu_avg_pct_median",
    "geoserver_cpu_avg_pct_median", "postgis_mem_avg_mib_median", "geoserver_mem_avg_mib_median",
    "n_reps", "best_h3_res_p50", "best_p50_ms", "best_h3_res_p95", "best_p95_ms", "best_h3_res_p99",
    "best_p99_ms"]

/-- `colspec`: `r` for a numeric column, `l` for the others. -/
def colspec (columns : List String) : String :=
  ⟨columns.map fun c => if c ∈ numericLike then 'r' else 'l'⟩

section Table

variable (reprOf : PyVal → String)

/-- A row's cell under a column: `format_cell(row.get(c), c)` for a numeric column,
`latex_escape(row.get(c))` for the others. -/
def cellText (get : String → PyVal) (c : String) : String :=
  if c ∈ numericLike then formatCell reprOf (get c) c
  else latexEscape (match get c with
    | .none => none
    | v => some (v.toStr reprOf))

theorem texPlain_cellText (get : String → PyVal) (c : String) : texPlain (cellText reprOf get c).data := by
  unfold cellText
  split_ifs
  exacts [texPlain_formatCell reprOf _ c, texPlain_latexEscape _]

/-- The lines `write_minimal_latex_table` writes for the rows of a frame, `get` reading a row's
value under a column. -/
def latexTableLines {ρ : Type} (get : ρ → String → PyVal) (rows : List ρ) (columns : List String) :
    List String :=
  ["\\begin\x7btabular\x7d\x7b" ++ colspec columns ++ "\x7d", "\\hline",
      ⟨texRow (columns.map fun c => (latexEscape (some c)).data)⟩, "\\hline"] ++
    rows.map (fun r => ⟨texRow (columns.map fun c => (cellText reprOf (get r) c).data)⟩) ++
    ["\\hline", "\\end\x7btabular\x7d"]

/-- The text `write_minimal_latex_table` writes: its lines, each closed by a newline. -/
def latexTableText {ρ : Type} (get : ρ → String → PyVal) (rows : List ρ) (columns : List String) :
    String :=
  "\n".intercalate (latexTableLines reprOf get rows columns) ++ "\n"

theorem latexTableLines_getD_row {ρ : Type} (get : ρ → String → PyVal) (rows : List ρ)
    (columns : List String) {i : Nat} (h : i < rows.length) :
    (latexTableLines reprOf get rows columns).getD (i + 4) "" =
      ⟨texRow (columns.map fun c => (cellText reprOf (get rows[i]) c).data)⟩ := by
  simp [latexTableLines, List.getD_eq_getElem?_getD, List.getElem?_append_right, h,
    List.getElem?_append_left]

/-- Whatever the frame holds, the header and every row line of the table read back as one cell
per column: the escaped column names, and the cells `format_cell` and `latex_escape` give the
row, in the order of the columns. -/
theorem latexTableLines_readRow {ρ : Type} (get : ρ → String → PyVal) (rows : List ρ)
    {columns : List String} (hc : columns ≠ []) :
    (latexTableLines reprOf get rows columns).length = rows.length + 6 ∧
      readRow ((latexTableLines reprOf get rows columns).getD 2 "").data =
        columns.map (fun c => (latexEscape (some c)).data) ∧
      ∀ i (h : i < rows.length), readRow ((latexTableLines reprOf get rows columns).getD (i + 4) "").data =
        columns.map fun c => (cellText reprOf (get rows[i]) c).data := by
  refine ⟨by simp [latexTableLines], ?_, fun i h => ?_⟩
  · exact readRow_texRow (by simpa using hc) (by simpa using fun c _ => texPlain_latexEscape (some c))
  · rw [latexTableLines_getD_row reprOf get rows columns h]
    exact readRow_texRow (by simpa using hc) (by simpa using fun c _ => texPlain_cellText reprOf _ c)

theorem latexTableLines_one_row :
    let lines := latexTableLines (fun _ => "") id [fun _ => .str "a&b"] ["scenario", "n_reps"]
    lines.length = 7 ∧ readRow (lines.getD 2 "").data = ["scenario", "n_reps"].map (fun c => (latexEscape (some c)).data) ∧
      ∀ i (h : i < 1), readRow (lines.getD (i + 4) "").data =
        ["scenario", "n_reps"].map fun c => (cellText (fun _ => "") (id ([fun _ => .str "a&b"] : List (String → PyVal))[i]) c).data :=
  latexTableLines_readRow (fun _ => "") id _ (by decide)

end Table

end H3Bench
