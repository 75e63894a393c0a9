import Mathlib.Data.List.Dedup
import H3Bench.Plots.Tables

/-! # The best configuration per skew (make_plots.py: `write_tables`, `best_for`)

`table_best_config_by_zipf` ranks the cache configurations of resolution 7, 8 and 9 at 800 rps
that sustain the load, `throughput_rps_median >= 0.95 * target_rps`. At a rate of 800 the float
`0.95 * 800` is exactly 760, so the exact comparison below is the code's. For every skew,
ascending, `best_for` drops the rows without the metric and takes `idxmin`, the first row of least
value. `bestFor_spec` states that choice as a first minimum, in the manner of a leftmost argmin,
and `bestConfigTable_best_in_table800` traces every entry of the table back to a line of
`table_800_summary` that no sustaining configuration of its skew beats.
-/

namespace H3Bench

/-- A row of the best-configuration source after its masks and filters: `int(h3_res)`, the skew,
and the three latencies. -/
structure Candidate where
  h3Res : Int
  zipfS : ℚ
  p50MsMedian : PyFloat
  p95MsMedian : PyFloat
  p99MsMedian : PyFloat

/-- `h3_res.isin([7, 8, 9])`, as the `int` the table prints. -/
def resolutionOf (h : ℚ) : Option Int :=
  [7, 8, 9].find? fun i : Int => (i : ℚ) = h

/-- The masks and `dropna` of `t3src` and the sustained-load filter: a cache row at 800 rps with
a resolution of 7, 8 or 9, a skew and a throughput of at least `0.95 * 800`. -/
def AggRecord.candidate? (r : AggRecord) : Option Candidate :=
  match r.h3Res, r.zipfS, r.throughputRpsMedian, r.targetRps with
  | .num h, .num z, .num t, .num g =>
      if g = 800 ∧ r.scenario.isText "cache" = true ∧ 19 / 20 * g ≤ t then
        (resolutionOf h).map fun i => ⟨i, z, r.p50MsMedian, r.p95MsMedian, r.p99MsMedian⟩
      else none
  | _, _, _, _ => none

inductive Latency
  | p50
  | p95
  | p99
  deriving DecidableEq

def Candidate.latency (c : Candidate) : Latency → PyFloat
  | .p50 => c.p50MsMedian
  | .p95 => c.p95MsMedian
  | .p99 => c.p99MsMedian

def AggRecord.latency (r : AggRecord) : Latency → PyFloat
  | .p50 => r.p50MsMedian
  | .p95 => r.p95MsMedian
  | .p99 => r.p99MsMedian

/-- The row a candidate comes from: a cache row at 800 rps of resolution 7, 8 or 9, of the
candidate's skew and latencies, with a throughput of at least 760 rps. -/
theorem AggRecord.candidate?_eq_some {r : AggRecord} {c : Candidate} (h : r.candidate? = some c) :
    r.targetRps = .num 800 ∧ r.scenario.isText "cache" = true ∧ r.h3Res = .num c.h3Res ∧
      c.h3Res ∈ [7, 8, 9] ∧ r.zipfS = .num c.zipfS ∧ (∃ t, r.throughputRpsMedian = .num t ∧ 760 ≤ t) ∧
      ∀ l, c.latency l = r.latency l := by
  unfold AggRecord.candidate? at h
  split at h
  next h₀ z t g hh hz ht hg =>
    split_ifs at h with hok
    obtain ⟨rfl, hcache, hload⟩ := hok
    obtain ⟨i, hi, rfl⟩ := Option.map_eq_some'.mp h
    have hval : (i : ℚ) = h₀ := by simpa using List.find?_some hi
    exact ⟨hg, hcache, by rw [hh, hval], List.mem_of_find?_eq_some hi, hz, ⟨t, ht, by linarith⟩,
      fun l => by cases l <;> rfl⟩
  next => cases h

/-! ## `best_for` -/

/-- `best_for(metric)` on the rows of one skew: `dropna` of the metric, then `idxmin`, the first
row of least value, as its resolution and value; `none` for the `(None, nan)` of no value. -/
def bestFor (metric : Candidate → PyFloat) : List Candidate → Option (Int × ℚ)
  | [] => none
  | c :: rest =>
      match (metric c).num?, bestFor metric rest with
      | none, b => b
      | some m, none => some (c.h3Res, m)
      | some m, some b => if b.2 < m then some b else some (c.h3Res, m)

/-- `(h, m)` belongs to the first row of least value of the metric: a row of resolution `h` and
value `m`, the rows before it of greater values, the rows after it of values at least `m`, rows
without a value anywhere. -/
def IsFirstMin (metric : Candidate → PyFloat) (zdf : List Candidate) (h : Int) (m : ℚ) : Prop :=
  ∃ pre c post, zdf = pre ++ c :: post ∧ c.h3Res = h ∧ metric c = .num m ∧
    (∀ c' ∈ pre, ∀ w, metric c' = .num w → m < w) ∧ (∀ c' ∈ post, ∀ w, metric c' = .num w → m ≤ w)

section BestFor

variable (metric : Candidate → PyFloat)

theorem bestFor_eq_none_iff (zdf : List Candidate) :
    bestFor metric zdf = none ↔ ∀ c ∈ zdf, (metric c).isNan := by
  induction zdf with
  | nil => simp [bestFor]
  | cons c rest ih =>
      cases hc : metric c with
      | nan o => simp [bestFor, hc, ih]
      | num m =>
          cases hb : bestFor metric rest with
          | none => simp [bestFor, hc, hb]
          | some b =>
              simp only [bestFor, hc, hb, PyFloat.num?_num]
              split_ifs <;> simp [hc]

variable {metric}

theorem IsFirstMin.exists_mem {zdf : List Candidate} {h : Int} {m : ℚ} (hf : IsFirstMin metric zdf h m) :
    ∃ c ∈ zdf, metric c = .num m := by
  obtain ⟨pre, c, post, rfl, -, hm, -⟩ := hf
  exact ⟨c, by simp, hm⟩

theorem IsFirstMin.le {zdf : List Candidate} {h : Int} {m : ℚ} (hf : IsFirstMin metric zdf h m) :
    ∀ c ∈ zdf, ∀ w, metric c = .num w → m ≤ w := by
  obtain ⟨pre, c, post, rfl, -, hm, hpre, hpost⟩ := hf
  intro c' hc' w hw
  rcases List.mem_append.mp hc' with hc' | hc'
  · exact (hpre c' hc' w hw).le
  · rcases List.mem_cons.mp hc' with rfl | hc'
    · rw [hm] at hw
      cases hw
      exact le_rfl
    · exact hpost c' hc' w hw

theorem isFirstMin_cons_iff {c : Candidate} {rest : List Candidate} {h : Int} {m : ℚ} :
    IsFirstMin metric (c :: rest) h m ↔
      (c.h3Res = h ∧ metric c = .num m ∧ ∀ c' ∈ rest, ∀ w, metric c' = .num w → m ≤ w) ∨
        ((∀ w, metric c = .num w → m < w) ∧ IsFirstMin metric rest h m) := by
  constructor
  · rintro ⟨pre, c₀, post, heq, hh, hm, hpre, hpost⟩
    cases pre with
    | nil =>
        obtain ⟨rfl, rfl⟩ := List.cons.inj heq
        exact .inl ⟨hh, hm, hpost⟩
    | cons p pre =>
        obtain ⟨rfl, rfl⟩ := List.cons.inj heq
        exact .inr ⟨hpre c (List.mem_cons_self _ _), pre, c₀, post, rfl, hh, hm,
          fun c' hc' => hpre c' (List.mem_cons_of_mem _ hc'), hpost⟩
  · rintro (⟨hh, hm, hpost⟩ | ⟨hc, pre, c₀, post, rfl, hh, hm, hpre, hpost⟩)
    · exact ⟨[], c, rest, rfl, hh, hm, by simp, hpost⟩
    · exact ⟨c :: pre, c₀, post, rfl, hh, hm, List.forall_mem_cons.mpr ⟨hc, hpre⟩, hpost⟩

theorem IsFirstMin.unique {zdf : List Candidate} {h h' : Int} {m m' : ℚ}
    (hf : IsFirstMin metric zdf h m) (hf' : IsFirstMin metric zdf h' m') : h = h' ∧ m = m' := by
  induction zdf with
  | nil =>
      obtain ⟨pre, c, post, heq, -⟩ := hf
      simp at heq
  | cons c rest ih =>
      rw [isFirstMin_cons_iff] at hf hf'
      rcases hf with ⟨rfl, hm, hpost⟩ | ⟨hlt, hf⟩ <;> rcases hf' with ⟨rfl, hm', hpost'⟩ | ⟨hlt', hf'⟩
      · exact ⟨rfl, PyFloat.num.inj (hm.symm.trans hm')⟩
      · obtain ⟨c', hc', hv⟩ := hf'.exists_mem
        exact absurd (hpost c' hc' _ hv) (not_le.mpr (hlt' _ hm))
      · obtain ⟨c', hc', hv⟩ := hf.exists_mem
        exact absurd (hpost' c' hc' _ hv) (not_le.mpr (hlt _ hm'))
      · exact ih hf hf'

/-- What `best_for` returns is the first minimum. -/
theorem isFirstMin_of_bestFor {zdf : List Candidate} {h : Int} {m : ℚ}
    (hb : bestFor metric zdf = some (h, m)) : IsFirstMin metric zdf h m := by
  induction zdf generalizing h m with
  | nil => cases hb
  | cons c rest ih =>
      rw [isFirstMin_cons_iff]
      cases hc : metric c with
      | nan o =>
          simp only [bestFor, hc, PyFloat.num?_nan] at hb
          exact .inr ⟨by simp, ih hb⟩
      | num m₀ =>
          cases hr : bestFor metric rest with
          | none =>
              simp only [bestFor, hc, hr, PyFloat.num?_num, Option.some.injEq, Prod.mk.injEq] at hb
              obtain ⟨rfl, rfl⟩ := hb
              refine .inl ⟨rfl, rfl, fun c' hc' w hw => ?_⟩
              simpa [hw] using (bestFor_eq_none_iff metric rest).mp hr c' hc'
          | some b =>
              obtain ⟨hb₁, mb⟩ := b
              simp only [bestFor, hc, hr, PyFloat.num?_num] at hb
              split_ifs at hb with hlt
              · cases hb
                exact .inr ⟨fun w hw => PyFloat.num.inj hw ▸ hlt, ih hr⟩
              · cases hb
                exact .inl ⟨rfl, rfl, fun c' hc' w hw => (not_lt.mp hlt).trans ((ih hr).le c' hc' w hw)⟩

variable (metric)

/-- `best_for` returns the resolution and value of the first row of least value, and nothing
else: `idxmin` over the rows that have a value. It returns no resolution exactly when no row has
a value. -/
theorem bestFor_spec (zdf : List Candidate) :
    (∀ h m, bestFor metric zdf = some (h, m) ↔ IsFirstMin metric zdf h m) ∧
      (bestFor metric zdf = none ↔ ∀ c ∈ zdf, (metric c).isNan) := by
  refine ⟨fun h m => ⟨isFirstMin_of_bestFor, fun hf => ?_⟩, bestFor_eq_none_iff metric zdf⟩
  obtain ⟨c, hc, hv⟩ := hf.exists_mem
  obtain ⟨⟨h', m'⟩, hb⟩ := Option.ne_none_iff_exists'.mp fun hn => by
    simpa [hv] using (bestFor_eq_none_iff metric zdf).mp hn c hc
  obtain ⟨rfl, rfl⟩ := (isFirstMin_of_bestFor hb).unique hf
  exact hb

end BestFor

/-! ## The table -/

/-- A row of `table_best_config_by_zipf` as `rows.append` builds it: the skew, and the resolution
and value `best_for` found for each latency. -/
structure BestRow where
  zipfS : ℚ
  p50 : Option (Int × ℚ)
  p95 : Option (Int × ℚ)
  p99 : Option (Int × ℚ)

def BestRow.best (b : BestRow) : Latency → Option (Int × ℚ)
  | .p50 => b.p50
  | .p95 => b.p95
  | .p99 => b.p99

/-- `zdf`: the rows of the source at one skew. -/
def skewRows (cands : List Candidate) (z : ℚ) : List Candidate :=
  cands.filter fun c => c.zipfS = z

def bestRow (cands : List Candidate) (z : ℚ) : BestRow :=
  ⟨z, bestFor (·.latency .p50) (skewRows cands z), bestFor (·.latency .p95) (skewRows cands z),
    bestFor (·.latency .p99) (skewRows cands z)⟩

/-- `sorted(t3src["zipf_s"].unique())`. -/
def skews (cands : List Candidate) : List ℚ :=
  (cands.map (·.zipfS)).dedup.mergeSort fun a b => decide (a ≤ b)

/-- The rows of `table_best_config_by_zipf`, or `none` when `write_tables` skips it: a row for
each skew whose `zdf` is not empty, sorted by skew once more. -/
def bestConfigTable (rows : List AggRecord) : Option (List BestRow) :=
  let cands := rows.filterMap AggRecord.candidate?
  if cands.isEmpty then none
  else
    let out := ((skews cands).filter fun z => !(skewRows cands z).isEmpty).map (bestRow cands)
    if out.isEmpty then none else some (out.mergeSort fun a b => decide (a.zipfS ≤ b.zipfS))

theorem mem_skews {cands : List Candidate} {z : ℚ} : z ∈ skews cands ↔ z ∈ cands.map (·.zipfS) := by
  rw [skews, List.mem_mergeSort, List.mem_dedup]

theorem skews_sorted (cands : List Candidate) : (skews cands).Sorted (· < ·) := by
  have h := @List.sorted_mergeSort ℚ (fun a b => decide (a ≤ b))
    (fun a b c hab hbc => by simp only [decide_eq_true_eq] at *; exact le_trans hab hbc)
    (fun a b => by simpa using le_total a b) (cands.map (·.zipfS)).dedup
  exact List.Sorted.lt_of_le (h.imp (by simp)) ((List.mergeSort_perm _ _).nodup_iff.mpr (List.nodup_dedup _))

/-- With a candidate, the table is the row of each skew in ascending order: no skew is skipped,
and the last sort changes nothing. -/
theorem bestConfigTable_of_ne_nil {rows : List AggRecord} (h : rows.filterMap AggRecord.candidate? ≠ []) :
    bestConfigTable rows =
      some ((skews (rows.filterMap AggRecord.candidate?)).map (bestRow (rows.filterMap AggRecord.candidate?))) := by
  set cands := rows.filterMap AggRecord.candidate?
  have hkeep : (skews cands).filter (fun z => !(skewRows cands z).isEmpty) = skews cands := by
    refine List.filter_eq_self.mpr fun z hz => ?_
    obtain ⟨c, hc, rfl⟩ := List.mem_map.mp (mem_skews.mp hz)
    simpa [skewRows, List.isEmpty_iff, List.filter_eq_nil_iff] using ⟨c, hc, rfl⟩
  have hne : (skews cands).map (bestRow cands) ≠ [] := by
    obtain ⟨c, hc⟩ := List.exists_mem_of_ne_nil _ h
    rw [Ne, List.map_eq_nil_iff]
    exact List.ne_nil_of_mem (mem_skews.mpr (List.mem_map_of_mem _ hc))
  have hresort : ((skews cands).map (bestRow cands)).mergeSort (fun a b => decide (a.zipfS ≤ b.zipfS)) =
      (skews cands).map (bestRow cands) := by
    refine List.mergeSort_of_sorted (List.pairwise_map.mpr ?_)
    exact (skews_sorted cands).imp fun hab => by simpa [bestRow] using hab.le
  simp only [bestConfigTable]
  rw [if_neg (by rw [List.isEmpty_iff]; exact h)]
  simp only [hkeep]
  rw [if_neg (by rw [List.isEmpty_iff]; exact hne), hresort]

theorem bestRow_best (cands : List Candidate) (z : ℚ) (l : Latency) :
    (bestRow cands z).best l = bestFor (·.latency l) (skewRows cands z) := by
  cases l <;> rfl

theorem eq_of_bestConfigTable_eq_some {rows : List AggRecord} {out : List BestRow}
    (h : bestConfigTable rows = some out) :
    out = (skews (rows.filterMap AggRecord.candidate?)).map (bestRow (rows.filterMap AggRecord.candidate?)) := by
  by_cases hc : rows.filterMap AggRecord.candidate? = []
  · simp [bestConfigTable, hc] at h
  · exact (Option.some.inj ((bestConfigTable_of_ne_nil hc).symm.trans h)).symm

/-- Every entry of the best-configuration table names a line of `table_800_summary`: a cache row
of that resolution and skew, sustaining at least 760 rps, with that value of the latency; and no
sustaining cache row of that skew has a lower value. -/
theorem bestConfigTable_best_in_table800 {rows : List AggRecord} {out : List BestRow}
    (h : bestConfigTable rows = some out) {b : BestRow} (hb : b ∈ out) (l : Latency) {res : Int}
    {m : ℚ} (hl : b.best l = some (res, m)) :
    (∃ out800, table800 rows = some out800 ∧ ∃ r ∈ out800, r.scenario.isText "cache" = true ∧
      r.h3Res = .num res ∧ r.zipfS = .num b.zipfS ∧ (∃ t, r.throughputRpsMedian = .num t ∧ 760 ≤ t) ∧
      r.latency l = .num m) ∧
    ∀ r ∈ rows, ∀ c, r.candidate? = some c → c.zipfS = b.zipfS → ∀ w, r.latency l = .num w → m ≤ w := by
  set cands := rows.filterMap AggRecord.candidate?
  obtain ⟨z, -, rfl⟩ := List.mem_map.mp (eq_of_bestConfigTable_eq_some h ▸ hb)
  have hf := isFirstMin_of_bestFor ((bestRow_best cands z l).symm.trans hl)
  constructor
  · obtain ⟨pre, c, post, hsplit, rfl, hm, -⟩ := hf
    have hc : c ∈ skewRows cands z := hsplit ▸ List.mem_append_right pre (List.mem_cons_self c post)
    obtain ⟨hcand, rfl⟩ : c ∈ cands ∧ c.zipfS = z := by simpa [skewRows] using hc
    obtain ⟨r, hr, hrc⟩ := List.mem_filterMap.mp hcand
    obtain ⟨h800, hcache, hres, -, hz, hload, hlat⟩ := AggRecord.candidate?_eq_some hrc
    have hkeep : r.targetRps.eqNum 800 = true := by simp [h800, PyFloat.eqNum]
    obtain ⟨out800, hout⟩ := Option.ne_none_iff_exists'.mp fun hn =>
      List.filter_eq_nil_iff.mp
        ((summaryTable_eq_none_iff (·.targetRps.eqNum 800) AggRecord.zipfS rows).mp hn) r hr hkeep
    exact ⟨out800, hout, r, (mem_summaryTable _ _ hout).mpr ⟨hr, hkeep⟩, hcache, hres, hz, hload,
      (hlat l).symm.trans hm⟩
  · intro r hr c hc hz w hw
    obtain ⟨-, -, -, -, -, -, hlat⟩ := AggRecord.candidate?_eq_some hc
    refine hf.le c ?_ w ((hlat l).trans hw)
    simpa [skewRows] using ⟨List.mem_filterMap.mpr ⟨r, hr, hc⟩, hz⟩

theorem bestConfigTable_one_row_in_table800 :
    let r : AggRecord := ⟨.str "cache", .num 9, .num 1, .num 800, .num 10, .num 20, .num 30, .num 790,
      .num 0, .nan none, .nan none, .nan none, .nan none, .num 1⟩
    let b : BestRow := ⟨1, some (9, 10), some (9, 20), some (9, 30)⟩
    bestConfigTable [r] = some [b] ∧ b.best .p50 = some (9, 10) ∧
      ∃ out800, table800 [r] = some out800 ∧ ∃ r' ∈ out800, r'.h3Res = .num 9 ∧ r'.latency .p50 = .num 10 := by
  intro r b
  have hc : [r].filterMap AggRecord.candidate? = [⟨9, 1, .num 10, .num 20, .num 30⟩] := by
    have hload : (19 / 20 * 800 : ℚ) ≤ 790 := by norm_num
    simp only [r, List.filterMap_cons, List.filterMap_nil, AggRecord.candidate?, PyVal.isText, hload,
      and_true, true_and, if_true]
    simp [resolutionOf]
  have h : bestConfigTable [r] = some [b] := by
    rw [bestConfigTable_of_ne_nil (by simp [hc]), hc]
    simp only [skews, List.map_cons, List.map_nil, List.dedup_cons_of_not_mem (List.not_mem_nil _),
      List.dedup_nil, List.mergeSort_singleton]
    rfl
  obtain ⟨⟨out800, h800, r', hr', -, hres, -, -, hlat⟩, -⟩ :=
    bestConfigTable_best_in_table800 h (List.mem_singleton_self b) .p50 rfl
  exact ⟨h, rfl, out800, h800, r', hr', hres, hlat⟩

/-! ## The LaTeX table -/

def colsBest : List String :=
  ["zipf_s", "best_h3_res_p50", "best_p50_ms", "best_h3_res_p95", "best_p95_ms", "best_h3_res_p99",
    "best_p99_ms"]

def resCell : Option (Int × ℚ) → PyVal
  | some (h, _) => .int h
  | none => .float (.nan none)

def msCell : Option (Int × ℚ) → PyVal
  | some (_, m) => .float (.num m)
  | none => .float (.nan none)

def BestRow.get (b : BestRow) : String → PyVal
  | "zipf_s" => .float (.num b.zipfS)
  | "best_h3_res_p50" => resCell b.p50
  | "best_p50_ms" => msCell b.p50
  | "best_h3_res_p95" => resCell b.p95
  | "best_p95_ms" => msCell b.p95
  | "best_h3_res_p99" => resCell b.p99
  | "best_p99_ms" => msCell b.p99
  | _ => .none

def resText : Option (Int × ℚ) → String
  | some (h, _) => toString h
  | none => "--"

def msText : Option (Int × ℚ) → String
  | some (_, m) => fixedText 3 (.num m)
  | none => "--"

def bestCells (b : BestRow) : List String :=
  [fixedText 1 (.num b.zipfS), resText b.p50, msText b.p50, resText b.p95, msText b.p95,
    resText b.p99, msText b.p99]

section Tex

variable (reprOf : PyVal → String)

theorem formatCell_res (o : Option (Int × ℚ)) {col : String} (hcol : col ∈ ["best_h3_res_p50", "best_h3_res_p95", "best_h3_res_p99"]) :
    formatCell reprOf (resCell o) col = resText o := by
  obtain ⟨hi, hz, hp⟩ : col ∉ integerColumns ∧ col ≠ "zipf_s" ∧
      "best_h3_res_".data.isPrefixOf col.data = true := by
    simp only [List.mem_cons, List.mem_singleton, List.not_mem_nil, or_false] at hcol
    rcases hcol with rfl | rfl | rfl <;> decide
  rcases o with _ | ⟨h, m⟩
  · rfl
  · simp [formatCell, resCell, resText, isNan, hi, hz, hp, intText?, pyFloat, PyVal.toFloat?, pyRound]

theorem formatCell_ms (o : Option (Int × ℚ)) {col : String} (hcol : col ∈ ["best_p50_ms", "best_p95_ms", "best_p99_ms"]) :
    formatCell reprOf (msCell o) col = msText o := by
  obtain ⟨hi, hz, hp⟩ : col ∉ integerColumns ∧ col ≠ "zipf_s" ∧
      "best_h3_res_".data.isPrefixOf col.data = false ∧
      ("best_".data.isPrefixOf col.data && "_ms".data.isSuffixOf col.data) = true := by
    simp only [List.mem_cons, List.mem_singleton, List.not_mem_nil, or_false] at hcol
    rcases hcol with rfl | rfl | rfl <;> decide
  rcases o with _ | ⟨h, m⟩
  · rfl
  · simp [formatCell, msCell, msText, isNan, hi, hz, hp, pyFloat, PyVal.toFloat?]

/-- A row of the table prints as its skew to one decimal and, for each latency, the resolution and
the value to three decimals, `--` where `best_for` found none. -/
theorem cellText_bestRow (b : BestRow) : colsBest.map (cellText reprOf b.get) = bestCells b := by
  have hz : formatCell reprOf (.float (.num b.zipfS)) "zipf_s" = fixedText 1 (.num b.zipfS) := by
    simp [formatCell, isNan, integerColumns, pyFloat, PyVal.toFloat?]
  simp only [colsBest, List.map_cons, List.map_nil, cellText, bestCells]
  simp only [numericLike, List.mem_cons, List.mem_singleton, List.not_mem_nil, or_false, or_true,
    true_or, if_true]
  show [formatCell reprOf (.float (.num b.zipfS)) "zipf_s",
    formatCell reprOf (resCell b.p50) "best_h3_res_p50", formatCell reprOf (msCell b.p50) "best_p50_ms",
    formatCell reprOf (resCell b.p95) "best_h3_res_p95", formatCell reprOf (msCell b.p95) "best_p95_ms",
    formatCell reprOf (resCell b.p99) "best_h3_res_p99", formatCell reprOf (msCell b.p99) "best_p99_ms"] = _
  rw [hz, formatCell_res reprOf _ (by simp), formatCell_ms reprOf _ (by simp),
    formatCell_res reprOf _ (by simp), formatCell_ms reprOf _ (by simp),
    formatCell_res reprOf _ (by simp), formatCell_ms reprOf _ (by simp)]

/-- Every row line of `table_best_config_by_zipf.tex` reads back as the printed cells of its row:
the skew to one decimal and, for each latency, the resolution and the value to three decimals. -/
theorem bestConfigLines_readRow (out : List BestRow) {i : Nat} (hi : i < out.length) :
    readRow ((latexTableLines reprOf BestRow.get out colsBest).getD (i + 4) "").data =
      (bestCells out[i]).map String.data := by
  rw [latexTableLines_getD_row reprOf BestRow.get out colsBest hi, ← cellText_bestRow reprOf,
    List.map_map]
  exact readRow_texRow (by simp [colsBest]) (by simpa using fun c _ => texPlain_cellText reprOf _ c)

theorem bestConfigLines_first_row :
    readRow ((latexTableLines (fun _ => "") BestRow.get [⟨1, none, none, none⟩] colsBest).getD 4 "").data =
      (bestCells ⟨1, none, none, none⟩).map String.data :=
  @bestConfigLines_readRow (fun _ => "") [⟨1, none, none, none⟩] 0 (by decide)

end Tex

/-- The `.tex` files `write_tables` writes, by name; a table it skips has none. -/
def writeTablesTex (reprOf : PyVal → String) (rows : List AggRecord) : List (String × String) :=
  ((table800 rows).toList.map fun t =>
      ("table_800_summary.tex", latexTableText reprOf AggRecord.get t cols800)) ++
    ((tableLoad rows).toList.map fun t =>
      ("table_load_sensitivity.tex", latexTableText reprOf AggRecord.get t colsLoad)) ++
    ((bestConfigTable rows).toList.map fun t =>
      ("table_best_config_by_zipf.tex", latexTableText reprOf BestRow.get t colsBest))

end H3Bench
