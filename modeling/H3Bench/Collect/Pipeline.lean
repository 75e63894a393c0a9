import H3Bench.Collect.Runs
import H3Bench.Collect.Aggregate

/-! # The two tables (collect_results.py: `main`)

`main` writes `runs_long`, the records of the walk, and `runs_agg`, their aggregation. The records
of the walk have a text scenario and an `int` resolution (`collectRuns_groupKey`), so their keys
are of plain values as soon as the skew is a number and the rate an `int`, and the aggregation is
then the one of `aggregateRuns_canonical`. Every record has the columns of `RUNS_LONG_COLUMNS`, so
`write_csv` writes each record's own values (`collectRuns_csvCells`).

A bundle whose name gives no skew makes its own NaN, and a dict key holding a NaN matches only that
object: `aggregateRuns_nan_split` takes one configuration measured under two roots and gets two
rows of one replication each.
-/

namespace H3Bench

section Results

variable (fromisoformat : String → Option DateTime) (reprOf : PyVal → String)

/-- The tables `main()` writes, `runs_long` and `runs_agg`; `none` is an exception of either
step. -/
def collectResults (roots : List Root) :
    Option (List (List (String × PyVal)) × List AggRow) := do
  let runsLong ← (collectRuns fromisoformat reprOf roots).toOption
  let runsAgg ← aggregateRuns reprOf runsLong
  pure (runsLong, runsAgg)

/-- The records of the walk have a text scenario and an `int` resolution in their keys. -/
theorem collectRuns_groupKey {roots : List Root} {rows : List (List (String × PyVal))}
    (h : collectRuns fromisoformat reprOf roots = .ok rows) :
    ∀ r ∈ rows, (∃ s, (groupKey reprOf r).scenario = .str s) ∧ ∃ i, (groupKey reprOf r).h3Res = .int i := by
  intro r hr
  obtain ⟨ctx, -, -, hwalk⟩ := collectRuns_records fromisoformat reprOf h r hr
  have hs : PyVal.lookup r "scenario" = .str ctx.meta.scenario :=
    hwalk ("scenario", .str ctx.meta.scenario) (by simp [walkFields])
  have hh : PyVal.lookup r "h3_res" = .int ctx.meta.h3Res :=
    hwalk ("h3_res", .int ctx.meta.h3Res) (by simp [walkFields])
  exact ⟨⟨_, hs⟩, ⟨ctx.meta.h3Res, by simp only [groupKey, hh, safeInt_int]⟩⟩

/-- On a corpus whose records have numeric skews and `int` rates, `main` writes one aggregated row
per key, in ascending key order, each the row of the records of its key. -/
theorem collectResults_canonical {roots : List Root} {rows : List (List (String × PyVal))}
    (h : collectRuns fromisoformat reprOf roots = .ok rows)
    (hnum : ∀ r ∈ rows, (∃ z, (groupKey reprOf r).zipfS = .num z) ∧ ∃ t, (groupKey reprOf r).targetRps = .int t) :
    ∃ out, collectResults fromisoformat reprOf roots = some (rows, out) ∧
      (out.map AggRow.key).Sorted (· < ·) ∧ (out.map AggRow.key).Perm (rows.map (rowKey reprOf)).dedup ∧
      out = (out.map AggRow.key).map (classRow reprOf rows) := by
  have hc : ∀ r ∈ rows, (groupKey reprOf r).IsCanonical := fun r hr =>
    ⟨(collectRuns_groupKey fromisoformat reprOf h r hr).1, (collectRuns_groupKey fromisoformat reprOf h r hr).2,
      (hnum r hr).1, (hnum r hr).2⟩
  obtain ⟨out, hout, hrest⟩ := aggregateRuns_canonical reprOf rows hc
  exact ⟨out, by simp [collectResults, h, hout, Except.toOption], hrest⟩

theorem collectResults_one_config :
    let roots : List Root := [⟨"r", some [.dir "cache-r9-ttl60-hotwarm-invlazy"
      [.dir "rep1" [.file "cache_summary.json"
          (some (.obj [("zipf_s", .int 1), ("target_rps", .int 800), ("p50_ms", .int 10)])) [],
        .file "docker_stats.csv" none []]]]⟩]
    ∃ rows out, collectResults (fun _ => none) (fun _ => "") roots = some (rows, out) ∧
      (out.map AggRow.key).Sorted (· < ·) := by
  intro roots
  have hnum := List.forall_iff_forall_mem.mp (show List.Forall (fun r =>
      (∃ z, (groupKey (fun _ => "") r).zipfS = .num z) ∧ ∃ t, (groupKey (fun _ => "") r).targetRps = .int t)
    ((collectRuns (fun _ => none) (fun _ => "") roots).toOption.getD []) from ⟨⟨1, rfl⟩, ⟨800, rfl⟩⟩)
  obtain ⟨out, hout, hsorted, -⟩ :=
    @collectResults_canonical (fun _ => none) (fun _ => "") roots _ rfl hnum
  exact ⟨_, out, hout, hsorted⟩

/-! ## The CSV rows -/

/-- The cell `write_csv` writes for a value: the text `nan` for a NaN float, else the value. -/
def csvCell : PyVal → PyVal
  | .float (.nan _) => .str "nan"
  | v => v

/-- `out_row` of `write_csv`: under each column the row's value, `""` when it has none. -/
def csvCells (columns : List String) (r : List (String × PyVal)) : List PyVal :=
  columns.map fun c => csvCell ((r.lookup c).getD (.str ""))

theorem csvCells_of_keys : ∀ {columns : List String} {r : List (String × PyVal)},
    r.map (·.1) = columns → columns.Nodup → csvCells columns r = r.map (csvCell ·.2)
  | _, [], h, _ => by cases h; rfl
  | _, (k, v) :: rest, h, hnd => by
      cases h
      obtain ⟨hk, hnd⟩ := List.nodup_cons.mp hnd
      have hk' : k ∉ rest.map (·.1) := hk
      have htail : ∀ c ∈ rest.map (·.1), ((k, v) :: rest).lookup c = rest.lookup c := fun c hc => by
        rw [List.lookup_cons, beq_false_of_ne fun (h : c = k) => hk' (h ▸ hc)]
      simp only [csvCells, List.map_cons, List.lookup_cons_self, Option.getD_some, List.cons.injEq,
        true_and]
      refine (List.map_congr_left fun c hc => ?_).trans (csvCells_of_keys rfl hnd)
      rw [htail c hc]

/-- `runs_long.csv` holds under every column the record's own value, NaN written as `nan`. -/
theorem collectRuns_csvCells {roots : List Root} {rows : List (List (String × PyVal))}
    (h : collectRuns fromisoformat reprOf roots = .ok rows) :
    ∀ r ∈ rows, csvCells runsLongColumns r = r.map (csvCell ·.2) := fun r hr => by
  obtain ⟨_, -, hkeys, -⟩ := collectRuns_records fromisoformat reprOf h r hr
  exact csvCells_of_keys hkeys (by decide)

theorem collectRuns_csv_one_rep :
    let roots : List Root := [⟨"r", some [.dir "cache-r9-ttl60-hotwarm-invlazy"
      [.dir "rep1" [.file "cache_summary.json" (some (.obj [("p50_ms", .int 10)])) [],
        .file "docker_stats.csv" none []]]]⟩]
    ∃ rows, collectRuns (fun _ => none) (fun _ => "") roots = .ok rows ∧
      ∀ r ∈ rows, csvCells runsLongColumns r = r.map (csvCell ·.2) := by
  intro roots
  exact ⟨_, rfl, @collectRuns_csvCells (fun _ => none) (fun _ => "") roots _ rfl⟩

/-- One configuration, the bundle `cache-r9-ttl60-hotwarm-invlazy` without a skew, measured once
under each of two roots: the two records have NaN skews and equal keys of plain items, yet
`aggregate_runs` returns two rows of one replication each. -/
theorem aggregateRuns_nan_split :
    let rep (p50 : Int) : Node :=
      .dir "rep1" [.file "cache_summary.json" (some (.obj [("p50_ms", .int p50)])) [],
        .file "docker_stats.csv" none []]
    let roots : List Root :=
      [⟨"a", some [.dir "cache-r9-ttl60-hotwarm-invlazy" [rep 10]]⟩,
        ⟨"b", some [.dir "cache-r9-ttl60-hotwarm-invlazy" [rep 20]]⟩]
    ∃ rows, collectRuns fromisoformat reprOf roots = .ok rows ∧
      rows.map (fun r => (groupKey reprOf r).zipfS.isNan) = [true, true] ∧
      (∃ k, rows.map (rowKey reprOf) = [k, k]) ∧
      (aggregateRuns reprOf rows).map (·.map AggRow.nReps) = some [1, 1] :=
  ⟨_, rfl, rfl, ⟨_, rfl⟩, rfl⟩

end Results

end H3Bench
