import Mathlib.Data.Prod.Lex
import Mathlib.Order.WithBot
import H3Bench.Collect.Scalars
import H3Bench.Plots.LatexTable

/-! # The summary tables (make_plots.py: `load_csvs`, `write_tables`)

`load_csvs` reads `runs_agg.csv` and `coerce_numeric` turns each numeric column into numbers, a
NaN wherever a cell is empty or no number; `AggRecord` is a row of that frame. `write_tables`
selects rows with boolean masks and orders them with `sort_values` on three columns, each
ascending with its NaNs last; pandas sorts on several columns with a stable lexicographic sort,
here `List.mergeSort` on the lexicographic key `tableKey`.
-/

namespace H3Bench

/-- A row of `runs_agg.csv` after `load_csvs`: the columns of `agg_numeric` as numbers, NaN where
`coerce_numeric` read none, and `scenario` as `read_csv` read it, a `str` or a NaN. -/
structure AggRecord where
  scenario : PyVal
  h3Res : PyFloat
  zipfS : PyFloat
  targetRps : PyFloat
  p50MsMedian : PyFloat
  p95MsMedian : PyFloat
  p99MsMedian : PyFloat
  throughputRpsMedian : PyFloat
  errorsSum : PyFloat
  postgisCpuAvgPctMedian : PyFloat
  geoserverCpuAvgPctMedian : PyFloat
  postgisMemAvgMibMedian : PyFloat
  geoserverMemAvgMibMedian : PyFloat
  nReps : PyFloat

def AggRecord.get (r : AggRecord) : String → PyVal
  | "scenario" => r.scenario
  | "h3_res" => .float r.h3Res
  | "zipf_s" => .float r.zipfS
  | "target_rps" => .float r.targetRps
  | "p50_ms_median" => .float r.p50MsMedian
  | "p95_ms_median" => .float r.p95MsMedian
  | "p99_ms_median" => .float r.p99MsMedian
  | "throughput_rps_median" => .float r.throughputRpsMedian
  | "errors_sum" => .float r.errorsSum
  | "postgis_cpu_avg_pct_median" => .float r.postgisCpuAvgPctMedian
  | "geoserver_cpu_avg_pct_median" => .float r.geoserverCpuAvgPctMedian
  | "postgis_mem_avg_mib_median" => .float r.postgisMemAvgMibMedian
  | "geoserver_mem_avg_mib_median" => .float r.geoserverMemAvgMibMedian
  | "n_reps" => .float r.nReps
  | _ => .none

/-- `df["scenario"] == s` on one cell: a `str` equal to `s`. -/
def PyVal.isText (v : PyVal) (s : String) : Bool :=
  match v with
  | .str t => t == s
  | _ => false

/-- `df[c] == q` on a numeric cell: a NaN equals nothing. -/
def PyFloat.eqNum (x : PyFloat) (q : ℚ) : Bool := x.num? == some q

/-! ## Ordering rows -/

/-- The key `sort_values` orders a numeric column by: the numbers ascending, NaN after them. -/
def floatKey : PyFloat → WithTop ℚ
  | .num q => q
  | .nan _ => ⊤

/-- The key of the `scenario` column: the texts ascending, any other value after them. -/
def textKey : PyVal → WithTop String
  | .str s => s
  | _ => ⊤

/-- The key of `sort_values([k, "scenario", "h3_res"])`: the three columns in turn. -/
def tableKey (k : AggRecord → PyFloat) (r : AggRecord) : WithTop ℚ ×ₗ WithTop String ×ₗ WithTop ℚ :=
  toLex (floatKey (k r), toLex (textKey r.scenario, floatKey r.h3Res))

/-- The rows a mask keeps, sorted by the key of `tableKey k`; `none` when no row is kept, for
which `write_tables` warns and writes no table. -/
def summaryTable (keep : AggRecord → Bool) (k : AggRecord → PyFloat) (rows : List AggRecord) :
    Option (List AggRecord) :=
  let t := rows.filter keep
  if t.isEmpty then none else some (t.mergeSort fun x y => decide (tableKey k x ≤ tableKey k y))

def cols800 : List String :=
  ["scenario", "h3_res", "zipf_s", "p50_ms_median", "p95_ms_median", "p99_ms_median",
    "throughput_rps_median", "errors_sum", "postgis_cpu_avg_pct_median",
    "geoserver_cpu_avg_pct_median", "postgis_mem_avg_mib_median", "geoserver_mem_avg_mib_median",
    "n_reps"]

def colsLoad : List String :=
  ["scenario", "h3_res", "target_rps", "p50_ms_median", "p95_ms_median", "p99_ms_median",
    "throughput_rps_median", "errors_sum", "postgis_cpu_avg_pct_median",
    "geoserver_cpu_avg_pct_median"]

/-- `table_800_summary`: the rows at 800 rps by skew, scenario and resolution. -/
def table800 (rows : List AggRecord) : Option (List AggRecord) :=
  summaryTable (fun r => r.targetRps.eqNum 800) AggRecord.zipfS rows

/-- The mask of `table_load_sensitivity`: skew 1.3, the baseline at resolution 0 or the cache at
resolution 8, and a rate of 600, 800 or 1000. -/
def loadKeep (r : AggRecord) : Bool :=
  r.zipfS.eqNum (13 / 10) &&
    (r.scenario.isText "baseline" && r.h3Res.eqNum 0 || r.scenario.isText "cache" && r.h3Res.eqNum 8) &&
    [600, 800, 1000].any r.targetRps.eqNum

/-- `table_load_sensitivity`: the selected rows by rate, scenario and resolution. -/
def tableLoad (rows : List AggRecord) : Option (List AggRecord) :=
  summaryTable loadKeep AggRecord.targetRps rows

section Summary

variable (keep : AggRecord → Bool) (k : AggRecord → PyFloat)

theorem summaryTable_eq_none_iff (rows : List AggRecord) :
    summaryTable keep k rows = none ↔ rows.filter keep = [] := by
  simp only [summaryTable]
  split_ifs with h <;> simp_all [List.isEmpty_iff]

theorem mem_summaryTable {rows out : List AggRecord} (h : summaryTable keep k rows = some out)
    {r : AggRecord} : r ∈ out ↔ r ∈ rows ∧ keep r = true := by
  simp only [summaryTable] at h
  split_ifs at h
  cases h
  rw [List.mem_mergeSort, List.mem_filter]

end Summary

end H3Bench
