import H3Bench.Collect.BundleMeta
import H3Bench.Collect.Docker

/-! # The corpus walk (collect_results.py: `load_json`, `collect_runs`)

`collect_runs` walks each root's bundle directories and each bundle's replication directories in
name order, and turns every replication with a summary and a resource log into one record of
`runs_long`. The summary is whatever `json.load` made of the file. The loop that copies its fields
runs `k in summary` and `summary.get(k)` with no handler around them, so a summary that is truthy
but not an object raises out of the whole walk: `TypeError` for a number or `true`, and
`AttributeError` for a string or an array that holds one of the field names.

`collectRuns_eq` separates the walk from the loop body: the records are the results of the bodies
over `walkReps`, in order, unless a body raises. `collectRuns_objects` gives the records of a
corpus whose summaries are objects; `collectRuns_not_iterable` and `collectRuns_attribute_error`
give the exception of the first replication whose summary the loop cannot copy.
-/

namespace H3Bench

/-- An entry of a directory: a file, with what `json.load` makes of its bytes (`none` when it
raises) and the lines the CSV reader makes of them, or a directory with its entries. -/
inductive Node where
  | file (name : String) (json : Option Json) (csv : List LogLine)
  | dir (name : String) (entries : List Node)

namespace Node

/-- `path.name`. -/
def name : Node → String
  | file n _ _ => n
  | dir n _ => n

/-- `path.is_dir()`. -/
def isDir : Node → Bool
  | file .. => false
  | dir .. => true

/-- `path.iterdir()`; a file has no entries. -/
def entries : Node → List Node
  | file .. => []
  | dir _ es => es

end Node

/-- A root of the command line: its final name, and its entries when it is a directory (`none`
when the path is missing or not a directory). -/
structure Root where
  name : String
  entries : Option (List Node)

/-- `sorted(d.iterdir())`: the paths of one directory compare by their names. -/
def sortedByName (ns : List Node) : List Node :=
  ns.insertionSort fun a b => textLt b.name.data a.name.data = false

/-- The entry of a directory with the given name, as `(d / name).exists()` finds it. -/
def findEntry (es : List Node) (n : String) : Option Node :=
  es.find? (·.name == n)

/-- `load_json(path)` on a path that exists: a directory cannot be opened, which the handler
turns into `None` as it does a parse error. -/
def loadJson : Node → Option Json
  | .file _ j _ => j
  | .dir .. => none

/-- The lines `compute_docker_averages` reads from a path that exists: a directory cannot be
opened, which fails as a rejected first line does. -/
def dockerLines : Node → List LogLine
  | .file _ _ l => l
  | .dir .. => [.rejected]

/-- The NaN of a bundle's `parse_bundle_meta` call, as the object numbered `i`. -/
def BundleMeta.withNanId (i : Nat) (m : BundleMeta) : BundleMeta :=
  match m.zipfSFromFolder with
  | .nan none => { m with zipfSFromFolder := .nan (some i) }
  | _ => m

/-- A replication directory the loops reach, with what the body reads: the root's name, the
bundle's name and metadata, the number of `rep<N>` and the directory's entries. -/
structure RepCtx where
  rootId : String
  bundleName : String
  meta : BundleMeta
  rep : Nat
  entries : List Node

/-- The bundle directories the walk visits, in order, each with its root's name: the directories
among the sorted entries of each root that is a directory. -/
def walkBundles (roots : List Root) : List (String × String × List Node) :=
  roots.flatMap fun root =>
    ((sortedByName (root.entries.getD [])).filter Node.isDir).map fun b => (root.name, b.name, b.entries)

/-- The replication directories the walk visits, in order: the sorted directories of each bundle
whose names are `rep<N>`. The metadata of the bundle at place `i` of the walk holds the NaN object
`i + 1`; object `0` is the NaN of `json`. -/
def walkReps (roots : List Root) : List RepCtx :=
  (walkBundles roots).enum.flatMap fun (i, rootId, name, es) =>
    (sortedByName (es.filter Node.isDir)).filterMap fun rep =>
      (parseRepInt rep.name).map fun n => ⟨rootId, name, (parseBundleMeta name).withNanId (i + 1), n, rep.entries⟩

/-! ## The loop body -/

def PyVal.typeName : PyVal → String
  | .none => "NoneType"
  | .bool _ => "bool"
  | .int _ => "int"
  | .float _ => "float"
  | .str _ => "str"
  | .list _ => "list"
  | .dict _ => "dict"

/-- `k in summary`: a key of a dict, an item of a list, a substring of a text; any other value
is not iterable. -/
def PyVal.contains (summary : PyVal) (k : String) : Except PyError Bool :=
  match summary with
  | .dict kvs => .ok (kvs.any (·.1 == k))
  | .list xs => .ok (xs.any (·.same (.str k)))
  | .str s => .ok (containsText k.data s.data)
  | v => .error (.typeError ("argument of type \x27" ++ v.typeName ++ "\x27 is not iterable"))

theorem PyVal.truthy_of_contains {v : PyVal} {k : String} (hk : k.data ≠ [])
    (h : v.contains k = .ok true) : v.truthy := by
  cases v with
  | dict kvs => cases kvs <;> simp_all [PyVal.contains, PyVal.truthy]
  | list xs => cases xs <;> simp_all [PyVal.contains, PyVal.truthy]
  | str s =>
      obtain ⟨_ | ⟨c, t⟩⟩ := s
      · simp_all [PyVal.contains, containsText]
      · show (!String.isEmpty ⟨c :: t⟩) = true
        rw [Bool.not_eq_true', Bool.eq_false_iff]
        exact fun he => nomatch congrArg String.data ((String.isEmpty_iff _).mp he)
  | _ => cases h

/-- `summary.get(k)`: only a dict has the method. -/
def PyVal.get (summary : PyVal) (k : String) : Except PyError PyVal :=
  match summary with
  | .dict kvs => .ok (PyVal.lookup kvs k)
  | v => .error (.attributeError ("\x27" ++ v.typeName ++ "\x27 object has no attribute \x27get\x27"))

def runsLongColumns : List String :=
  ["root_id", "bundle_name", "rep", "scenario", "h3_res", "ttl", "hot", "invalidation",
    "zipf_s_from_folder", "start", "end", "duration_sec", "total", "success", "errors",
    "throughput_rps", "target_rps", "achieved_to_target_ratio", "missed_tokens", "max_backlog",
    "token_buffer", "p50_ms", "p95_ms", "p99_ms", "concurrency", "zipf_s", "zipf_v", "bboxes",
    "layer", "target", "seed", "postgis_cpu_avg_pct", "geoserver_cpu_avg_pct",
    "postgis_mem_avg_mib", "geoserver_mem_avg_mib"]

def summaryFields : List String :=
  ["start", "end", "duration_sec", "total", "success", "errors", "throughput_rps", "target_rps",
    "achieved_to_target_ratio", "missed_tokens", "max_backlog", "token_buffer", "p50_ms",
    "p95_ms", "p99_ms", "concurrency", "zipf_s", "zipf_v", "bboxes", "layer", "target", "seed"]

/-- The fields of a record that come from the walk, in the order the body sets them. -/
def walkFields (ctx : RepCtx) : List (String × PyVal) :=
  [("root_id", .str ctx.rootId), ("bundle_name", .str ctx.bundleName), ("rep", .int ctx.rep),
    ("scenario", .str ctx.meta.scenario), ("h3_res", .int ctx.meta.h3Res),
    ("ttl", .str ctx.meta.ttl), ("hot", .str ctx.meta.hot),
    ("invalidation", .str ctx.meta.invalidation),
    ("zipf_s_from_folder", .float ctx.meta.zipfSFromFolder)]

/-- `row = {c: "" for c in RUNS_LONG_COLUMNS}` and the fields that come from the walk. -/
def initialRow (ctx : RepCtx) : List (String × PyVal) :=
  PyVal.setItems (runsLongColumns.map fun c => (c, .str "")) (walkFields ctx)

/-- One pass of `for k in [...]: if k in summary: row[k] = summary.get(k)`. -/
def copyField (summary : PyVal) (row : List (String × PyVal)) (k : String) :
    Except PyError (List (String × PyVal)) :=
  match summary.contains k with
  | .error e => .error e
  | .ok false => .ok row
  | .ok true => (summary.get k).map (PyVal.setItem row k)

def copySummary (summary : PyVal) (row : List (String × PyVal)) :
    Except PyError (List (String × PyVal)) :=
  summaryFields.foldlM (copyField summary) row

/-- `x in ("", None)`: each item compared by `is` or `==`. -/
def isBlank (x : PyVal) : Bool := x.same (.str "") || x.same .none

/-- `(thr / tgt) if (tgt and not math.isnan(tgt) and tgt != 0) else float("nan")`. -/
def targetRatio (thr tgt : PyFloat) : PyFloat :=
  match tgt with
  | .num t =>
      if t ≠ 0 then
        match thr with
        | .num q => .num (q / t)
        | .nan _ => .nan none
      else .nan none
  | .nan _ => .nan none

/-- The summary the body reads: both files are there and `load_json` returns a value. -/
def RepCtx.summary (ctx : RepCtx) : Option PyVal :=
  match findEntry ctx.entries (ctx.meta.scenario ++ "_summary.json"),
      findEntry ctx.entries "docker_stats.csv" with
  | some s, some _ => (loadJson s).map Json.toPy
  | _, _ => none

def RepCtx.log (ctx : RepCtx) : List LogLine :=
  ((findEntry ctx.entries "docker_stats.csv").map dockerLines).getD []

def copiedFields (kvs : List (String × PyVal)) : List (String × PyVal) :=
  (summaryFields.filter fun k => kvs.any (·.1 == k)).map fun k => (k, PyVal.lookup kvs k)

/-! ## Loops that append or raise -/

/-- A loop that appends what each pass returns, unless a pass raises, collects the results of the
passes in order. -/
theorem foldlM_append_eq {α β ε : Type} (f : α → Except ε (Option β)) :
    ∀ (l : List α) (acc : List β),
      l.foldlM (fun rows x => (f x).map fun o => rows ++ o.toList) acc =
        (l.mapM f).map fun os => acc ++ os.filterMap id
  | [], acc => by
      rw [List.mapM_nil]
      show Except.ok acc = Except.ok (acc ++ [])
      rw [List.append_nil]
  | x :: l, acc => by
      rw [List.foldlM_cons, List.mapM_cons]
      cases f x with
      | error e => rfl
      | ok o =>
          show l.foldlM _ (acc ++ o.toList) = _
          rw [foldlM_append_eq f l]
          cases l.mapM f with
          | error e => rfl
          | ok os => cases o <;> simp [Functor.map, Except.map, bind, Except.bind, pure, Except.pure]

theorem mapM_ok_of_forall {α β ε : Type} {f : α → Except ε β} {g : α → β} :
    ∀ {l : List α}, (∀ x ∈ l, f x = .ok (g x)) → l.mapM f = .ok (l.map g)
  | [], _ => rfl
  | x :: l, h => by
      rw [List.mapM_cons, h x (List.mem_cons_self _ _),
        mapM_ok_of_forall fun y hy => h y (List.mem_cons_of_mem _ hy)]
      rfl

theorem mapM_error_of_first {α β ε : Type} {f : α → Except ε β} {x : α} {e : ε} (hx : f x = .error e) :
    ∀ {pre : List α} (post : List α), (∀ y ∈ pre, ∃ b, f y = .ok b) → (pre ++ x :: post).mapM f = .error e
  | [], post, _ => by rw [List.nil_append, List.mapM_cons, hx]; rfl
  | y :: pre, post, h => by
      obtain ⟨b, hb⟩ := h y (List.mem_cons_self _ _)
      rw [List.cons_append, List.mapM_cons, hb,
        mapM_error_of_first hx post fun z hz => h z (List.mem_cons_of_mem _ hz)]
      rfl

theorem mem_of_mapM_ok {α β ε : Type} {f : α → Except ε β} :
    ∀ {l : List α} {os : List β}, l.mapM f = .ok os → ∀ o ∈ os, ∃ x ∈ l, f x = .ok o
  | [], os, h, o, ho => by cases h; simp at ho
  | x :: l, os, h, o, ho => by
      rw [List.mapM_cons] at h
      cases hx : f x with
      | error e => rw [hx] at h; cases h
      | ok b =>
          rw [hx] at h
          cases hl : l.mapM f with
          | error e => rw [hl] at h; cases h
          | ok bs =>
              rw [hl] at h
              cases h
              rcases List.mem_cons.mp ho with rfl | ho
              · exact ⟨x, List.mem_cons_self _ _, hx⟩
              · obtain ⟨y, hy, hfy⟩ := mem_of_mapM_ok hl o ho
                exact ⟨y, List.mem_cons_of_mem _ hy, hfy⟩

/-! ## Copying the summary -/

theorem copyField_ok {v : PyVal} {row row' : List (String × PyVal)} {k : String}
    (h : copyField v row k = .ok row') : row' = row ∨ ∃ x, row' = PyVal.setItem row k x := by
  unfold copyField at h
  split at h
  · cases h
  · cases h; exact .inl rfl
  · cases hg : v.get k with
    | error e => rw [hg] at h; cases h
    | ok x => rw [hg] at h; cases h; exact .inr ⟨x, rfl⟩

theorem foldlM_copyField_ok {v : PyVal} :
    ∀ {ks : List String} {row row' : List (String × PyVal)}, ks.foldlM (copyField v) row = .ok row' →
      ∃ pairs : List (String × PyVal), (∀ p ∈ pairs, p.1 ∈ ks) ∧ row' = PyVal.setItems row pairs
  | [], row, row', h => by cases h; exact ⟨[], by simp, rfl⟩
  | k :: ks, row, row', h => by
      rw [List.foldlM_cons] at h
      cases hk : copyField v row k with
      | error e => rw [hk] at h; cases h
      | ok r =>
          rw [hk] at h
          obtain ⟨pairs, hpairs, rfl⟩ := foldlM_copyField_ok h
          rcases copyField_ok hk with rfl | ⟨x, rfl⟩
          · exact ⟨pairs, fun p hp => List.mem_cons_of_mem _ (hpairs p hp), rfl⟩
          · refine ⟨(k, x) :: pairs, fun p hp => ?_, rfl⟩
            rcases List.mem_cons.mp hp with rfl | hp
            exacts [List.mem_cons_self _ _, List.mem_cons_of_mem _ (hpairs p hp)]

theorem copyField_dict (kvs row : List (String × PyVal)) (k : String) :
    copyField (.dict kvs) row k =
      .ok (if kvs.any (·.1 == k) then PyVal.setItem row k (PyVal.lookup kvs k) else row) := by
  cases h : kvs.any (·.1 == k) <;> simp [copyField, PyVal.contains, PyVal.get, Except.map, h]

/-- On an object the loop copies the fields it has, in the loop's order. -/
theorem copySummary_dict (kvs row : List (String × PyVal)) :
    copySummary (.dict kvs) row = .ok (PyVal.setItems row (copiedFields kvs)) := by
  suffices h : ∀ (ks : List String) (row : List (String × PyVal)),
      ks.foldlM (copyField (.dict kvs)) row =
        .ok (PyVal.setItems row ((ks.filter fun k => kvs.any (·.1 == k)).map fun k => (k, PyVal.lookup kvs k))) from
    h summaryFields row
  intro ks
  induction ks with
  | nil => intro row; rfl
  | cons k ks ih =>
      intro row
      rw [List.foldlM_cons, copyField_dict]
      show ks.foldlM _ _ = _
      rw [ih]
      by_cases hk : kvs.any (·.1 == k) = true <;> simp [hk]

theorem copySummary_seq_error {v : PyVal} (hv : (∃ xs, v = .list xs) ∨ ∃ s, v = .str s)
    (row : List (String × PyVal)) (h : ∃ k ∈ summaryFields, v.contains k = .ok true) :
    copySummary v row =
      .error (.attributeError ("\x27" ++ v.typeName ++ "\x27 object has no attribute \x27get\x27")) := by
  have hok : ∀ k, ∃ b, v.contains k = .ok b := by
    intro k
    rcases hv with ⟨xs, rfl⟩ | ⟨s, rfl⟩ <;> exact ⟨_, rfl⟩
  have hget : ∀ k, v.get k =
      .error (.attributeError ("\x27" ++ v.typeName ++ "\x27 object has no attribute \x27get\x27")) := by
    intro k
    rcases hv with ⟨xs, rfl⟩ | ⟨s, rfl⟩ <;> rfl
  suffices h' : ∀ ks : List String, (∃ k ∈ ks, v.contains k = .ok true) →
      ks.foldlM (copyField v) row = .error (.attributeError ("\x27" ++ v.typeName ++ "\x27 object has no attribute \x27get\x27")) from
    h' summaryFields h
  intro ks
  induction ks with
  | nil => rintro ⟨k, hk, -⟩; cases hk
  | cons k ks ih =>
      rintro ⟨k', hk', hc⟩
      rw [List.foldlM_cons]
      obtain ⟨b, hb⟩ := hok k
      cases b
      · simp only [copyField, hb]
        refine ih ⟨k', ?_, hc⟩
        rcases List.mem_cons.mp hk' with rfl | hk'
        · rw [hb] at hc; cases hc
        · exact hk'
      · simp only [copyField, hb, hget]
        rfl

section Walk

variable (fromisoformat : String → Option DateTime) (reprOf : PyVal → String)

/-- `str(x or "") or None`. -/
def optText (x : PyVal) : Option String :=
  if PyVal.strOrEmpty reprOf x = "" then none else some (PyVal.strOrEmpty reprOf x)

/-- The fields set after the summary's: the throughput ratio and the skew when the summary left
them blank, then the resource averages of the log inside the run's window. -/
def completeRow (ctx : RepCtx) (log : List LogLine) (row : List (String × PyVal)) :
    List (String × PyVal) :=
  let row :=
    if isBlank ((row.lookup "achieved_to_target_ratio").getD (.str "")) then
      PyVal.setItem row "achieved_to_target_ratio"
        (.float (targetRatio (safeFloat (PyVal.lookup row "throughput_rps"))
          (safeFloat (PyVal.lookup row "target_rps"))))
    else row
  let row :=
    if isBlank ((row.lookup "zipf_s").getD (.str "")) then
      PyVal.setItem row "zipf_s" (.float ctx.meta.zipfSFromFolder)
    else row
  let a := computeDockerAverages fromisoformat log (optText reprOf (PyVal.lookup row "start"))
    (optText reprOf (PyVal.lookup row "end"))
  PyVal.setItems row
    [("postgis_cpu_avg_pct", .float a.postgisCpuAvgPct),
      ("geoserver_cpu_avg_pct", .float a.geoserverCpuAvgPct),
      ("postgis_mem_avg_mib", .float a.postgisMemAvgMib),
      ("geoserver_mem_avg_mib", .float a.geoserverMemAvgMib)]

/-- The body of the replication loop: `none` for a `continue`, else the record it appends. -/
def repRow (ctx : RepCtx) : Except PyError (Option (List (String × PyVal))) :=
  match findEntry ctx.entries (ctx.meta.scenario ++ "_summary.json"),
      findEntry ctx.entries "docker_stats.csv" with
  | none, _ => .ok none
  | some _, none => .ok none
  | some s, some d =>
      match loadJson s with
      | none => .ok none
      | some j =>
          if !j.toPy.truthy then .ok none
          else (copySummary j.toPy (initialRow ctx)).map
            fun row => some (completeRow fromisoformat reprOf ctx (dockerLines d) row)

/-- `collect_runs(roots)`; `.error` is an exception that ends the walk. -/
def collectRuns (roots : List Root) : Except PyError (List (List (String × PyVal))) :=
  (walkReps roots).foldlM
    (fun rows ctx => (repRow fromisoformat reprOf ctx).map fun o => rows ++ o.toList) []

/-- The body reads the summary and, when it is truthy, copies its fields into a record. -/
theorem repRow_eq (ctx : RepCtx) :
    repRow fromisoformat reprOf ctx =
      match ctx.summary with
      | none => .ok none
      | some v =>
          if v.truthy then
            (copySummary v (initialRow ctx)).map fun row => some (completeRow fromisoformat reprOf ctx ctx.log row)
          else .ok none := by
  unfold repRow RepCtx.summary RepCtx.log
  cases findEntry ctx.entries (ctx.meta.scenario ++ "_summary.json") <;>
    cases findEntry ctx.entries "docker_stats.csv" <;> try rfl
  rename_i s d
  dsimp only
  cases loadJson s with
  | none => rfl
  | some j => by_cases h : j.toPy.truthy <;> simp [h]

def objectRecord (ctx : RepCtx) : Option (List (String × PyVal)) :=
  match ctx.summary with
  | some (.dict kvs) =>
      if kvs.isEmpty then none
      else some (completeRow fromisoformat reprOf ctx ctx.log (PyVal.setItems (initialRow ctx) (copiedFields kvs)))
  | _ => none

/-- The walk collects the records of the bodies in order, unless one raises. -/
theorem collectRuns_eq (roots : List Root) :
    collectRuns fromisoformat reprOf roots =
      ((walkReps roots).mapM (repRow fromisoformat reprOf)).map (·.filterMap id) := by
  simpa using foldlM_append_eq (repRow fromisoformat reprOf) (walkReps roots) []

/-- When every summary the walk copies from is an object, the walk returns normally with one
record for each replication whose summary is a non-empty object, in walk order. -/
theorem collectRuns_objects (roots : List Root)
    (h : ∀ ctx ∈ walkReps roots, ∀ v, ctx.summary = some v → v.truthy → ∃ kvs, v = .dict kvs) :
    collectRuns fromisoformat reprOf roots = .ok ((walkReps roots).filterMap (objectRecord fromisoformat reprOf)) := by
  have hrow : ∀ ctx ∈ walkReps roots,
      repRow fromisoformat reprOf ctx = .ok (objectRecord fromisoformat reprOf ctx) := by
    intro ctx hctx
    rw [repRow_eq, objectRecord]
    cases hs : ctx.summary with
    | none => rfl
    | some v =>
        dsimp only
        by_cases ht : v.truthy
        · obtain ⟨kvs, rfl⟩ := h ctx hctx v hs ht
          have hne : kvs.isEmpty = false := by simpa [PyVal.truthy] using ht
          dsimp only
          rw [if_pos ht, copySummary_dict, hne]
          rfl
        · rw [if_neg ht]
          cases v with
          | dict kvs =>
              have hemp : kvs.isEmpty = true := by simpa [PyVal.truthy] using ht
              dsimp only
              rw [hemp]
              rfl
          | _ => rfl
  rw [collectRuns_eq, mapM_ok_of_forall hrow]
  simp [Functor.map, Except.map, List.filterMap_map]

theorem collectRuns_object_summary :
    let roots : List Root := [⟨"r", some [.dir "cache-r9-ttl60-hotwarm-invlazy"
      [.dir "rep1" [.file "cache_summary.json" (some (.obj [("p50_ms", .int 10)])) [],
        .file "docker_stats.csv" none []]]]⟩]
    collectRuns (fun _ => none) (fun _ => "") roots =
      .ok ((walkReps roots).filterMap (objectRecord (fun _ => none) (fun _ => ""))) := by
  intro roots
  exact collectRuns_objects (fun _ => none) (fun _ => "") roots (List.forall_iff_forall_mem.mp
    (show List.Forall (fun ctx => ∀ v, ctx.summary = some v → v.truthy → ∃ kvs, v = .dict kvs)
      (walkReps roots) from fun _ hv _ => ⟨_, (Option.some.inj hv).symm⟩))

/-! ## Summaries the loop cannot copy -/

theorem collectRuns_of_first_error {roots : List Root} {pre post : List RepCtx} {ctx : RepCtx}
    (hwalk : walkReps roots = pre ++ ctx :: post)
    (hpre : ∀ c ∈ pre, ∃ o, repRow fromisoformat reprOf c = .ok o) {e : PyError}
    (he : repRow fromisoformat reprOf ctx = .error e) :
    collectRuns fromisoformat reprOf roots = .error e := by
  rw [collectRuns_eq, hwalk, mapM_error_of_first he post hpre]
  rfl

/-- A list or a text summary that holds one of the copied field names, at the first replication of
the walk that raises, makes the walk raise `AttributeError` at the first such field. -/
theorem collectRuns_attribute_error {roots : List Root} {pre post : List RepCtx} {ctx : RepCtx}
    (hwalk : walkReps roots = pre ++ ctx :: post)
    (hpre : ∀ c ∈ pre, ∃ o, repRow fromisoformat reprOf c = .ok o) {v : PyVal}
    (hs : ctx.summary = some v) (hv : (∃ xs, v = .list xs) ∨ ∃ s, v = .str s)
    (hk : ∃ k ∈ summaryFields, v.contains k = .ok true) :
    collectRuns fromisoformat reprOf roots =
      .error (.attributeError ("\x27" ++ v.typeName ++ "\x27 object has no attribute \x27get\x27")) := by
  have ht : v.truthy := by
    obtain ⟨k, hk, hc⟩ := hk
    have hne : ∀ k ∈ summaryFields, k.data ≠ [] := by decide
    exact PyVal.truthy_of_contains (hne k hk) hc
  refine collectRuns_of_first_error fromisoformat reprOf hwalk hpre ?_
  rw [repRow_eq, hs]
  dsimp only
  rw [if_pos ht, copySummary_seq_error hv _ hk]
  rfl

theorem collectRuns_list_summary :
    let roots : List Root := [⟨"r", some [.dir "cache-r9-ttl60-hotwarm-invlazy"
      [.dir "rep1" [.file "cache_summary.json" (some (.arr [.str "p50_ms"])) [],
        .file "docker_stats.csv" none []]]]⟩]
    collectRuns (fun _ => none) (fun _ => "") roots =
      .error (.attributeError "\x27list\x27 object has no attribute \x27get\x27") := by
  intro roots
  exact @collectRuns_attribute_error (fun _ => none) (fun _ => "") roots [] [] ((walkReps roots).get ⟨0, by decide⟩)
    rfl (by simp) (.list [.str "p50_ms"]) rfl (.inl ⟨_, rfl⟩) ⟨"p50_ms", by decide, rfl⟩

/-! ## The records -/

def completedFields : List String :=
  ["achieved_to_target_ratio", "zipf_s", "postgis_cpu_avg_pct", "geoserver_cpu_avg_pct",
    "postgis_mem_avg_mib", "geoserver_mem_avg_mib"]

theorem completeRow_eq_setItems (ctx : RepCtx) (log : List LogLine) (row : List (String × PyVal)) :
    ∃ pairs : List (String × PyVal), (∀ p ∈ pairs, p.1 ∈ completedFields) ∧
      completeRow fromisoformat reprOf ctx log row = PyVal.setItems row pairs := by
  unfold completeRow
  dsimp only
  split_ifs <;> (try simp only [← PyVal.setItems_single, PyVal.setItems_append]) <;>
    exact ⟨_, by simp [completedFields], rfl⟩

theorem walkFields_keys (ctx : RepCtx) : (walkFields ctx).map (·.1) =
    ["root_id", "bundle_name", "rep", "scenario", "h3_res", "ttl", "hot", "invalidation",
      "zipf_s_from_folder"] := rfl

theorem setFields_columns (ctx : RepCtx) :
    ∀ k ∈ summaryFields ++ completedFields, k ∈ runsLongColumns ∧ k ∉ (walkFields ctx).map (·.1) := by
  rw [walkFields_keys]
  decide

theorem initialRow_keys (ctx : RepCtx) : (initialRow ctx).map (·.1) = runsLongColumns := by
  have hcols : (runsLongColumns.map fun c => (c, PyVal.str "")).map (·.1) = runsLongColumns := by
    simp [Function.comp_def]
  rw [initialRow, PyVal.keys_setItems, hcols]
  intro p hp
  rw [hcols]
  revert p
  simp only [walkFields, List.mem_cons, List.not_mem_nil, or_false, forall_eq_or_imp, forall_eq]
  decide

theorem lookup_initialRow (ctx : RepCtx) {p : String × PyVal} (hp : p ∈ walkFields ctx) :
    PyVal.lookup (initialRow ctx) p.1 = p.2 :=
  PyVal.lookup_setItems_of_mem (by rw [walkFields_keys]; decide) hp

theorem repRow_setItems {ctx : RepCtx} {row : List (String × PyVal)}
    (h : repRow fromisoformat reprOf ctx = .ok (some row)) :
    ∃ pairs : List (String × PyVal), (∀ p ∈ pairs, p.1 ∈ summaryFields ++ completedFields) ∧
      row = PyVal.setItems (initialRow ctx) pairs := by
  rw [repRow_eq] at h
  split at h
  · cases h
  · split_ifs at h
    swap
    · cases h
    cases hc : copySummary _ (initialRow ctx) with
    | error e => rw [hc] at h; cases h
    | ok row₁ =>
        rw [hc] at h
        cases h
        obtain ⟨pairs₁, hpairs₁, rfl⟩ := foldlM_copyField_ok hc
        obtain ⟨pairs₂, hpairs₂, hrow⟩ := completeRow_eq_setItems fromisoformat reprOf ctx ctx.log
          (PyVal.setItems (initialRow ctx) pairs₁)
        refine ⟨pairs₁ ++ pairs₂, fun p hp => ?_, by rw [hrow, PyVal.setItems_append]⟩
        rcases List.mem_append.mp hp with hp | hp
        exacts [List.mem_append_left _ (hpairs₁ p hp), List.mem_append_right _ (hpairs₂ p hp)]

/-- Every record has the columns of `RUNS_LONG_COLUMNS` in order, and holds the fields of the
walk. -/
theorem repRow_record {ctx : RepCtx} {row : List (String × PyVal)}
    (h : repRow fromisoformat reprOf ctx = .ok (some row)) :
    row.map (·.1) = runsLongColumns ∧ ∀ p ∈ walkFields ctx, PyVal.lookup row p.1 = p.2 := by
  obtain ⟨pairs, hpairs, rfl⟩ := repRow_setItems fromisoformat reprOf h
  refine ⟨(PyVal.keys_setItems fun p hp => ?_).trans (initialRow_keys ctx), fun p hp => ?_⟩
  · rw [initialRow_keys]
    exact (setFields_columns ctx p.1 (hpairs p hp)).1
  · rw [PyVal.lookup_setItems_of_not_mem, lookup_initialRow ctx hp]
    intro hmem
    obtain ⟨q, hq, hqp⟩ := List.mem_map.mp hmem
    exact (setFields_columns ctx q.1 (hpairs q hq)).2 (hqp ▸ List.mem_map_of_mem _ hp)

/-- Every record of the walk comes from a replication it visits, has the columns of
`RUNS_LONG_COLUMNS` in order, and holds the fields of the walk. -/
theorem collectRuns_records {roots : List Root} {rows : List (List (String × PyVal))}
    (h : collectRuns fromisoformat reprOf roots = .ok rows) :
    ∀ row ∈ rows, ∃ ctx ∈ walkReps roots,
      row.map (·.1) = runsLongColumns ∧ ∀ p ∈ walkFields ctx, PyVal.lookup row p.1 = p.2 := by
  rw [collectRuns_eq] at h
  cases hm : (walkReps roots).mapM (repRow fromisoformat reprOf) with
  | error e => rw [hm] at h; cases h
  | ok os =>
      rw [hm] at h
      cases h
      intro row hrow
      obtain ⟨ctx, hctx, hr⟩ := mem_of_mapM_ok hm (some row) (by simpa using hrow)
      exact ⟨ctx, hctx, repRow_record fromisoformat reprOf hr⟩

/-- A bundle with a replication whose summary is an object and one whose summary is the number
`5`: the walk raises `TypeError`, and the first replication's record is lost with it. -/
theorem collectRuns_int_summary :
    collectRuns fromisoformat reprOf
        [⟨"r", some [.dir "cache-r9-ttl60-hotwarm-invlazy"
          [.dir "rep1" [.file "cache_summary.json" (some (.obj [("p50_ms", .int 10)])) [],
              .file "docker_stats.csv" none []],
            .dir "rep2" [.file "cache_summary.json" (some (.int 5)) [],
              .file "docker_stats.csv" none []]]]⟩] =
      .error (.typeError "argument of type \x27int\x27 is not iterable") :=
  rfl

end Walk

end H3Bench
