import Mathlib.Data.Prod.Lex
import Mathlib.Data.List.Dedup
import Mathlib.Algebra.BigOperators.Group.List
import H3Bench.Collect.Scalars
import H3Bench.Python.Sort

/-! # Aggregation (collect_results.py: `aggregate_runs`)

`aggregate_runs` files every record of `runs_long` under a key tuple in a `defaultdict`, sorts the
groups by key and writes one row per group: the medians of the latency, throughput and resource
columns, the sum of the errors and the group's size.

A dict finds a key by `is` or `==`, item by item, and a NaN equals nothing but itself. The key's
skew is `safe_float(zipf_s)`, a NaN for every run without a skew, and each bundle's NaN is the
object its own `parse_bundle_meta` call made: records of one configuration from two bundles land
in two groups. On keys of plain values (`GroupKey.IsCanonical`) the groups are the classes of
equal keys, sorted (`aggregateRuns_canonical`), and the output does not depend on the order of
the records (`aggregateRuns_perm`).
-/

namespace H3Bench

/-- The key tuple of `aggregate_runs`. -/
structure GroupKey where
  scenario : PyVal
  h3Res : PyVal
  zipfS : PyFloat
  targetRps : PyVal
  ttl : String
  hot : String
  invalidation : String
  deriving Inhabited

/-- One row of `runs_agg`. -/
structure AggRow where
  scenario : PyVal
  h3Res : PyVal
  zipfS : PyFloat
  targetRps : PyVal
  ttl : String
  hot : String
  invalidation : String
  p50MsMedian : PyFloat
  p95MsMedian : PyFloat
  p99MsMedian : PyFloat
  throughputRpsMedian : PyFloat
  errorsSum : Int
  postgisCpuAvgPctMedian : PyFloat
  geoserverCpuAvgPctMedian : PyFloat
  postgisMemAvgMibMedian : PyFloat
  geoserverMemAvgMibMedian : PyFloat
  nReps : Nat

namespace GroupKey

/-- Tuple `==`, item by item, each with `is` first: how the dict finds a key. -/
def same (a b : GroupKey) : Bool :=
  a.scenario.same b.scenario && a.h3Res.same b.h3Res && a.zipfS.same b.zipfS &&
    a.targetRps.same b.targetRps && a.ttl == b.ttl && a.hot == b.hot &&
    a.invalidation == b.invalidation

/-- One item of a tuple comparison: an equal item passes to the next, an unequal one decides. -/
def lexStep (same : Bool) (lt rest : Option Bool) : Option Bool :=
  if same then rest else lt

/-- Tuple `<`: the first unequal items decide, and equal tuples are not smaller. -/
def lt (a b : GroupKey) : Option Bool :=
  lexStep (a.scenario.same b.scenario) (a.scenario.lt b.scenario) <|
  lexStep (a.h3Res.same b.h3Res) (a.h3Res.lt b.h3Res) <|
  lexStep (a.zipfS.same b.zipfS) (some (a.zipfS.lt b.zipfS)) <|
  lexStep (a.targetRps.same b.targetRps) (a.targetRps.lt b.targetRps) <|
  lexStep (a.ttl == b.ttl) (some (textLt a.ttl.data b.ttl.data)) <|
  lexStep (a.hot == b.hot) (some (textLt a.hot.data b.hot.data)) <|
  lexStep (a.invalidation == b.invalidation) (some (textLt a.invalidation.data b.invalidation.data))
    (some false)

/-- `hash(key)` succeeds: the other items are numbers and texts, but a list or a dict scenario is
unhashable. -/
def hashable (k : GroupKey) : Bool :=
  match k.scenario with
  | .list _ => false
  | .dict _ => false
  | _ => true

end GroupKey

section Aggregate

variable (reprOf : PyVal → String)

def groupKey (r : List (String × PyVal)) : GroupKey :=
  ⟨PyVal.lookup r "scenario", safeInt (PyVal.lookup r "h3_res") 0,
    safeFloat (PyVal.lookup r "zipf_s"), safeInt (PyVal.lookup r "target_rps") 0,
    PyVal.strOrEmpty reprOf (PyVal.lookup r "ttl"), PyVal.strOrEmpty reprOf (PyVal.lookup r "hot"),
    PyVal.strOrEmpty reprOf (PyVal.lookup r "invalidation")⟩

/-- `groups[key].append(r)` on the `defaultdict`: the entry whose key equals `key`, or a new entry
at the end. -/
def addToGroups (key : GroupKey) (r : List (String × PyVal)) :
    List (GroupKey × List (List (String × PyVal))) → List (GroupKey × List (List (String × PyVal)))
  | [] => [(key, [r])]
  | (k, rs) :: rest =>
      if k.same key then (k, rs ++ [r]) :: rest else (k, rs) :: addToGroups key r rest

/-- One pass of the grouping loop; an unhashable key raises `TypeError` (`none`). -/
def groupStep (groups : List (GroupKey × List (List (String × PyVal))))
    (r : List (String × PyVal)) : Option (List (GroupKey × List (List (String × PyVal)))) :=
  if (groupKey reprOf r).hashable then some (addToGroups (groupKey reprOf r) r groups) else none

def aggRow (k : GroupKey) (rs : List (List (String × PyVal))) : AggRow :=
  { scenario := k.scenario
    h3Res := k.h3Res
    zipfS := k.zipfS
    targetRps := k.targetRps
    ttl := k.ttl
    hot := k.hot
    invalidation := k.invalidation
    p50MsMedian := medianIgnoreNan (rs.map (PyVal.lookup · "p50_ms"))
    p95MsMedian := medianIgnoreNan (rs.map (PyVal.lookup · "p95_ms"))
    p99MsMedian := medianIgnoreNan (rs.map (PyVal.lookup · "p99_ms"))
    throughputRpsMedian := medianIgnoreNan (rs.map (PyVal.lookup · "throughput_rps"))
    errorsSum := (rs.map fun r => (safeInt (PyVal.lookup r "errors") 0).intValue).sum
    postgisCpuAvgPctMedian := medianIgnoreNan (rs.map (PyVal.lookup · "postgis_cpu_avg_pct"))
    geoserverCpuAvgPctMedian := medianIgnoreNan (rs.map (PyVal.lookup · "geoserver_cpu_avg_pct"))
    postgisMemAvgMibMedian := medianIgnoreNan (rs.map (PyVal.lookup · "postgis_mem_avg_mib"))
    geoserverMemAvgMibMedian := medianIgnoreNan (rs.map (PyVal.lookup · "geoserver_mem_avg_mib"))
    nReps := rs.length }

/-- `aggregate_runs(rows)`; `none` is the `TypeError` of an unhashable or unorderable key. -/
def aggregateRuns (rows : List (List (String × PyVal))) : Option (List AggRow) := do
  let groups ← rows.foldlM (groupStep reprOf) []
  let sortedGroups ← pySorted (fun a b => a.1.lt b.1) groups
  pure (sortedGroups.map fun g => aggRow g.1 g.2)

/-! ## Every record in exactly one group -/

theorem addToGroups_members (key : GroupKey) (r : List (String × PyVal)) :
    ∀ g : List (GroupKey × List (List (String × PyVal))),
      ((addToGroups key r g).flatMap (·.2)).Perm (g.flatMap (·.2) ++ [r])
  | [] => by simp [addToGroups]
  | (k, rs) :: rest => by
      unfold addToGroups
      split_ifs
      · simpa using (List.perm_append_singleton r _).symm.append_left rs
      · simpa using (addToGroups_members key r rest).append_left rs

theorem groups_members :
    ∀ {rows : List (List (String × PyVal))} {g G : List (GroupKey × List (List (String × PyVal)))},
      rows.foldlM (groupStep reprOf) g = some G → (G.flatMap (·.2)).Perm (g.flatMap (·.2) ++ rows)
  | [], g, G, h => by cases h; simp
  | r :: rows, g, G, h => by
      rw [List.foldlM_cons] at h
      obtain ⟨g', hg', h⟩ := Option.bind_eq_some.mp h
      unfold groupStep at hg'
      split_ifs at hg'
      cases hg'
      refine (groups_members h).trans ?_
      simpa using (addToGroups_members _ r g).append_right rows

/-- No record is lost or counted twice: the group sizes add up to the number of records. -/
theorem aggregateRuns_nReps_sum {rows : List (List (String × PyVal))} {out : List AggRow}
    (h : aggregateRuns reprOf rows = some out) : (out.map (·.nReps)).sum = rows.length := by
  obtain ⟨G, hG, h⟩ := Option.bind_eq_some.mp h
  obtain ⟨S, hS, h⟩ := Option.bind_eq_some.mp h
  cases h
  have hperm := (List.Perm.flatMap_right (·.2) (pySorted_perm hS)).trans (groups_members reprOf hG)
  have hlen := hperm.length_eq
  simp only [List.flatMap_nil, List.nil_append, List.flatMap, List.length_flatten,
    List.map_map] at hlen
  simpa [aggRow, Function.comp_def] using hlen

theorem aggregateRuns_two_scenarios :
    let rows : List (List (String × PyVal)) := [[("scenario", .str "cache")], [("scenario", .str "baseline")]]
    ∃ out, aggregateRuns (fun _ => "") rows = some out ∧ (out.map (·.nReps)).sum = rows.length :=
  ⟨_, rfl, @aggregateRuns_nReps_sum (fun _ => "") _ _ rfl⟩

/-! ## Keys of plain values -/

/-- Keys of plain values in the order tuple `<` reads them, item by item. -/
abbrev CanonKey := String ×ₗ Int ×ₗ ℚ ×ₗ Int ×ₗ String ×ₗ String ×ₗ String

namespace GroupKey

/-- A key of plain values: a `str` scenario, `int` resolution and rate, and a skew that is a
number. -/
def IsCanonical (k : GroupKey) : Prop :=
  (∃ s, k.scenario = .str s) ∧ (∃ h, k.h3Res = .int h) ∧ (∃ z, k.zipfS = .num z) ∧
    ∃ t, k.targetRps = .int t

def canonKey (k : GroupKey) : CanonKey :=
  toLex ((match k.scenario with | .str s => s | _ => ""), toLex (k.h3Res.intValue,
    toLex (k.zipfS.num?.getD 0, toLex (k.targetRps.intValue, toLex (k.ttl, toLex (k.hot,
      k.invalidation))))))

def ofCanon (c : CanonKey) : GroupKey :=
  match ofLex c with
  | (s, c) => match ofLex c with
    | (h, c) => match ofLex c with
      | (z, c) => match ofLex c with
        | (t, c) => match ofLex c with
          | (ttl, c) => match ofLex c with
            | (hot, inv) => ⟨.str s, .int h, .num z, .int t, ttl, hot, inv⟩

theorem ofCanon_canonKey {k : GroupKey} (h : k.IsCanonical) : ofCanon k.canonKey = k := by
  obtain ⟨⟨s, hs⟩, ⟨i, hi⟩, ⟨z, hz⟩, ⟨t, ht⟩⟩ := h
  rcases k with ⟨_, _, _, _, ttl, hot, inv⟩
  subst hs hi hz ht
  rfl

private theorem lexStep_beq {β : Type} [LT β] [BEq β] [LawfulBEq β] [DecidableEq β] (a b : β)
    [Decidable (a < b)] [IsIrrefl β (· < ·)] (p : Prop) [Decidable p] :
    lexStep (a == b) (some (decide (a < b))) (some (decide p)) =
      some (decide (a < b ∨ a = b ∧ p)) := by
  by_cases h : a = b
  · subst h
    by_cases hp : p <;> simp [lexStep, hp, irrefl a]
  · have : (a == b) = false := by simpa using h
    by_cases hl : a < b <;> simp [lexStep, this, hl, h]

private theorem lexStep_last {β : Type} [LT β] [BEq β] [LawfulBEq β] (a b : β) [Decidable (a < b)]
    [IsIrrefl β (· < ·)] :
    lexStep (a == b) (some (decide (a < b))) (some false) = some (decide (a < b)) := by
  by_cases h : a = b
  · subst h; simp [lexStep, irrefl a]
  · have : (a == b) = false := by simpa using h
    simp [lexStep, this]

/-- On keys of plain values tuple `==` is equality of the items. -/
theorem same_canonical {a b : GroupKey} (ha : a.IsCanonical) (hb : b.IsCanonical) :
    a.same b = decide (a.canonKey = b.canonKey) := by
  obtain ⟨⟨s, hs⟩, ⟨i, hi⟩, ⟨z, hz⟩, ⟨t, ht⟩⟩ := ha
  obtain ⟨⟨s', hs'⟩, ⟨i', hi'⟩, ⟨z', hz'⟩, ⟨t', ht'⟩⟩ := hb
  rcases a with ⟨_, _, _, _, ttl, hot, inv⟩
  rcases b with ⟨_, _, _, _, ttl', hot', inv'⟩
  subst hs hi hz ht hs' hi' hz' ht'
  rw [Bool.eq_iff_iff]
  simp [same, canonKey, PyFloat.same, PyVal.intValue, and_assoc]

/-- On keys of plain values tuple `<` is the order of the items, and never raises. -/
theorem lt_canonical {a b : GroupKey} (ha : a.IsCanonical) (hb : b.IsCanonical) :
    a.lt b = some (decide (a.canonKey < b.canonKey)) := by
  obtain ⟨⟨s, hs⟩, ⟨i, hi⟩, ⟨z, hz⟩, ⟨t, ht⟩⟩ := ha
  obtain ⟨⟨s', hs'⟩, ⟨i', hi'⟩, ⟨z', hz'⟩, ⟨t', ht'⟩⟩ := hb
  rcases a with ⟨_, _, _, _, ttl, hot, inv⟩
  rcases b with ⟨_, _, _, _, ttl', hot', inv'⟩
  subst hs hi hz ht hs' hi' hz' ht'
  have hq : PyFloat.same (.num z) (.num z') = (z == z') := rfl
  have hq' : PyFloat.lt (.num z) (.num z') = decide (z < z') := rfl
  simp only [lt, PyVal.same_str, PyVal.lt_str, PyVal.same_int, PyVal.lt_int, hq, hq', textLt_eq_decide, lexStep_last,
    lexStep_beq]
  simp only [canonKey, Prod.Lex.lt_iff, PyVal.intValue, Option.getD_some, PyFloat.num?_num,
    Option.some.injEq, decide_eq_decide]

end GroupKey

@[reducible] def rowKey (r : List (String × PyVal)) : CanonKey := (groupKey reprOf r).canonKey

def AggRow.key (a : AggRow) : CanonKey :=
  GroupKey.canonKey ⟨a.scenario, a.h3Res, a.zipfS, a.targetRps, a.ttl, a.hot, a.invalidation⟩

/-- The row of the class of key `c`: over the records of that key, in input order. -/
def classRow (rows : List (List (String × PyVal))) (c : CanonKey) : AggRow :=
  aggRow (GroupKey.ofCanon c) (rows.filter fun r => rowKey reprOf r = c)

/-- The groups of the records `pre`, on keys of plain values: one group per key, the keys
distinct, each group with the records of its key in order. -/
structure Grouping (pre : List (List (String × PyVal)))
    (G : List (GroupKey × List (List (String × PyVal)))) : Prop where
  nodup : (G.map fun g => g.1.canonKey).Nodup
  canonical : ∀ g ∈ G, g.1.IsCanonical
  members : ∀ g ∈ G, g.2 = pre.filter fun r => rowKey reprOf r = g.1.canonKey
  keys : ∀ c, c ∈ G.map (fun g => g.1.canonKey) ↔ c ∈ pre.map (rowKey reprOf)

theorem Grouping.nil : Grouping reprOf [] [] :=
  ⟨List.nodup_nil, by simp, by simp, by simp⟩

theorem addToGroups_canonical {key : GroupKey} (hk : key.IsCanonical) (r : List (String × PyVal)) :
    ∀ {G : List (GroupKey × List (List (String × PyVal)))}, (∀ g ∈ G, g.1.IsCanonical) →
      (G.map fun g => g.1.canonKey).Nodup →
      addToGroups key r G =
        if key.canonKey ∈ G.map (fun g => g.1.canonKey) then
          G.map fun g => if g.1.canonKey = key.canonKey then (g.1, g.2 ++ [r]) else g
        else G ++ [(key, [r])]
  | [], _, _ => by simp [addToGroups]
  | (k, rs) :: G, hc, hnd => by
      have hkk := GroupKey.same_canonical (hc (k, rs) (List.mem_cons_self _ _)) hk
      obtain ⟨hnotin, hnd'⟩ := List.nodup_cons.mp hnd
      have ih := addToGroups_canonical hk r (fun g hg => hc g (List.mem_cons_of_mem _ hg)) hnd'
      by_cases he : k.canonKey = key.canonKey
      · have hne : ∀ g ∈ G, g.1.canonKey ≠ key.canonKey := fun g hg h =>
          hnotin (List.mem_map.mpr ⟨g, hg, h.trans he.symm⟩)
        have hrest : (G.map fun g => if g.1.canonKey = key.canonKey then (g.1, g.2 ++ [r]) else g) = G := by
          rw [List.map_congr_left fun g hg => if_neg (hne g hg), List.map_id']
        simp [addToGroups, hkk, he, hrest]
      · rw [addToGroups, hkk, decide_eq_false he, if_neg Bool.false_ne_true, ih]
        by_cases hm : key.canonKey ∈ G.map (fun g => g.1.canonKey) <;>
          simp [hm, he, Ne.symm he]

section Step

variable {pre : List (List (String × PyVal))} {G : List (GroupKey × List (List (String × PyVal)))}
  {r : List (String × PyVal)}

theorem Grouping.add_mem (hG : Grouping reprOf pre G) (hmem : rowKey reprOf r ∈ G.map fun g => g.1.canonKey) :
    Grouping reprOf (pre ++ [r])
      (G.map fun g => if g.1.canonKey = rowKey reprOf r then (g.1, g.2 ++ [r]) else g) := by
  have hkeys : ((G.map fun g => if g.1.canonKey = rowKey reprOf r then (g.1, g.2 ++ [r]) else g).map
      fun g => g.1.canonKey) = G.map fun g => g.1.canonKey := by
    simp only [List.map_map]
    exact List.map_congr_left fun g _ => by by_cases h : g.1.canonKey = rowKey reprOf r <;> simp [h]
  refine ⟨hkeys ▸ hG.nodup, ?_, ?_, fun c => ?_⟩
  · simp only [List.mem_map]
    rintro _ ⟨g, hg, rfl⟩
    split_ifs <;> exact hG.canonical g hg
  · simp only [List.mem_map]
    rintro _ ⟨g, hg, rfl⟩
    by_cases h : g.1.canonKey = rowKey reprOf r
    · simp [h, hG.members g hg, List.filter_append]
    · simp [h, hG.members g hg, List.filter_append, Ne.symm h]
  · rw [hkeys, hG.keys, List.map_append, List.mem_append, List.map_singleton, List.mem_singleton]
    exact ⟨Or.inl, fun h => h.elim id fun h => h ▸ (hG.keys _).mp hmem⟩

theorem Grouping.add_fresh (hG : Grouping reprOf pre G) (hr : (groupKey reprOf r).IsCanonical)
    (hmem : rowKey reprOf r ∉ G.map fun g => g.1.canonKey) :
    Grouping reprOf (pre ++ [r]) (G ++ [(groupKey reprOf r, [r])]) := by
  have hfresh : pre.filter (fun r' => rowKey reprOf r' = rowKey reprOf r) = [] :=
    List.filter_eq_nil_iff.mpr fun r' hr' he =>
      hmem ((hG.keys _).mpr (of_decide_eq_true he ▸ List.mem_map_of_mem _ hr'))
  refine ⟨?_, fun g hg => ?_, fun g hg => ?_, fun c => by simp [hG.keys c]⟩
  · rw [List.map_append]
    exact hG.nodup.append (List.nodup_singleton _) (by simpa using hmem)
  · rcases List.mem_append.mp hg with hg | hg
    · exact hG.canonical g hg
    · rw [List.mem_singleton.mp hg]; exact hr
  · rcases List.mem_append.mp hg with hg | hg
    · have hne : g.1.canonKey ≠ rowKey reprOf r := fun he => hmem (he ▸ List.mem_map_of_mem _ hg)
      simp [hG.members g hg, List.filter_append, Ne.symm hne]
    · rw [List.mem_singleton.mp hg]
      simp [List.filter_append, hfresh]

theorem Grouping.add (hG : Grouping reprOf pre G) (hr : (groupKey reprOf r).IsCanonical) :
    Grouping reprOf (pre ++ [r]) (addToGroups (groupKey reprOf r) r G) := by
  rw [addToGroups_canonical hr r hG.canonical hG.nodup]
  split_ifs with hmem
  exacts [hG.add_mem reprOf hmem, hG.add_fresh reprOf hr hmem]

end Step

/-- The grouping loop over records with keys of plain values never raises, and groups them. -/
theorem groups_canonical : ∀ {rows pre : List (List (String × PyVal))}
    {G : List (GroupKey × List (List (String × PyVal)))}, Grouping reprOf pre G →
    (∀ r ∈ rows, (groupKey reprOf r).IsCanonical) →
    ∃ G', rows.foldlM (groupStep reprOf) G = some G' ∧ Grouping reprOf (pre ++ rows) G'
  | [], _, G, hG, _ => ⟨G, rfl, by simpa using hG⟩
  | r :: rows, pre, G, hG, hc => by
      have hr := hc r (List.mem_cons_self _ _)
      have hh : (groupKey reprOf r).hashable = true := by
        obtain ⟨⟨s, hs⟩, -⟩ := hr
        simp [GroupKey.hashable, hs]
      obtain ⟨G', hG', hgr⟩ := groups_canonical (hG.add reprOf hr) fun r' h => hc r' (List.mem_cons_of_mem _ h)
      refine ⟨G', ?_, by simpa using hgr⟩
      simpa [groupStep, hh] using hG'

/-- On records whose keys are plain values, `aggregate_runs` returns one row per key, in ascending
key order, and each row is the row of the records of its key. -/
theorem aggregateRuns_canonical (rows : List (List (String × PyVal)))
    (hc : ∀ r ∈ rows, (groupKey reprOf r).IsCanonical) :
    ∃ out, aggregateRuns reprOf rows = some out ∧ (out.map AggRow.key).Sorted (· < ·) ∧
      (out.map AggRow.key).Perm (rows.map (rowKey reprOf)).dedup ∧
      out = (out.map AggRow.key).map (classRow reprOf rows) := by
  obtain ⟨G, hG, hgr⟩ := groups_canonical reprOf (Grouping.nil reprOf) hc
  rw [List.nil_append] at hgr
  let r : GroupKey × List (List (String × PyVal)) → GroupKey × List (List (String × PyVal)) → Prop :=
    fun a b => a.1.canonKey < b.1.canonKey
  haveI : IsTrans _ r := ⟨fun _ _ _ => lt_trans⟩
  obtain ⟨S, hS, hsorted⟩ := @pySorted_sorted _ (fun a b => a.1.lt b.1) r _ _ G
    (fun a ha b hb => GroupKey.lt_canonical (hgr.canonical a ha) (hgr.canonical b hb))
    ((List.pairwise_map.mp hgr.nodup).imp lt_or_gt_of_ne)
  have hperm := pySorted_perm hS
  have hkey : (S.map fun g => aggRow g.1 g.2).map AggRow.key = S.map fun g => g.1.canonKey := by
    rw [List.map_map]; rfl
  refine ⟨S.map fun g => aggRow g.1 g.2, by simp [aggregateRuns, hG, hS], ?_, ?_, ?_⟩
  · rw [hkey]
    exact List.pairwise_map.mpr hsorted
  · rw [hkey]
    refine (hperm.map _).trans ((List.perm_ext_iff_of_nodup hgr.nodup (List.nodup_dedup _)).mpr ?_)
    intro c
    rw [hgr.keys, List.mem_dedup]
  · rw [hkey, List.map_map]
    refine List.map_congr_left fun g hg => ?_
    have hgG := hperm.subset hg
    show aggRow g.1 g.2 = aggRow (GroupKey.ofCanon g.1.canonKey) _
    rw [GroupKey.ofCanon_canonKey (hgr.canonical g hgG), ← hgr.members g hgG]

/-! ## The order of the records -/

theorem aggRow_perm (k : GroupKey) {rs rs' : List (List (String × PyVal))} (h : rs.Perm rs') :
    aggRow k rs = aggRow k rs' := by
  simp only [aggRow, medianIgnoreNan_perm (h.map _), (h.map _).sum_eq, h.length_eq]

theorem classRow_perm {rows rows' : List (List (String × PyVal))} (h : rows.Perm rows')
    (c : CanonKey) : classRow reprOf rows c = classRow reprOf rows' c :=
  aggRow_perm _ (h.filter _)

/-- On records whose keys are plain values, `aggregate_runs` gives the same rows for every order of
the records. -/
theorem aggregateRuns_perm {rows rows' : List (List (String × PyVal))} (h : rows.Perm rows')
    (hc : ∀ r ∈ rows, (groupKey reprOf r).IsCanonical) :
    aggregateRuns reprOf rows = aggregateRuns reprOf rows' := by
  obtain ⟨out, hout, hs, hp, hrow⟩ := aggregateRuns_canonical reprOf rows hc
  obtain ⟨out', hout', hs', hp', hrow'⟩ :=
    aggregateRuns_canonical reprOf rows' fun r hr => hc r (h.symm.subset hr)
  have hkeys : out.map AggRow.key = out'.map AggRow.key :=
    eq_of_perm_of_sorted_lt (hp.trans ((h.map _).dedup.trans hp'.symm)) hs hs'
  rw [hout, hout', hrow, hrow', hkeys, List.map_congr_left fun c _ => classRow_perm reprOf h c]

theorem aggregateRuns_swap :
    let r₁ : List (String × PyVal) := [("scenario", .str "cache"), ("h3_res", .int 9), ("zipf_s", .int 1),
      ("target_rps", .int 800), ("p50_ms", .int 10)]
    let r₂ : List (String × PyVal) := [("scenario", .str "baseline"), ("h3_res", .int 0), ("zipf_s", .int 1),
      ("target_rps", .int 800), ("p50_ms", .int 20)]
    aggregateRuns (fun _ => "") [r₁, r₂] = aggregateRuns (fun _ => "") [r₂, r₁] :=
  aggregateRuns_perm (fun _ => "") (List.Perm.swap _ _ [])
    (List.forall_iff_forall_mem.mp ⟨⟨⟨_, rfl⟩, ⟨9, rfl⟩, ⟨1, rfl⟩, ⟨800, rfl⟩⟩, ⟨_, rfl⟩, ⟨0, rfl⟩, ⟨1, rfl⟩,
      ⟨800, rfl⟩⟩)

end Aggregate

end H3Bench
