import H3Bench.Python.Float

/-! # Bundle and replication names (collect_results.py: `parse_bundle_meta`, `parse_rep_int`)

A bundle directory's name encodes its configuration, `S-r<N>-ttl<T>-hot<H>-inv<I>-zipfs<Z>`.
`parse_bundle_meta` reads each field with its own `re.search`, taking the leftmost match, and
falls back to a default for a field it does not find. Every pattern starts with `-` and a tag,
so `search` skips all text without a hyphen. `parseBundleMeta_grammar` decodes every name of the
grammar: all its tokens when it has its `-zipfs` field, and all but the invalidation token
without it, since `-inv([^-]+)-` needs a hyphen after the token and the last field has none.
-/

namespace H3Bench

/-- `re.search`, for a pattern whose match at a position `m` computes: the groups of the
leftmost match, the empty suffix included. -/
def search {α : Type} (m : List Char → Option α) : List Char → Option α
  | [] => m []
  | c :: rest => (m (c :: rest)).or (search m rest)

def taggedAt {α : Type} (tag : List Char) (body : List Char → Option α) :
    List Char → Option α
  | '-' :: rest => if tag.isPrefixOf rest then body (rest.drop tag.length) else none
  | _ => none

/-- `(\d+)-`: the whole digit run, which must be followed by a hyphen. -/
def digitsThenHyphen (l : List Char) : Option (List Char) :=
  let d := l.takeWhile isDecimal
  if d ≠ [] ∧ (l.dropWhile isDecimal).head? = some '-' then some d else none

/-- `([^-]+)-`: the whole run up to the next hyphen, which must be there. -/
def tokenThenHyphen (l : List Char) : Option (List Char) :=
  let t := l.takeWhile (· != '-')
  if t ≠ [] ∧ (l.dropWhile (· != '-')).head? = some '-' then some t else none

/-- `([0-9]+(?:\.[0-9]+)?)`: digits, and a point with digits when they follow. -/
def decimalPrefix (l : List Char) : Option (List Char) :=
  let d := l.takeWhile Char.isDigit
  if d = [] then none
  else
    match l.dropWhile Char.isDigit with
    | '.' :: r => if r.takeWhile Char.isDigit = [] then some d else some (d ++ '.' :: r.takeWhile Char.isDigit)
    | _ => some d

/-- The `BundleMeta` dataclass. The NaN of an absent skew is the object this call makes. -/
structure BundleMeta where
  scenario : String
  h3Res : Nat
  ttl : String
  hot : String
  invalidation : String
  zipfSFromFolder : PyFloat
  deriving DecidableEq, Repr

/-- The scenario: a `baseline-` or `cache-` prefix first, then the words anywhere. -/
def scenarioOf (name : List Char) : String :=
  if "baseline-".data.isPrefixOf name then "baseline"
  else if "cache-".data.isPrefixOf name then "cache"
  else if containsText "baseline".data name then "baseline"
  else if containsText "cache".data name then "cache"
  else "unknown"

/-- `-<tag>([^-]+)-`, the pattern of the `ttl`, `hot` and `inv` fields: the token of the leftmost
match, or `""`. -/
def tokenField (tag : String) (name : List Char) : String :=
  ((search (taggedAt tag.data tokenThenHyphen) name).map String.mk).getD ""

def parseBundleMeta (bundleName : String) : BundleMeta :=
  let name := strip bundleName.data
  { scenario := scenarioOf name
    h3Res := ((search (taggedAt "r".data digitsThenHyphen) name).map digitsValue).getD 0
    ttl := tokenField "ttl" name
    hot := tokenField "hot" name
    invalidation := tokenField "inv" name
    zipfSFromFolder :=
      match search (taggedAt "zipfs".data decimalPrefix) name with
      | some z => (floatOfText z).getD (.nan none)
      | none => .nan none }

theorem parseBundleMeta_mk (l : List Char) :
    parseBundleMeta ⟨l⟩ =
      { scenario := scenarioOf (strip l)
        h3Res := ((search (taggedAt "r".data digitsThenHyphen) (strip l)).map digitsValue).getD 0
        ttl := tokenField "ttl" (strip l)
        hot := tokenField "hot" (strip l)
        invalidation := tokenField "inv" (strip l)
        zipfSFromFolder :=
          match search (taggedAt "zipfs".data decimalPrefix) (strip l) with
          | some z => (floatOfText z).getD (.nan none)
          | none => .nan none } := rfl

/-- `parse_rep_int(rep_dir_name)`: `^rep(\d+)$`, where `$` also matches before a final newline. -/
def parseRepInt (repDirName : String) : Option Nat :=
  match repDirName.data with
  | 'r' :: 'e' :: 'p' :: rest =>
      if rest.takeWhile isDecimal ≠ [] ∧
          (rest.dropWhile isDecimal = [] ∨ rest.dropWhile isDecimal = ['\n']) then
        some (digitsValue (rest.takeWhile isDecimal))
      else none
  | _ => none

/-- The tokens of a name of the grammar `S-r<N>-ttl<T>-hot<H>-inv<I>`, with the conditions the
grammar puts on them. -/
structure BundleTokens where
  scenario : List Char
  res : List Char
  ttl : List Char
  hot : List Char
  inv : List Char
  scenario_mem : scenario = "baseline".data ∨ scenario = "cache".data
  res_digits : res ≠ [] ∧ ∀ c ∈ res, isDecimal c
  ttl_token : ttl ≠ [] ∧ '-' ∉ ttl
  hot_token : hot ≠ [] ∧ '-' ∉ hot
  inv_token : inv ≠ [] ∧ '-' ∉ inv

/-- `[0-9]+(\.[0-9]+)?`: the skew literals of the grammar. -/
def IsSkewLiteral (z : List Char) : Prop := IsMagnitude z ∧ ∀ c ∈ z.head?, c.isDigit

def bundlePrefix (b : BundleTokens) (rest : List Char) : List Char :=
  b.scenario ++ "-r".data ++ b.res ++ "-ttl".data ++ b.ttl ++ "-hot".data ++ b.hot ++ "-inv".data ++
    rest

def BundleTokens.name (b : BundleTokens) (z : Option (List Char)) : List Char :=
  bundlePrefix b (b.inv ++ (z.map ("-zipfs".data ++ ·)).getD [])

/-! ## Leftmost matches -/

section Search

variable {α : Type} {tag : List Char} {body : List Char → Option α}

theorem search_cons_of_none {m : List Char → Option α} {c : Char} {l : List Char}
    (h : m (c :: l) = none) : search m (c :: l) = search m l := by
  simp [search, h]

theorem search_cons_of_some {m : List Char → Option α} {c : Char} {l : List Char} {x : α}
    (h : m (c :: l) = some x) : search m (c :: l) = some x := by
  simp [search, h]

theorem search_tagged_append {pre rest : List Char} (h : '-' ∉ pre) :
    search (taggedAt tag body) (pre ++ rest) = search (taggedAt tag body) rest := by
  induction pre with
  | nil => rfl
  | cons c pre ih =>
      have hc : c ≠ '-' := fun e => h (e ▸ List.mem_cons_self _ _)
      rw [List.cons_append, search_cons_of_none (by simp [taggedAt, hc]),
        ih (fun hm => h (List.mem_cons_of_mem _ hm))]

theorem search_tagged_miss {rest : List Char} (h : tag.isPrefixOf rest = false) :
    search (taggedAt tag body) ('-' :: rest) = search (taggedAt tag body) rest :=
  search_cons_of_none (by simp [taggedAt, h])

theorem search_tagged_hit {rest : List Char} {x : α} (h : body rest = some x) :
    search (taggedAt tag body) ('-' :: (tag ++ rest)) = some x :=
  search_cons_of_some (by simp [taggedAt, h])

theorem search_tagged_none {l : List Char} (h : '-' ∉ l) : search (taggedAt tag body) l = none := by
  simpa [search, taggedAt] using @search_tagged_append α tag body l [] h

theorem search_tagged_skip {tag' tok rest : List Char} (hf : '-' ∉ tag' ++ tok)
    (h : tag.isPrefixOf (tag' ++ (tok ++ rest)) = false) :
    search (taggedAt tag body) ('-' :: (tag' ++ (tok ++ rest))) = search (taggedAt tag body) rest := by
  rw [search_tagged_miss h, ← List.append_assoc, search_tagged_append hf]

end Search

/-! ## The field bodies -/

theorem digitsThenHyphen_of_digits {n rest : List Char} (hne : n ≠ []) (hn : ∀ c ∈ n, isDecimal c) :
    digitsThenHyphen (n ++ '-' :: rest) = some n := by
  simp [digitsThenHyphen, List.takeWhile_append_of_pos hn, List.dropWhile_append_of_pos hn, hne]

theorem tokenThenHyphen_of_token {t rest : List Char} (hne : t ≠ []) (ht : '-' ∉ t) :
    tokenThenHyphen (t ++ '-' :: rest) = some t := by
  have hall : ∀ c ∈ t, (c != '-') = true := fun c hc => bne_iff_ne.mpr (fun e => ht (e ▸ hc))
  simp [tokenThenHyphen, List.takeWhile_append_of_pos hall, List.dropWhile_append_of_pos hall, hne]

theorem tokenThenHyphen_of_no_hyphen {l : List Char} (h : '-' ∉ l) : tokenThenHyphen l = none := by
  have hall : ∀ c ∈ l, (c != '-') = true := fun c hc => bne_iff_ne.mpr (fun e => h (e ▸ hc))
  simp [tokenThenHyphen, List.dropWhile_eq_nil_iff.mpr hall]

theorem decimalPrefix_skewLiteral {z : List Char} (hz : IsSkewLiteral z) :
    decimalPrefix z = some z := by
  obtain ⟨hm, hhead⟩ := hz
  cases hm with
  | whole hne hd =>
      simp [decimalPrefix, List.takeWhile_eq_self_iff.mpr hd, List.dropWhile_eq_nil_iff.mpr hd, hne]
  | @point d₁ d₂ hd₁ hne hd₂ =>
      have hne₁ : d₁ ≠ [] := by
        rintro rfl
        exact absurd (hhead '.' rfl) (by decide)
      simp [decimalPrefix, List.takeWhile_append_of_pos hd₁, List.dropWhile_append_of_pos hd₁, hne₁,
        List.takeWhile_eq_self_iff.mpr hd₂, hne, show Char.isDigit '.' = false by decide]

/-! ## Decoding the grammar -/

namespace BundleTokens

variable (b : BundleTokens)

theorem scenario_no_hyphen : '-' ∉ b.scenario := by
  rcases b.scenario_mem with h | h <;> rw [h] <;> decide

theorem res_field_no_hyphen : '-' ∉ "r".data ++ b.res :=
  List.not_mem_append (by decide) fun hm => absurd (b.res_digits.2 _ hm) (by decide)

theorem ttl_field_no_hyphen : '-' ∉ "ttl".data ++ b.ttl := List.not_mem_append (by decide) b.ttl_token.2

theorem hot_field_no_hyphen : '-' ∉ "hot".data ++ b.hot := List.not_mem_append (by decide) b.hot_token.2

theorem inv_field_no_hyphen : '-' ∉ "inv".data ++ b.inv := List.not_mem_append (by decide) b.inv_token.2

end BundleTokens

theorem bundlePrefix_eq (b : BundleTokens) (rest : List Char) :
    bundlePrefix b rest = b.scenario ++ '-' :: ("r".data ++ (b.res ++ '-' :: ("ttl".data ++ (b.ttl ++
      '-' :: ("hot".data ++ (b.hot ++ '-' :: ("inv".data ++ rest))))))) := by
  simp only [bundlePrefix, List.append_assoc]
  rfl

section Fields

variable (b : BundleTokens) (rest : List Char)

theorem scenarioOf_bundlePrefix : scenarioOf (bundlePrefix b rest) = ⟨b.scenario⟩ := by
  rw [bundlePrefix_eq]
  rcases b.scenario_mem with h | h <;> rw [h]
  · exact if_pos rfl
  · exact (if_neg Bool.false_ne_true).trans (if_pos rfl)

theorem search_res_bundlePrefix :
    search (taggedAt "r".data digitsThenHyphen) (bundlePrefix b rest) = some b.res := by
  rw [bundlePrefix_eq, search_tagged_append b.scenario_no_hyphen,
    search_tagged_hit (digitsThenHyphen_of_digits b.res_digits.1 b.res_digits.2)]

theorem tokenField_ttl_bundlePrefix : tokenField "ttl" (bundlePrefix b rest) = ⟨b.ttl⟩ := by
  rw [tokenField, bundlePrefix_eq, search_tagged_append b.scenario_no_hyphen,
    search_tagged_skip b.res_field_no_hyphen,
    search_tagged_hit (tokenThenHyphen_of_token b.ttl_token.1 b.ttl_token.2)]
  · rfl
  · rfl

theorem tokenField_hot_bundlePrefix : tokenField "hot" (bundlePrefix b rest) = ⟨b.hot⟩ := by
  rw [tokenField, bundlePrefix_eq, search_tagged_append b.scenario_no_hyphen,
    search_tagged_skip b.res_field_no_hyphen, search_tagged_skip b.ttl_field_no_hyphen,
    search_tagged_hit (tokenThenHyphen_of_token b.hot_token.1 b.hot_token.2)]
  all_goals rfl

/-- A tag that starts none of `r`, `ttl`, `hot` is first looked for at the `-inv` field. -/
theorem search_bundlePrefix {α : Type} (tag : List Char) {body : List Char → Option α}
    (hr : ∀ l, tag.isPrefixOf ("r".data ++ l) = false) (ht : ∀ l, tag.isPrefixOf ("ttl".data ++ l) = false)
    (hh : ∀ l, tag.isPrefixOf ("hot".data ++ l) = false) :
    search (taggedAt tag body) (bundlePrefix b rest) =
      search (taggedAt tag body) ('-' :: ("inv".data ++ rest)) := by
  rw [bundlePrefix_eq, search_tagged_append b.scenario_no_hyphen,
    search_tagged_skip b.res_field_no_hyphen (hr _), search_tagged_skip b.ttl_field_no_hyphen (ht _),
    search_tagged_skip b.hot_field_no_hyphen (hh _)]

end Fields

/-- Only the end of a name is stripped: the scenario starts it and the `-inv` tag ends the fixed
part. -/
theorem strip_bundlePrefix (b : BundleTokens) (rest : List Char) :
    strip (bundlePrefix b rest) = bundlePrefix b (rstrip rest) := by
  have hsplit : ∀ r, bundlePrefix b r = bundlePrefix b [] ++ r := by simp [bundlePrefix]
  have hhead : ∀ c ∈ (bundlePrefix b []).head?, isSpace c = false := by
    rw [bundlePrefix_eq]
    rcases b.scenario_mem with h | h <;> rw [h] <;> rintro c ⟨⟩ <;> rfl
  have hlast : ∀ c ∈ (bundlePrefix b []).getLast?, isSpace c = false := by
    rw [bundlePrefix, List.append_nil, List.getLast?_append_of_ne_nil _ (by decide)]
    rintro c ⟨⟩
    rfl
  rw [hsplit, hsplit (rstrip rest), strip_append (by simp [bundlePrefix]) hhead hlast]

theorem parseBundleMeta_name_some (b : BundleTokens) {z : List Char} (hz : IsSkewLiteral z) :
    parseBundleMeta ⟨b.name (some z)⟩ =
      { scenario := ⟨b.scenario⟩, h3Res := digitsValue b.res, ttl := ⟨b.ttl⟩, hot := ⟨b.hot⟩,
        invalidation := ⟨b.inv⟩, zipfSFromFolder := .num (magnitudeValue z) } := by
  have hz₀ := hz.1.ne_nil
  have hrest : rstrip (b.inv ++ ("-zipfs".data ++ z)) = b.inv ++ '-' :: ("zipfs".data ++ z) := by
    refine rstrip_eq_self fun c hc => isSpace_of_isDigit (hz.1.last c ?_)
    rwa [List.getLast?_append_of_ne_nil _ (List.append_ne_nil_of_right_ne_nil _ hz₀),
      List.getLast?_append_of_ne_nil _ hz₀] at hc
  have hname : strip (b.name (some z)) = bundlePrefix b (b.inv ++ '-' :: ("zipfs".data ++ z)) := by
    rw [BundleTokens.name, Option.map_some', Option.getD_some, strip_bundlePrefix, hrest]
  have hinv : tokenField "inv" (bundlePrefix b (b.inv ++ '-' :: ("zipfs".data ++ z))) = ⟨b.inv⟩ := by
    rw [tokenField, search_bundlePrefix b _ "inv".data (fun _ => rfl) (fun _ => rfl) (fun _ => rfl),
      search_tagged_hit (tokenThenHyphen_of_token b.inv_token.1 b.inv_token.2)]
    rfl
  have hzipf : search (taggedAt "zipfs".data decimalPrefix)
      (bundlePrefix b (b.inv ++ '-' :: ("zipfs".data ++ z))) = some z := by
    rw [search_bundlePrefix b _ "zipfs".data (fun _ => rfl) (fun _ => rfl) (fun _ => rfl),
      search_tagged_skip b.inv_field_no_hyphen, search_tagged_hit (decimalPrefix_skewLiteral hz)]
    rfl
  rw [parseBundleMeta_mk, hname, scenarioOf_bundlePrefix, search_res_bundlePrefix,
    tokenField_ttl_bundlePrefix, tokenField_hot_bundlePrefix, hinv, hzipf]
  simp [floatOfText_magnitude hz.1]

/-- Without its `-zipfs` field a name loses its invalidation token: `-inv([^-]+)-` finds no hyphen
after it. Every other field decodes, and the skew is the call's own NaN. -/
theorem parseBundleMeta_name_none (b : BundleTokens) :
    parseBundleMeta ⟨b.name none⟩ =
      { scenario := ⟨b.scenario⟩, h3Res := digitsValue b.res, ttl := ⟨b.ttl⟩, hot := ⟨b.hot⟩,
        invalidation := "", zipfSFromFolder := .nan none } := by
  have hrest : '-' ∉ rstrip b.inv := fun hm => b.inv_token.2 ((rstrip_isPrefix _).subset hm)
  have hname : strip (b.name none) = bundlePrefix b (rstrip b.inv) := by
    rw [BundleTokens.name, Option.map_none', Option.getD_none, List.append_nil, strip_bundlePrefix]
  have hinv : tokenField "inv" (bundlePrefix b (rstrip b.inv)) = "" := by
    rw [tokenField, search_bundlePrefix b _ "inv".data (fun _ => rfl) (fun _ => rfl) (fun _ => rfl),
      search_cons_of_none (by simp [taggedAt, tokenThenHyphen_of_no_hyphen hrest]),
      search_tagged_none (List.not_mem_append (by decide) hrest)]
    rfl
  have hzipf : search (taggedAt "zipfs".data decimalPrefix) (bundlePrefix b (rstrip b.inv)) = none := by
    rw [search_bundlePrefix b _ "zipfs".data (fun _ => rfl) (fun _ => rfl) (fun _ => rfl),
      search_tagged_miss, search_tagged_none (List.not_mem_append (by decide) hrest)]
    rfl
  rw [parseBundleMeta_mk, hname, scenarioOf_bundlePrefix, search_res_bundlePrefix,
    tokenField_ttl_bundlePrefix, tokenField_hot_bundlePrefix, hinv, hzipf]
  rfl

/-- `parse_bundle_meta` undoes the naming grammar, up to the invalidation token of a name without
a skew. -/
theorem parseBundleMeta_grammar (b : BundleTokens) (z : Option (List Char))
    (hz : ∀ x ∈ z, IsSkewLiteral x) :
    parseBundleMeta ⟨b.name z⟩ =
      { scenario := ⟨b.scenario⟩, h3Res := digitsValue b.res, ttl := ⟨b.ttl⟩, hot := ⟨b.hot⟩,
        invalidation := if z.isSome then ⟨b.inv⟩ else "",
        zipfSFromFolder := (z.map fun x => PyFloat.num (magnitudeValue x)).getD (.nan none) } := by
  cases z with
  | none => exact parseBundleMeta_name_none b
  | some x => exact parseBundleMeta_name_some b (hz x rfl)

theorem parseBundleMeta_cache_zipfs :
    parseBundleMeta "cache-r9-ttl60-hotwarm-invlazy-zipfs1.3" =
      { scenario := "cache", h3Res := 9, ttl := "60", hot := "warm", invalidation := "lazy",
        zipfSFromFolder := .num (magnitudeValue "1.3".data) } :=
  parseBundleMeta_grammar ⟨"cache".data, "9".data, "60".data, "warm".data, "lazy".data, .inr rfl,
    ⟨by decide, by decide⟩, ⟨by decide, by decide⟩, ⟨by decide, by decide⟩, ⟨by decide, by decide⟩⟩
    (some "1.3".data)
    (by rintro x ⟨⟩; exact ⟨@IsMagnitude.point "1".data "3".data (by decide) (by decide) (by decide), by decide⟩)

theorem parseBundleMeta_baseline_no_zipfs :
    parseBundleMeta "baseline-r0-ttl60-hotwarm-invlazy" =
      { scenario := "baseline", h3Res := 0, ttl := "60", hot := "warm", invalidation := "",
        zipfSFromFolder := .nan none } :=
  parseBundleMeta_name_none ⟨"baseline".data, "0".data, "60".data, "warm".data, "lazy".data, .inl rfl,
    ⟨by decide, by decide⟩, ⟨by decide, by decide⟩, ⟨by decide, by decide⟩, ⟨by decide, by decide⟩⟩

end H3Bench
