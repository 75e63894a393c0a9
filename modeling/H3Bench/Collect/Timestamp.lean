import H3Bench.Python.Text

/-! # Timestamps (collect_results.py: `parse_iso_dt`)

`parse_iso_dt` trims the text, writes a final `Z` as `+00:00`, and brings a fraction of seconds to
the six digits `datetime.fromisoformat` reads, on one of two paths. When the text ends in an
offset `±hh:mm`, the lazy expression `^(.*?)(\.\d+)?([+-]\d{2}:\d{2})$` splits it into base,
fraction and offset. Otherwise it splits at the first `.` and re-reads the digits after it.
`datetime.fromisoformat` is a parameter here: the results are about the text it is given.

`parseIsoDt_isoForm` shows that both paths give the same text on every timestamp of the form
`B`, `B.F`, `B O` or `B.F O`, except a bare `B` ending in `Z`, whose `Z` is read as an offset.
-/

namespace H3Bench

/-- `[+-]\d{2}:\d{2}`: an offset with a colon. -/
inductive IsColonOffset : List Char → Prop
  | mk {sgn h₁ h₂ m₁ m₂ : Char} : (sgn = '+' ∨ sgn = '-') → isDecimal h₁ → isDecimal h₂ →
      isDecimal m₁ → isDecimal m₂ → IsColonOffset [sgn, h₁, h₂, ':', m₁, m₂]

/-- `[+-]\d{4}`: an offset without a colon. -/
inductive IsCompactOffset : List Char → Prop
  | mk {sgn h₁ h₂ m₁ m₂ : Char} : (sgn = '+' ∨ sgn = '-') → isDecimal h₁ → isDecimal h₂ →
      isDecimal m₁ → isDecimal m₂ → IsCompactOffset [sgn, h₁, h₂, m₁, m₂]

/-- `[+-]\d{2}:\d{2}$` at the start of the text: the offset, when nothing but a final newline
follows it. -/
def offsetAtEnd : List Char → Option (List Char)
  | sgn :: h₁ :: h₂ :: ':' :: m₁ :: m₂ :: after =>
      if (sgn = '+' ∨ sgn = '-') ∧ isDecimal h₁ ∧ isDecimal h₂ ∧ isDecimal m₁ ∧ isDecimal m₂ ∧
          (after = [] ∨ after = ['\n']) then some [sgn, h₁, h₂, ':', m₁, m₂]
      else none
  | _ => none

/-- `(\.\d+)([+-]\d{2}:\d{2})$` at the start of the text: the fraction group and the offset. The
greedy digit run is the only one to try, as an offset cannot start with a digit. -/
def fracThenOffset : List Char → Option (Option (List Char) × List Char)
  | '.' :: r₁ =>
      if r₁.takeWhile isDecimal = [] then none
      else (offsetAtEnd (r₁.dropWhile isDecimal)).map
        fun tz => (some ('.' :: r₁.takeWhile isDecimal), tz)
  | _ => none

/-- `(\.\d+)?([+-]\d{2}:\d{2})$` at the start of the text: the fraction group, when it takes part,
and the offset. -/
def fracOffsetAt (r : List Char) : Option (Option (List Char) × List Char) :=
  (fracThenOffset r).or ((offsetAtEnd r).map fun tz => (none, tz))

/-- `re.match(r"^(.*?)(\.\d+)?([+-]\d{2}:\d{2})$", s)`: the groups of the match with the shortest
base. The base cannot cross a newline, which `.` does not match. -/
def isoOffsetMatch : List Char → Option (List Char × Option (List Char) × List Char)
  | [] => (fracOffsetAt []).map fun m => ([], m)
  | c :: rest =>
      match fracOffsetAt (c :: rest) with
      | some m => some ([], m)
      | none => if c = '\n' then none else (isoOffsetMatch rest).map fun m => (c :: m.1, m.2)

/-- `(digits + "000000")[:6]`. -/
def padMicros (digits : List Char) : List Char := (digits ++ "000000".data).take 6

/-- `re.match(r"(\d+)(.*)$", rest)`: the whole digit run and the rest of the line. `$` also
matches before a final newline, which the tail then leaves out. -/
def digitsTailMatch (rest : List Char) : Option (List Char × List Char) :=
  let r := rest.dropWhile isDecimal
  if rest.takeWhile isDecimal ≠ [] ∧
      (r.dropWhile (· != '\n') = [] ∨ r.dropWhile (· != '\n') = ['\n']) then
    some (rest.takeWhile isDecimal, r.takeWhile (· != '\n'))
  else none

/-- The text after the `Z` rewrite, as `parse_iso_dt` hands it to `datetime.fromisoformat`. -/
def isoNormalize (s : List Char) : List Char :=
  match isoOffsetMatch s with
  | some (base, some frac, tz) => base ++ '.' :: padMicros (frac.drop 1) ++ tz
  | some (base, none, tz) => base ++ tz
  | none =>
      if '.' ∈ s then
        match digitsTailMatch ((s.dropWhile (· != '.')).drop 1) with
        | some (digits, tail) => s.takeWhile (· != '.') ++ '.' :: padMicros digits ++ tail
        | none => s
      else s

/-- `s[:-1] + "+00:00"` when `s.endswith("Z")`. -/
def zuluToOffset (s : List Char) : List Char :=
  if s.getLast? = some 'Z' then s.dropLast ++ "+00:00".data else s

/-- The text `parse_iso_dt(ts)` hands to `datetime.fromisoformat`, or `none` for the
`ValueError` it raises on an empty timestamp. -/
def isoText (ts : Option String) : Option String :=
  let s := strip (ts.getD "").data
  if s = [] then none else some ⟨isoNormalize (zuluToOffset s)⟩

/-- `parse_iso_dt(ts)` for a given `datetime.fromisoformat`; `none` is an exception. -/
def parseIsoDt {α : Type} (fromisoformat : String → Option α) (ts : Option String) : Option α :=
  (isoText ts).bind fromisoformat

/-! ## The offset expression -/

/-- The groups of a fraction: a point and at least one digit. -/
def IsFracGroup (g : List Char) : Prop := ∃ d, g = '.' :: d ∧ d ≠ [] ∧ ∀ c ∈ d, isDecimal c

private theorem drop_takeWhile_length (p : Char → Bool) (l : List Char) :
    l.drop (l.takeWhile p).length = l.dropWhile p :=
  calc l.drop (l.takeWhile p).length
      = (l.takeWhile p ++ l.dropWhile p).drop (l.takeWhile p).length := by
        rw [List.takeWhile_append_dropWhile]
    _ = l.dropWhile p := List.drop_left _ _

private theorem isDecimal_of_sign {c : Char} (h : c = '+' ∨ c = '-') : isDecimal c = false := by
  rcases h with rfl | rfl <;> simp

theorem offsetAtEnd_self {tz : List Char} (h : IsColonOffset tz) : offsetAtEnd tz = some tz := by
  cases h with
  | mk hs h₁ h₂ m₁ m₂ => simp [offsetAtEnd, hs, h₁, h₂, m₁, m₂]

theorem offsetAtEnd_sound {l tz : List Char} (h : offsetAtEnd l = some tz) :
    IsColonOffset tz ∧ (l = tz ∨ l = tz ++ ['\n']) := by
  unfold offsetAtEnd at h
  split at h
  · split_ifs at h with hc
    obtain ⟨hs, h₁, h₂, m₁, m₂, hafter⟩ := hc
    cases h
    exact ⟨.mk hs h₁ h₂ m₁ m₂, by rcases hafter with rfl | rfl <;> simp⟩
  · cases h

theorem IsColonOffset.takeWhile_isDecimal {tz : List Char} (h : IsColonOffset tz) (l : List Char) :
    (tz ++ l).takeWhile isDecimal = [] ∧ (tz ++ l).dropWhile isDecimal = tz ++ l := by
  cases h with
  | mk hs => simp [isDecimal_of_sign hs]

theorem fracThenOffset_sound {r tz : List Char} {f : Option (List Char)}
    (h : fracThenOffset r = some (f, tz)) :
    ∃ g, f = some g ∧ IsFracGroup g ∧ offsetAtEnd (r.drop g.length) = some tz ∧ g <+: r := by
  unfold fracThenOffset at h
  split at h
  · next r₁ =>
      split_ifs at h with hd
      obtain ⟨tz', htz, heq⟩ := Option.map_eq_some'.mp h
      cases heq
      refine ⟨_, rfl, ⟨_, rfl, hd, fun c hc => List.mem_takeWhile_imp hc⟩, ?_, ?_⟩
      · simpa [drop_takeWhile_length] using htz
      · exact (List.prefix_cons_inj _).mpr (List.takeWhile_prefix _)
  · cases h

theorem fracOffsetAt_sound {r tz : List Char} {f : Option (List Char)}
    (h : fracOffsetAt r = some (f, tz)) :
    IsColonOffset tz ∧ (∀ g ∈ f, IsFracGroup g) ∧
      (r = f.getD [] ++ tz ∨ r = f.getD [] ++ tz ++ ['\n']) := by
  cases hw : fracThenOffset r with
  | some m =>
      rw [fracOffsetAt, hw, Option.or_some, Option.some.injEq] at h
      subst h
      obtain ⟨g, rfl, hg, htz, hpre⟩ := fracThenOffset_sound hw
      obtain ⟨htz, hr⟩ := offsetAtEnd_sound htz
      have hsplit : r = g ++ r.drop g.length := by
        obtain ⟨t, rfl⟩ := hpre
        simp
      refine ⟨htz, by simpa using hg, ?_⟩
      rcases hr with hr | hr <;> rw [hsplit, hr] <;> simp
  | none =>
      rw [fracOffsetAt, hw, Option.none_or] at h
      obtain ⟨tz', htz, heq⟩ := Option.map_eq_some'.mp h
      cases heq
      obtain ⟨htz, hr⟩ := offsetAtEnd_sound htz
      exact ⟨htz, by simp, by simpa using hr⟩

theorem fracOffsetAt_frac {F tz : List Char} (hF : F ≠ [] ∧ ∀ c ∈ F, isDecimal c)
    (htz : IsColonOffset tz) : fracOffsetAt ('.' :: (F ++ tz)) = some (some ('.' :: F), tz) := by
  have ⟨htake, hdrop⟩ := htz.takeWhile_isDecimal []
  rw [List.append_nil] at htake hdrop
  simp [fracOffsetAt, fracThenOffset, List.takeWhile_append_of_pos hF.2,
    List.dropWhile_append_of_pos hF.2, htake, hdrop, hF.1, offsetAtEnd_self htz]

/-- The lazy base is the shortest: the expression matches at no earlier position, and the base
holds no newline. -/
theorem isoOffsetMatch_sound {l b : List Char} {m : Option (List Char) × List Char}
    (h : isoOffsetMatch l = some (b, m)) :
    ∃ r, l = b ++ r ∧ fracOffsetAt r = some m ∧ '\n' ∉ b ∧
      ∀ k < b.length, fracOffsetAt (l.drop k) = none := by
  induction l generalizing b with
  | nil =>
      obtain ⟨m', hm, heq⟩ := Option.map_eq_some'.mp h
      cases heq
      exact ⟨[], rfl, hm, by simp, by simp⟩
  | cons c rest ih =>
      unfold isoOffsetMatch at h
      split at h
      · next hf =>
          cases h
          exact ⟨_, rfl, hf, by simp, by simp⟩
      · next hf =>
          split_ifs at h with hc
          obtain ⟨⟨b', m'⟩, hm, heq⟩ := Option.map_eq_some'.mp h
          cases heq
          obtain ⟨r, hrest, hfr, hnl, hleft⟩ := ih hm
          refine ⟨r, by rw [hrest]; rfl, hfr, by simp [hnl, Ne.symm hc], fun k hk => ?_⟩
          cases k with
          | zero => exact hf
          | succ k => exact hleft k (by simpa using hk)

/-! ## The fallback path -/

theorem takeWhile_not_point {B X : List Char} (hB : '.' ∉ B) :
    (B ++ '.' :: X).takeWhile (· != '.') = B ∧ ((B ++ '.' :: X).dropWhile (· != '.')).drop 1 = X := by
  have hall : ∀ c ∈ B, (c != '.') = true := fun c hc => bne_iff_ne.mpr fun e => hB (e ▸ hc)
  simp [List.takeWhile_append_of_pos hall, List.dropWhile_append_of_pos hall]

/-! ## The grammar after the `Z` rewrite -/

/-- What may follow the fraction once `Z` is rewritten: nothing, or an offset with or without a
colon. -/
def IsPlainTail (o : List Char) : Prop := o = [] ∨ IsColonOffset o ∨ IsCompactOffset o

theorem IsPlainTail.chars {o : List Char} (h : IsPlainTail o) :
    ∀ c ∈ o, isDecimal c ∨ c = '+' ∨ c = '-' ∨ c = ':' := by
  rcases h with rfl | ⟨hs, h₁, h₂, m₁, m₂⟩ | ⟨hs, h₁, h₂, m₁, m₂⟩
  · simp
  all_goals rcases hs with rfl | rfl <;> simp [h₁, h₂, m₁, m₂]

theorem IsPlainTail.not_mem {o : List Char} (h : IsPlainTail o) {c : Char}
    (hc : isDecimal c = false ∧ c ≠ '+' ∧ c ≠ '-' ∧ c ≠ ':') : c ∉ o := fun hm => by
  rcases h.chars c hm with h' | h' | h' | h' <;> simp_all

theorem IsPlainTail.digits {o : List Char} (h : IsPlainTail o) :
    o.takeWhile isDecimal = [] ∧ o.dropWhile isDecimal = o := by
  rcases h with rfl | ⟨hs, -, -, -, -⟩ | ⟨hs, -, -, -, -⟩
  · simp
  all_goals simp [isDecimal_of_sign hs]

theorem IsPlainTail.last {o : List Char} (h : IsPlainTail o) : ∀ c ∈ o.getLast?, isDecimal c := by
  rcases h with rfl | ⟨-, -, -, -, m₂⟩ | ⟨-, -, -, -, m₂⟩
  · simp
  all_goals simp [m₂]

theorem digitsTailMatch_digits {F O : List Char} (hF : F ≠ [] ∧ ∀ c ∈ F, isDecimal c)
    (hO : IsPlainTail O) : digitsTailMatch (F ++ O) = some (F, O) := by
  have hnl : ∀ c ∈ O, (c != '\n') = true := fun c hc => bne_iff_ne.mpr fun e =>
    hO.not_mem (by decide) (e ▸ hc)
  simp [digitsTailMatch, List.takeWhile_append_of_pos hF.2, List.dropWhile_append_of_pos hF.2,
    hO.digits, hF.1, List.dropWhile_eq_nil_iff.mpr hnl, List.takeWhile_eq_self_iff.mpr hnl]

theorem append_point_inj {x₁ x₂ y₁ y₂ : List Char} (h₁ : '.' ∉ y₁) (h₂ : '.' ∉ y₂)
    (h : x₁ ++ '.' :: y₁ = x₂ ++ '.' :: y₂) : x₁ = x₂ ∧ y₁ = y₂ := by
  have key : ∀ x y : List Char, '.' ∉ y → ((x ++ '.' :: y).reverse.takeWhile (· != '.')).reverse = y := by
    intro x y hy
    have hall : ∀ c ∈ y.reverse, (c != '.') = true := fun c hc =>
      bne_iff_ne.mpr fun e => hy (List.mem_reverse.mp (e ▸ hc))
    simp [List.takeWhile_append_of_pos hall]
  have hy : y₁ = y₂ := by rw [← key x₁ y₁ h₁, h, key x₂ y₂ h₂]
  subst hy
  exact ⟨List.append_cancel_right h, rfl⟩

theorem colon_tail_eq {B F O Y tz : List Char} (hF : F ≠ [] ∧ ∀ c ∈ F, isDecimal c)
    (hO : IsPlainTail O) (htz : IsColonOffset tz) (h : B ++ '.' :: (F ++ O) = Y ++ tz) :
    O = tz ∧ B ++ '.' :: F = Y := by
  rcases hO with rfl | hO | ⟨_, _, hd, _, _⟩
  · exfalso
    cases htz with
    | mk _ _ _ hm₁ _ =>
        have hrev := congrArg List.reverse h
        have hd : ∀ c ∈ F.reverse, isDecimal c := fun c hc => hF.2 c (List.mem_reverse.mp hc)
        rcases hFr : F.reverse with _ | ⟨a, _ | ⟨b, _ | ⟨c, t⟩⟩⟩
        · exact hF.1 (List.reverse_eq_nil_iff.mp hFr)
        all_goals simp [hFr] at hrev hd
        · simp [← hrev.2.1] at hm₁
        · simp [hrev.2.2.1] at hd
  · have hlen : O.length = tz.length := by cases hO; cases htz; rfl
    have h' : (B ++ '.' :: F) ++ O = Y ++ tz := by simpa using h
    obtain ⟨hY, hOtz⟩ := List.append_inj' h' hlen
    exact ⟨hOtz, hY⟩
  · exfalso
    cases htz
    have hrev := congrArg List.reverse h
    simp at hrev
    simp [hrev.2.2.1] at hd

/-! ## Both paths agree -/

theorem isoNormalize_of_no_point {s : List Char} (hs : '.' ∉ s) (hnl : s.getLast? ≠ some '\n') :
    isoNormalize s = s := by
  unfold isoNormalize
  cases hm : isoOffsetMatch s with
  | none => simp [hs]
  | some m =>
      obtain ⟨b, f, tz⟩ := m
      obtain ⟨r, rfl, hfr, -, -⟩ := isoOffsetMatch_sound hm
      obtain ⟨-, hf, hr⟩ := fracOffsetAt_sound hfr
      cases f with
      | some g =>
          obtain ⟨d, rfl, -⟩ := hf g rfl
          rcases hr with rfl | rfl <;> simp at hs
      | none =>
          rcases hr with rfl | rfl
          · simp
          · simp at hnl

/-- With a fraction, the offset expression matches only at an offset with a colon, and then with
the groups of the split at the point: both paths cut or pad the fraction alike. -/
theorem isoNormalize_point {B F O : List Char} (hB : '.' ∉ B) (hF : F ≠ [] ∧ ∀ c ∈ F, isDecimal c)
    (hO : IsPlainTail O) : isoNormalize (B ++ '.' :: (F ++ O)) = B ++ '.' :: (padMicros F ++ O) := by
  unfold isoNormalize
  cases hm : isoOffsetMatch (B ++ '.' :: (F ++ O)) with
  | none =>
      obtain ⟨htake, hdrop⟩ := @takeWhile_not_point B (F ++ O) hB
      simp only [List.mem_append, List.mem_cons, true_or, or_true, if_true, hdrop,
        digitsTailMatch_digits hF hO, htake, List.cons_append, List.append_assoc]
  | some m =>
      obtain ⟨b, f, tz⟩ := m
      obtain ⟨r, hs, hfr, -, hleft⟩ := isoOffsetMatch_sound hm
      obtain ⟨htz, hf, hr⟩ := fracOffsetAt_sound hfr
      have hlast : ∀ c ∈ (B ++ '.' :: (F ++ O)).getLast?, isDecimal c := by
        rw [← List.cons_append, ← List.append_assoc]
        by_cases hne : O = []
        · rw [hne, List.append_nil, show B ++ '.' :: F = (B ++ ['.']) ++ F by simp,
            List.getLast?_append_of_ne_nil _ hF.1]
          exact fun c hc => hF.2 c (List.mem_of_mem_getLast? hc)
        · rw [List.getLast?_append_of_ne_nil _ hne]
          exact hO.last
      replace hr : r = f.getD [] ++ tz := hr.resolve_right fun h => by
        simpa [hs, h] using hlast '\n'
      obtain ⟨rfl, hY⟩ := colon_tail_eq hF hO htz (by rw [hs, hr, List.append_assoc])
      cases f with
      | none =>
          have hb : b = B ++ '.' :: F := by simpa using hY.symm
          have hlt : B.length < b.length := by simp [hb]
          have hat := hleft B.length hlt
          rw [List.drop_left, fracOffsetAt_frac hF htz] at hat
          cases hat
      | some g =>
          obtain ⟨d, rfl, -, hd⟩ := hf g rfl
          have hpt : '.' ∉ d := fun h => absurd (hd _ h) (by decide)
          have hFpt : '.' ∉ F := fun h => absurd (hF.2 _ h) (by decide)
          obtain ⟨rfl, rfl⟩ := append_point_inj hpt hFpt (by simpa using hY.symm)
          simp

/-! ## Timestamps of the form `B`, `B.F`, `B O` or `B.F O` -/

/-- The offsets of the grammar: `Z`, `±hh:mm` or `±hhmm`. -/
inductive IsOffset : List Char → Prop
  | zulu : IsOffset ['Z']
  | colon {o : List Char} : IsColonOffset o → IsOffset o
  | compact {o : List Char} : IsCompactOffset o → IsOffset o

/-- A timestamp of the form `B`, `B.F`, `B O` or `B.F O`: a base without a point, digits of a
fraction, an offset. -/
structure IsoForm where
  base : List Char
  frac : Option (List Char)
  offset : Option (List Char)
  base_no_point : '.' ∉ base
  frac_digits : ∀ f ∈ frac, f ≠ [] ∧ ∀ c ∈ f, isDecimal c
  offset_ok : ∀ o ∈ offset, IsOffset o

/-- `Z` written `+00:00`; the other offsets as they are. -/
def zuluOffset (o : List Char) : List Char := if o = ['Z'] then "+00:00".data else o

namespace IsoForm

def text (t : IsoForm) : List Char :=
  t.base ++ (t.frac.map ('.' :: ·)).getD [] ++ t.offset.getD []

/-- The text the timestamp is to be read as: the fraction cut or padded to six digits and `Z`
written `+00:00`. -/
def expected (t : IsoForm) : List Char :=
  t.base ++ (t.frac.map fun f => '.' :: padMicros f).getD [] ++ (t.offset.map zuluOffset).getD []

end IsoForm

theorem IsOffset.isPlainTail_zuluOffset {o : List Char} (h : IsOffset o) : IsPlainTail (zuluOffset o) := by
  cases h with
  | zulu => exact .inr (.inl (.mk (.inl rfl) rfl rfl rfl rfl))
  | colon h => cases h; exact .inr (.inl (by rw [zuluOffset, if_neg (by simp)]; exact .mk ‹_› ‹_› ‹_› ‹_› ‹_›))
  | compact h => cases h; exact .inr (.inr (by rw [zuluOffset, if_neg (by simp)]; exact .mk ‹_› ‹_› ‹_› ‹_› ‹_›))

theorem zuluToOffset_getLast {s : List Char} (h : s.getLast? ≠ some '\n') :
    (zuluToOffset s).getLast? ≠ some '\n' := by
  unfold zuluToOffset
  split_ifs
  · simp [List.getLast?_append]
  · exact h

/-- The `Z` rewrite acts on the offset alone, unless a bare base ends in `Z`. -/
theorem zuluToOffset_text (t : IsoForm)
    (hbare : t.frac = none → t.offset = none → t.base.getLast? ≠ some 'Z') :
    zuluToOffset t.text =
      t.base ++ (t.frac.map ('.' :: ·)).getD [] ++ (t.offset.map zuluOffset).getD [] := by
  have hkeep : t.text.getLast? ≠ some 'Z' → (t.offset.map zuluOffset).getD [] = t.offset.getD [] →
      zuluToOffset t.text =
        t.base ++ (t.frac.map ('.' :: ·)).getD [] ++ (t.offset.map zuluOffset).getD [] :=
    fun hz ho => by rw [zuluToOffset, if_neg hz, ho, IsoForm.text]
  cases ho : t.offset with
  | some o =>
      cases t.offset_ok o ho with
      | zulu => simp [zuluToOffset, IsoForm.text, ho, zuluOffset]
      | colon h =>
          cases h with
          | mk _ _ _ _ hm =>
              rw [← ho]
              refine hkeep ?_ (by simp [ho, zuluOffset])
              simp [IsoForm.text, ho]
              rintro rfl
              exact absurd hm (by decide)
      | compact h =>
          cases h with
          | mk _ _ _ _ hm =>
              rw [← ho]
              refine hkeep ?_ (by simp [ho, zuluOffset])
              simp [IsoForm.text, ho]
              rintro rfl
              exact absurd hm (by decide)
  | none =>
      rw [← ho]
      refine hkeep ?_ (by simp [ho])
      cases hf : t.frac with
      | none => simpa [IsoForm.text, ho, hf] using hbare hf ho
      | some f =>
          obtain ⟨hne, hd⟩ := t.frac_digits f hf
          have hlast : ∀ c ∈ f.getLast?, isDecimal c := fun c hc => hd c (List.mem_of_mem_getLast? hc)
          rw [IsoForm.text, ho, hf, Option.map_some', Option.getD_some, Option.getD_none,
            List.append_nil, show '.' :: f = ['.'] ++ f from rfl, ← List.append_assoc,
            List.getLast?_append_of_ne_nil _ hne]
          intro h
          exact absurd (hlast 'Z' h) (by decide)

theorem IsOffset.ne_nil {o : List Char} (h : IsOffset o) : o ≠ [] := by
  rcases h with _ | ⟨⟨⟩⟩ | ⟨⟨⟩⟩ <;> simp

/-- On every timestamp of the grammar, except a bare base that is empty or ends in `Z`, both
paths hand `fromisoformat` the text the form is to be read as. -/
theorem isoText_isoForm (t : IsoForm) {ts : String} (hts : strip ts.data = t.text)
    (hbare : t.frac = none → t.offset = none → t.base ≠ [] ∧ t.base.getLast? ≠ some 'Z') :
    isoText (some ts) = some ⟨t.expected⟩ := by
  have hO : IsPlainTail ((t.offset.map zuluOffset).getD []) := by
    cases ho : t.offset with
    | none => exact .inl rfl
    | some o => exact (t.offset_ok o ho).isPlainTail_zuluOffset
  have hne : t.text ≠ [] := by
    cases hf : t.frac with
    | some f => simp [IsoForm.text, hf]
    | none =>
        cases ho : t.offset with
        | some o => simp [IsoForm.text, ho, (t.offset_ok o ho).ne_nil]
        | none => simpa [IsoForm.text, hf, ho] using (hbare hf ho).1
  have hnl : (zuluToOffset t.text).getLast? ≠ some '\n' :=
    zuluToOffset_getLast fun h => absurd (strip_last ts.data '\n' (hts ▸ h)) (by decide)
  rw [zuluToOffset_text t fun hf ho => (hbare hf ho).2] at hnl
  simp only [isoText, Option.getD_some, hts, if_neg hne, zuluToOffset_text t fun hf ho => (hbare hf ho).2,
    IsoForm.expected]
  cases hf : t.frac with
  | some f =>
      simp only [Option.map_some', Option.getD_some, List.append_assoc, List.cons_append]
      rw [isoNormalize_point t.base_no_point (t.frac_digits f hf) hO]
  | none =>
      simp only [hf, Option.map_none', Option.getD_none, List.append_nil] at hnl ⊢
      rw [isoNormalize_of_no_point (List.not_mem_append t.base_no_point (hO.not_mem (by decide))) hnl]

theorem isoText_blank {ts : Option String} (h : strip (ts.getD "").data = []) : isoText ts = none := by
  simp [isoText, h]

/-- `parse_iso_dt` reads every timestamp of the grammar as its form says, both paths alike, except
a bare base that is empty or ends in `Z`; it raises on a blank timestamp. -/
theorem parseIsoDt_isoForm {α : Type} (fromisoformat : String → Option α) :
    (∀ (t : IsoForm) (ts : String), strip ts.data = t.text →
        (t.frac = none → t.offset = none → t.base ≠ [] ∧ t.base.getLast? ≠ some 'Z') →
        parseIsoDt fromisoformat (some ts) = fromisoformat ⟨t.expected⟩) ∧
      ∀ ts : Option String, strip (ts.getD "").data = [] → parseIsoDt fromisoformat ts = none :=
  ⟨fun t _ hts hbare => by rw [parseIsoDt, isoText_isoForm t hts hbare, Option.some_bind],
    fun _ h => by rw [parseIsoDt, isoText_blank h, Option.none_bind]⟩

theorem parseIsoDt_samples :
    parseIsoDt some (some " 2024-01-01T00:00:00.5Z") = some "2024-01-01T00:00:00.500000+00:00" ∧
      parseIsoDt some (some "  ") = none :=
  ⟨(parseIsoDt_isoForm some).1
      ⟨"2024-01-01T00:00:00".data, some ['5'], some ['Z'], by decide,
        fun f hf => by cases hf; decide, fun o ho => by cases ho; exact .zulu⟩
      _ (by decide) (by simp),
    (parseIsoDt_isoForm some).2 _ (by decide)⟩

/-- A bare base ending in `Z` has its `Z` read as an offset: `fromisoformat` is given `+00:00`
in its place. -/
theorem parseIsoDt_bare_zulu :
    ∃ t : IsoForm, t.frac = none ∧ t.offset = none ∧
      strip "2024-01-01T00:00:00Z".data = t.text ∧
      parseIsoDt some (some "2024-01-01T00:00:00Z") = some "2024-01-01T00:00:00+00:00" ∧
      parseIsoDt some (some "2024-01-01T00:00:00Z") ≠ some ⟨t.expected⟩ :=
  ⟨⟨"2024-01-01T00:00:00Z".data, none, none, by decide, by simp, by simp⟩,
    rfl, rfl, by decide, by decide, by decide⟩

end H3Bench
