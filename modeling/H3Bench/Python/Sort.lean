import Mathlib.Data.List.Sort

/-! # `sorted` with a comparison that may raise

CPython sorts with a stable merge sort built on binary insertion. On a comparison that is a strict
order every stable sort returns the same list; this model inserts the items in turn, each before
the first item of the sorted prefix that it is smaller than. A comparison that raises (`none`)
makes the sort raise.

`pySorted_sorted` shows that on a strict total order of the items the sort succeeds with a sorted
permutation, and `eq_of_perm_of_sorted_lt` that such a permutation is unique.
-/

namespace H3Bench

variable {α : Type} (lt : α → α → Option Bool)

def insertSorted (x : α) : List α → Option (List α)
  | [] => some [x]
  | y :: ys =>
      match lt x y with
      | some true => some (x :: y :: ys)
      | some false => (insertSorted x ys).map (y :: ·)
      | none => none

/-- `sorted(xs)`, comparing with `lt`. -/
def pySorted (xs : List α) : Option (List α) :=
  xs.foldlM (fun acc x => insertSorted lt x acc) []

variable {lt}

theorem insertSorted_perm {x : α} : ∀ {l l' : List α}, insertSorted lt x l = some l' → l'.Perm (x :: l)
  | [], l', h => by cases h; rfl
  | y :: ys, l', h => by
      unfold insertSorted at h
      split at h
      · cases h; rfl
      · obtain ⟨l'', h'', rfl⟩ := Option.map_eq_some'.mp h
        exact ((insertSorted_perm h'').cons y).trans (List.Perm.swap x y ys)
      · cases h

theorem pySorted_perm_aux : ∀ {xs acc ys : List α},
    xs.foldlM (fun acc x => insertSorted lt x acc) acc = some ys → ys.Perm (xs ++ acc)
  | [], acc, ys, h => by cases h; rfl
  | x :: xs, acc, ys, h => by
      rw [List.foldlM_cons] at h
      obtain ⟨acc', hacc, h⟩ := Option.bind_eq_some.mp h
      exact (pySorted_perm_aux h).trans
        (((insertSorted_perm hacc).append_left xs).trans List.perm_middle)

theorem pySorted_perm {xs ys : List α} (h : pySorted lt xs = some ys) : ys.Perm xs := by
  simpa using pySorted_perm_aux h

section Strict

variable {r : α → α → Prop} [DecidableRel r] [IsTrans α r]

theorem insertSorted_sorted {x : α} :
    ∀ {l : List α}, l.Sorted r → (∀ y ∈ l, lt x y = some (decide (r x y)) ∧ (r x y ∨ r y x)) →
      ∃ l', insertSorted lt x l = some l' ∧ l'.Sorted r
  | [], _, _ => ⟨[x], rfl, List.sorted_singleton x⟩
  | y :: ys, hs, hy => by
      obtain ⟨hxy, htot⟩ := hy y (List.mem_cons_self _ _)
      obtain ⟨hys, hsorted⟩ := List.sorted_cons.mp hs
      by_cases hr : r x y
      · refine ⟨x :: y :: ys, by simp [insertSorted, hxy, hr], List.sorted_cons.mpr ⟨?_, hs⟩⟩
        intro z hz
        rcases List.mem_cons.mp hz with rfl | hz
        exacts [hr, IsTrans.trans _ _ _ hr (hys z hz)]
      · obtain ⟨l', hl', hsl'⟩ := insertSorted_sorted hsorted fun z hz => hy z (List.mem_cons_of_mem _ hz)
        refine ⟨y :: l', by simp [insertSorted, hxy, hr, hl'], List.sorted_cons.mpr ⟨?_, hsl'⟩⟩
        intro z hz
        rcases List.mem_cons.mp ((insertSorted_perm hl').mem_iff.mp hz) with rfl | hz
        exacts [htot.resolve_left hr, hys z hz]

theorem pySorted_sorted_aux : ∀ {xs acc : List α}, acc.Sorted r →
    (∀ a ∈ xs ++ acc, ∀ b ∈ xs ++ acc, lt a b = some (decide (r a b))) →
    (xs ++ acc).Pairwise (fun a b => r a b ∨ r b a) →
    ∃ ys, xs.foldlM (fun acc x => insertSorted lt x acc) acc = some ys ∧ ys.Sorted r
  | [], acc, hs, _, _ => ⟨acc, rfl, hs⟩
  | x :: xs, acc, hs, hlt, htot => by
      have hx : ∀ y ∈ acc, lt x y = some (decide (r x y)) ∧ (r x y ∨ r y x) := fun y hy =>
        ⟨hlt x (by simp) y (by simp [hy]),
          List.rel_of_pairwise_cons htot (List.mem_append_right _ hy)⟩
      obtain ⟨acc', hacc, hsorted⟩ := insertSorted_sorted hs hx
      have hperm : (xs ++ acc').Perm ((x :: xs) ++ acc) :=
        ((insertSorted_perm hacc).append_left xs).trans List.perm_middle
      rw [List.foldlM_cons, hacc]
      exact pySorted_sorted_aux hsorted
        (fun a ha b hb => hlt a (hperm.subset ha) b (hperm.subset hb))
        ((hperm.pairwise_iff (by intro a b h; exact h.symm)).mpr htot)

/-- On items that `r` orders totally, with `lt` its decision, the sort succeeds with a list sorted
by `r`. -/
theorem pySorted_sorted {xs : List α} (hlt : ∀ a ∈ xs, ∀ b ∈ xs, lt a b = some (decide (r a b)))
    (htot : xs.Pairwise fun a b => r a b ∨ r b a) : ∃ ys, pySorted lt xs = some ys ∧ ys.Sorted r :=
  pySorted_sorted_aux (List.sorted_nil) (by simpa using hlt) (by simpa using htot)

end Strict

/-- Two lists sorted by a strict order and permutations of each other are equal. -/
theorem eq_of_perm_of_sorted_lt {r : α → α → Prop} [IsAsymm α r] {l₁ l₂ : List α}
    (hp : l₁.Perm l₂) (h₁ : l₁.Sorted r) (h₂ : l₂.Sorted r) : l₁ = l₂ :=
  haveI : IsAntisymm α r := ⟨fun _ _ hab hba => absurd hba (asymm hab)⟩
  List.eq_of_perm_of_sorted hp h₁ h₂

end H3Bench
