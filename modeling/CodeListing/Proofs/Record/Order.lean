import CodeListing.Record.Order
import Mathlib.Data.List.Nodup
import Mathlib.Data.List.Perm.Basic

/-!
# The one stable order

`IsStableSort start xs ys` says that `ys` has the elements of `xs`, ascending by where they start,
with those that start together in the order of `xs`. There is exactly one such list
(`IsStableSort.unique`), sorting gives it (`sortByStart_isStableSort`), and what is left of it when
elements are left out is the one for what is left of `xs` (`IsStableSort.filter`). So sorting and
leaving out commute.
-/

namespace CodeListing

/-! ## Positions -/

namespace Position

theorem atOrBefore_iff {p q : Position} :
    p.atOrBefore q = true ↔ p.line < q.line ∨ p.line = q.line ∧ p.character ≤ q.character := by
  simp only [atOrBefore, order, compareLex, compareOn, Ordering.isLE_then_iff_or]
  rw [Std.compare_eq_lt, Std.compare_eq_iff_eq, Std.isLE_compare]

instance : Std.TransCmp order :=
  inferInstanceAs (Std.TransCmp (compareLex (compareOn line) (compareOn character)))

theorem atOrBefore_trans {p q s : Position} (h : p.atOrBefore q = true)
    (h' : q.atOrBefore s = true) : p.atOrBefore s = true :=
  Std.TransCmp.isLE_trans h h'

theorem atOrBefore_total (p q : Position) : (p.atOrBefore q || q.atOrBefore p) = true := by
  by_cases h : p.atOrBefore q = true
  · rw [h, Bool.true_or]
  · have hlt : order q p = .lt := Std.OrientedCmp.lt_of_not_isLE h
    simp [atOrBefore, hlt]

theorem atOrBefore_refl (p : Position) : p.atOrBefore p = true := by
  simpa using atOrBefore_total p p

theorem atOrBefore_antisymm {p q : Position} (h : p.atOrBefore q = true)
    (h' : q.atOrBefore p = true) : p = q := by
  have heq : order p q = .eq := Std.OrientedCmp.isLE_antisymm h h'
  obtain ⟨line, character⟩ := p
  obtain ⟨line', character'⟩ := q
  simpa [order, compareLex_eq_eq, compareOn] using heq

end Position

/-! ## Stable sorts -/

section

variable {α : Type} {start : α → Position} {xs ys zs : List α}

/-- `ys` has the elements of `xs`, ascending by where they start, in the order of `xs` where they
start together. -/
structure IsStableSort (start : α → Position) (xs ys : List α) : Prop where
  perm : ys.Perm xs
  ascending : ys.Pairwise fun x y => (start x).line < (start y).line ∨
    (start x).line = (start y).line ∧ (start x).character ≤ (start y).character
  stable : ∀ p : Position, ys.filter (start · = p) = xs.filter (start · = p)

theorem IsStableSort.pairwise (h : IsStableSort start xs ys) :
    ys.Pairwise fun x y => (start x).atOrBefore (start y) = true :=
  h.ascending.imp fun hxy => Position.atOrBefore_iff.mpr hxy

/-- Ascending lists that agree on what starts where are equal. -/
theorem eq_of_pairwise_atOrBefore
    (hys : ys.Pairwise fun x y => (start x).atOrBefore (start y) = true)
    (hzs : zs.Pairwise fun x y => (start x).atOrBefore (start y) = true)
    (h : ∀ p : Position, ys.filter (start · = p) = zs.filter (start · = p)) : ys = zs := by
  have hmem : ∀ x, x ∈ ys ↔ x ∈ zs := by
    intro x
    have := congrArg (x ∈ ·) (h (start x))
    simpa using this
  induction ys generalizing zs with
  | nil =>
    cases zs with
    | nil => rfl
    | cons z zs => exact absurd ((hmem z).mpr List.mem_cons_self) List.not_mem_nil
  | cons y ys ih =>
    cases zs with
    | nil => exact absurd ((hmem y).mp List.mem_cons_self) List.not_mem_nil
    | cons z zs =>
      -- the two heads start together, so they are the first of what starts there
      have hyz : (start y).atOrBefore (start z) = true := by
        rcases List.mem_cons.mp ((hmem z).mpr List.mem_cons_self) with rfl | hz
        · exact Position.atOrBefore_refl _
        · exact (List.pairwise_cons.mp hys).1 z hz
      have hzy : (start z).atOrBefore (start y) = true := by
        rcases List.mem_cons.mp ((hmem y).mp List.mem_cons_self) with rfl | hy
        · exact Position.atOrBefore_refl _
        · exact (List.pairwise_cons.mp hzs).1 y hy
      have hstart : start y = start z := Position.atOrBefore_antisymm hyz hzy
      have hhead := h (start z)
      rw [List.filter_cons_of_pos (by simpa using hstart),
        List.filter_cons_of_pos (by simp)] at hhead
      obtain rfl : y = z := (List.cons.inj hhead).1
      have htail : ∀ p : Position, ys.filter (start · = p) = zs.filter (start · = p) := by
        intro p
        have hp := h p
        by_cases hyp : start y = p
        · rw [List.filter_cons_of_pos (by simpa using hyp),
            List.filter_cons_of_pos (by simpa using hyp)] at hp
          exact (List.cons.inj hp).2
        · rwa [List.filter_cons_of_neg (by simpa using hyp),
            List.filter_cons_of_neg (by simpa using hyp)] at hp
      have htail_mem : ∀ x, x ∈ ys ↔ x ∈ zs := by
        intro x
        have := congrArg (x ∈ ·) (htail (start x))
        simpa using this
      rw [ih (List.pairwise_cons.mp hys).2 (List.pairwise_cons.mp hzs).2 htail htail_mem]

/-- There is only one stable sort. -/
theorem IsStableSort.unique (hys : IsStableSort start xs ys) (hzs : IsStableSort start xs zs) :
    ys = zs :=
  eq_of_pairwise_atOrBefore hys.pairwise hzs.pairwise fun p =>
    (hys.stable p).trans (hzs.stable p).symm

/-- Ascending lists of the same elements have the same starts. -/
theorem map_start_eq_of_perm (h : xs.Perm ys)
    (hxs : xs.Pairwise fun x y => (start x).atOrBefore (start y) = true)
    (hys : ys.Pairwise fun x y => (start x).atOrBefore (start y) = true) :
    xs.map start = ys.map start :=
  List.Perm.eq_of_pairwise (fun _ _ _ _ => Position.atOrBefore_antisymm)
    (List.pairwise_map.mpr hxs) (List.pairwise_map.mpr hys) (h.map start)

/-- Ascending lists of the same elements are equal if no two elements start together. -/
theorem eq_of_perm_of_pairwise_ne (h : xs.Perm ys)
    (hxs : xs.Pairwise fun x y => (start x).atOrBefore (start y) = true)
    (hys : ys.Pairwise fun x y => (start x).atOrBefore (start y) = true)
    (hne : xs.Pairwise fun x y => start x ≠ start y) : xs = ys := by
  have hnodup : (xs.map start).Nodup := List.pairwise_map.mpr hne
  refine List.Perm.eq_of_pairwise (fun x y hx hy hxy hyx => ?_) hxs hys h
  exact List.inj_on_of_nodup_map hnodup hx (h.mem_iff.mpr hy)
    (Position.atOrBefore_antisymm hxy hyx)

/-- Leaving elements out of a stable sort gives the stable sort of what is left. -/
theorem IsStableSort.filter (h : IsStableSort start xs ys) (p : α → Bool) :
    IsStableSort start (xs.filter p) (ys.filter p) where
  perm := h.perm.filter p
  ascending := h.ascending.filter p
  stable q := by
    rw [List.filter_comm, h.stable q, List.filter_comm]

theorem pairwise_sortByStart (start : α → Position) (xs : List α) :
    (sortByStart start xs).Pairwise fun x y => (start x).atOrBefore (start y) = true :=
  @List.pairwise_mergeSort α (fun x y => (start x).atOrBefore (start y))
    (fun _ _ _ => Position.atOrBefore_trans)
    (fun x y => Position.atOrBefore_total (start x) (start y)) xs

theorem sublist_sortByStart
    (hys : ys.Pairwise fun x y => (start x).atOrBefore (start y) = true) (h : ys.Sublist xs) :
    ys.Sublist (sortByStart start xs) :=
  @List.sublist_mergeSort α (fun x y => (start x).atOrBefore (start y)) xs
    (fun _ _ _ => Position.atOrBefore_trans)
    (fun x y => Position.atOrBefore_total (start x) (start y)) ys hys h

theorem sortByStart_isStableSort (start : α → Position) (xs : List α) :
    IsStableSort start xs (sortByStart start xs) where
  perm := List.mergeSort_perm xs _
  ascending := (pairwise_sortByStart start xs).imp fun hxy => Position.atOrBefore_iff.mp hxy
  stable p := by
    have hperm : (sortByStart start xs).Perm xs := List.mergeSort_perm xs _
    have hpairwise : (xs.filter (start · = p)).Pairwise fun x y =>
        (start x).atOrBefore (start y) = true := by
      refine List.pairwise_of_forall_mem_list fun x hx y hy => ?_
      have hx' : start x = p := by simpa using (List.mem_filter.mp hx).2
      have hy' : start y = p := by simpa using (List.mem_filter.mp hy).2
      rw [hx', hy']
      exact Position.atOrBefore_refl p
    -- what starts at one place is in order already, so it survives the sort as it is
    have hsub := (sublist_sortByStart hpairwise List.filter_sublist).filter (start · = p)
    rw [List.filter_filter] at hsub
    simp only [Bool.and_self] at hsub
    exact (hsub.eq_of_length (hperm.filter _).length_eq.symm).symm

/-- What is sorted by a property of the elements may be sorted before the elements are made. -/
theorem sortByStart_map {β : Type} (f : β → α) (start : α → Position) (xs : List β) :
    sortByStart start (xs.map f) = (sortByStart (start ∘ f) xs).map f :=
  (@List.map_mergeSort β α (fun x y => (start (f x)).atOrBefore (start (f y)))
    (fun x y => (start x).atOrBefore (start y)) f xs fun _ _ _ _ => rfl).symm

/-- Sorting and leaving out commute. -/
theorem filter_sortByStart (start : α → Position) (p : α → Bool) (xs : List α) :
    (sortByStart start xs).filter p = sortByStart start (xs.filter p) :=
  ((sortByStart_isStableSort start xs).filter p).unique (sortByStart_isStableSort start _)

end

end CodeListing
