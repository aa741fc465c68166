import CodeListing.Failure.Service
import Mathlib.Data.List.Forall2

/-!
# Work that succeeds

When work that is made of other work succeeds: one step after another (`bind_eq_ok_iff`), or one step
for each element of a list (`mapM_eq_ok_iff`), which fails with the failure of the first step that
does.
-/

namespace CodeListing

/-- Trying every element of a list succeeds with the list of the results. -/
theorem mapM_eq_ok_iff {ε α β : Type} {f : α → Except ε β} {xs : List α} {ys : List β} :
    xs.mapM f = .ok ys ↔ List.Forall₂ (fun x y => f x = .ok y) xs ys := by
  induction xs generalizing ys with
  | nil =>
    rw [List.mapM_nil, List.forall₂_nil_left_iff]
    exact ⟨fun h => (Except.ok.inj h).symm, fun h => h ▸ rfl⟩
  | cons x xs ih =>
    rw [List.mapM_cons, List.forall₂_cons_left_iff]
    constructor
    · intro h
      cases hx : f x with
      | error e => rw [hx] at h; cases h
      | ok y =>
        rw [hx] at h
        cases hxs : xs.mapM f with
        | error e => rw [hxs] at h; cases h
        | ok zs =>
          rw [hxs] at h
          exact ⟨y, zs, rfl, ih.mp hxs, (Except.ok.inj h).symm⟩
    · rintro ⟨y, zs, hx, hxs, rfl⟩
      rw [hx, ih.mpr hxs]
      rfl

/-- Work in two steps succeeds if both steps do. -/
theorem bind_eq_ok_iff {ε α β : Type} {work : Except ε α} {next : α → Except ε β} {b : β} :
    (work >>= next) = .ok b ↔ ∃ a, work = .ok a ∧ next a = .ok b := by
  cases work <;> simp [bind, Except.bind]

theorem map_eq_ok_iff {ε α β : Type} {f : α → β} {work : Except ε α} {b : β} :
    work.map f = .ok b ↔ ∃ a, work = .ok a ∧ f a = b := by
  cases work <;> simp [Except.map]

theorem map_eq_error_iff {ε α β : Type} {f : α → β} {work : Except ε α} {e : ε} :
    work.map f = .error e ↔ work = .error e := by
  cases work <;> simp [Except.map]

theorem mapError_eq_ok_iff {ε ε' α : Type} {f : ε → ε'} {work : Except ε α} {a : α} :
    work.mapError f = .ok a ↔ work = .ok a := by
  cases work <;> simp [Except.mapError]

theorem exists_mapM {ε α β : Type} {f : α → Except ε β} {xs : List α}
    (h : ∀ x ∈ xs, ∃ y, f x = .ok y) : ∃ ys, xs.mapM f = .ok ys := by
  induction xs with
  | nil => exact ⟨[], rfl⟩
  | cons x xs ih =>
    obtain ⟨⟨y, hy⟩, hxs⟩ := List.forall_mem_cons.mp h
    obtain ⟨ys, hys⟩ := ih hxs
    rw [List.mapM_cons, hy, hys]
    exact ⟨y :: ys, rfl⟩

/-- Trying every element of a list fails with `e` if some element does and none fails otherwise. -/
theorem mapM_eq_error {ε α β : Type} {f : α → Except ε β} {xs : List α} {e : ε}
    (h : ∀ x ∈ xs, (∃ y, f x = .ok y) ∨ f x = .error e) (hfails : ∃ x ∈ xs, f x = .error e) :
    xs.mapM f = .error e := by
  induction xs with
  | nil =>
    obtain ⟨x, hx, -⟩ := hfails
    exact absurd hx List.not_mem_nil
  | cons x xs ih =>
    obtain ⟨hfirst, hrest⟩ := List.forall_mem_cons.mp h
    rw [List.mapM_cons]
    rcases hfirst with ⟨y, hy⟩ | he
    · -- the first element succeeds, so the one that fails is among the others
      obtain ⟨x', hx', he⟩ := hfails
      rcases List.mem_cons.mp hx' with rfl | hx'
      · rw [hy] at he
        cases he
      · rw [hy, ih hrest ⟨x', hx', he⟩]
        rfl
    · rw [he]
      rfl

theorem Fault.ofCrash_eq_ok {α : Type} {work : Except Crash α} {a : α} :
    ofCrash work = .ok a ↔ work = .ok a := by
  cases work <;> simp [ofCrash, Except.mapError]

end CodeListing
