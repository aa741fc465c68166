/-!
# Cutting a list at a separator

Paths, references and file contents are all read by cutting at one element. `cut` takes the text
before the first separator and, when there is one, the text after it; core's `List.splitOn` takes
all the pieces. The main statements say what is cut off: everything if there is no separator
(`cut_eq_none_iff`), and else what was put before the first one (`cut_append_elim`).
-/

namespace CodeListing.Text

variable {α : Type} [BEq α]

/-- What stands before the first `sep`, and what stands after it if there is one. -/
def cut (sep : α) (xs : List α) : List α × Option (List α) :=
  (xs.takeWhile (· != sep), (xs.dropWhile (· != sep)).tail?)

/-- Drops the elements of the end that satisfy `p`. -/
def dropEndWhile (p : α → Bool) (xs : List α) : List α :=
  (xs.reverse.dropWhile p).reverse

theorem cut_nil (sep : α) : cut sep ([] : List α) = ([], none) := rfl

theorem cut_cons_self [LawfulBEq α] (sep : α) (xs : List α) :
    cut sep (sep :: xs) = ([], some xs) := by
  simp [cut]

theorem cut_cons_of_ne {sep x : α} (h : (x != sep) = true) (xs : List α) :
    cut sep (x :: xs) = (x :: (cut sep xs).1, (cut sep xs).2) := by
  simp [cut, h]

/-- Without a separator the whole text stands before the cut. -/
theorem cut_eq_none_iff [LawfulBEq α] {sep : α} {xs : List α} :
    cut sep xs = (xs, none) ↔ sep ∉ xs := by
  induction xs with
  | nil => simp [cut_nil]
  | cons x xs ih =>
    by_cases hx : x = sep
    · subst hx
      simp [cut_cons_self]
    · rw [cut_cons_of_ne (by simpa using hx)]
      have hpair : ((x :: (cut sep xs).1, (cut sep xs).2) = (x :: xs, none)) ↔
          cut sep xs = (xs, none) := by
        simp [Prod.ext_iff]
      rw [hpair, ih]
      simp [Ne.symm hx]

/-- What stands before a separator is cut off as it is. -/
theorem cut_append_elim [LawfulBEq α] {sep : α} {before : List α} (h : sep ∉ before)
    (after : Option (List α)) :
    cut sep (before ++ after.elim [] (sep :: ·)) = (before, after) := by
  induction before with
  | nil =>
    cases after with
    | none => exact cut_nil sep
    | some after => exact cut_cons_self sep after
  | cons x before ih =>
    rw [List.mem_cons, not_or] at h
    rw [List.cons_append, cut_cons_of_ne (by simpa using Ne.symm h.1), ih h.2]

end CodeListing.Text
