import CodeListing.Record.Basic

/-!
# The order of a listing

Records are listed by the start of the range they go to. Records with equal starts keep the order
they had, which is the order of the response.
-/

namespace CodeListing

/-- Sorts by positions, keeping the order of what stands at one position. -/
def sortByStart {α : Type} (start : α → Position) (xs : List α) : List α :=
  xs.mergeSort fun x y => (start x).atOrBefore (start y)

/-- Sorts records by where they go. -/
def Record.sort (records : List Record) : List Record := sortByStart (·.range.start) records

end CodeListing
