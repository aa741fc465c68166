import CodeListing.Failure.Crash

/-!
# Columns

Labels are laid out in columns: text is followed by the spaces that bring it to the width of its
column, where width counts characters and longer text is left as it is. A column is at most
`maxWidth` wide; asking for a wider one is a crash, also when the text would have filled it.
-/

namespace CodeListing.Text

/-- `s` followed by the spaces that bring it to `width` characters. -/
def alignLeft (width : Nat) (s : String) : String :=
  s ++ String.ofList (List.replicate (width - s.length) ' ')

/-- The widest column that text can be padded to. -/
def maxWidth : Nat := 65535

/-- `s` in a column of `width` characters. -/
def column (width : Nat) (s : String) : Except Crash String :=
  if width ≤ maxWidth then .ok (alignLeft width s) else .error (.columnTooWide width)

theorem column_of_le {width : Nat} (h : width ≤ maxWidth) (s : String) :
    column width s = .ok (alignLeft width s) := by
  simp [column, h]

end CodeListing.Text
