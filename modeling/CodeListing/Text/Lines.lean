/-!
# Lines

A line ends at a line feed; a carriage return right before the line feed belongs to the end. What
follows the last line feed is a line if it is not empty, and then keeps all its characters.
-/

namespace CodeListing.Text

/-- A line without the carriage return of its end. -/
def dropReturn (line : List Char) : List Char :=
  if line.getLast? = some '\r' then line.dropLast else line

/-- The lines of some characters. -/
def linesOf (cs : List Char) : List (List Char) :=
  let pieces := cs.splitOn '\n'
  pieces.dropLast.map dropReturn ++ (pieces.getLast?.filter (!·.isEmpty)).toList

/-- The lines of a text. -/
def lines (s : String) : List String := (linesOf s.toList).map String.ofList

end CodeListing.Text
