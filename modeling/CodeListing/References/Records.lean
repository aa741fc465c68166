import CodeListing.Path.Relative
import CodeListing.Record.Basic
import CodeListing.References.LineTable
import CodeListing.Text.Column

/-!
# Records of references

Every location of a response gives one record. Its label is the path as seen from the working
directory with the one-based line and character, and, where lines are shown and there is one, the
text of the line after it in a column of its own.
-/

namespace CodeListing

/-- The number that is shown for a zero-based one. -/
def oneBased (n : UInt32) : Except Crash Nat :=
  if n.toNat + 1 < UInt32.size then .ok (n.toNat + 1) else .error .numberOverflow

/-- The label of a place in a file. -/
def Path.label (path directory : Path) (range : Range) (text : Option String) (placeWidth : Nat) :
    Except Crash String := do
  let line ← oneBased range.start.line
  let character ← oneBased range.start.character
  let place := s!"{Path.displayFrom directory path}:{line}:{character}"
  match text with
  | none => return place
  | some text => do
    let place ← Text.column placeWidth place
    return place ++ " " ++ text

/-- How references are laid out. -/
structure ReferenceLayout where
  showLines : Bool
  /-- Width of the column of places before a line. -/
  placeWidth : Nat
  /-- The directory that shown paths are relative to. -/
  directory : Path
  deriving Repr, DecidableEq

/-- The record of one location, with the text of its line if there is one among `lines`. -/
def Location.record (l : Location) (context : RequestContext) (layout : ReferenceLayout)
    (lines : LineTable) : Except Crash Record := do
  let path := l.uri.toPath
  let text := (lines.lookup path).bind (LineTable.text? · l.range.start.line)
  let word ← path.label layout.directory l.range text layout.placeWidth
  return {
    word
    level := 0
    treePath := []
    isTree := false
    isExpanded := false
    action := { target := .file path l.range, context }
    lineText := text
    subject := .location l }

/-- The records of locations. Files are read only where lines are shown. -/
def Location.records (files : Files) (context : RequestContext) (layout : ReferenceLayout)
    (locations : List Location) : Traced (Except Fault (List Record)) :=
  let loaded := if layout.showLines then LineTable.load files locations else ⟨[], .ok []⟩
  { accesses := loaded.accesses
    result := do
      let lines ← Fault.ofService loaded.result
      Fault.ofCrash (locations.mapM (·.record context layout lines)) }

end CodeListing
