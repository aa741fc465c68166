import CodeListing.Outline.Scope
import CodeListing.Symbol.Basic
import CodeListing.Text.Column

/-!
# Labels of symbols

The label of a symbol is its kind in brackets, in a column of fixed width, and its name. Where
containers are shown and the symbol has one, the name stands in a column of its own and the
container follows it in brackets. The container of a hierarchical symbol is the qualified name of
its parent; that of a flat symbol is the one that the server reported, wherever the symbol stands.
-/

namespace CodeListing

/-- How an outline is laid out. -/
structure OutlineLayout where
  showContainers : Bool
  /-- Width of the column of names before a container. -/
  nameWidth : Nat
  deriving Repr, DecidableEq

/-- Width of the column of kinds. -/
def OutlineLayout.kindWidth : Nat := 15

namespace Symbol

/-- The name as it stands in a label. -/
def nameLabel (s : Symbol) (container : Option String) (nameWidth : Nat) : Except Crash String :=
  match container with
  | none => .ok s.name
  | some container => do
    let name ← Text.column nameWidth s.name
    return name ++ s!" [{container}]"

/-- The kind in its column, then the name. -/
def label (s : Symbol) (container : Option String) (nameWidth : Nat) : Except Crash String := do
  let name ← s.nameLabel container nameWidth
  return Text.alignLeft OutlineLayout.kindWidth s!"[{s.kind.name}]" ++ " " ++ name

/-- The container that a label shows, if any. An empty one is not shown. -/
def shownContainer (s : Symbol) (scope : Scope) (layout : OutlineLayout) : Option String :=
  if layout.showContainers then
    let container := match s with
      | .hierarchical .. => some scope.qualifiedName
      | .flat symbol => symbol.containerName
    container.filter (· ≠ "")
  else none

end Symbol

end CodeListing
