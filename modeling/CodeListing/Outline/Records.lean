import CodeListing.Outline.Label
import CodeListing.Record.Visibility
import CodeListing.Uri.FilePath

/-!
# Records of outlines

An outline lists a forest of symbols: every symbol gives one record, parents before what is inside
them, and a record that is not shown hides nothing of what is inside its symbol.
-/

namespace CodeListing

namespace Symbol

/-- Where selecting a symbol goes: into the buffer for a hierarchical one, to its own location for a
flat one. -/
def target (s : Symbol) (context : RequestContext) : Target :=
  match s with
  | .hierarchical heading _ => .buffer context.bufnr heading.selectionRange
  | .flat symbol => .file symbol.location.uri.toPath symbol.location.range

/-- The record of one symbol. -/
def record (s : Symbol) (scope : Scope) (context : RequestContext) (layout : OutlineLayout) :
    Except Crash Record := do
  let word ← s.label (s.shownContainer scope layout) layout.nameWidth
  return {
    word
    level := scope.depth
    treePath := scope.names
    isTree := false
    isExpanded := false
    action := { target := s.target context, context }
    lineText := none
    subject := .symbol s }

end Symbol

namespace Outline

variable (context : RequestContext) (layout : OutlineLayout) (accepts : Visibility)

/-- The record of one symbol, if it is shown. -/
def own (scope : Scope) (s : Symbol) : Except Crash (List Record) := do
  let record ← s.record scope context layout
  let shown ← accepts record
  return if shown then [record] else []

mutual

/-- The records of a symbol and of what is inside it. -/
def ofSymbol (scope : Scope) : Symbol → Except Crash (List Record)
  | .hierarchical heading children => do
    let record ← own context layout accepts scope (.hierarchical heading children)
    let inner ← ofChildren (scope.inside heading.name) children
    return record ++ inner
  | .flat symbol => own context layout accepts scope (.flat symbol)

/-- The records of the children of a symbol, in their scope. -/
def ofChildren (scope : Scope) : Option (List Symbol) → Except Crash (List Record)
  | none => .ok []
  | some children => ofSymbols scope children

/-- The records of a forest. -/
def ofSymbols (scope : Scope) : List Symbol → Except Crash (List Record)
  | [] => .ok []
  | s :: ss => do
    let first ← ofSymbol scope s
    let rest ← ofSymbols scope ss
    return first ++ rest

end

end Outline

end CodeListing
