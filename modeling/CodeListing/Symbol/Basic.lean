import CodeListing.Place
import CodeListing.Symbol.Kind

/-!
# Symbols

A server describes the symbols of a file in one of two shapes. A hierarchical symbol stands in the
file that was asked about and holds the symbols inside it; a flat symbol stands anywhere and may
name its container. What a hierarchical symbol says of itself, without its children, is its
`Heading`. An empty list of children is not the same as none.
-/

namespace CodeListing

/-- What a hierarchical symbol says of itself. -/
structure Heading where
  name : String
  detail : Option String
  kind : SymbolKind
  range : Range
  /-- The range of the name, where navigation goes. -/
  selectionRange : Range
  deriving Repr, DecidableEq

/-- A symbol with a location of its own. -/
structure FlatSymbol where
  name : String
  kind : SymbolKind
  location : Location
  containerName : Option String
  deriving Repr, DecidableEq

/-- A symbol in either shape. -/
inductive Symbol where
  | hierarchical (heading : Heading) (children : Option (List Symbol))
  | flat (symbol : FlatSymbol)

namespace Symbol

def name : Symbol → String
  | .hierarchical heading _ => heading.name
  | .flat symbol => symbol.name

def kind : Symbol → SymbolKind
  | .hierarchical heading _ => heading.kind
  | .flat symbol => symbol.kind

end Symbol

/-! ### Reading what needs no recursion -/

namespace Heading

/-- The heading among the fields of a symbol. -/
def ofFields? (fs : Json.Entries) : Option Heading := do
  let name ← Json.required Json.text? "name" fs
  let detail ← Json.optional Json.text? "detail" fs
  let kind ← Json.required SymbolKind.ofJson? "kind" fs
  let range ← Json.required Range.ofJson? "range" fs
  let selectionRange ← Json.required Range.ofJson? "selectionRange" fs
  return { name, detail, kind, range, selectionRange }

def toEntries (h : Heading) : Json.Entries :=
  ("name", .str h.name) :: Json.entry? "detail" Json.str h.detail ++
    [("kind", h.kind.toJson), ("range", h.range.toJson),
      ("selectionRange", h.selectionRange.toJson)]

end Heading

namespace FlatSymbol

def fields : List String := ["name", "kind", "location", "containerName"]

def ofFields? (fs : Json.Entries) : Option FlatSymbol := do
  let name ← Json.required Json.text? "name" fs
  let kind ← Json.required SymbolKind.ofJson? "kind" fs
  let location ← Json.required Location.ofJson? "location" fs
  let containerName ← Json.optional Json.text? "containerName" fs
  return { name, kind, location, containerName }

def toEntries (s : FlatSymbol) : Json.Entries :=
  [("name", .str s.name), ("kind", s.kind.toJson), ("location", s.location.toJson)] ++
    Json.entry? "containerName" Json.str s.containerName

end FlatSymbol

/-! ### Writing -/

namespace Symbol

mutual

def toJson : Symbol → Json
  | .hierarchical heading children => .obj (heading.toEntries ++ childEntries children)
  | .flat symbol => .obj symbol.toEntries

/-- The entry of the children, if there are any to speak of. -/
def childEntries : Option (List Symbol) → Json.Entries
  | none => []
  | some children => [("children", .arr (listToJson children))]

def listToJson : List Symbol → List Json
  | [] => []
  | s :: ss => s.toJson :: listToJson ss

end

end Symbol

end CodeListing
