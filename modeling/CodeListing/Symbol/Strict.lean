import CodeListing.Symbol.Basic

/-!
# Reading symbols strictly

`Symbol.ofJson?` reads a value as a hierarchical symbol or, failing that, as a flat one, from an
object or from an array. It takes all or nothing: a child that does not read makes its parent fail
in that shape. The reader of responses is lenient instead.
-/

namespace CodeListing.Symbol

/-- The fields of a hierarchical symbol in their order. -/
def hierarchicalFields : List String :=
  ["name", "detail", "kind", "range", "selectionRange", "children"]

/-- Where the children stand in an array of these fields. -/
def childrenIndex : Nat := 5

mutual

/-- A symbol in the first shape that fits. -/
def ofJson? : Json → Option Symbol
  | .obj entries =>
    let hierarchical := do
      let heading ← Heading.ofFields? entries
      let children ← childrenIn? entries
      return .hierarchical heading children
    hierarchical <|> (FlatSymbol.ofFields? entries).map .flat
  | .arr items =>
    let hierarchical := do
      let fields ← (Json.arr items).fields? hierarchicalFields
      let heading ← Heading.ofFields? fields
      let children ← childrenAt? childrenIndex items
      return .hierarchical heading children
    let flat := do
      let fields ← (Json.arr items).fields? FlatSymbol.fields
      FlatSymbol.ofFields? fields
    hierarchical <|> flat.map .flat
  | _ => none

/-- The children among entries, where a missing entry means none. -/
def childrenIn? : List (String × Json) → Option (Option (List Symbol))
  | [] => some none
  | (key, v) :: entries => if "children" == key then children? v else childrenIn? entries

/-- The children at an index of an array, where a missing item means none. -/
def childrenAt? : Nat → List Json → Option (Option (List Symbol))
  | _, [] => some none
  | 0, v :: _ => children? v
  | n + 1, _ :: items => childrenAt? n items

/-- A list of children, or null for none. -/
def children? : Json → Option (Option (List Symbol))
  | .null => some none
  | .arr items => (list? items).map some
  | _ => none

/-- Symbols that all read. -/
def list? : List Json → Option (List Symbol)
  | [] => some []
  | v :: vs => do
    let symbol ← ofJson? v
    let symbols ← list? vs
    return symbol :: symbols

end

end CodeListing.Symbol
