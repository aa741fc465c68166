import CodeListing.Symbol.Basic

/-!
# Reading responses

A response is an array, or there is nothing in it. Its elements are read one by one and those that
do not read are dropped, so that an odd element never hides the others. An element is a hierarchical
symbol if it has the key `range`, and else a flat one if it has the key `location`; the children of
a hierarchical symbol are read like the elements of a response, at every depth.
-/

namespace CodeListing

namespace Symbol

mutual

/-- The symbol that one element describes in the shape that its keys select. -/
def ofElement? : Json → Option Symbol
  | .obj entries =>
    if (entries.lookup "range").isSome then
      (Heading.ofFields? entries).map (.hierarchical · (childrenIn entries))
    else if (entries.lookup "location").isSome then
      (FlatSymbol.ofFields? entries).map .flat
    else none
  | _ => none

/-- The children among entries. -/
def childrenIn : List (String × Json) → Option (List Symbol)
  | [] => none
  | (key, v) :: entries => if "children" == key then children v else childrenIn entries

/-- The children in an array; anything else holds none. -/
def children : Json → Option (List Symbol)
  | .arr items => some (ofElements items)
  | _ => none

/-- The symbols among elements. -/
def ofElements : List Json → List Symbol
  | [] => []
  | v :: vs =>
    match ofElement? v with
    | some symbol => symbol :: ofElements vs
    | none => ofElements vs

end

/-- The symbols of a response. -/
def ofResponse (response : Json) : List Symbol := (children response).getD []

end Symbol

namespace Location

/-- The locations of a response. -/
def ofResponse : Json → List Location
  | .arr items => items.filterMap ofJson?
  | _ => []

end Location

end CodeListing
