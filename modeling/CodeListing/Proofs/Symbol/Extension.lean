import CodeListing.Proofs.Json.Extension
import CodeListing.Proofs.Symbol.Locality

/-!
# Responses that say more than is read

The readers of responses know the keys of symbols, locations, ranges and positions
(`responseKeys`), and a server may put entries under other keys into any object of a response. Each
reader overlooks them, from positions up to locations, headings and flat symbols; for symbols inside
symbols the proof has the recursion of the reader. Hence both kinds of response are read as if
nothing had been added (`Symbol.readers_overlook_additions`).
-/

namespace CodeListing

open Json (Extends ExtendsEntries ExtendsItems Overlooks beq_eq_false_of_unknown
  overlooks_of_scalar text?_overlooks uint32?_overlooks)

/-- The keys of symbols, locations, ranges and positions. -/
def responseKeys : List String :=
  ["name", "detail", "kind", "range", "selectionRange", "children", "location", "containerName",
    "uri", "start", "end", "line", "character"]

/-! ### What is read without recursion -/

theorem Position.ofJson?_overlooks : Overlooks responseKeys Position.ofJson? :=
  .ofFields fields fun _ _ h => by
    rw [uint32?_overlooks.required "line" (by decide) h,
      uint32?_overlooks.required "character" (by decide) h]

theorem Range.ofJson?_overlooks : Overlooks responseKeys Range.ofJson? :=
  .ofFields fields fun _ _ h => by
    rw [Position.ofJson?_overlooks.required "start" (by decide) h,
      Position.ofJson?_overlooks.required "end" (by decide) h]

theorem Uri.ofJson?_overlooks : Overlooks responseKeys Uri.ofJson? :=
  overlooks_of_scalar (fun _ => rfl) fun _ => rfl

theorem Location.ofJson?_overlooks : Overlooks responseKeys Location.ofJson? :=
  .ofFields fields fun _ _ h => by
    rw [Uri.ofJson?_overlooks.required "uri" (by decide) h,
      Range.ofJson?_overlooks.required "range" (by decide) h]

theorem SymbolKind.ofJson?_overlooks : Overlooks responseKeys SymbolKind.ofJson? :=
  overlooks_of_scalar (fun _ => rfl) fun _ => rfl

section

variable {entries entries' : Json.Entries} (h : ExtendsEntries responseKeys entries entries')

include h

theorem Heading.ofFields?_of_extends : ofFields? entries' = ofFields? entries := by
  rw [ofFields?, text?_overlooks.required "name" (by decide) h,
    text?_overlooks.optional "detail" (by decide) h,
    SymbolKind.ofJson?_overlooks.required "kind" (by decide) h,
    Range.ofJson?_overlooks.required "range" (by decide) h,
    Range.ofJson?_overlooks.required "selectionRange" (by decide) h, ← ofFields?]

theorem FlatSymbol.ofFields?_of_extends : ofFields? entries' = ofFields? entries := by
  rw [ofFields?, text?_overlooks.required "name" (by decide) h,
    SymbolKind.ofJson?_overlooks.required "kind" (by decide) h,
    Location.ofJson?_overlooks.required "location" (by decide) h,
    text?_overlooks.optional "containerName" (by decide) h, ← ofFields?]

end

/-! ### Symbols and their children -/

namespace Symbol

theorem children_mem_responseKeys : "children" ∈ responseKeys := by decide

-- The recursion is on how the value was extended. The entries are gone through one by one, since
-- what is known of the children by looking them up is not a part of what is known of the entries.
mutual

theorem ofElement?_of_extends {v v' : Json} :
    Extends responseKeys v v' → ofElement? v' = ofElement? v
  | .refl _ => rfl
  | .arr _ => rfl
  | .obj h => by
    rw [ofElement?, ofElement?, h.isSome_lookup "range" (by decide),
      h.isSome_lookup "location" (by decide), Heading.ofFields?_of_extends h,
      FlatSymbol.ofFields?_of_extends h, childrenIn_of_extends h]

theorem childrenIn_of_extends {entries entries' : Json.Entries} :
    ExtendsEntries responseKeys entries entries' → childrenIn entries' = childrenIn entries
  | .nil => rfl
  | .kept key h rest => by
    rw [childrenIn, childrenIn, children_of_extends h, childrenIn_of_extends rest]
  | .added h v rest => by
    have hne := beq_eq_false_of_unknown children_mem_responseKeys h
    rw [childrenIn, hne, if_neg Bool.false_ne_true, childrenIn_of_extends rest]
  | .overwritten h v v' rest => by
    have hne := beq_eq_false_of_unknown children_mem_responseKeys h
    rw [childrenIn, childrenIn, hne, if_neg Bool.false_ne_true, if_neg Bool.false_ne_true,
      childrenIn_of_extends rest]

theorem children_of_extends {v v' : Json} :
    Extends responseKeys v v' → children v' = children v
  | .refl _ => rfl
  | .arr h => congrArg some (ofElements_of_extends h)
  | .obj _ => rfl

theorem ofElements_of_extends {items items' : List Json} :
    ExtendsItems responseKeys items items' → ofElements items' = ofElements items
  | .nil => rfl
  | .cons h rest => by
    rw [ofElements, ofElements, ofElement?_of_extends h, ofElements_of_extends rest]

end

/-- Entries under keys that are not read, with whatever values and in whatever objects of a
response, at the top or inside other values at any depth, make no difference to the symbols and the
locations that are read. -/
theorem readers_overlook_additions {response extended : Json}
    (h : Extends responseKeys response extended) :
    ofResponse extended = ofResponse response ∧
      Location.ofResponse extended = Location.ofResponse response := by
  constructor
  case left => rw [ofResponse, ofResponse, children_of_extends h]
  case right =>
    cases h with
    | refl => rfl
    | arr h => exact h.filterMap_eq Location.ofJson?_overlooks
    | obj => rfl

/-- A class with one method. -/
def classOf (method : Json.Entries) : Json.Entries :=
  ("children", .arr [.obj method]) :: classHeading.toEntries

/-- The location of the first character of a file, from the entries of its first position. -/
def locationFrom (start : Json.Entries) : Json.Entries :=
  [("range", .obj [("start", .obj start), ("end", fileStart.range.stop.toJson)]),
    ("uri", fileStart.uri.toJson)]

/-- The entries of the first position in a file. -/
def startEntries : Json.Entries := [("line", .ofNat 0), ("character", .ofNat 0)]

/-- A class, a location, and something that is neither. -/
def mixedResponse : Json :=
  .arr [.obj (classOf methodHeading.toEntries), .obj (locationFrom startEntries), onlyName]

/-- The same response from a server that says more about each of them. -/
def taggedResponse : Json :=
  .arr
    [.obj (("tags", .arr [.ofNat 1]) ::
        classOf (("data", .obj [("name", .null)]) :: methodHeading.toEntries)),
      .obj (("originSelectionRange", .null) :: locationFrom (("byte", .ofNat 0) :: startEntries)),
      .obj [("deprecated", .bool true), ("name", .str "broken")]]

theorem readers_overlook_additions_taggedResponse :
    Extends responseKeys mixedResponse taggedResponse ∧
      ofResponse taggedResponse =
        [.hierarchical classHeading (some [.hierarchical methodHeading none])] ∧
      Location.ofResponse taggedResponse = [fileStart] := by
  have hclass (method : Json.Entries) (key : String) (hkey : key ∉ responseKeys) (v : Json) :
      ExtendsEntries responseKeys (classOf method) (classOf ((key, v) :: method)) :=
    .kept _ (.arr (.cons (.obj (.added hkey v (.refl method))) .nil)) (.refl _)
  have hlocation (start : Json.Entries) (key : String) (hkey : key ∉ responseKeys) (v : Json) :
      ExtendsEntries responseKeys (locationFrom start) (locationFrom ((key, v) :: start)) :=
    .kept _ (.obj (.kept _ (.obj (.added hkey v (.refl start))) (.refl _))) (.refl _)
  have h : Extends responseKeys mixedResponse taggedResponse :=
    .arr (.cons (.obj (.added (by decide) _ (hclass _ "data" (by decide) _)))
      (.cons (.obj (.added (by decide) _ (hlocation _ "byte" (by decide) _)))
        (.cons (.obj (.added (by decide) _ (.refl _))) .nil)))
  obtain ⟨hsymbols, hlocations⟩ := readers_overlook_additions h
  exact ⟨h, hsymbols.trans rfl, hlocations.trans rfl⟩

end Symbol

end CodeListing
