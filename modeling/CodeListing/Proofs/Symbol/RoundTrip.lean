import CodeListing.Proofs.Json.ReadBack
import CodeListing.Proofs.Symbol.Locality
import CodeListing.Symbol.Strict

/-!
# Symbols read back

There is one writer of symbols and there are two readers: the strict one, which tries the shapes one
after the other, and the one for responses, which lets the keys of an element select the shape. Both
undo the writer at every depth (`Symbol.readers_undo_toJson`). The keys of a written symbol tell its
shape, since a flat symbol is written without a range of its own, and children are written exactly
if there are any to speak of, so that an empty list of children does not read as none.
-/

namespace CodeListing.Symbol

/-! ## What is written -/

theorem listToJson_eq_map (symbols : List Symbol) : listToJson symbols = symbols.map toJson := by
  induction symbols with
  | nil => rfl
  | cons s ss ih => rw [listToJson, ih, List.map_cons]

theorem lookup_childEntries_of_ne {key : String} (h : key ≠ "children")
    (children : Option (List Symbol)) : (childEntries children).lookup key = none := by
  cases children with
  | none => rfl
  | some children =>
    have hkey : (key == "children") = false := beq_eq_false_iff_ne.mpr h
    simp [childEntries, List.lookup_cons, hkey]

theorem lookup_children_toEntries (heading : Heading) :
    heading.toEntries.lookup "children" = none := by
  obtain ⟨name, detail, kind, range, selectionRange⟩ := heading
  cases detail <;> rfl

theorem lookup_range_toEntries (symbol : FlatSymbol) :
    symbol.toEntries.lookup "range" = none := by
  obtain ⟨name, kind, location, containerName⟩ := symbol
  cases containerName <;> rfl

section

variable (heading : Heading) (children : Option (List Symbol))

/-- The children stand at the end and do not disturb what is read before them. -/
theorem ofFields?_append_childEntries :
    Heading.ofFields? (heading.toEntries ++ childEntries children) = some heading := by
  have hlookup : ∀ key ≠ "children",
      (heading.toEntries ++ childEntries children).lookup key = heading.toEntries.lookup key := by
    intro key hkey
    rw [List.lookup_append, lookup_childEntries_of_ne hkey, Option.or_none]
  rw [Heading.ofFields?_congr hlookup, Heading.ofFields?_toEntries]

theorem lookup_children_append :
    (heading.toEntries ++ childEntries children).lookup "children" =
      (childEntries children).lookup "children" := by
  rw [List.lookup_append, lookup_children_toEntries, Option.none_or]

end

/-- What has no range does not read as a hierarchical symbol. -/
theorem ofFields?_of_flat (symbol : FlatSymbol) : Heading.ofFields? symbol.toEntries = none := by
  cases h : Heading.ofFields? symbol.toEntries with
  | none => rfl
  | some heading =>
    have hrange := Heading.range_of_ofFields? h
    rw [lookup_range_toEntries] at hrange
    cases hrange

/-! ## The reader of responses -/

mutual

theorem ofElement?_toJson : ∀ s : Symbol, ofElement? s.toJson = some s
  | .hierarchical heading children => by
    rw [toJson, ofElement?_of_heading (ofFields?_append_childEntries heading children),
      lookup_children_append, bind_children_childEntries children]
  | .flat symbol => by
    have hlocation : (symbol.toEntries.lookup "location").isSome := rfl
    rw [toJson, ofElement?_of_location (lookup_range_toEntries symbol) hlocation,
      FlatSymbol.ofFields?_toEntries, Option.map_some]

theorem bind_children_childEntries : ∀ written : Option (List Symbol),
    ((childEntries written).lookup "children").bind children = written
  | none => rfl
  | some symbols => congrArg some (ofElements_listToJson symbols)

theorem ofElements_listToJson : ∀ symbols : List Symbol, ofElements (listToJson symbols) = symbols
  | [] => rfl
  | s :: ss => by
    rw [listToJson, ofElements_cons_of_some (ofElement?_toJson s), ofElements_listToJson ss]

end

/-! ## The strict reader -/

theorem childrenIn?_eq (entries : Json.Entries) :
    childrenIn? entries = ((entries.lookup "children").map children?).getD (some none) := by
  induction entries with
  | nil => rfl
  | cons entry entries ih =>
    obtain ⟨key, v⟩ := entry
    rw [childrenIn?, List.lookup_cons, ih]
    cases "children" == key <;> rfl

theorem ofJson?_of_heading {entries : Json.Entries} {heading : Heading}
    {children : Option (List Symbol)} (h : Heading.ofFields? entries = some heading)
    (inside : childrenIn? entries = some children) :
    ofJson? (.obj entries) = some (.hierarchical heading children) := by
  simp [ofJson?, h, inside]

theorem ofJson?_of_no_heading {entries : Json.Entries} (h : Heading.ofFields? entries = none) :
    ofJson? (.obj entries) = (FlatSymbol.ofFields? entries).map .flat := by
  simp [ofJson?, h]

mutual

theorem ofJson?_toJson : ∀ s : Symbol, ofJson? s.toJson = some s
  | .hierarchical heading children => by
    have inside : childrenIn? (heading.toEntries ++ childEntries children) = some children := by
      rw [childrenIn?_eq, lookup_children_append, children?_childEntries children]
    rw [toJson, ofJson?_of_heading (ofFields?_append_childEntries heading children) inside]
  | .flat symbol => by
    rw [toJson, ofJson?_of_no_heading (ofFields?_of_flat symbol), FlatSymbol.ofFields?_toEntries,
      Option.map_some]

theorem children?_childEntries : ∀ written : Option (List Symbol),
    (((childEntries written).lookup "children").map children?).getD (some none) = some written
  | none => rfl
  | some symbols => congrArg (Option.map some) (list?_listToJson symbols)

theorem list?_listToJson : ∀ symbols : List Symbol, list? (listToJson symbols) = some symbols
  | [] => rfl
  | s :: ss => by
    rw [listToJson, list?, ofJson?_toJson s, list?_listToJson ss]
    rfl

end

/-! ## Lists -/

theorem ofResponse_toJson (symbols : List Symbol) :
    ofResponse (.arr (symbols.map toJson)) = symbols := by
  rw [← listToJson_eq_map]
  exact ofElements_listToJson symbols

/-- Whatever symbols are written, at whatever depth they stand, both readers give them back, and so
does the reader of locations for locations. Hence a response can be replaced by what was read of it
without any difference. -/
theorem readers_undo_toJson :
    (∀ symbols : List Symbol,
      ofResponse (.arr (symbols.map toJson)) = symbols ∧
      (Json.arr (symbols.map toJson)).list? ofJson? = some symbols) ∧
    (∀ locations : List Location,
      Location.ofResponse (.arr (locations.map Location.toJson)) = locations) ∧
    ∀ v : Json, ofResponse (.arr ((ofResponse v).map toJson)) = ofResponse v := by
  refine ⟨?symbols, ?locations, ?again⟩
  case symbols =>
    intro symbols
    exact ⟨ofResponse_toJson symbols, Json.list?_map ofJson?_toJson symbols⟩
  case locations =>
    intro locations
    have hread : Location.ofJson? ∘ Location.toJson = some := funext Location.ofJson?_toJson
    rw [Location.ofResponse_arr, List.filterMap_map, hread, List.filterMap_some]
  case again =>
    intro v
    apply ofResponse_toJson

end CodeListing.Symbol
