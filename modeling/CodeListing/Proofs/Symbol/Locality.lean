import CodeListing.Symbol.Response

/-!
# What an odd element of a response can do

Nothing, at any depth. An element that does not read (`Symbol.Unreadable`) is passed over wherever
it stands, and whatever stands in place of the children of a symbol is a matter of its children
alone.

* `Symbol.Lists` says what a list of elements reads as without reading it: each element that reads
  describes one symbol, in their order.
* `Place` is a list of elements somewhere in a response: the response itself or the children of a
  symbol in another such list. What is read there is put into what is read around it
  (`Symbol.ofElements_fill`), so a statement about one list is one about every depth.
-/

namespace CodeListing

/-! ## What reads and what does not -/

namespace Symbol

/-- An element that is no object, has neither of the keys that tell the shapes apart, or does not
read in the shape that its keys select. -/
inductive Unreadable : Json → Prop where
  | noObject {v : Json} (h : ∀ entries, v ≠ .obj entries) : Unreadable v
  | shapeless {entries : Json.Entries} (range : entries.lookup "range" = none)
      (location : entries.lookup "location" = none) : Unreadable (.obj entries)
  | noHeading {entries : Json.Entries} (range : (entries.lookup "range").isSome)
      (h : Heading.ofFields? entries = none) : Unreadable (.obj entries)
  | noFlatSymbol {entries : Json.Entries} (range : entries.lookup "range" = none)
      (location : (entries.lookup "location").isSome) (h : FlatSymbol.ofFields? entries = none) :
      Unreadable (.obj entries)

mutual

/-- An element describes a symbol of the shape that its keys select. -/
inductive Describes : Json → Symbol → Prop where
  | hierarchical {entries : Json.Entries} {heading : Heading} {children : Option (List Symbol)}
      (range : (entries.lookup "range").isSome) (h : Heading.ofFields? entries = some heading)
      (inside : Holds (entries.lookup "children") children) :
      Describes (.obj entries) (.hierarchical heading children)
  | flat {entries : Json.Entries} {symbol : FlatSymbol} (range : entries.lookup "range" = none)
      (location : (entries.lookup "location").isSome)
      (h : FlatSymbol.ofFields? entries = some symbol) : Describes (.obj entries) (.flat symbol)

/-- What stands in place of the children, if anything does, holds children: those that an array
lists, and none at all if it is no array. -/
inductive Holds : Option Json → Option (List Symbol) → Prop where
  | array {items : List Json} {symbols : List Symbol} (h : Lists items symbols) :
      Holds (some (.arr items)) (some symbols)
  | noArray {v : Option Json} (h : ∀ items, v ≠ some (.arr items)) : Holds v none

/-- Elements list symbols: one for each element that describes one, in their order. -/
inductive Lists : List Json → List Symbol → Prop where
  | nil : Lists [] []
  | skip {v : Json} {vs : List Json} {symbols : List Symbol} (h : Unreadable v)
      (rest : Lists vs symbols) : Lists (v :: vs) symbols
  | cons {v : Json} {vs : List Json} {symbol : Symbol} {symbols : List Symbol}
      (h : Describes v symbol) (rest : Lists vs symbols) : Lists (v :: vs) (symbol :: symbols)

end

/-! ### The reader -/

variable {v : Json} {entries : Json.Entries}

theorem ofElement?_of_range (h : (entries.lookup "range").isSome) :
    ofElement? (.obj entries) =
      (Heading.ofFields? entries).map (.hierarchical · (childrenIn entries)) := by
  rw [ofElement?, if_pos h]

theorem ofElement?_of_location (range : entries.lookup "range" = none)
    (location : (entries.lookup "location").isSome) :
    ofElement? (.obj entries) = (FlatSymbol.ofFields? entries).map .flat := by
  simp [ofElement?, range, location]

theorem ofElement?_of_neither (range : entries.lookup "range" = none)
    (location : entries.lookup "location" = none) : ofElement? (.obj entries) = none := by
  simp [ofElement?, range, location]

theorem childrenIn_eq (entries : Json.Entries) :
    childrenIn entries = (entries.lookup "children").bind children := by
  induction entries with
  | nil => rfl
  | cons entry entries ih =>
    obtain ⟨key, v⟩ := entry
    rw [childrenIn, List.lookup_cons, ih]
    cases "children" == key <;> rfl

theorem ofElements_eq (items : List Json) : ofElements items = items.filterMap ofElement? := by
  induction items with
  | nil => rfl
  | cons v vs ih =>
    rw [ofElements]
    split
    next symbol hv => rw [List.filterMap_cons_some hv, ih]
    next hv => rw [List.filterMap_cons_none hv, ih]

theorem ofElements_append (items more : List Json) :
    ofElements (items ++ more) = ofElements items ++ ofElements more := by
  simp only [ofElements_eq, List.filterMap_append]

theorem ofElements_cons_of_some {symbol : Symbol} (h : ofElement? v = some symbol)
    (vs : List Json) : ofElements (v :: vs) = symbol :: ofElements vs := by
  rw [ofElements, h]

theorem ofElements_cons_of_none (h : ofElement? v = none) (vs : List Json) :
    ofElements (v :: vs) = ofElements vs := by
  rw [ofElements, h]

/-! ### The reader does what was said -/

theorem unreadable_iff : Unreadable v ↔ ofElement? v = none := by
  constructor
  · intro h
    cases h with
    | noObject h =>
      cases v with
      | obj entries => exact absurd rfl (h entries)
      | _ => rfl
    | shapeless range location => exact ofElement?_of_neither range location
    | noHeading range h => rw [ofElement?_of_range range, h, Option.map_none]
    | noFlatSymbol range location h =>
      rw [ofElement?_of_location range location, h, Option.map_none]
  · intro h
    cases v with
    | obj entries =>
      cases range : entries.lookup "range" with
      | some r =>
        have range := Option.isSome_of_eq_some range
        rw [ofElement?_of_range range, Option.map_eq_none_iff] at h
        exact .noHeading range h
      | none =>
        cases location : entries.lookup "location" with
        | some l =>
          have location := Option.isSome_of_eq_some location
          rw [ofElement?_of_location range location, Option.map_eq_none_iff] at h
          exact .noFlatSymbol range location h
        | none => exact .shapeless range location
    | _ => exact .noObject fun entries => Json.noConfusion

mutual

theorem Describes.ofElement?_eq {v : Json} {symbol : Symbol} :
    Describes v symbol → ofElement? v = some symbol
  | .hierarchical range h inside => by
    rw [ofElement?_of_range range, h, Option.map_some, childrenIn_eq, inside.bind_children]
  | .flat range location h => by
    rw [ofElement?_of_location range location, h, Option.map_some]

theorem Holds.bind_children {v : Option Json} {symbols : Option (List Symbol)} :
    Holds v symbols → v.bind children = symbols
  | .array h => congrArg some h.ofElements_eq
  | .noArray h => by
    cases v with
    | none => rfl
    | some v =>
      cases v with
      | arr items => exact absurd rfl (h items)
      | _ => rfl

theorem Lists.ofElements_eq {items : List Json} {symbols : List Symbol} :
    Lists items symbols → ofElements items = symbols
  | .nil => rfl
  | .skip h rest => by
    rw [ofElements_cons_of_none (unreadable_iff.mp h), rest.ofElements_eq]
  | .cons h rest => by
    rw [ofElements_cons_of_some h.ofElement?_eq, rest.ofElements_eq]

end

theorem describes_obj {symbol : Symbol} (h : ofElement? (.obj entries) = some symbol)
    (inside : Holds (entries.lookup "children") (childrenIn entries)) :
    Describes (.obj entries) symbol := by
  cases range : entries.lookup "range" with
  | some r =>
    have range := Option.isSome_of_eq_some range
    rw [ofElement?_of_range range] at h
    obtain ⟨heading, hheading, rfl⟩ := Option.map_eq_some_iff.mp h
    exact .hierarchical range hheading inside
  | none =>
    cases location : entries.lookup "location" with
    | some l =>
      have location := Option.isSome_of_eq_some location
      rw [ofElement?_of_location range location] at h
      obtain ⟨flat, hflat, rfl⟩ := Option.map_eq_some_iff.mp h
      exact .flat range location hflat
    | none =>
      rw [ofElement?_of_neither range location] at h
      cases h

-- The recursion is that of the reader: elements, entries, what stands for children, lists.
mutual

theorem describes_of_ofElement? : ∀ (v : Json) (symbol : Symbol), ofElement? v = some symbol →
    Describes v symbol
  | .obj entries, _, h => describes_obj h (holds_childrenIn entries)

theorem holds_childrenIn : ∀ entries : List (String × Json),
    Holds (entries.lookup "children") (childrenIn entries)
  | [] => .noArray fun _ => by simp
  | (key, v) :: entries => by
    rw [childrenIn, List.lookup_cons]
    cases "children" == key with
    | true => exact holds_children v
    | false => exact holds_childrenIn entries

theorem holds_children : ∀ v : Json, Holds (some v) (children v)
  | .arr items => .array (lists_ofElements items)
  | .null => .noArray fun _ => by simp
  | .bool _ => .noArray fun _ => by simp
  | .num _ => .noArray fun _ => by simp
  | .str _ => .noArray fun _ => by simp
  | .obj _ => .noArray fun _ => by simp

theorem lists_ofElements : ∀ items : List Json, Lists items (ofElements items)
  | [] => .nil
  | v :: vs => by
    cases h : ofElement? v with
    | some symbol =>
      rw [ofElements_cons_of_some h]
      exact .cons (describes_of_ofElement? v symbol h) (lists_ofElements vs)
    | none =>
      rw [ofElements_cons_of_none h]
      exact .skip (unreadable_iff.mpr h) (lists_ofElements vs)

end

end Symbol

/-! ## What a heading is read from -/

/-- A heading is read from what stands under the keys other than the one of the children. -/
theorem Heading.ofFields?_congr {entries entries' : Json.Entries}
    (h : ∀ key ≠ "children", entries.lookup key = entries'.lookup key) :
    ofFields? entries = ofFields? entries' := by
  have hname := h "name" (by decide)
  have hdetail := h "detail" (by decide)
  have hkind := h "kind" (by decide)
  have hrange := h "range" (by decide)
  have hselection := h "selectionRange" (by decide)
  simp only [ofFields?, Json.required, Json.optional, hname, hdetail, hkind, hrange, hselection]

theorem Heading.range_of_ofFields? {entries : Json.Entries} {heading : Heading}
    (h : ofFields? entries = some heading) : (entries.lookup "range").isSome := by
  cases hrange : entries.lookup "range" with
  | some v => rfl
  | none => simp [ofFields?, Json.required, hrange] at h

/-- Where a heading reads there is a hierarchical symbol, whatever stands in place of the children.
-/
theorem Symbol.ofElement?_of_heading {entries : Json.Entries} {heading : Heading}
    (h : Heading.ofFields? entries = some heading) :
    ofElement? (.obj entries) =
      some (.hierarchical heading ((entries.lookup "children").bind children)) := by
  rw [ofElement?_of_range (Heading.range_of_ofFields? h), h, Option.map_some, childrenIn_eq]

/-! ## Places in a response -/

/-- A list of elements, one of which is a hierarchical symbol that reads, with a gap for the list of
its children. -/
structure Enclosure where
  /-- The elements before and after the symbol. -/
  before : List Json
  after : List Json
  /-- The entries of the symbol before and after its children. -/
  front : Json.Entries
  back : Json.Entries
  heading : Heading
  /-- No other children stand before the gap. -/
  gap : front.lookup "children" = none
  reads : Heading.ofFields? (front ++ back) = some heading

namespace Enclosure

/-- The entries of the symbol with a list of elements in the gap. -/
def entries (e : Enclosure) (items : List Json) : Json.Entries :=
  e.front ++ ("children", .arr items) :: e.back

/-- The list with a list of elements in the gap. -/
def fill (e : Enclosure) (items : List Json) : List Json :=
  e.before ++ .obj (e.entries items) :: e.after

/-- The symbols that are read where `symbols` are read in the gap. -/
def around (e : Enclosure) (symbols : List Symbol) : List Symbol :=
  Symbol.ofElements e.before ++
    .hierarchical e.heading (some symbols) :: Symbol.ofElements e.after

theorem lookup_entries (e : Enclosure) (items : List Json) :
    (e.entries items).lookup "children" = some (.arr items) := by
  simp [entries, List.lookup_append, e.gap]

theorem lookup_entries_of_ne (e : Enclosure) (items : List Json) {key : String}
    (h : key ≠ "children") : (e.entries items).lookup key = (e.front ++ e.back).lookup key := by
  have hkey : (key == "children") = false := beq_eq_false_iff_ne.mpr h
  simp [entries, List.lookup_append, List.lookup_cons, hkey]

theorem ofElement?_entries (e : Enclosure) (items : List Json) :
    Symbol.ofElement? (.obj (e.entries items)) =
      some (.hierarchical e.heading (some (Symbol.ofElements items))) := by
  have hheading : Heading.ofFields? (e.entries items) = some e.heading := by
    rw [Heading.ofFields?_congr fun _ h => e.lookup_entries_of_ne items h, e.reads]
  rw [Symbol.ofElement?_of_heading hheading, e.lookup_entries]
  rfl

theorem ofElements_fill (e : Enclosure) (items : List Json) :
    Symbol.ofElements (e.fill items) = e.around (Symbol.ofElements items) := by
  rw [fill, Symbol.ofElements_append,
    Symbol.ofElements_cons_of_some (e.ofElement?_entries items), around]

end Enclosure

/-- A place where a list of elements can stand in a response: the response itself, or a place in the
list of the children of a symbol, at any depth. -/
inductive Place where
  | top
  | inside (e : Enclosure) (place : Place)

namespace Place

/-- The elements of a response with a list of elements at a place. -/
def fill : Place → List Json → List Json
  | .top, items => items
  | .inside e place, items => e.fill (place.fill items)

/-- The symbols of a response where `symbols` are read at a place. -/
def around : Place → List Symbol → List Symbol
  | .top, symbols => symbols
  | .inside e place, symbols => e.around (place.around symbols)

/-- What is read at a place is put into what is read around it. -/
theorem ofElements_fill (place : Place) (items : List Json) :
    Symbol.ofElements (place.fill items) = place.around (Symbol.ofElements items) := by
  induction place with
  | top => rfl
  | inside e place ih => rw [fill, e.ofElements_fill, ih, around]

theorem ofResponse_fill (place : Place) (items : List Json) :
    Symbol.ofResponse (.arr (place.fill items)) = place.around (Symbol.ofElements items) :=
  place.ofElements_fill items

end Place

/-! ## What an element can do -/

theorem Symbol.ofElements_insert {v : Json} (h : Unreadable v) (before after : List Json) :
    ofElements (before ++ v :: after) = ofElements (before ++ after) := by
  rw [ofElements_append, ofElements_cons_of_none (unreadable_iff.mp h), ofElements_append]

namespace Location

theorem ofResponse_arr (items : List Json) :
    ofResponse (.arr items) = items.filterMap ofJson? := rfl

theorem ofResponse_insert {v : Json} (h : ofJson? v = none) (before after : List Json) :
    ofResponse (.arr (before ++ v :: after)) = ofResponse (.arr (before ++ after)) := by
  simp only [ofResponse_arr, List.filterMap_append, List.filterMap_cons_none h]

end Location

namespace Symbol

/-- At every place in a response, at the top or among the children of symbols at any depth: an
element that does not read can be put in or taken out anywhere without any difference; the others
are read as one symbol each, in their order and in the shape that their keys select; and where an
element is a hierarchical symbol and keeps all its entries but the children, whatever stands in
their place decides on the children of that symbol and on nothing else. In a response of locations
an element that does not read makes no difference either, and every other one is read as one
location in its place. -/
theorem ofResponse_is_local (place : Place) (before after : List Json) :
    (∀ v, Unreadable v → ofResponse (.arr (place.fill (before ++ v :: after))) =
      ofResponse (.arr (place.fill (before ++ after)))) ∧
    (∀ items, (∃ symbols, Lists items symbols) ∧ ∀ symbols, Lists items symbols →
      ofResponse (.arr (place.fill items)) = place.around symbols) ∧
    (∀ entries heading, Heading.ofFields? entries = some heading → ∀ entries',
      (∀ key ≠ "children", entries'.lookup key = entries.lookup key) →
        (∃ children, Holds (entries'.lookup "children") children) ∧
        ∀ children, Holds (entries'.lookup "children") children →
          ofResponse (.arr (place.fill (before ++ .obj entries' :: after))) =
            place.around (ofElements before ++ .hierarchical heading children ::
              ofElements after)) ∧
    (∀ v, Location.ofJson? v = none → Location.ofResponse (.arr (before ++ v :: after)) =
      Location.ofResponse (.arr (before ++ after))) ∧
    (∀ v l, Location.ofJson? v = some l → Location.ofResponse (.arr (before ++ v :: after)) =
      Location.ofResponse (.arr before) ++ l :: Location.ofResponse (.arr after)) := by
  refine ⟨?odd, ?read, ?replaced, ?oddLocation, ?readLocation⟩
  case odd =>
    intro v hv
    rw [place.ofResponse_fill, place.ofResponse_fill, ofElements_insert hv]
  case read =>
    refine fun items => ⟨⟨_, lists_ofElements items⟩, fun symbols h => ?_⟩
    rw [place.ofResponse_fill, h.ofElements_eq]
  case replaced =>
    -- the heading is read from the entries that stay, so only the children can differ
    intro entries heading hheading entries' hsame
    have hheading' : Heading.ofFields? entries' = some heading := by
      rw [Heading.ofFields?_congr hsame, hheading]
    refine ⟨⟨_, holds_childrenIn entries'⟩, fun children h => ?_⟩
    rw [place.ofResponse_fill, ofElements_append,
      ofElements_cons_of_some (ofElement?_of_heading hheading'), h.bind_children]
  case oddLocation => exact fun v hv => Location.ofResponse_insert hv before after
  case readLocation =>
    intro v l hv
    simp only [Location.ofResponse_arr, List.filterMap_append, List.filterMap_cons_some hv]

/-- A class. -/
def classHeading : Heading :=
  { name := "C", detail := none, kind := ⟨5⟩, range := ⟨⟨0, 0⟩, ⟨9, 1⟩⟩,
    selectionRange := ⟨⟨0, 6⟩, ⟨0, 7⟩⟩ }

/-- A method of the class. -/
def methodHeading : Heading :=
  { name := "m", detail := some "()", kind := ⟨6⟩, range := ⟨⟨1, 2⟩, ⟨3, 3⟩⟩,
    selectionRange := ⟨⟨1, 6⟩, ⟨1, 7⟩⟩ }

/-- The body of a class that stands after something that is no symbol. -/
def classBody : Place :=
  .inside
    { before := [.null], after := [], front := classHeading.toEntries, back := [],
      heading := classHeading, gap := rfl, reads := rfl } .top

/-- The method with a truth value in place of its children. -/
def oddMethod : Json.Entries := methodHeading.toEntries ++ [("children", .bool true)]

/-- What has a name and nothing else is neither a symbol nor a location. -/
def onlyName : Json := .obj [("name", .str "broken")]

/-- The first character of a file. -/
def fileStart : Location := ⟨⟨"file:///a", by decide⟩, ⟨⟨0, 0⟩, ⟨0, 1⟩⟩⟩

theorem ofResponse_is_local_classBody :
    (Unreadable onlyName ∧ Heading.ofFields? methodHeading.toEntries = some methodHeading ∧
      Location.ofJson? onlyName = none ∧ Location.ofJson? fileStart.toJson = some fileStart) ∧
    ofResponse (.arr (classBody.fill [onlyName, .obj methodHeading.toEntries])) =
      ofResponse (.arr (classBody.fill [.obj methodHeading.toEntries])) ∧
    ofResponse (.arr (classBody.fill [.obj methodHeading.toEntries])) =
      [.hierarchical classHeading (some [.hierarchical methodHeading none])] ∧
    ofResponse (.arr (classBody.fill [.obj oddMethod, .obj methodHeading.toEntries])) =
      [.hierarchical classHeading
        (some [.hierarchical methodHeading none, .hierarchical methodHeading none])] ∧
    Location.ofResponse (.arr [onlyName, fileStart.toJson]) = [fileStart] := by
  have odd : Unreadable onlyName := .shapeless rfl rfl
  have heading : Heading.ofFields? methodHeading.toEntries = some methodHeading := rfl
  obtain ⟨hodd, -, hreplaced, -, -⟩ :=
    ofResponse_is_local classBody [] [.obj methodHeading.toEntries]
  obtain ⟨-, -, -, -, hlocation⟩ := ofResponse_is_local .top [onlyName] []
  refine ⟨⟨odd, heading, rfl, rfl⟩, hodd onlyName odd, rfl, ?_, hlocation _ fileStart rfl⟩
  have hsame : ∀ key ≠ "children", oddMethod.lookup key = methodHeading.toEntries.lookup key := by
    intro key hkey
    have hne : (key == "children") = false := beq_eq_false_iff_ne.mpr hkey
    simp [oddMethod, List.lookup_append, List.lookup_cons, hne]
  have hchildren : Holds (oddMethod.lookup "children") none := by
    have hlookup : oddMethod.lookup "children" = some (.bool true) := rfl
    exact hlookup ▸ .noArray fun _ => by simp
  exact (hreplaced _ methodHeading heading _ hsame).2 none hchildren

end Symbol

end CodeListing
