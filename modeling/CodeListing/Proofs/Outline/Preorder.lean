import CodeListing.Outline.Records
import CodeListing.Proofs.Record.Predicate
import Mathlib.Data.List.Forall2

/-!
# What an outline lists

The walk that makes an outline hands scopes down and leaves records out on its way. This module
describes its result without either: `Symbol.preorder` lists the symbols of a forest in pre-order,
each with the names of the symbols around it, and the walk makes every one of them into its own
record, if it is shown (`Outline.ofSymbols_eq_ofPlaces`). Where columns are not too wide these
records are the `Outline.candidates`, and an outline is the list of those that are shown
(`Outline.ofSymbols_eq`). So whether a record is shown does not touch any other record.
-/

namespace CodeListing

/-! ## Pre-order -/

/-- A symbol at its place in a forest. -/
structure PlacedSymbol where
  /-- The names of the hierarchical symbols around it inside the forest, outermost first. -/
  ancestors : List String
  symbol : Symbol

/-- The place of a symbol when its forest is put under another symbol. -/
def PlacedSymbol.under (name : String) (placed : PlacedSymbol) : PlacedSymbol :=
  { placed with ancestors := name :: placed.ancestors }

namespace Symbol

mutual

/-- A symbol and all that is inside it, in pre-order. -/
def preorderFrom : Symbol → List PlacedSymbol
  | .hierarchical heading children =>
    ⟨[], .hierarchical heading children⟩ ::
      (preorderChildren children).map (PlacedSymbol.under heading.name)
  | .flat symbol => [⟨[], .flat symbol⟩]

def preorderChildren : Option (List Symbol) → List PlacedSymbol
  | none => []
  | some children => preorder children

/-- All symbols of a forest, in pre-order. -/
def preorder : List Symbol → List PlacedSymbol
  | [] => []
  | s :: ss => preorderFrom s ++ preorder ss

end

end Symbol

/-- The scope inside symbols of these names, outermost first. -/
def Scope.within (scope : Scope) (names : List String) : Scope := names.foldl Scope.inside scope

theorem Scope.names_within (scope : Scope) (names : List String) :
    (scope.within names).names = scope.names ++ names := by
  induction names generalizing scope with
  | nil => simp [within]
  | cons name names ih =>
    show ((scope.inside name).within names).names = _
    rw [ih, inside, List.append_assoc, List.singleton_append]

/-! ## Candidates -/

namespace Symbol

/-- The name as it stands in a label whose columns are not too wide. -/
def alignedName (s : Symbol) (container : Option String) (nameWidth : Nat) : String :=
  match container with
  | none => s.name
  | some container => Text.alignLeft nameWidth s.name ++ s!" [{container}]"

/-- The record of a symbol in an outline whose columns are not too wide. -/
def candidate (s : Symbol) (scope : Scope) (context : RequestContext) (layout : OutlineLayout) :
    Record where
  word := Text.alignLeft OutlineLayout.kindWidth s!"[{s.kind.name}]" ++ " " ++
    s.alignedName (s.shownContainer scope layout) layout.nameWidth
  level := scope.depth
  treePath := scope.names
  isTree := false
  isExpanded := false
  action := { target := s.target context, context }
  lineText := none
  subject := .symbol s

theorem nameLabel_of_le {nameWidth : Nat} (h : nameWidth ≤ Text.maxWidth) (s : Symbol)
    (container : Option String) :
    s.nameLabel container nameWidth = .ok (s.alignedName container nameWidth) := by
  cases container with
  | none => rfl
  | some container =>
    simp only [nameLabel, Text.column_of_le h]
    rfl

theorem record_of_le {layout : OutlineLayout} (h : layout.nameWidth ≤ Text.maxWidth) (s : Symbol)
    (scope : Scope) (context : RequestContext) :
    s.record scope context layout = .ok (s.candidate scope context layout) := by
  simp only [record, label, nameLabel_of_le h]
  rfl

end Symbol

namespace Outline

variable (context : RequestContext) (layout : OutlineLayout)

/-- The records of all symbols of a forest, in pre-order. -/
def candidates (scope : Scope) (forest : List Symbol) : List Record :=
  (Symbol.preorder forest).map fun placed =>
    placed.symbol.candidate (scope.within placed.ancestors) context layout

/-- The own record of a symbol at its place in a forest that is listed in a scope, if it is shown. -/
def ownAt (accepts : Visibility) (scope : Scope) (placed : PlacedSymbol) :
    Except Crash (List Record) :=
  own context layout accepts (scope.within placed.ancestors) placed.symbol

/-- What is listed of symbols at their places: the own record of each, one after another. -/
def ofPlaces (accepts : Visibility) (scope : Scope) (places : List PlacedSymbol) :
    Except Crash (List Record) := do
  let records ← places.mapM (ownAt context layout accepts scope)
  return records.flatten

variable {accepts : Visibility}

theorem ofPlaces_cons (scope : Scope) (placed : PlacedSymbol) (places : List PlacedSymbol) :
    ofPlaces context layout accepts scope (placed :: places) =
      (do
        let first ← ownAt context layout accepts scope placed
        let rest ← ofPlaces context layout accepts scope places
        return first ++ rest) := by
  rw [ofPlaces, ofPlaces, List.mapM_cons]
  cases ownAt context layout accepts scope placed with
  | error e => rfl
  | ok first => cases places.mapM (ownAt context layout accepts scope) <;> rfl

theorem ofPlaces_append (scope : Scope) (front back : List PlacedSymbol) :
    ofPlaces context layout accepts scope (front ++ back) =
      (do
        let first ← ofPlaces context layout accepts scope front
        let rest ← ofPlaces context layout accepts scope back
        return first ++ rest) := by
  rw [ofPlaces, ofPlaces, ofPlaces, List.mapM_append]
  cases front.mapM (ownAt context layout accepts scope) with
  | error e => rfl
  | ok first =>
    cases back.mapM (ownAt context layout accepts scope) with
    | error e => rfl
    | ok rest => exact congrArg Except.ok List.flatten_append

/-- In a smaller scope the symbols inside have fewer ancestors and the same records. -/
theorem ofPlaces_under (scope : Scope) (name : String) (places : List PlacedSymbol) :
    ofPlaces context layout accepts scope (places.map (PlacedSymbol.under name)) =
      ofPlaces context layout accepts (scope.inside name) places := by
  rw [ofPlaces, List.mapM_map]
  rfl

theorem ofPlaces_root (scope : Scope) (s : Symbol) :
    ofPlaces context layout accepts scope [⟨[], s⟩] = own context layout accepts scope s := by
  rw [ofPlaces_cons]
  show (own context layout accepts scope s >>= fun first => Except.ok (first ++ [])) = _
  simp only [List.append_nil]
  exact bind_pure _

mutual

theorem ofSymbol_eq_ofPlaces (scope : Scope) : ∀ s : Symbol,
    ofSymbol context layout accepts scope s =
      ofPlaces context layout accepts scope (Symbol.preorderFrom s)
  | .hierarchical heading children => by
    rw [ofSymbol, ofChildren_eq_ofPlaces (scope.inside heading.name) children, ← ofPlaces_under,
      Symbol.preorderFrom, ofPlaces_cons]
    rfl
  | .flat symbol => by
    rw [ofSymbol, Symbol.preorderFrom, ofPlaces_root]

theorem ofChildren_eq_ofPlaces (scope : Scope) : ∀ children : Option (List Symbol),
    ofChildren context layout accepts scope children =
      ofPlaces context layout accepts scope (Symbol.preorderChildren children)
  | none => rfl
  | some children => by
    rw [ofChildren, ofSymbols_eq_ofPlaces scope children, Symbol.preorderChildren]

/-- The walk lists the symbols of a forest in pre-order, whatever crashes on the way. -/
theorem ofSymbols_eq_ofPlaces (scope : Scope) : ∀ forest : List Symbol,
    ofSymbols context layout accepts scope forest =
      ofPlaces context layout accepts scope (Symbol.preorder forest)
  | [] => rfl
  | s :: ss => by
    rw [ofSymbols, ofSymbol_eq_ofPlaces scope s, ofSymbols_eq_ofPlaces scope ss, Symbol.preorder,
      ofPlaces_append]

end

variable {layout}

theorem own_eq_keep (h : layout.nameWidth ≤ Text.maxWidth) (accepts : Visibility) (scope : Scope)
    (s : Symbol) :
    own context layout accepts scope s = accepts.keep [s.candidate scope context layout] := by
  simp only [own, Symbol.record_of_le h]
  rfl

/-- An outline lists the candidates that are shown, whatever the predicate does. -/
theorem ofSymbols_eq_keep (h : layout.nameWidth ≤ Text.maxWidth) (accepts : Visibility)
    (scope : Scope) (forest : List Symbol) : ofSymbols context layout accepts scope forest =
      accepts.keep (candidates context layout scope forest) := by
  rw [ofSymbols_eq_ofPlaces, candidates]
  induction Symbol.preorder forest with
  | nil => rfl
  | cons placed places ih =>
    rw [ofPlaces_cons, ownAt, own_eq_keep context h, ih, List.map_cons]
    exact (Visibility.keep_append accepts [_] _).symm

theorem ofSymbols_eq (h : layout.nameWidth ≤ Text.maxWidth) (p : Record → Bool) (scope : Scope)
    (forest : List Symbol) : ofSymbols context layout (.ofPredicate p) scope forest =
      .ok ((candidates context layout scope forest).filter p) := by
  rw [ofSymbols_eq_keep context h, Visibility.keep_ofPredicate]

/-! ## What the records tell -/

variable (layout) in
/-- The record of a symbol at its place in a forest that is listed in a scope. -/
structure IsRecordOf (scope : Scope) (placed : PlacedSymbol) (r : Record) : Prop where
  made : placed.symbol.record (scope.within placed.ancestors) context layout = .ok r
  level : r.level = scope.depth + placed.ancestors.length
  treePath : r.treePath = scope.names ++ placed.ancestors
  length_treePath : r.treePath.length = r.level
  target : r.action.target = match placed.symbol with
    | .hierarchical heading _ => .buffer context.bufnr heading.selectionRange
    | .flat symbol => .file symbol.location.uri.toPath symbol.location.range
  context_eq : r.action.context = context
  isTree : r.isTree = false
  isExpanded : r.isExpanded = false
  lineText : r.lineText = none
  subject : r.subject = .symbol placed.symbol

theorem candidate_isRecordOf (h : layout.nameWidth ≤ Text.maxWidth) (scope : Scope)
    (placed : PlacedSymbol) :
    IsRecordOf context layout scope placed
      (placed.symbol.candidate (scope.within placed.ancestors) context layout) where
  made := Symbol.record_of_le h _ _ _
  level := by simp [Symbol.candidate, Scope.depth, Scope.names_within]
  treePath := Scope.names_within _ _
  length_treePath := rfl
  target := by cases placed.symbol <;> rfl
  context_eq := rfl
  isTree := rfl
  isExpanded := rfl
  lineText := rfl
  subject := rfl

theorem candidates_isRecordOf (h : layout.nameWidth ≤ Text.maxWidth) (scope : Scope)
    (forest : List Symbol) :
    List.Forall₂ (IsRecordOf context layout scope) (Symbol.preorder forest)
      (candidates context layout scope forest) := by
  rw [candidates, List.forall₂_map_right_iff]
  exact List.forall₂_same.mpr fun placed _ => candidate_isRecordOf context h scope placed

/-- An outline is made of one record for each symbol of the forest, in pre-order, from which those
that are not shown are left out. The records themselves do not depend on which are shown. -/
theorem ofSymbols_lists_preorder (h : layout.nameWidth ≤ Text.maxWidth) (scope : Scope)
    (forest : List Symbol) :
    ∃ records, List.Forall₂ (IsRecordOf context layout scope) (Symbol.preorder forest) records ∧
      ∀ p : Record → Bool, ofSymbols context layout (.ofPredicate p) scope forest =
        .ok (records.filter p) :=
  ⟨candidates context layout scope forest, candidates_isRecordOf context h scope forest,
    fun p => ofSymbols_eq context h p _ _⟩

/-- A class with a method in it and a flat symbol beside the method. -/
def classForest : List Symbol :=
  let range : Range := ⟨⟨0, 0⟩, ⟨9, 1⟩⟩
  let inner : Range := ⟨⟨1, 4⟩, ⟨1, 7⟩⟩
  [.hierarchical ⟨"Foo", none, ⟨5⟩, range, inner⟩ (some
    [.hierarchical ⟨"bar", none, ⟨6⟩, inner, inner⟩ none,
      .flat ⟨"baz", ⟨12⟩, ⟨{ text := "file:///b" }, inner⟩, some "far"⟩])]

def editorContext : RequestContext := ⟨{ id := 1, name := "server" }, 7, .documentSymbol⟩

theorem ofSymbols_lists_preorder_classForest :
    10 ≤ Text.maxWidth ∧
      (Symbol.preorder classForest).map (·.ancestors) = [[], ["Foo"], ["Foo"]] ∧
      ∃ records,
        List.Forall₂ (IsRecordOf editorContext ⟨true, 10⟩ ⟨["m"], "m"⟩)
          (Symbol.preorder classForest) records ∧
        ∀ p : Record → Bool,
          ofSymbols editorContext ⟨true, 10⟩ (.ofPredicate p) ⟨["m"], "m"⟩ classForest =
            .ok (records.filter p) :=
  ⟨by decide, rfl, ofSymbols_lists_preorder editorContext (by decide) _ _⟩

/-- Leaving the class out keeps what is inside it. -/
example :
    (ofSymbols editorContext ⟨true, 10⟩ (.ofPredicate (·.level != 0)) .top classForest).map
        (·.map (·.word)) =
      .ok ["[Method]        bar        [Foo]", "[Function]      baz        [far]"] := by
  rfl

end Outline

end CodeListing
