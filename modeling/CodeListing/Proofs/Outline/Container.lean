import CodeListing.Proofs.Outline.Preorder

/-!
# Containers in labels

The walk that makes an outline builds up a qualified name on its way down, one name at a time, and
takes an empty qualified name for the top of the forest. What comes out has a form of its own: the
names of the symbols around, joined by dots, from the first one that is not empty
(`Scope.qualifiedName_foldl_inside`). This is what a hierarchical symbol is shown in; a flat symbol
is shown in what its server reported, and the symbols around it play no part
(`PlacedSymbol.ShownIn`). The label of every symbol of an outline follows from that
(`Outline.ofSymbols_labels`).
-/

namespace CodeListing

/-! ## Qualified names -/

namespace Scope

/-- A name that is not empty stays at the beginning of what is built on it. -/
theorem qualifiedName_foldl_of_ne {scope : Scope} (h : scope.qualifiedName ≠ "")
    (names : List String) :
    (names.foldl inside scope).qualifiedName = ".".intercalate (scope.qualifiedName :: names) := by
  induction names generalizing scope with
  | nil => rfl
  | cons name names ih =>
    have hinside : (scope.inside name).qualifiedName = scope.qualifiedName ++ "." ++ name :=
      if_neg h
    have hne : (scope.inside name).qualifiedName ≠ "" := by
      rw [hinside]
      simp [String.append_eq_empty_iff]
    rw [List.foldl_cons, ih hne, hinside]
    rfl

/-- Empty names are forgotten until the first name that is not. -/
theorem qualifiedName_foldl_of_eq {scope : Scope} (h : scope.qualifiedName = "")
    (names : List String) :
    (names.foldl inside scope).qualifiedName =
      ".".intercalate (names.dropWhile (· = "")) := by
  induction names generalizing scope with
  | nil => exact h
  | cons name names ih =>
    have hinside : (scope.inside name).qualifiedName = name := if_pos h
    rw [List.foldl_cons]
    by_cases hname : name = ""
    · rw [ih (hinside.trans hname), List.dropWhile_cons_of_pos (by simpa using hname)]
    · have hne : (scope.inside name).qualifiedName ≠ "" := by rwa [hinside]
      rw [qualifiedName_foldl_of_ne hne, hinside,
        List.dropWhile_cons_of_neg (by simpa using hname)]

/-- The qualified name inside symbols of these names, outermost first. -/
theorem qualifiedName_foldl_inside (names : List String) :
    (names.foldl inside top).qualifiedName = ".".intercalate (names.dropWhile (· = "")) :=
  qualifiedName_foldl_of_eq rfl names

/-- A qualified name is empty just if all the names in it are. -/
theorem qualifiedName_within_eq_empty_iff {scope : Scope} {names : List String} :
    (scope.within names).qualifiedName = "" ↔
      scope.qualifiedName = "" ∧ ∀ name ∈ names, name = "" := by
  induction names generalizing scope with
  | nil => simp [within]
  | cons name names ih =>
    show ((scope.inside name).within names).qualifiedName = "" ↔ _
    rw [ih, inside, List.forall_mem_cons]
    by_cases hscope : scope.qualifiedName = ""
    · simp [hscope]
    · simp [hscope, String.append_eq_empty_iff]

end Scope

/-! ## Containers -/

namespace PlacedSymbol

/-- What a symbol is shown in where containers are shown. -/
inductive ShownIn : PlacedSymbol → Option String → Prop where
  /-- No symbol around has a name. -/
  | nameless {ancestors : List String} {heading : Heading} {children : Option (List Symbol)}
      (h : ∀ name ∈ ancestors, name = "") : ShownIn ⟨ancestors, .hierarchical heading children⟩ none
  /-- The symbols around, outermost first, without the nameless ones before the first name. -/
  | named {ancestors : List String} {heading : Heading} {children : Option (List Symbol)}
      (h : ∃ name ∈ ancestors, name ≠ "") :
      ShownIn ⟨ancestors, .hierarchical heading children⟩
        (some (".".intercalate (ancestors.dropWhile (· = ""))))
  /-- What the server reported, whatever is around. -/
  | reported {ancestors : List String} {symbol : FlatSymbol} {container : String}
      (h : symbol.containerName = some container) (nonempty : container ≠ "") :
      ShownIn ⟨ancestors, .flat symbol⟩ (some container)
  | unreported {ancestors : List String} {symbol : FlatSymbol}
      (h : symbol.containerName = none ∨ symbol.containerName = some "") :
      ShownIn ⟨ancestors, .flat symbol⟩ none

/-- The label of a symbol where containers are shown: its kind in brackets in a column of 15
characters, a space, and its name; if it is shown in something, the name is in a column of its own
and the container follows it in brackets. -/
inductive HasLabel (nameWidth : Nat) (placed : PlacedSymbol) : String → Prop where
  | bare (h : placed.ShownIn none) :
      HasLabel nameWidth placed
        (Text.alignLeft 15 s!"[{placed.symbol.kind.name}]" ++ " " ++ placed.symbol.name)
  | contained {container : String} (h : placed.ShownIn (some container)) :
      HasLabel nameWidth placed
        (Text.alignLeft 15 s!"[{placed.symbol.kind.name}]" ++ " " ++
          (Text.alignLeft nameWidth placed.symbol.name ++ s!" [{container}]"))

/-- The container that a label takes from the scope is the one that a symbol is shown in. -/
theorem shownIn_shownContainer (placed : PlacedSymbol) (nameWidth : Nat) :
    placed.ShownIn
      (placed.symbol.shownContainer (Scope.top.within placed.ancestors) ⟨true, nameWidth⟩) := by
  obtain ⟨ancestors, symbol⟩ := placed
  cases symbol with
  | hierarchical heading children =>
    show ShownIn _ ((some (Scope.top.within ancestors).qualifiedName).filter (· ≠ ""))
    have hempty : (Scope.top.within ancestors).qualifiedName = "" ↔
        ∀ name ∈ ancestors, name = "" := by
      rw [Scope.qualifiedName_within_eq_empty_iff]
      exact and_iff_right rfl
    by_cases hnames : ∀ name ∈ ancestors, name = ""
    · rw [hempty.mpr hnames]
      exact .nameless hnames
    · have hne : (Scope.top.within ancestors).qualifiedName ≠ "" := fun h => hnames (hempty.mp h)
      rw [Option.filter_some, if_pos (by simpa using hne), Scope.within,
        Scope.qualifiedName_foldl_inside]
      exact .named (by simpa using hnames)
  | flat symbol =>
    show ShownIn _ (symbol.containerName.filter (· ≠ ""))
    cases hreported : symbol.containerName with
    | none => exact .unreported (.inl hreported)
    | some container =>
      by_cases hcontainer : container = ""
      · subst hcontainer
        exact .unreported (.inr hreported)
      · rw [Option.filter_some, if_pos (by simpa using hcontainer)]
        exact .reported hreported hcontainer

theorem hasLabel_candidate (placed : PlacedSymbol) (context : RequestContext) (nameWidth : Nat) :
    placed.HasLabel nameWidth (placed.symbol.candidate (Scope.top.within placed.ancestors) context
      ⟨true, nameWidth⟩).word := by
  have hshown := placed.shownIn_shownContainer nameWidth
  rw [Symbol.candidate]
  generalize placed.symbol.shownContainer _ _ = container at hshown ⊢
  cases container with
  | none => exact .bare hshown
  | some container => exact .contained hshown

end PlacedSymbol

namespace Outline

/-- Where containers are shown and the column of names is not too wide, the label of every symbol of
a forest is its kind in a column, its name, and what the symbol is shown in, whatever else is in the
forest and whichever records are shown. The scope of a symbol has the names of those around it and
the qualified name that they are joined to. -/
theorem ofSymbols_labels {nameWidth : Nat} (h : nameWidth ≤ Text.maxWidth)
    (context : RequestContext) (forest : List Symbol) :
    (∃ records,
      List.Forall₂
        (fun placed r => IsRecordOf context ⟨true, nameWidth⟩ .top placed r ∧
          placed.HasLabel nameWidth r.word)
        (Symbol.preorder forest) records ∧
      ∀ accepts : Visibility,
        ofSymbols context ⟨true, nameWidth⟩ accepts .top forest = accepts.keep records) ∧
    ∀ names : List String,
      (names.foldl Scope.inside .top).names = names ∧
      (names.foldl Scope.inside .top).qualifiedName =
        ".".intercalate (names.dropWhile (· = "")) := by
  constructor
  · refine ⟨candidates context ⟨true, nameWidth⟩ .top forest, ?_,
      fun accepts => ofSymbols_eq_keep context h accepts .top forest⟩
    rw [candidates, List.forall₂_map_right_iff]
    refine List.forall₂_same.mpr fun placed _ => ⟨?_, placed.hasLabel_candidate context nameWidth⟩
    exact candidate_isRecordOf context h .top placed
  · intro names
    exact ⟨Scope.names_within .top names, Scope.qualifiedName_foldl_inside names⟩

/-- A heading of this name. -/
def headingOf (name : String) : Heading := ⟨name, none, ⟨5⟩, ⟨⟨0, 0⟩, ⟨9, 1⟩⟩, ⟨⟨1, 4⟩, ⟨1, 7⟩⟩⟩

/-- Two nameless symbols, one around and one inside a named one, with symbols of both shapes in the
innermost. -/
def namelessForest : List Symbol :=
  [.hierarchical (headingOf "") (some [.hierarchical (headingOf "a") (some
    [.hierarchical (headingOf "") (some
      [.hierarchical (headingOf "m") none,
        .flat ⟨"f", ⟨12⟩, ⟨{ text := "file:///far/b" }, ⟨⟨1, 4⟩, ⟨1, 7⟩⟩⟩, some "far"⟩,
        .flat ⟨"g", ⟨12⟩, ⟨{ text := "file:///far/b" }, ⟨⟨1, 4⟩, ⟨1, 7⟩⟩⟩, some ""⟩])])])]

theorem ofSymbols_labels_namelessForest :
    4 ≤ Text.maxWidth ∧
      (ofSymbols editorContext ⟨true, 4⟩ .all .top namelessForest).map (·.map (·.word)) =
        .ok ["[Class]         ", "[Class]         a", "[Class]              [a]",
          "[Class]         m    [a.]", "[Function]      f    [far]", "[Function]      g"] ∧
      ∃ records,
        List.Forall₂
          (fun placed r => IsRecordOf editorContext ⟨true, 4⟩ .top placed r ∧
            placed.HasLabel 4 r.word)
          (Symbol.preorder namelessForest) records ∧
        ∀ accepts : Visibility,
          ofSymbols editorContext ⟨true, 4⟩ accepts .top namelessForest = accepts.keep records :=
  ⟨by decide, rfl, (ofSymbols_labels (by decide) editorContext namelessForest).1⟩

end Outline

end CodeListing
