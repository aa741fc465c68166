import CodeListing.Proofs.Listing.Order
import CodeListing.Proofs.Outline.Address
import Mathlib

/-!
# Symbols before what is inside them

A walk in pre-order lists a symbol before what is inside it, and the sort by starts that follows may
undo that: an outline is sorted by where symbols start and not by how they are nested. It does not
where no symbol starts before the symbol around it (`Symbol.ChildrenFollow`), because starts do not
go down along a chain of ancestors and the sort is stable (`Listing.outline_ancestors_first`). The
records between an ancestor and a descendant may be missing, and other symbols may be in between.
-/

namespace CodeListing

/-- Of two elements of a list that a relation orders the one that has to come first does. -/
theorem pair_sublist_of_pairwise {α : Type} {R : α → α → Prop} {xs : List α} {a b : α}
    (h : xs.Pairwise R) (ha : a ∈ xs) (hb : b ∈ xs) (hne : a ≠ b) (hR : ¬ R b a) :
    [a, b].Sublist xs := by
  induction xs with
  | nil => exact absurd ha List.not_mem_nil
  | cons x xs ih =>
    obtain ⟨hx, hxs⟩ := List.pairwise_cons.mp h
    rcases List.mem_cons.mp ha with rfl | ha'
    · have hb' : b ∈ xs := (List.mem_cons.mp hb).resolve_left hne.symm
      exact (List.singleton_sublist.mpr hb').cons_cons a
    · have hbx : b ≠ x := by
        rintro rfl
        exact hR (hx a ha')
      exact (ih hxs ha' ((List.mem_cons.mp hb).resolve_left hbx)).cons x

/-! ## Starts along a chain of ancestors -/

namespace Symbol

/-- Where navigation to a symbol goes. -/
def start : Symbol → Position
  | .hierarchical heading _ => heading.selectionRange.start
  | .flat symbol => symbol.location.range.start

/-- No symbol of a forest starts before the hierarchical symbol whose child it is. -/
def ChildrenFollow (forest : List Symbol) : Prop :=
  ∀ (address : Address) (ancestors : List String) (heading : Heading) (children : List Symbol),
    PlacedSymbol.StandsAt forest address ⟨ancestors, .hierarchical heading (some children)⟩ →
    ∀ child ∈ children,
      heading.selectionRange.start.line < child.start.line ∨
      heading.selectionRange.start.line = child.start.line ∧
        heading.selectionRange.start.character ≤ child.start.character

variable {forest children : List Symbol} {i : Nat} {heading : Heading}
  {address below : Address} {placed inner : PlacedSymbol}

theorem ChildrenFollow.atOrBefore (h : ChildrenFollow forest)
    (hs : forest[i]? = some (.hierarchical heading (some children))) {child : Symbol}
    (hchild : child ∈ children) :
    heading.selectionRange.start.atOrBefore child.start = true :=
  Position.atOrBefore_iff.mpr (h [i] [] heading children (.here hs) child hchild)

theorem ChildrenFollow.inside (h : ChildrenFollow forest)
    (hs : forest[i]? = some (.hierarchical heading (some children))) : ChildrenFollow children :=
  fun address ancestors inner grandchildren hstands =>
    h (i :: address) (heading.name :: ancestors) inner grandchildren (.inside hs hstands)

/-- A position before all trees of a forest is before all that is inside them. -/
theorem ChildrenFollow.atOrBefore_of_standsAt (h : ChildrenFollow forest) {p : Position}
    (hp : ∀ s ∈ forest, p.atOrBefore s.start = true) (hstands : placed.StandsAt forest address) :
    p.atOrBefore placed.symbol.start = true := by
  induction hstands with
  | here hs => exact hp _ (List.mem_of_getElem? hs)
  | inside hs _ ih =>
    refine ih (h.inside hs) fun child hchild => ?_
    exact Position.atOrBefore_trans (hp _ (List.mem_of_getElem? hs)) (h.atOrBefore hs hchild)

/-- Starts do not go down from a symbol to what is inside it, at any depth. -/
theorem ChildrenFollow.start_atOrBefore (h : ChildrenFollow forest)
    (hstands : placed.StandsAt forest address)
    (hinner : inner.StandsAt forest (address ++ below)) (hbelow : below ≠ []) :
    placed.symbol.start.atOrBefore inner.symbol.start = true := by
  induction hstands generalizing inner with
  | here hs =>
    obtain ⟨heading, children, inner, hs', hinside, rfl⟩ := hinner.exists_inside hbelow
    obtain rfl := Option.some.inj (hs.symm.trans hs')
    have hstart := (h.inside hs').atOrBefore_of_standsAt (fun _ => h.atOrBefore hs') hinside
    exact hstart
  | inside hs hstands ih =>
    have hne := List.append_ne_nil_of_left_ne_nil hstands.ne_nil below
    obtain ⟨heading, children, inner, hs', hinside, rfl⟩ := hinner.exists_inside hne
    obtain ⟨rfl, hchildren⟩ := Symbol.hierarchical.inj (Option.some.inj (hs.symm.trans hs'))
    obtain rfl := Option.some.inj hchildren
    have hstart := ih (h.inside hs) hinside
    exact hstart

end Symbol

/-! ## Batches by addresses -/

namespace Outline

/-- `batch` lists the records of the symbols that stand at the addresses `order`, in this order.
These are the symbols of a forest whose records are accepted, each of them once. -/
structure ListsAddresses (context : RequestContext) (layout : OutlineLayout) (accepts : Visibility)
    (forest : List Symbol) (order : List Address) (batch : Batch) : Prop where
  records : List.Forall₂ (fun address r => ∃ placed : PlacedSymbol,
    placed.StandsAt forest address ∧ IsRecordOf context layout .top placed r) order batch
  once : order.Nodup
  accepted : ∀ (address : Address) (placed : PlacedSymbol) (r : Record),
    placed.StandsAt forest address → IsRecordOf context layout .top placed r →
    (address ∈ order ↔ accepts r = .ok true)

theorem IsRecordOf.unique {context : RequestContext} {layout : OutlineLayout} {scope : Scope}
    {placed : PlacedSymbol} {r r' : Record} (h : IsRecordOf context layout scope placed r)
    (h' : IsRecordOf context layout scope placed r') : r = r' :=
  Except.ok.inj (h.made.symm.trans h'.made)

variable (context : RequestContext) (layout : OutlineLayout) (accepts : Visibility)
  (forest : List Symbol)

/-- The record of a symbol with its address. -/
def recordOf (e : Address × PlacedSymbol) : Record :=
  e.2.symbol.candidate (Scope.top.within e.2.ancestors) context layout

/-- The symbols whose records are accepted, with their addresses, in pre-order. -/
def acceptedEntries : List (Address × PlacedSymbol) :=
  (Symbol.addressed 0 forest).filter fun e => accepts.shows (recordOf context layout e)

/-- The symbols whose records are accepted, with their addresses, sorted as their records are. -/
def sortedEntries : List (Address × PlacedSymbol) :=
  sortByStart (fun e => (recordOf context layout e).range.start)
    (acceptedEntries context layout accepts forest)

theorem candidates_eq_map_addressed :
    candidates context layout .top forest =
      (Symbol.addressed 0 forest).map (recordOf context layout) := by
  rw [candidates, ← Symbol.map_snd_addressed 0 forest, List.map_map]
  rfl

variable {context layout accepts forest}

theorem start_recordOf (e : Address × PlacedSymbol) :
    (recordOf context layout e).range.start = e.2.symbol.start := by
  obtain ⟨address, ancestors, symbol⟩ := e
  cases symbol <;> rfl

theorem mem_acceptedEntries {e : Address × PlacedSymbol} :
    e ∈ acceptedEntries context layout accepts forest ↔
      e.2.StandsAt forest e.1 ∧ accepts (recordOf context layout e) = .ok true := by
  rw [acceptedEntries, List.mem_filter, Symbol.mem_addressed_iff, Visibility.shows_iff]

theorem sortedEntries_perm :
    (sortedEntries context layout accepts forest).Perm
      (acceptedEntries context layout accepts forest) :=
  (sortByStart_isStableSort _ _).perm

/-- The addresses go through the sort with the records that are at them. -/
theorem sort_filter_candidates :
    Record.sort ((candidates context layout .top forest).filter accepts.shows) =
      (sortedEntries context layout accepts forest).map (recordOf context layout) := by
  rw [candidates_eq_map_addressed, List.filter_map, Record.sort, sortByStart_map]
  rfl

theorem pairwise_acceptedEntries :
    (acceptedEntries context layout accepts forest).Pairwise fun x y => x.1 < y.1 :=
  (Symbol.pairwise_addressed 0 forest).sublist List.filter_sublist

theorem listsAddresses_sortedEntries (h : layout.nameWidth ≤ Text.maxWidth) :
    ListsAddresses context layout accepts forest
      ((sortedEntries context layout accepts forest).map Prod.fst)
      ((sortedEntries context layout accepts forest).map (recordOf context layout)) where
  records := by
    rw [List.forall₂_map_left_iff, List.forall₂_map_right_iff, List.forall₂_same]
    intro e he
    have hstands := (mem_acceptedEntries.mp (sortedEntries_perm.mem_iff.mp he)).1
    exact ⟨e.2, hstands, candidate_isRecordOf context h .top e.2⟩
  once := by
    refine (sortedEntries_perm.map Prod.fst).nodup_iff.mpr (List.pairwise_map.mpr ?_)
    refine pairwise_acceptedEntries.imp fun hlt heq => ?_
    rw [heq] at hlt
    exact List.lt_irrefl _ hlt
  accepted := by
    intro address placed r hstands hr
    obtain rfl : recordOf context layout (address, placed) = r :=
      (candidate_isRecordOf context h .top placed).unique hr
    rw [List.mem_map]
    constructor
    · rintro ⟨e, he, rfl⟩
      obtain ⟨hstands', haccepted⟩ := mem_acceptedEntries.mp (sortedEntries_perm.mem_iff.mp he)
      rwa [hstands.unique hstands']
    · intro haccepted
      exact ⟨(address, placed), sortedEntries_perm.mem_iff.mpr
        (mem_acceptedEntries.mpr ⟨hstands, haccepted⟩), rfl⟩

/-- An ancestor comes before its descendant among the sorted symbols. -/
theorem pair_sublist_sortedEntries (hfollow : Symbol.ChildrenFollow forest)
    {e inner : Address × PlacedSymbol} {below : Address} (hbelow : below ≠ [])
    (haddress : inner.1 = e.1 ++ below) (he : e ∈ acceptedEntries context layout accepts forest)
    (hinner : inner ∈ acceptedEntries context layout accepts forest) :
    [e, inner].Sublist (sortedEntries context layout accepts forest) := by
  have hlt : e.1 < inner.1 := haddress ▸ Symbol.lt_append_of_ne_nil hbelow e.1
  have hne : e ≠ inner := by
    rintro rfl
    exact List.lt_irrefl _ hlt
  have hsub : [e, inner].Sublist (acceptedEntries context layout accepts forest) :=
    pair_sublist_of_pairwise pairwise_acceptedEntries he hinner hne (List.lt_asymm hlt)
  -- the two are in order of their starts already, so the stable sort leaves them so
  refine sublist_sortByStart ?_ hsub
  rw [List.pairwise_pair, start_recordOf, start_recordOf]
  have hstands := (mem_acceptedEntries.mp hinner).1
  rw [haddress] at hstands
  exact hfollow.start_atOrBefore (mem_acceptedEntries.mp he).1 hstands hbelow

end Outline

/-! ## Batches -/

namespace Listing

theorem outline_batchOf_eq_ok_iff {config : OutlineConfig}
    (h : config.nameWidth.toNat ≤ Text.maxWidth) (editor : Editor) (files : Files)
    (accepts : Visibility) (context : RequestContext) (origin : Origin) (settings : Settings)
    (response : Json) {batch : Batch} :
    ((outline config settings).batchOf ⟨editor, files, accepts⟩ context origin
        response).result = .ok batch ↔
      (∀ r ∈ Outline.candidates context config.layout .top (Symbol.ofResponse response),
        ∃ shown, accepts r = .ok shown) ∧
      batch = Record.sort ((Outline.candidates context config.layout .top
        (Symbol.ofResponse response)).filter accepts.shows) := by
  show Fault.ofCrash (Outline.ofSymbols context config.layout accepts .top
    (Symbol.ofResponse response) >>= fun shown => .ok (Record.sort shown)) = _ ↔ _
  rw [Fault.ofCrash_eq_ok, bind_eq_ok_iff, Outline.ofSymbols_eq_keep context h]
  simp only [Visibility.keep_eq_ok_iff, Except.ok.injEq]
  constructor
  · rintro ⟨shown, ⟨hall, rfl⟩, rfl⟩
    exact ⟨hall, rfl⟩
  · rintro ⟨hall, rfl⟩
    exact ⟨_, ⟨hall, rfl⟩, rfl⟩

/-- In an outline of a forest in which no symbol starts before the symbol whose child it is, the
record of a symbol comes before the record of every symbol inside it, at any depth, if both are
accepted. It does not matter whether their starts are the same, what else is between them and which
records are left out. There is an outline if there is a verdict on every record. -/
theorem outline_ancestors_first {config : OutlineConfig}
    (hwidth : config.nameWidth.toNat ≤ Text.maxWidth) (editor : Editor) (files : Files)
    (accepts : Visibility) (context : RequestContext) (origin : Origin) (settings : Settings)
    {response : Json} (hfollow : Symbol.ChildrenFollow (Symbol.ofResponse response)) :
    ((∃ batch, ((outline config settings).batchOf ⟨editor, files, accepts⟩ context origin
        response).result = .ok batch) ↔
      ∀ (address : Address) (placed : PlacedSymbol) (r : Record),
        placed.StandsAt (Symbol.ofResponse response) address →
        Outline.IsRecordOf context config.layout .top placed r → ∃ shown, accepts r = .ok shown) ∧
    ∀ batch, ((outline config settings).batchOf ⟨editor, files, accepts⟩ context origin
        response).result = .ok batch →
      ∃ order, Outline.ListsAddresses context config.layout accepts (Symbol.ofResponse response)
          order batch ∧
        ∀ address below : Address, below ≠ [] → address ∈ order → address ++ below ∈ order →
          [address, address ++ below].Sublist order := by
  have hlayout : config.layout.nameWidth ≤ Text.maxWidth := hwidth
  constructor
  · simp only [outline_batchOf_eq_ok_iff hwidth, exists_and_left, exists_eq, and_true]
    rw [Outline.candidates_eq_map_addressed, List.forall_mem_map]
    constructor
    · intro h address placed r hstands hr
      have hmade := Outline.candidate_isRecordOf context hlayout .top placed
      obtain ⟨shown, hshown⟩ := h _ (Symbol.mem_addressed_of_standsAt hstands)
      exact ⟨shown, hmade.unique hr ▸ hshown⟩
    · intro h e he
      exact h e.1 e.2 _ (Symbol.mem_addressed_iff.mp he)
        (Outline.candidate_isRecordOf context hlayout .top e.2)
  · intro batch hbatch
    obtain ⟨-, rfl⟩ := (outline_batchOf_eq_ok_iff hwidth _ _ _ _ _ _ _).mp hbatch
    rw [Outline.sort_filter_candidates]
    refine ⟨_, Outline.listsAddresses_sortedEntries hlayout, ?_⟩
    intro address below hbelow houter hinner
    obtain ⟨e, he, rfl⟩ := List.mem_map.mp houter
    obtain ⟨inner, hinner, haddress⟩ := List.mem_map.mp hinner
    rw [← haddress]
    exact (Outline.pair_sublist_sortedEntries hfollow hbelow haddress
      (Outline.sortedEntries_perm.mem_iff.mp he)
      (Outline.sortedEntries_perm.mem_iff.mp hinner)).map Prod.fst

/-- A heading of this name whose navigation goes to a line. -/
def headingAt (name : String) (line : UInt32) : Heading :=
  ⟨name, none, ⟨5⟩, ⟨⟨0, 0⟩, ⟨9, 1⟩⟩, ⟨⟨line, 4⟩, ⟨line, 7⟩⟩⟩

/-- A symbol that starts late, and one with two levels inside it where all start together. -/
def coincidentForest : List Symbol :=
  [.hierarchical (headingAt "late" 5) none,
    .hierarchical (headingAt "outer" 1) (some
      [.hierarchical (headingAt "middle" 1) (some [.hierarchical (headingAt "inner" 1) none]),
        .hierarchical (headingAt "beside" 1) none])]

theorem coincidentForest_childrenFollow : Symbol.ChildrenFollow coincidentForest := by
  intro address ancestors heading children hstands child hchild
  have hmem := Symbol.mem_addressed_of_standsAt hstands
  simp only [coincidentForest, Symbol.addressed, Symbol.addressedFrom, Symbol.addressedChildren,
    List.map_cons, List.map_nil, Prod.map, PlacedSymbol.under, List.cons_append, List.nil_append,
    List.append_nil, List.mem_cons, List.not_mem_nil, Prod.mk.injEq, PlacedSymbol.mk.injEq,
    Symbol.hierarchical.injEq, Option.some.injEq, reduceCtorEq, and_false, or_false,
    false_or] at hmem
  rcases hmem with ⟨-, -, rfl, rfl⟩ | ⟨-, -, rfl, rfl⟩
  · simp only [List.mem_cons, List.not_mem_nil, or_false] at hchild
    rcases hchild with rfl | rfl <;> exact .inr ⟨rfl, UInt32.le_refl _⟩
  · obtain rfl := List.mem_singleton.mp hchild
    exact .inr ⟨rfl, UInt32.le_refl _⟩

theorem outline_ancestors_first_coincidentForest :
    Symbol.ofResponse (.arr (Symbol.listToJson coincidentForest)) = coincidentForest ∧
      Symbol.ChildrenFollow coincidentForest ∧
      ((outline {} {}).batchOf ⟨closedEditor, loadedFiles, .ofPredicate (·.level != 1)⟩
        Outline.editorContext rootOrigin (.arr (Symbol.listToJson coincidentForest))).result.map
          (·.map (·.word)) =
        .ok ["[Class]         outer", "[Class]         inner", "[Class]         late"] ∧
      ∃ batch order,
        ((outline {} {}).batchOf ⟨closedEditor, loadedFiles, .ofPredicate (·.level != 1)⟩
          Outline.editorContext rootOrigin (.arr (Symbol.listToJson coincidentForest))).result =
            .ok batch ∧
        Outline.ListsAddresses Outline.editorContext ⟨false, 30⟩ (.ofPredicate (·.level != 1))
          coincidentForest order batch ∧
        [[1], [1, 0, 0]].Sublist order := by
  have hread : Symbol.ofResponse (.arr (Symbol.listToJson coincidentForest)) = coincidentForest :=
    rfl
  have hfollow : Symbol.ChildrenFollow
      (Symbol.ofResponse (.arr (Symbol.listToJson coincidentForest))) :=
    hread ▸ coincidentForest_childrenFollow
  obtain ⟨hmade, hfirst⟩ := @outline_ancestors_first {} (by decide) closedEditor loadedFiles
    (.ofPredicate (·.level != 1)) Outline.editorContext rootOrigin {} _ hfollow
  obtain ⟨batch, hbatch⟩ := hmade.mpr fun _ _ r _ _ => ⟨r.level != 1, rfl⟩
  obtain ⟨order, hlists, hbefore⟩ := hfirst batch hbatch
  refine ⟨hread, coincidentForest_childrenFollow, by cbv, batch, order, hbatch, hlists, ?_⟩
  refine hbefore [1] [0, 0] (by decide) ?_ ?_
  · exact (hlists.accepted [1] _ _ (.here rfl)
      (Outline.candidate_isRecordOf _ (by decide) .top _)).mpr rfl
  · exact (hlists.accepted [1, 0, 0] _ _ (.inside rfl (.inside rfl (.here rfl)))
      (Outline.candidate_isRecordOf _ (by decide) .top _)).mpr rfl

end Listing

end CodeListing
