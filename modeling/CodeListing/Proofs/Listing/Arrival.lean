import CodeListing.Proofs.Listing.Context
import CodeListing.Proofs.Listing.Order
import CodeListing.Proofs.References.Enrichment
import CodeListing.Proofs.Symbol.Locality
import Mathlib

/-!
# The order of arrival

A server lists its results in some order, and the batch that is made of them is sorted. So if the
results arrive in another order the batch has the same records, and another order only among those
that start together (`Listing.batchOf_perm`).

The one place where the order of arrival is looked at before the sort is the table of lines, which
is read under the spelling of a path that comes first. It makes no difference where access to files
does not tell spellings apart.
-/

namespace CodeListing

/-! ## Traversals -/

/-- Trying the elements of a list in another order gives the results in another order. -/
theorem exists_mapM_of_perm {ε α β : Type} {f : α → Except ε β} {xs xs' : List α} {ys : List β}
    (h : xs.Perm xs') (hmade : xs.mapM f = .ok ys) : ∃ ys', xs'.mapM f = .ok ys' ∧ ys.Perm ys' := by
  obtain ⟨ys', hmade', hperm⟩ := List.perm_comp_forall₂ h.symm (mapM_eq_ok_iff.mp hmade)
  exact ⟨ys', mapM_eq_ok_iff.mpr hmade', hperm.symm⟩

theorem Visibility.exists_keep_of_perm {accepts : Visibility} {records records' kept : List Record}
    (h : records.Perm records') (hkept : accepts.keep records = .ok kept) :
    ∃ kept', accepts.keep records' = .ok kept' ∧ kept.Perm kept' := by
  obtain ⟨hall, rfl⟩ := keep_eq_ok_iff.mp hkept
  exact ⟨_, keep_eq_ok_iff.mpr ⟨fun r hr => hall r (h.mem_iff.mpr hr), rfl⟩, h.filter _⟩

theorem Record.sort_perm_of_perm {records records' : List Record} (h : records.Perm records') :
    (sort records).Perm (sort records') :=
  (List.mergeSort_perm records _).trans (h.trans (List.mergeSort_perm records' _).symm)

/-! ## Outlines -/

theorem Symbol.preorder_eq_flatMap (forest : List Symbol) :
    preorder forest = forest.flatMap preorderFrom := by
  induction forest with
  | nil => rfl
  | cons s ss ih => rw [preorder, ih, List.flatMap_cons]

namespace Outline

variable {context : RequestContext} {layout : OutlineLayout} {accepts : Visibility}

/-- A forest with its trees in another order has the same records in another order. -/
theorem exists_ofSymbols_of_perm {forest forest' : List Symbol} {scope : Scope}
    {records : List Record} (h : forest.Perm forest')
    (hmade : ofSymbols context layout accepts scope forest = .ok records) :
    ∃ records', ofSymbols context layout accepts scope forest' = .ok records' ∧
      records.Perm records' := by
  rw [ofSymbols_eq_ofPlaces, Symbol.preorder_eq_flatMap] at hmade ⊢
  obtain ⟨owns, howns, hrecords⟩ := bind_eq_ok_iff.mp hmade
  obtain rfl : owns.flatten = records := Except.ok.inj hrecords
  obtain ⟨owns', howns', hperm⟩ := exists_mapM_of_perm (h.flatMap_right _) howns
  exact ⟨owns'.flatten, bind_eq_ok_iff.mpr ⟨owns', howns', rfl⟩, hperm.flatten⟩

end Outline

/-! ## References -/

namespace Location

variable {files : Files} {context : RequestContext} {layout : ReferenceLayout}
  {locations locations' : List Location}

/-- The lines of locations that arrive in another order can be loaded too, and every location finds
the same line among them, though it may have been read under another spelling. -/
theorem exists_loaded_of_perm {lines : LineTable}
    (hfiles : layout.showLines = true → files.Coherent) (h : locations.Perm locations')
    (hlines : loaded files layout locations = .ok lines) :
    ∃ lines', loaded files layout locations' = .ok lines' ∧
      ∀ l ∈ locations', l.lineIn lines' = l.lineIn lines := by
  cases hshow : layout.showLines with
  | false =>
    rw [loaded, hshow] at hlines ⊢
    exact ⟨lines, hlines, fun _ _ => rfl⟩
  | true =>
    rw [loaded, hshow] at hlines ⊢
    have hcoherent := hfiles hshow
    -- whatever spelling was read, what is found is what the location's own path has
    have hfound : ∀ l ∈ locations', ∃ content, lines.lookup l.uri.toPath = some content ∧
        files.Reads l.uri.toPath content := fun l hl =>
      LineTable.lookup_of_load hcoherent hlines (h.mem_iff.mpr hl)
    obtain ⟨lines', hlines'⟩ : ∃ lines', (LineTable.load files locations').result = .ok lines' := by
      refine LineTable.exists_load_of_locations fun l hl => ?_
      obtain ⟨content, -, hreads⟩ := hfound l hl
      exact ⟨content, hreads⟩
    refine ⟨lines', hlines', fun l hl => ?_⟩
    obtain ⟨content, hlookup, hreads⟩ := hfound l hl
    obtain ⟨content', hlookup', hreads'⟩ :=
      LineTable.lookup_of_load hcoherent hlines' hl
    rw [lineIn, lineIn, hlookup, hlookup', hreads.unique hreads']

theorem exists_records_of_perm {records : List Record}
    (hfiles : layout.showLines = true → files.Coherent) (h : locations.Perm locations')
    (hmade : (Location.records files context layout locations).result = .ok records) :
    ∃ records', (Location.records files context layout locations').result = .ok records' ∧
      records.Perm records' := by
  obtain ⟨lines, hlines, hrecords⟩ := records_eq_ok_iff.mp hmade
  obtain ⟨lines', hlines', hsame⟩ := exists_loaded_of_perm hfiles h hlines
  obtain ⟨records', hrecords', hperm⟩ := List.perm_comp_forall₂ h.symm hrecords
  refine ⟨records', records_eq_ok_iff.mpr ⟨lines', hlines', ?_⟩, hperm.symm⟩
  have hmem : ∀ l ∈ locations', l ∈ locations' := fun _ hl => hl
  refine ((List.forall₂_and_left _ _).mpr ⟨hmem, hrecords'⟩).imp ?_
  rintro l r ⟨hl, hr, hline⟩
  exact ⟨hr, hline.trans (hsame l hl).symm⟩

end Location

/-! ## Batches -/

namespace Listing

/-- Two runs that differ at most in the order of records that start together. -/
structure SameButTies (work work' : Except Fault Batch) : Prop where
  yields : (∃ batch, work = .ok batch) ↔ ∃ batch', work' = .ok batch'
  perm : ∀ batch batch', work = .ok batch → work' = .ok batch' → batch.Perm batch'
  starts : ∀ batch batch', work = .ok batch → work' = .ok batch' →
    batch.map (·.range.start) = batch'.map (·.range.start)
  eq_of_distinct : ∀ batch batch', work = .ok batch → work' = .ok batch' →
    batch.Pairwise (fun r s => r.range.start ≠ s.range.start) → batch = batch'

/-- The records of a batch ascend. -/
def Ascends (work : Except Fault Batch) : Prop :=
  ∀ batch, work = .ok batch →
    batch.Pairwise fun r s => r.range.start.atOrBefore s.range.start = true

/-- If each of two runs gives what the other one gives, up to the order, and batches ascend, then
they differ in nothing but ties. -/
theorem sameButTies_of_perm {work work' : Except Fault Batch} (hwork : Ascends work)
    (hwork' : Ascends work')
    (h : ∀ batch, work = .ok batch → ∃ batch', work' = .ok batch' ∧ batch.Perm batch')
    (h' : ∀ batch, work' = .ok batch → ∃ batch', work = .ok batch' ∧ batch.Perm batch') :
    SameButTies work work' := by
  have hperm : ∀ batch batch', work = .ok batch → work' = .ok batch' → batch.Perm batch' := by
    intro batch batch' hbatch hbatch'
    obtain ⟨made, hmade, hperm⟩ := h batch hbatch
    rwa [← Except.ok.inj (hmade.symm.trans hbatch')]
  constructor
  · exact ⟨fun ⟨batch, hbatch⟩ => (h batch hbatch).imp fun _ => And.left,
      fun ⟨batch', hbatch'⟩ => (h' batch' hbatch').imp fun _ => And.left⟩
  · exact hperm
  · intro batch batch' hbatch hbatch'
    exact @map_start_eq_of_perm Record (·.range.start) batch batch'
      (hperm batch batch' hbatch hbatch') (hwork batch hbatch) (hwork' batch' hbatch')
  · intro batch batch' hbatch hbatch'
    exact @eq_of_perm_of_pairwise_ne Record (·.range.start) batch batch'
      (hperm batch batch' hbatch hbatch') (hwork batch hbatch) (hwork' batch' hbatch')

variable {around : Surroundings} {context : RequestContext} {origin : Origin} {settings : Settings}

theorem outline_ascends (config : OutlineConfig) (response : Json) :
    Ascends ((outline config settings).batchOf around context origin response).result := by
  intro batch hbatch
  obtain ⟨shown, -, h⟩ := bind_eq_ok_iff.mp (Fault.ofCrash_eq_ok.mp hbatch)
  obtain rfl : Record.sort shown = batch := Except.ok.inj h
  exact pairwise_sortByStart _ shown

theorem references_ascends (config : ReferenceConfig) (response : Json) :
    Ascends ((references config settings).batchOf around context origin response).result := by
  intro batch hbatch
  obtain ⟨records, -, hkept⟩ := bind_eq_ok_iff.mp hbatch
  exact (pairwise_sortByStart _ records).sublist
    (Visibility.keep_sublist (Fault.ofCrash_eq_ok.mp hkept))

theorem exists_outline_of_perm {config : OutlineConfig} {items items' : List Json} {batch : Batch}
    (h : items.Perm items')
    (hmade : ((outline config settings).batchOf around context origin (.arr items)).result =
      .ok batch) :
    ∃ batch', ((outline config settings).batchOf around context origin (.arr items')).result =
      .ok batch' ∧ batch.Perm batch' := by
  have hforest : (Symbol.ofResponse (.arr items)).Perm (Symbol.ofResponse (.arr items')) := by
    show (Symbol.ofElements items).Perm (Symbol.ofElements items')
    rw [Symbol.ofElements_eq, Symbol.ofElements_eq]
    exact h.filterMap _
  obtain ⟨shown, hshown, hbatch⟩ := bind_eq_ok_iff.mp (Fault.ofCrash_eq_ok.mp hmade)
  obtain rfl : Record.sort shown = batch := Except.ok.inj hbatch
  obtain ⟨shown', hshown', hperm⟩ := Outline.exists_ofSymbols_of_perm hforest hshown
  exact ⟨_, Fault.ofCrash_eq_ok.mpr (bind_eq_ok_iff.mpr ⟨shown', hshown', rfl⟩),
    Record.sort_perm_of_perm hperm⟩

theorem exists_references_of_perm {config : ReferenceConfig} {items items' : List Json}
    {batch : Batch} (hfiles : config.showLines = true → around.files.Coherent)
    (h : items.Perm items')
    (hmade : ((references config settings).batchOf around context origin (.arr items)).result =
      .ok batch) :
    ∃ batch', ((references config settings).batchOf around context origin (.arr items')).result =
      .ok batch' ∧ batch.Perm batch' := by
  obtain ⟨records, hrecords, hkept⟩ := bind_eq_ok_iff.mp hmade
  obtain ⟨records', hrecords', hperm⟩ :=
    Location.exists_records_of_perm hfiles (h.filterMap Location.ofJson?) hrecords
  obtain ⟨batch', hkept', hshown⟩ :=
    Visibility.exists_keep_of_perm (Record.sort_perm_of_perm hperm) (Fault.ofCrash_eq_ok.mp hkept)
  exact ⟨batch', bind_eq_ok_iff.mpr ⟨records', hrecords', Fault.ofCrash_eq_ok.mpr hkept'⟩, hshown⟩

/-- The order in which a server lists its results matters only for records that start together. -/
theorem batchOf_perm (around : Surroundings) (context : RequestContext) (origin : Origin)
    (settings : Settings) {items items' : List Json} (h : items.Perm items') :
    (∀ config : OutlineConfig,
      SameButTies
        ((outline config settings).batchOf around context origin (.arr items)).result
        ((outline config settings).batchOf around context origin (.arr items')).result) ∧
    ∀ config : ReferenceConfig, (config.showLines = true → around.files.Coherent) →
      SameButTies
        ((references config settings).batchOf around context origin (.arr items)).result
        ((references config settings).batchOf around context origin (.arr items')).result := by
  constructor
  · intro config
    exact sameButTies_of_perm (outline_ascends config _) (outline_ascends config _)
      (fun _ => exists_outline_of_perm h) (fun _ => exists_outline_of_perm h.symm)
  · intro config hfiles
    exact sameButTies_of_perm (references_ascends config _) (references_ascends config _)
      (fun _ => exists_references_of_perm hfiles h)
      (fun _ => exists_references_of_perm hfiles h.symm)

/-- Two lines of a file in two spellings, a line of another file that starts where one of them
does, and something that is no place. -/
def twoSpellings : List Json :=
  [placeEntry "file:///p/a" 1 4, .null, placeEntry "file:///p/b" 1 4, placeEntry "file:///p//a" 0 3]

/-- An editor with one file loaded and one on the disk, where everything is shown. -/
def aroundTwoFiles : Surroundings :=
  ⟨closedEditor, Location.oneOnDisk (.ok ["", "g"]), .ofPredicate fun _ => true⟩

/-- References with their lines, in a narrow column. -/
def linesConfig : ReferenceConfig := { showLines := true, placeWidth := 8 }

theorem batchOf_perm_twoSpellings :
    twoSpellings.Perm twoSpellings.reverse ∧ aroundTwoFiles.files.Coherent ∧
      ((references linesConfig {}).batchOf aroundTwoFiles Location.referencesContext rootOrigin
        (.arr twoSpellings)).result.map (·.map (·.word)) =
        .ok ["p//a:1:4 fn f()", "p/a:2:5  f()", "p/b:2:5  g"] ∧
      ((references linesConfig {}).batchOf aroundTwoFiles Location.referencesContext rootOrigin
        (.arr twoSpellings.reverse)).result.map (·.map (·.word)) =
        .ok ["p//a:1:4 fn f()", "p/b:2:5  g", "p/a:2:5  f()"] ∧
      (∀ config : OutlineConfig,
        SameButTies
          ((outline config {}).batchOf aroundTwoFiles Location.referencesContext rootOrigin
            (.arr twoSpellings)).result
          ((outline config {}).batchOf aroundTwoFiles Location.referencesContext rootOrigin
            (.arr twoSpellings.reverse)).result) ∧
      SameButTies
        ((references linesConfig {}).batchOf aroundTwoFiles Location.referencesContext rootOrigin
          (.arr twoSpellings)).result
        ((references linesConfig {}).batchOf aroundTwoFiles Location.referencesContext rootOrigin
          (.arr twoSpellings.reverse)).result :=
  have hperm : twoSpellings.Perm twoSpellings.reverse := (List.reverse_perm _).symm
  have hcoherent : aroundTwoFiles.files.Coherent := Location.oneOnDisk_coherent _
  have h := batchOf_perm aroundTwoFiles Location.referencesContext rootOrigin {} hperm
  ⟨hperm, hcoherent, by cbv, by cbv, h.1, h.2 linesConfig fun _ => hcoherent⟩

end Listing

end CodeListing
