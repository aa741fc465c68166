import CodeListing.Listing.Outline
import CodeListing.Listing.References
import CodeListing.Proofs.Outline.Preorder
import CodeListing.Proofs.Record.Order
import CodeListing.Proofs.References.Records

/-!
# The order of a batch

An outline leaves records out and sorts what is left; references are sorted first, and then records
are left out. Neither order of the two steps can be told from the batch: it is the one stable order
of the candidates that are shown (`Listing.IsOrderOf`, `Listing.batchOf_isOrderOf`).
-/

namespace CodeListing.Listing

/-- `batch` is the one order of the candidates that satisfy `p`. -/
structure IsOrderOf (p : Record → Bool) (candidates : List Record) (batch : Batch) : Prop where
  stable : IsStableSort (·.range.start) (candidates.filter p) batch
  unique : ∀ other, IsStableSort (·.range.start) (candidates.filter p) other → other = batch
  eq_sort_filter : batch = Record.sort (candidates.filter p)
  eq_filter_sort : batch = (Record.sort candidates).filter p

theorem sort_filter_isOrderOf (p : Record → Bool) (candidates : List Record) :
    IsOrderOf p candidates (Record.sort (candidates.filter p)) where
  stable := sortByStart_isStableSort _ _
  unique _ h := h.unique (sortByStart_isStableSort _ _)
  eq_sort_filter := rfl
  eq_filter_sort := (filter_sortByStart _ p candidates).symm

theorem filter_sort_isOrderOf (p : Record → Bool) (candidates : List Record) :
    IsOrderOf p candidates ((Record.sort candidates).filter p) := by
  have h : (Record.sort candidates).filter p = Record.sort (candidates.filter p) :=
    filter_sortByStart _ p candidates
  rw [h]
  exact sort_filter_isOrderOf p candidates

variable {editor : Editor} {files : Files} {context : RequestContext} {origin : Origin}
  {settings : Settings} {response : Json}

theorem outline_batchOf {config : OutlineConfig} (h : config.nameWidth.toNat ≤ Text.maxWidth)
    (p : Record → Bool) :
    ((outline config settings).batchOf ⟨editor, files, .ofPredicate p⟩ context origin
        response).result =
      .ok (Record.sort ((Outline.candidates context config.layout .top
        (Symbol.ofResponse response)).filter p)) := by
  show Fault.ofCrash (Outline.ofSymbols context config.layout (.ofPredicate p) .top
    (Symbol.ofResponse response) >>= fun shown => .ok (Record.sort shown)) = _
  rw [Outline.ofSymbols_eq context h]
  rfl

theorem references_batchOf {config : ReferenceConfig} {candidates : List Record}
    (h : (Location.records files context (config.layout origin.cwd)
      (Location.ofResponse response)).result = .ok candidates) (p : Record → Bool) :
    ((references config settings).batchOf ⟨editor, files, .ofPredicate p⟩ context origin
        response).result =
      .ok ((Record.sort candidates).filter p) := by
  show ((Location.records files context (config.layout origin.cwd)
    (Location.ofResponse response)).result >>= fun records =>
      Fault.ofCrash ((Visibility.ofPredicate p).keep (Record.sort records))) = _
  rw [h]
  show Fault.ofCrash ((Visibility.ofPredicate p).keep (Record.sort candidates)) = _
  rw [Visibility.keep_ofPredicate]
  rfl

/-- Both kinds of listing answer with the one order of the candidates that are shown. The candidates
of an outline are the records of its symbols in pre-order, those of references are the records of
the locations. -/
theorem batchOf_isOrderOf (editor : Editor) (files : Files) (context : RequestContext)
    (origin : Origin) (settings : Settings) (response : Json) (p : Record → Bool) :
    (∀ config : OutlineConfig, config.nameWidth.toNat ≤ Text.maxWidth →
      ∃ candidates batch,
        List.Forall₂ (Outline.IsRecordOf context config.layout .top)
          (Symbol.preorder (Symbol.ofResponse response)) candidates ∧
        ((outline config settings).batchOf ⟨editor, files, .ofPredicate p⟩ context origin
          response).result = .ok batch ∧
        IsOrderOf p candidates batch) ∧
    (∀ (config : ReferenceConfig) (candidates : List Record),
      (Location.records files context (config.layout origin.cwd)
        (Location.ofResponse response)).result = .ok candidates →
      ∃ batch,
        List.Forall₂ (Location.IsRecordOf context (config.layout origin.cwd))
          (Location.ofResponse response) candidates ∧
        ((references config settings).batchOf ⟨editor, files, .ofPredicate p⟩ context origin
          response).result = .ok batch ∧
        IsOrderOf p candidates batch) := by
  constructor
  · intro config hwidth
    exact ⟨_, _, Outline.candidates_isRecordOf context hwidth .top _, outline_batchOf hwidth p,
      sort_filter_isOrderOf p _⟩
  · intro config candidates hmade
    exact ⟨_, Location.forall₂_of_records_eq_ok hmade, references_batchOf hmade p,
      filter_sort_isOrderOf p candidates⟩

/-- A place as servers write it. -/
def placeEntry (file : String) (line character : UInt32) : Json :=
  .obj [("uri", .str file), ("range", (Range.mk ⟨line, character⟩ ⟨line, character⟩).toJson)]

/-- Three places, two of which start together, with something between them that is no place. -/
def placesAnswer : Json :=
  .arr [placeEntry "file:///b" 1 4, .null, placeEntry "file:///a" 1 4, placeEntry "file:///a" 0 0]

/-- Two symbols, the later of them first. -/
def symbolsAnswer : Json :=
  .arr [.obj [("name", .str "g"), ("kind", .ofNat 12), ("location", placeEntry "file:///a" 1 4)],
    .obj [("name", .str "f"), ("kind", .ofNat 12), ("location", placeEntry "file:///a" 0 0)]]

/-- An editor in which every file is loaded with the same lines. -/
def loadedFiles : Files where
  isLoaded _ := .ok true
  readBuffer _ := .ok ["fn f()", "    f()"]
  readDisk _ := .ok []

def closedEditor : Editor where
  bufferPath _ := .error (.editor "no buffer")
  cursor _ := .error (.editor "no window")
  line _ _ := .error (.editor "no buffer")

def rootOrigin : Origin := ⟨7, 1, .ofText "/"⟩

theorem batchOf_isOrderOf_answers :
    (30 ≤ Text.maxWidth ∧ (Symbol.ofResponse symbolsAnswer).map (·.name) = ["g", "f"] ∧
      ∃ candidates batch,
        List.Forall₂ (Outline.IsRecordOf Outline.editorContext ⟨false, 30⟩ .top)
          (Symbol.preorder (Symbol.ofResponse symbolsAnswer)) candidates ∧
        ((outline {} {}).batchOf ⟨closedEditor, loadedFiles, .ofPredicate (·.range.start.line == 1)⟩
          Outline.editorContext rootOrigin symbolsAnswer).result = .ok batch ∧
        IsOrderOf (·.range.start.line == 1) candidates batch) ∧
    ∃ candidates,
      (Location.records loadedFiles Outline.editorContext ⟨true, 30, rootOrigin.cwd⟩
        (Location.ofResponse placesAnswer)).result = .ok candidates ∧
      candidates.map (·.lineText) = [some "f()", some "f()", some "fn f()"] ∧
      ∃ batch,
        List.Forall₂ (Location.IsRecordOf Outline.editorContext ⟨true, 30, rootOrigin.cwd⟩)
          (Location.ofResponse placesAnswer) candidates ∧
        ((references { showLines := true } {}).batchOf
          ⟨closedEditor, loadedFiles, .ofPredicate (·.range.start.line == 1)⟩
          Outline.editorContext rootOrigin placesAnswer).result = .ok batch ∧
        IsOrderOf (·.range.start.line == 1) candidates batch :=
  ⟨⟨by decide, rfl,
    (batchOf_isOrderOf closedEditor loadedFiles Outline.editorContext rootOrigin {} symbolsAnswer
      (·.range.start.line == 1)).1 {} (by decide)⟩,
    _, rfl, rfl,
    (batchOf_isOrderOf closedEditor loadedFiles Outline.editorContext rootOrigin {} placesAnswer
      (·.range.start.line == 1)).2 { showLines := true } _ rfl⟩

end CodeListing.Listing
