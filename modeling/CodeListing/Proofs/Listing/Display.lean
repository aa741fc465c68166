import CodeListing.Proofs.Listing.Order
import CodeListing.Proofs.Record.Agreement
import CodeListing.Proofs.References.Enrichment

/-!
# Options of display

Whether containers or lines are shown, and how wide the columns are, decides what a record shows and
nothing else: where records go, what they were made from, which of them there are and how they are
ordered is the same under all such options (`Listing.batchOf_agree_under_display`), provided the
predicate on records is blind to their text.

The records are compared where they are made, before anything is sorted or left out. From there on
no step of either listing sees the difference.
-/

namespace CodeListing

/-! ## Outlines -/

namespace Outline

variable (context : RequestContext) {layout layout' : OutlineLayout} {accepts : Visibility}

/-- The candidates of an outline are told apart by their words alone. -/
theorem map_withoutWord_candidates (layout layout' : OutlineLayout) (scope : Scope)
    (forest : List Symbol) :
    (candidates context layout scope forest).map Record.withoutWord =
      (candidates context layout' scope forest).map Record.withoutWord := by
  rw [candidates, candidates, List.map_map, List.map_map]
  simp only [Function.comp_def, Record.withoutWord, Symbol.candidate]

theorem map_withoutWord_batchOf (h : layout.nameWidth ≤ Text.maxWidth) (blind : accepts.IsBlind)
    (response : Json) :
    (batchOf layout accepts context response).map (List.map Record.withoutWord) =
      (accepts.keep ((candidates context layout .top
        (Symbol.ofResponse response)).map Record.withoutWord)).map Record.sort := by
  rw [batchOf, ofSymbols_eq_keep context h, blind.keep_map Record.changesText_withoutWord]
  cases accepts.keep _ with
  | error e => rfl
  | ok shown => exact congrArg Except.ok (Record.sort_map Record.changesText_withoutWord shown).symm

/-- The batch of an outline is the same but for words, whatever its layout. -/
theorem batchOf_agree (h : layout.nameWidth ≤ Text.maxWidth)
    (h' : layout'.nameWidth ≤ Text.maxWidth) (blind : accepts.IsBlind) (response : Json) :
    (batchOf layout accepts context response).map (List.map Record.withoutWord) =
      (batchOf layout' accepts context response).map (List.map Record.withoutWord) := by
  rw [map_withoutWord_batchOf context h blind, map_withoutWord_batchOf context h' blind,
    map_withoutWord_candidates context layout layout']

end Outline

/-! ## References -/

namespace Location

variable {files : Files} {context : RequestContext} {layout layout' : ReferenceLayout}
  {locations : List Location}

/-- Whether a location has a record depends on its start alone, and what is in it besides its text
on the location alone. -/
theorem map_withoutText_record (h : layout.placeWidth ≤ Text.maxWidth)
    (h' : layout'.placeWidth ≤ Text.maxWidth) (l : Location) (lines lines' : LineTable) :
    (l.record context layout lines).map Record.withoutText =
      (l.record context layout' lines').map Record.withoutText := by
  by_cases hstart : l.range.start.IsCountable
  · -- both records are `recordWith` of the location, with texts that are taken off again
    obtain ⟨r, hr⟩ : ∃ r, l.record context layout lines = .ok r := exists_record hstart h lines
    obtain ⟨r', hr'⟩ : ∃ r', l.record context layout' lines' = .ok r' :=
      exists_record hstart h' lines'
    rw [hr, hr', (record_eq_ok_iff.mp hr).1.eq_recordWith,
      (record_eq_ok_iff.mp hr').1.eq_recordWith]
    rfl
  · rw [record_of_not_isCountable hstart, record_of_not_isCountable hstart]

/-- Every file that a line is to be shown of can be read. -/
def LinesReadable (files : Files) (layout : ReferenceLayout) (locations : List Location) : Prop :=
  layout.showLines = true → ∀ path ∈ paths locations, ∃ content, files.Reads path content

theorem exists_loaded (h : LinesReadable files layout locations) :
    ∃ lines, loaded files layout locations = .ok lines := by
  rw [loaded]
  cases hshow : layout.showLines with
  | false => exact ⟨[], rfl⟩
  | true => exact LineTable.exists_load (h hshow)

theorem map_withoutText_records (h : layout.placeWidth ≤ Text.maxWidth)
    (h' : layout'.placeWidth ≤ Text.maxWidth) (hread : LinesReadable files layout locations)
    (hread' : LinesReadable files layout' locations) :
    (records files context layout locations).result.map (List.map Record.withoutText) =
      (records files context layout' locations).result.map (List.map Record.withoutText) := by
  obtain ⟨lines, hlines⟩ := exists_loaded hread
  obtain ⟨lines', hlines'⟩ := exists_loaded hread'
  rw [result_records, result_records, hlines, hlines']
  show (Fault.ofCrash _).map _ = (Fault.ofCrash _).map _
  rw [Fault.map_ofCrash, Fault.map_ofCrash, map_mapM, map_mapM]
  -- the two traversals make the same of every single location
  congr 2
  funext l
  exact map_withoutText_record h h' l lines lines'

end Location

namespace References

variable {context : RequestContext} {layout layout' : ReferenceLayout} {around : Surroundings}
  {response : Json}

theorem map_withoutText_batchOf (blind : around.accepts.IsBlind) :
    (batchOf layout around context response).result.map (List.map Record.withoutText) =
      (Location.records around.files context layout
        (Location.ofResponse response)).result.map (List.map Record.withoutText) >>=
          fun records => Fault.ofCrash (around.accepts.keep (Record.sort records)) := by
  rw [batchOf]
  apply map_bind_of_comm
  intro records
  rw [Fault.map_ofCrash, ← blind.keep_map Record.changesText_withoutText,
    ← Record.sort_map Record.changesText_withoutText]

/-- The batch of references is the same but for words and lines, whatever the layout, if no file is
in the way. -/
theorem batchOf_agree (h : layout.placeWidth ≤ Text.maxWidth)
    (h' : layout'.placeWidth ≤ Text.maxWidth) (blind : around.accepts.IsBlind)
    (hread : Location.LinesReadable around.files layout (Location.ofResponse response))
    (hread' : Location.LinesReadable around.files layout' (Location.ofResponse response)) :
    (batchOf layout around context response).result.map (List.map Record.withoutText) =
      (batchOf layout' around context response).result.map (List.map Record.withoutText) := by
  rw [map_withoutText_batchOf blind, map_withoutText_batchOf blind,
    Location.map_withoutText_records h h' hread hread']

end References

/-! ## Listings -/

namespace Listing

/-- Options of display change what records show and nothing else. Under any two choices of them
there is a batch or the same fault, and where there are batches, the records at each place differ at
most in their words, and in their lines if these are references. -/
theorem batchOf_agree_under_display (around : Surroundings) (blind : around.accepts.IsBlind)
    (context : RequestContext) (origin : Origin) (settings : Settings) (response : Json) :
    (∀ (config : OutlineConfig) (showContainers : Bool) (nameWidth : UInt64),
      config.nameWidth.toNat ≤ Text.maxWidth → nameWidth.toNat ≤ Text.maxWidth →
      AgreeUpTo Record.withoutWord
        ((outline config settings).batchOf around context origin response).result
        ((outline { config with showContainers, nameWidth } settings).batchOf around context origin
          response).result) ∧
    (∀ (config : ReferenceConfig) (showLines : Bool) (placeWidth : UInt64),
      config.placeWidth.toNat ≤ Text.maxWidth → placeWidth.toNat ≤ Text.maxWidth →
      ((config.showLines = true ∨ showLines = true) →
        ∀ path ∈ Location.paths (Location.ofResponse response),
          ∃ content, around.files.Reads path content) →
      AgreeUpTo Record.withoutText
        ((references config settings).batchOf around context origin response).result
        ((references { config with showLines, placeWidth } settings).batchOf around context origin
          response).result) := by
  constructor
  · intro config showContainers nameWidth hwidth hwidth'
    apply AgreeUpTo.of_map_eq
    show (Fault.ofCrash _).map _ = (Fault.ofCrash _).map _
    rw [Fault.map_ofCrash, Fault.map_ofCrash]
    exact congrArg Fault.ofCrash (Outline.batchOf_agree context hwidth hwidth' blind response)
  · intro config showLines placeWidth hwidth hwidth' hfiles
    apply AgreeUpTo.of_map_eq
    exact References.batchOf_agree hwidth hwidth' blind
      (fun hshow => hfiles (.inl hshow)) (fun hshow => hfiles (.inr hshow))

/-- A symbol that its server reports inside another. -/
def containedAnswer : Json :=
  .arr [.obj [("name", .str "f"), ("kind", .ofNat 12), ("containerName", .str "m"),
    ("location", placeEntry "file:///a" 1 4)]]

theorem isBlind_level : (Visibility.ofPredicate (·.level == 0)).IsBlind := by
  intro r r' h
  show Except.ok (r.withoutText.level == 0) = Except.ok (r'.withoutText.level == 0)
  rw [h]

theorem batchOf_agree_under_display_answers :
    ((Outline.candidates Outline.editorContext ⟨false, 30⟩ .top
        (Symbol.ofResponse containedAnswer)).map (·.word) = ["[Function]      f"] ∧
      (Outline.candidates Outline.editorContext ⟨true, 4⟩ .top
        (Symbol.ofResponse containedAnswer)).map (·.word) = ["[Function]      f    [m]"] ∧
      AgreeUpTo Record.withoutWord
        ((outline {} {}).batchOf ⟨closedEditor, loadedFiles, .ofPredicate (·.level == 0)⟩
          Outline.editorContext rootOrigin containedAnswer).result
        ((outline { showContainers := true, nameWidth := 4 } {}).batchOf
          ⟨closedEditor, loadedFiles, .ofPredicate (·.level == 0)⟩
          Outline.editorContext rootOrigin containedAnswer).result) ∧
    (Location.records loadedFiles Outline.editorContext ⟨false, 30, rootOrigin.cwd⟩
        (Location.ofResponse placesAnswer)).result.map (List.map (·.lineText)) =
          .ok [none, none, none] ∧
      (Location.records loadedFiles Outline.editorContext ⟨true, 9, rootOrigin.cwd⟩
        (Location.ofResponse placesAnswer)).result.map (List.map (·.lineText)) =
          .ok [some "f()", some "f()", some "fn f()"] ∧
      AgreeUpTo Record.withoutText
        ((references {} {}).batchOf ⟨closedEditor, loadedFiles, .ofPredicate (·.level == 0)⟩
          Outline.editorContext rootOrigin placesAnswer).result
        ((references { showLines := true, placeWidth := 9 } {}).batchOf
          ⟨closedEditor, loadedFiles, .ofPredicate (·.level == 0)⟩
          Outline.editorContext rootOrigin placesAnswer).result :=
  ⟨⟨rfl, rfl,
    (batchOf_agree_under_display ⟨closedEditor, loadedFiles, .ofPredicate (·.level == 0)⟩
      isBlind_level Outline.editorContext rootOrigin {} containedAnswer).1 {} true 4
      (by decide) (by decide)⟩,
    rfl, rfl,
    (batchOf_agree_under_display ⟨closedEditor, loadedFiles, .ofPredicate (·.level == 0)⟩
      isBlind_level Outline.editorContext rootOrigin {} placesAnswer).2 {} true 9
      (by decide) (by decide) fun _ _ _ => ⟨_, .loaded rfl rfl⟩⟩

end Listing

end CodeListing
