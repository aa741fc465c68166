import CodeListing.Proofs.Listing.Order
import CodeListing.Proofs.References.Enrichment

/-!
# What a response can do to a listing of references

Whatever a server answers, what does not read as a place is left out and the places that are left
are listed, with one exception: the label of a place shows its line and character counted from one,
and the greatest number of 32 bits has no next one. A single place that starts there crashes the
work on the whole response (`Listing.references_batchOf_iff_countable`). Nothing else in a response
is in the way of a batch.
-/

namespace CodeListing

/-- An access to files that answers: it knows which files are loaded and reads those that are. What
stands on the disk need not be readable. -/
structure Files.Answers (files : Files) : Prop where
  isLoaded : ∀ path : Path, ∃ loaded, files.isLoaded path = .ok loaded
  readBuffer : ∀ path : Path, ∃ content, files.readBuffer path = .ok content

variable {files : Files} {context : RequestContext} {layout : ReferenceLayout}

theorem Files.Answers.exists_reads (h : files.Answers) (path : Path) :
    ∃ content, files.Reads path content := by
  obtain ⟨loaded, hloaded⟩ := h.isLoaded path
  cases loaded with
  | false => exact exists_reads_of_not_loaded hloaded
  | true =>
    obtain ⟨content, hcontent⟩ := h.readBuffer path
    exact ⟨content, .loaded hloaded hcontent⟩

theorem Files.Answers.exists_loaded (h : files.Answers) (layout : ReferenceLayout)
    (locations : List Location) : ∃ lines, Location.loaded files layout locations = .ok lines := by
  rw [Location.loaded]
  split
  · exact LineTable.exists_load fun path _ => h.exists_reads path
  · exact ⟨[], rfl⟩

namespace Listing

variable {editor : Editor} {origin : Origin} {settings : Settings} {response : Json}

theorem references_batchOf_of_error {config : ReferenceConfig} {fault : Fault}
    (h : (Location.records files context (config.layout origin.cwd)
      (Location.ofResponse response)).result = .error fault) (accepts : Visibility) :
    ((references config settings).batchOf ⟨editor, files, accepts⟩ context origin
        response).result = .error fault := by
  show ((Location.records files context (config.layout origin.cwd)
    (Location.ofResponse response)).result >>= fun records =>
      Fault.ofCrash (accepts.keep (Record.sort records))) = _
  rw [h]
  rfl

/-- Where files answer and the column of places is not too wide, a response gives a batch exactly if
every place in it starts where lines and characters can be counted from one. The batch is the one
order of the records of these places that are shown. Otherwise the work on the response crashes; it
never fails in another way. -/
theorem references_batchOf_iff_countable (config : ReferenceConfig)
    (hwidth : config.placeWidth.toNat ≤ Text.maxWidth) (hfiles : files.Answers) (editor : Editor)
    (context : RequestContext) (origin : Origin) (settings : Settings) (response : Json)
    (p : Record → Bool) :
    ((∃ batch, ((references config settings).batchOf ⟨editor, files, .ofPredicate p⟩ context origin
        response).result = .ok batch) ↔
      ∀ l ∈ Location.ofResponse response, l.range.start.IsCountable) ∧
    (∀ batch, ((references config settings).batchOf ⟨editor, files, .ofPredicate p⟩ context origin
        response).result = .ok batch →
      ∃ candidates,
        List.Forall₂ (Location.IsRecordOf context (config.layout origin.cwd))
          (Location.ofResponse response) candidates ∧
        IsOrderOf p candidates batch) ∧
    (∀ fault, ((references config settings).batchOf ⟨editor, files, .ofPredicate p⟩ context origin
        response).result = .error fault → fault = .crash .numberOverflow) := by
  obtain ⟨lines, hlines⟩ :=
    hfiles.exists_loaded (config.layout origin.cwd) (Location.ofResponse response)
  by_cases hstarts : ∀ l ∈ Location.ofResponse response, l.range.start.IsCountable
  · obtain ⟨candidates, hmade⟩ : ∃ candidates,
        (Location.records files context (config.layout origin.cwd)
          (Location.ofResponse response)).result = .ok candidates :=
      Location.exists_records_of_loaded hlines hwidth hstarts
    rw [references_batchOf hmade]
    refine ⟨⟨fun _ => hstarts, fun _ => ⟨_, rfl⟩⟩, ?_, ?_⟩
    · intro batch h
      obtain rfl := Except.ok.inj h
      exact ⟨candidates, Location.forall₂_of_records_eq_ok hmade,
        filter_sort_isOrderOf p candidates⟩
    · intro fault h
      cases h
  · have hmade : (Location.records files context (config.layout origin.cwd)
        (Location.ofResponse response)).result = .error (.crash .numberOverflow) := by
      refine Location.records_of_not_isCountable hlines hwidth ?_
      simpa using hstarts
    rw [references_batchOf_of_error hmade]
    refine ⟨⟨?_, fun h => absurd h hstarts⟩, ?_, ?_⟩
    · rintro ⟨batch, h⟩
      cases h
    · intro batch h
      cases h
    · intro fault h
      exact (Except.error.inj h).symm

theorem loadedFiles_answers : loadedFiles.Answers where
  isLoaded _ := ⟨true, rfl⟩
  readBuffer _ := ⟨_, rfl⟩

/-- Places at the last line and the last character that can be counted from one, with something
between them that is no place. -/
def lastPlacesAnswer : Json :=
  .arr [placeEntry "file:///a" 4294967294 0, .bool true, placeEntry "file:///b" 1 4294967294]

theorem references_batchOf_iff_countable_lastPlaces :
    (30 ≤ Text.maxWidth ∧ loadedFiles.Answers ∧
      (Location.ofResponse lastPlacesAnswer).map (·.range.start) =
        [⟨4294967294, 0⟩, ⟨1, 4294967294⟩]) ∧
    ∃ batch, ((references { showLines := true } {}).batchOf
      ⟨closedEditor, loadedFiles, .ofPredicate fun _ => true⟩ Outline.editorContext rootOrigin
        lastPlacesAnswer).result = .ok batch := by
  refine ⟨⟨by decide, loadedFiles_answers, rfl⟩, ?_⟩
  have h := references_batchOf_iff_countable { showLines := true } (by decide) loadedFiles_answers
    closedEditor Outline.editorContext rootOrigin {} lastPlacesAnswer fun _ => true
  refine h.1.mpr ?_
  have hplaces : Location.ofResponse lastPlacesAnswer =
      [⟨⟨"file:///a", by decide⟩, ⟨⟨4294967294, 0⟩, ⟨4294967294, 0⟩⟩⟩,
        ⟨⟨"file:///b", by decide⟩, ⟨⟨1, 4294967294⟩, ⟨1, 4294967294⟩⟩⟩] := rfl
  simp [hplaces, Position.IsCountable, UInt32.size]

/-- A single place one line further down crashes the work on a response. -/
theorem not_references_batchOf_of_last_line :
    ¬ ∀ (config : ReferenceConfig) (files : Files) (editor : Editor) (context : RequestContext)
      (origin : Origin) (settings : Settings) (response : Json) (p : Record → Bool),
      config.placeWidth.toNat ≤ Text.maxWidth → files.Answers →
      ∃ batch, ((references config settings).batchOf ⟨editor, files, .ofPredicate p⟩ context origin
        response).result = .ok batch := by
  intro h
  obtain ⟨batch, hbatch⟩ := h {} loadedFiles closedEditor Outline.editorContext rootOrigin {}
    (.arr [placeEntry "file:///a" 4294967295 0]) (fun _ => true) (by decide) loadedFiles_answers
  have hcrash : ((references {} {}).batchOf ⟨closedEditor, loadedFiles, .ofPredicate fun _ => true⟩
      Outline.editorContext rootOrigin (.arr [placeEntry "file:///a" 4294967295 0])).result =
      .error (.crash .numberOverflow) := rfl
  rw [hcrash] at hbatch
  cases hbatch

end Listing

end CodeListing
