import CodeListing.Proofs.Uri.Foreign

/-!
# The lines of references that name no file

The lines of a location are those that were read where its path is mentioned first
(`LineTable.exists_first_of_load`). For a file the first mention is another spelling of its path.
The URIs of another scheme are read as they are spelled, but those that have the same pieces between
their slashes share what was read for the first of them (`Location.foreign_read_at_first_mention`),
even where a host knows them as different resources (`Location.not_foreign_read_alone`).
-/

namespace CodeListing

/-! ## Foreign references -/

namespace Location

variable {files : Files} {locations : List Location} {lines : LineTable} {l : Location}

/-- The first location with a foreign reference of these pieces. -/
def firstForeign? (locations : List Location) (pieces : List (List Char)) : Option Location :=
  locations.find? fun l => l.uri.isForeign && l.uri.pieces == pieces

theorem exists_firstForeign (h : (LineTable.load files locations).result = .ok lines)
    (hl : l ∈ locations) (hforeign : l.uri.isForeign = true) :
    ∃ first content, firstForeign? locations l.uri.pieces = some first ∧
      files.Reads (.ofText first.uri.text) content ∧
      lines.filter (·.1.same l.uri.toPath) = [(.ofText first.uri.text, content)] := by
  obtain ⟨first, content, hfirst, hreads, hentry⟩ := LineTable.exists_first_of_load h hl
  have hsame : ∀ l' : Location, l'.uri.toPath.same l.uri.toPath =
      (l'.uri.isForeign && l'.uri.pieces == l.uri.pieces) := by
    intro l'
    rw [Bool.eq_iff_iff, Uri.toPath_same_iff hforeign]
    simp
  have hfound : first.uri.toPath.same l.uri.toPath = true := by
    simpa using List.find?_some hfirst
  have hfirst' : first.uri.isForeign = true := ((Uri.toPath_same_iff hforeign _).mp hfound).1
  rw [Uri.toPath_of_isForeign hfirst'] at hreads hentry
  refine ⟨first, content, ?_, hreads, hentry⟩
  rw [firstForeign?, ← hfirst]
  simp only [hsame]

/-- Two foreign references of a response have one entry in the table of lines just if they have the
same pieces, and where lines are shown, the line of each record is one that was read for the first
reference with the pieces of its own, as that reference is spelled. So a record shows a line of its
own reference wherever no other one with these pieces is mentioned before. -/
theorem foreign_read_at_first_mention (files : Files) (locations : List Location) :
    (∀ lines, (LineTable.load files locations).result = .ok lines →
      ∀ l ∈ locations, ∀ l' ∈ locations, l.uri.isForeign = true → l'.uri.isForeign = true →
        ∃ entry ∈ lines, ∃ entry' ∈ lines,
          lines.filter (·.1.same l.uri.toPath) = [entry] ∧
          lines.filter (·.1.same l'.uri.toPath) = [entry'] ∧
          (entry = entry' ↔ l.uri.pieces = l'.uri.pieces)) ∧
    ∀ (context : RequestContext) (layout : ReferenceLayout) (records : List Record),
      layout.showLines = true →
      (Location.records files context layout locations).result = .ok records →
      List.Forall₂ (fun l r => l.uri.isForeign = true →
        ∃ first content, firstForeign? locations l.uri.pieces = some first ∧
          files.Reads (.ofText first.uri.text) content ∧
          ShownLine content l.range.start.line r.lineText) locations records := by
  constructor
  · intro lines h l hl l' hl' hforeign hforeign'
    obtain ⟨first, content, hfirst, -, hentry⟩ := exists_firstForeign h hl hforeign
    obtain ⟨first', content', hfirst', -, hentry'⟩ := exists_firstForeign h hl' hforeign'
    have hmem : (Path.ofText first.uri.text, content) ∈
        lines.filter (·.1.same l.uri.toPath) := hentry ▸ List.mem_singleton_self _
    have hmem' : (Path.ofText first'.uri.text, content') ∈
        lines.filter (·.1.same l'.uri.toPath) := hentry' ▸ List.mem_singleton_self _
    refine ⟨_, List.mem_of_mem_filter hmem, _, List.mem_of_mem_filter hmem', hentry, hentry', ?_⟩
    constructor
    · intro heq
      rw [heq] at hmem
      have hsame := Path.same_iff.mp (List.mem_filter.mp hmem).2
      have hsame' := Path.same_iff.mp (List.mem_filter.mp hmem').2
      have hpaths : l.uri.toPath.same l'.uri.toPath = true :=
        Path.same_iff.mpr (hsame.symm.trans hsame')
      exact ((Uri.toPath_same_iff hforeign' _).mp hpaths).2
    · intro hpieces
      have hpaths : l.uri.toPath.same l'.uri.toPath = true :=
        (Uri.toPath_same_iff hforeign' _).mpr ⟨hforeign, hpieces⟩
      simp only [Path.same_congr hpaths, hentry'] at hentry
      exact (List.cons.inj hentry).1.symm
  · intro context layout records hshow h
    obtain ⟨lines, hlines, hrecords⟩ := records_eq_ok_iff.mp h
    rw [loaded, if_pos hshow] at hlines
    have hmem : ∀ l ∈ locations, l ∈ locations := fun _ hl => hl
    refine ((List.forall₂_and_left _ _).mpr ⟨hmem, hrecords⟩).imp ?_
    rintro l r ⟨hl, -, hline⟩ hforeign
    obtain ⟨first, content, hfirst, hreads, hentry⟩ := exists_firstForeign hlines hl hforeign
    refine ⟨first, content, hfirst, hreads, shownLine_iff.mpr ?_⟩
    rw [hline, lineIn, LineTable.lookup_of_filter hentry]
    rfl

/-- References of one scheme, of which two have the same pieces. -/
def onceSlashed : Location := ⟨{ text := "jdt://a/b" }, ⟨⟨0, 0⟩, ⟨0, 1⟩⟩⟩

def twiceSlashed : Location := ⟨{ text := "jdt://a//b" }, ⟨⟨0, 0⟩, ⟨0, 1⟩⟩⟩

def otherPieces : Location := ⟨{ text := "jdt://a/c" }, ⟨⟨0, 0⟩, ⟨0, 1⟩⟩⟩

def slashPlaces : List Location := [onceSlashed, twiceSlashed, otherPieces]

/-- A host in which each of them is loaded, with a line of its own. -/
def slashBuffers : Files where
  isLoaded _ := .ok true
  readBuffer path :=
    .ok [if path = .ofText "jdt://a/b" then "x" else if path = .ofText "jdt://a//b" then "y"
      else "z"]
  readDisk _ := .error (.io "not found")

/-- The lines that are read of them. -/
def slashLines : LineTable := [(.ofText "jdt://a/b", ["x"]), (.ofText "jdt://a/c", ["z"])]

theorem load_slashPlaces : (LineTable.load slashBuffers slashPlaces).result = .ok slashLines := by
  decide +kernel

theorem records_slashPlaces :
    (Location.records slashBuffers referencesContext ⟨true, 10, .ofText "/"⟩ slashPlaces).result =
      .ok [onceSlashed.recordWith referencesContext "jdt://a/b:1:1 x" (some "x"),
        twiceSlashed.recordWith referencesContext "jdt://a//b:1:1 x" (some "x"),
        otherPieces.recordWith referencesContext "jdt://a/c:1:1 z" (some "z")] :=
  rfl

theorem foreign_read_at_first_mention_slashPlaces :
    (∃ entry ∈ slashLines, slashLines.filter (·.1.same onceSlashed.uri.toPath) = [entry] ∧
      slashLines.filter (·.1.same twiceSlashed.uri.toPath) = [entry]) ∧
    (∃ entry ∈ slashLines, ∃ entry' ∈ slashLines, entry ≠ entry' ∧
      slashLines.filter (·.1.same onceSlashed.uri.toPath) = [entry] ∧
      slashLines.filter (·.1.same otherPieces.uri.toPath) = [entry']) ∧
    List.Forall₂ (fun l r => l.uri.isForeign = true →
      ∃ first content, firstForeign? slashPlaces l.uri.pieces = some first ∧
        slashBuffers.Reads (.ofText first.uri.text) content ∧
        ShownLine content l.range.start.line r.lineText) slashPlaces
      [onceSlashed.recordWith referencesContext "jdt://a/b:1:1 x" (some "x"),
        twiceSlashed.recordWith referencesContext "jdt://a//b:1:1 x" (some "x"),
        otherPieces.recordWith referencesContext "jdt://a/c:1:1 z" (some "z")] := by
  obtain ⟨hentries, hrecords⟩ := foreign_read_at_first_mention slashBuffers slashPlaces
  have honce : onceSlashed ∈ slashPlaces := by simp [slashPlaces]
  have htwice : twiceSlashed ∈ slashPlaces := by simp [slashPlaces]
  have hother : otherPieces ∈ slashPlaces := by simp [slashPlaces]
  obtain ⟨entry, hmem, entry', -, hentry, hentry', hiff⟩ :=
    hentries _ load_slashPlaces _ honce _ htwice (by decide) (by decide)
  obtain ⟨entry₁, hmem₁, entry₂, hmem₂, hentry₁, hentry₂, hiff'⟩ :=
    hentries _ load_slashPlaces _ honce _ hother (by decide) (by decide)
  have hsame : entry = entry' := hiff.mpr (by decide)
  have hapart : entry₁ ≠ entry₂ := fun h => absurd (hiff'.mp h) (by decide)
  exact ⟨⟨entry, hmem, hentry, hsame ▸ hentry'⟩,
    ⟨entry₁, hmem₁, entry₂, hmem₂, hapart, hentry₁, hentry₂⟩,
    hrecords _ _ _ rfl records_slashPlaces⟩

/-- Foreign references that differ as texts need not have entries of their own, and a record of one
need not show a line that is read for it. -/
theorem not_foreign_read_alone :
    (¬ ∀ (files : Files) (locations : List Location) (lines : LineTable),
      (LineTable.load files locations).result = .ok lines →
      ∀ l ∈ locations, ∀ l' ∈ locations, l.uri.isForeign = true → l'.uri.isForeign = true →
        l.uri.text ≠ l'.uri.text →
        ∃ entry ∈ lines, ∃ entry' ∈ lines, entry ≠ entry' ∧
          entry.1.same l.uri.toPath = true ∧ entry'.1.same l'.uri.toPath = true) ∧
    ¬ ∀ (files : Files) (context : RequestContext) (layout : ReferenceLayout)
      (locations : List Location) (records : List Record), layout.showLines = true →
      (Location.records files context layout locations).result = .ok records →
      List.Forall₂ (fun l r => l.uri.isForeign = true →
        ∃ content, files.Reads (.ofText l.uri.text) content ∧
          ShownLine content l.range.start.line r.lineText) locations records := by
  constructor
  · intro h
    obtain ⟨entry, hmem, entry', hmem', hapart, hsame, hsame'⟩ :=
      h slashBuffers slashPlaces slashLines load_slashPlaces onceSlashed (by simp [slashPlaces])
        twiceSlashed (by simp [slashPlaces]) (by decide) (by decide) (by decide)
    have hone : ∀ entry ∈ slashLines, (entry.1.same onceSlashed.uri.toPath = true ∨
        entry.1.same twiceSlashed.uri.toPath = true) →
        entry = (Path.ofText "jdt://a/b", ["x"]) := by decide
    exact hapart ((hone _ hmem (.inl hsame)).trans (hone _ hmem' (.inr hsame')).symm)
  · intro h
    obtain - | ⟨-, - | ⟨htwice, -⟩⟩ :=
      h slashBuffers referencesContext ⟨true, 10, .ofText "/"⟩ slashPlaces _ rfl
        records_slashPlaces
    obtain ⟨content, hreads, hshown⟩ := htwice (by decide)
    have hown : slashBuffers.Reads (.ofText "jdt://a//b") ["y"] := .loaded rfl (by decide)
    obtain rfl : content = ["y"] := hreads.unique hown
    exact absurd (shownLine_iff.mp hshown) (by decide)

end Location

end CodeListing
