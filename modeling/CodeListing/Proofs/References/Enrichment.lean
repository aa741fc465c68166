import CodeListing.Proofs.References.Records

/-!
# One read for each file

The lines that references point to are read once for each file, under the spelling that is mentioned
first, and are looked up under every other spelling. This module compares that with reading the file
of each location on its own (`Location.IsRecordAlone`). Where access to files does not tell the
spellings of a path apart (`Files.Coherent`), the records are the same
(`Location.records_read_alone`), so that what stands on the disk at one path is of no consequence to
the records of other paths.

Reading is described as a relation: `Files.Reads` says what the lines of a file are, and
`ShownLine` which of them is shown. The table of lines is only ever mentioned in between.
-/

namespace CodeListing

/-! ## Paths, each once -/

namespace Path

theorem distinct_subset (paths : List Path) : distinct paths ⊆ paths := by
  induction paths with
  | nil => exact List.Subset.refl _
  | cons p ps ih =>
    intro q hq
    rcases List.mem_cons.mp hq with rfl | hq
    · exact List.mem_cons_self
    · exact List.mem_cons_of_mem _ (ih (List.mem_filter.mp hq).1)

/-- Every path is listed in one of its spellings. -/
theorem exists_mem_distinct {p : Path} {paths : List Path} (hp : p ∈ paths) :
    ∃ q ∈ distinct paths, q.same p = true := by
  induction paths with
  | nil => exact absurd hp List.not_mem_nil
  | cons first rest ih =>
    by_cases hfirst : first.same p = true
    · exact ⟨first, List.mem_cons_self, hfirst⟩
    · obtain ⟨q, hq, hqp⟩ : ∃ q ∈ distinct rest, q.same p = true := by
        rcases List.mem_cons.mp hp with rfl | hp
        · exact absurd (same_iff.mpr rfl) hfirst
        · exact ih hp
      -- `q` names what `p` does, so `first` does not stand for it
      have hkept : first.same q = false := by
        rw [Bool.eq_false_iff]
        intro h
        exact hfirst (same_iff.mpr ((same_iff.mp h).trans (same_iff.mp hqp)))
      refine ⟨q, List.mem_cons_of_mem _ (List.mem_filter.mpr ⟨hq, ?_⟩), hqp⟩
      rw [hkept]
      rfl

end Path

/-! ## Reading a file -/

/-- Access to files does not tell the spellings of a path apart. -/
structure Files.Coherent (files : Files) : Prop where
  isLoaded : ∀ p q : Path, p.same q = true → files.isLoaded p = files.isLoaded q
  readBuffer : ∀ p q : Path, p.same q = true → files.readBuffer p = files.readBuffer q
  readDisk : ∀ p q : Path, p.same q = true → files.readDisk p = files.readDisk q

/-- The lines of the file at a path: those of its buffer if it is loaded, else those on the disk, and
none if the disk cannot be read. -/
inductive Files.Reads (files : Files) (path : Path) : List String → Prop where
  | loaded {content : List String} : files.isLoaded path = .ok true →
      files.readBuffer path = .ok content → Reads files path content
  | onDisk {content : List String} : files.isLoaded path = .ok false →
      files.readDisk path = .ok content → Reads files path content
  | unreadable {e : ServiceError} : files.isLoaded path = .ok false →
      files.readDisk path = .error e → Reads files path []

/-- What is shown of a line of a file: its text without the blanks around it, if it exists and is not
blank. -/
inductive ShownLine (content : List String) (line : UInt32) : Option String → Prop where
  | text {s : String} : content[line.toNat]? = some s → Text.trim s ≠ "" →
      ShownLine content line (some (Text.trim s))
  | blank {s : String} : content[line.toNat]? = some s → Text.trim s = "" →
      ShownLine content line none
  | absent : content[line.toNat]? = none → ShownLine content line none

theorem shownLine_iff {content : List String} {line : UInt32} {shown : Option String} :
    ShownLine content line shown ↔ LineTable.text? content line = shown := by
  rw [LineTable.text?]
  constructor
  · rintro (⟨h, h'⟩ | ⟨h, h'⟩ | h) <;> simp [*]
  · rintro rfl
    cases hline : content[line.toNat]? with
    | none => exact .absent hline
    | some s =>
      by_cases hblank : Text.trim s = ""
      · rw [Option.map_some, Option.filter_some, if_neg (by simpa using hblank)]
        exact .blank hline hblank
      · rw [Option.map_some, Option.filter_some, if_pos (by simpa using hblank)]
        exact .text hline hblank

namespace Files

variable {files files' : Files} {path p q : Path} {content content' : List String}

theorem reads_iff : files.Reads path content ↔
    (LineTable.read files path).result = .ok content := by
  rw [LineTable.read]
  constructor
  · rintro (⟨h, h'⟩ | ⟨h, h'⟩ | ⟨h, h'⟩) <;> simp [h, h', Except.toOption]
  · intro h
    cases hloaded : files.isLoaded path with
    | error e => rw [hloaded] at h; cases h
    | ok isLoaded =>
      rw [hloaded] at h
      cases isLoaded with
      | true => exact .loaded hloaded h
      | false =>
        cases hdisk : files.readDisk path with
        | error e =>
          rw [hdisk] at h
          obtain rfl : [] = content := Except.ok.inj h
          exact .unreadable hloaded hdisk
        | ok lines =>
          rw [hdisk] at h
          obtain rfl : lines = content := Except.ok.inj h
          exact .onDisk hloaded hdisk

/-- What a disk answers is never in the way of reading. -/
theorem exists_reads_of_not_loaded (h : files.isLoaded path = .ok false) :
    ∃ content, files.Reads path content := by
  cases hdisk : files.readDisk path with
  | error e => exact ⟨[], .unreadable h hdisk⟩
  | ok content => exact ⟨content, .onDisk h hdisk⟩

theorem Reads.unique (h : files.Reads path content) (h' : files.Reads path content') :
    content = content' :=
  Except.ok.inj ((reads_iff.mp h).symm.trans (reads_iff.mp h'))

theorem Coherent.reads (hfiles : files.Coherent) (hsame : p.same q = true)
    (h : files.Reads p content) : files.Reads q content := by
  rcases h with ⟨h, h'⟩ | ⟨h, h'⟩ | ⟨h, h'⟩
  · exact .loaded (hfiles.isLoaded p q hsame ▸ h) (hfiles.readBuffer p q hsame ▸ h')
  · exact .onDisk (hfiles.isLoaded p q hsame ▸ h) (hfiles.readDisk p q hsame ▸ h')
  · exact .unreadable (hfiles.isLoaded p q hsame ▸ h) (hfiles.readDisk p q hsame ▸ h')

end Files

/-- Two accesses to files that differ at most in what stands on the disk at one path. -/
structure Files.DifferOnDiskAt (path : Path) (files files' : Files) : Prop where
  isLoaded : ∀ p : Path, files'.isLoaded p = files.isLoaded p
  readBuffer : ∀ p : Path, files'.readBuffer p = files.readBuffer p
  readDisk : ∀ p : Path, path.same p = false → files'.readDisk p = files.readDisk p

namespace Files.DifferOnDiskAt

variable {files files' : Files} {path p : Path} {content : List String}

theorem exists_reads (h : DifferOnDiskAt path files files')
    (hreads : ∃ content, files.Reads p content) : ∃ content, files'.Reads p content := by
  obtain ⟨content, ⟨hloaded, hbuffer⟩ | ⟨hloaded, -⟩ | ⟨hloaded, -⟩⟩ := hreads
  · exact ⟨content, .loaded (h.isLoaded p ▸ hloaded) (h.readBuffer p ▸ hbuffer)⟩
  · exact exists_reads_of_not_loaded (h.isLoaded p ▸ hloaded)
  · exact exists_reads_of_not_loaded (h.isLoaded p ▸ hloaded)

theorem reads_of_not_same (h : DifferOnDiskAt path files files') (hp : path.same p = false)
    (hreads : files'.Reads p content) : files.Reads p content := by
  rcases hreads with ⟨h1, h2⟩ | ⟨h1, h2⟩ | ⟨h1, h2⟩
  · exact .loaded (h.isLoaded p ▸ h1) (h.readBuffer p ▸ h2)
  · exact .onDisk (h.isLoaded p ▸ h1) (h.readDisk p hp ▸ h2)
  · exact .unreadable (h.isLoaded p ▸ h1) (h.readDisk p hp ▸ h2)

end Files.DifferOnDiskAt

/-! ## The table of lines -/

namespace LineTable

variable {files : Files} {locations : List Location} {l : Location} {paths : List Path}
  {path : Path} {lines : LineTable} {contents : List (List String)}

theorem readAll_cons : (readAll files (path :: paths)).result =
    (read files path).result >>= fun content =>
      (readAll files paths).result.map (content :: ·) := by
  rw [readAll]
  cases (read files path).result <;> rfl

/-- What is read are the lines that each path has on its own, in the order of the paths. -/
theorem readAll_eq_ok_iff : (readAll files paths).result = .ok contents ↔
    List.Forall₂ files.Reads paths contents := by
  induction paths generalizing contents with
  | nil =>
    rw [List.forall₂_nil_left_iff, readAll]
    constructor
    · intro h
      exact (Except.ok.inj h).symm
    · rintro rfl
      rfl
  | cons path paths ih =>
    rw [readAll_cons, bind_eq_ok_iff, List.forall₂_cons_left_iff]
    simp only [map_eq_ok_iff, ih, Files.reads_iff]
    constructor
    · rintro ⟨content, hfirst, rest, hrest, rfl⟩
      exact ⟨content, rest, hfirst, hrest, rfl⟩
    · rintro ⟨content, rest, hfirst, hrest, rfl⟩
      exact ⟨content, hfirst, rest, hrest, rfl⟩

theorem exists_readAll (h : ∀ path ∈ paths, ∃ content, files.Reads path content) :
    ∃ contents, (readAll files paths).result = .ok contents := by
  induction paths with
  | nil => exact ⟨[], rfl⟩
  | cons path paths ih =>
    obtain ⟨⟨content, hfirst⟩, hpaths⟩ := List.forall_mem_cons.mp h
    obtain ⟨rest, hrest⟩ := ih hpaths
    rw [readAll_cons, Files.reads_iff.mp hfirst, hrest]
    exact ⟨_, rfl⟩

@[simp] theorem map_fst_ofPaths (paths : List Path) : (ofPaths paths).map (·.1) = paths := by
  simp [ofPaths, Function.comp_def]

/-- Where there is a content for each entry, the entries and the contents go together in pairs. -/
theorem fill_ofPaths (h : contents.length = paths.length) :
    (ofPaths paths).fill contents = paths.zip contents := by
  induction paths generalizing contents with
  | nil => rfl
  | cons path paths ih =>
    cases contents with
    | nil => cases h
    | cons content contents =>
      rw [List.zip_cons_cons, ← ih (Nat.succ.inj h)]
      rfl

theorem accesses_load (files : Files) (locations : List Location) :
    (load files locations).accesses = (readAll files (Location.paths locations)).accesses := by
  rw [load, map_fst_ofPaths]

theorem result_load (files : Files) (locations : List Location) :
    (load files locations).result = (readAll files (Location.paths locations)).result.map
      (ofPaths (Location.paths locations)).fill := by
  rw [load, map_fst_ofPaths]

/-- A table has one entry for each path, with the lines that the path has on its own. -/
theorem load_eq_ok_iff : (load files locations).result = .ok lines ↔
    lines.map (·.1) = Location.paths locations ∧ ∀ entry ∈ lines, files.Reads entry.1 entry.2 := by
  rw [result_load, map_eq_ok_iff]
  simp only [readAll_eq_ok_iff]
  constructor
  · rintro ⟨contents, hreads, rfl⟩
    have hlength : (Location.paths locations).length = contents.length := hreads.length_eq
    rw [fill_ofPaths hlength.symm]
    exact ⟨List.map_fst_zip (Nat.le_of_eq hlength),
      fun _ hentry => (List.forall₂_iff_zip.mp hreads).2 hentry⟩
  · rintro ⟨hkeys, hreads⟩
    rw [← hkeys]
    -- what was read for the keys is what stands beside them
    refine ⟨lines.map (·.2), ?_, ?_⟩
    · rw [List.forall₂_map_left_iff, List.forall₂_map_right_iff, List.forall₂_same]
      exact hreads
    · rw [fill_ofPaths (by simp)]
      exact (List.zip_of_prod rfl rfl).symm

theorem exists_load (h : ∀ path ∈ Location.paths locations, ∃ content, files.Reads path content) :
    ∃ lines, (load files locations).result = .ok lines := by
  obtain ⟨contents, hcontents⟩ := exists_readAll h
  rw [result_load, hcontents]
  exact ⟨_, rfl⟩

theorem exists_load_of_locations
    (h : ∀ l ∈ locations, ∃ content, files.Reads l.uri.toPath content) :
    ∃ lines, (load files locations).result = .ok lines := by
  refine exists_load fun path hpath => ?_
  obtain ⟨l, hl, rfl⟩ := List.mem_map.mp (Path.distinct_subset _ hpath)
  exact h l hl

/-- The path of a location is found under any of its spellings, with the lines of the spelling that
was read. -/
theorem exists_lookup_of_load (h : (load files locations).result = .ok lines) (hl : l ∈ locations) :
    ∃ key ∈ Location.paths locations, key.same l.uri.toPath = true ∧
      ∃ content, files.Reads key content ∧ lines.lookup l.uri.toPath = some content := by
  obtain ⟨hkeys, hreads⟩ := load_eq_ok_iff.mp h
  obtain ⟨q, hq, hsame⟩ : ∃ q ∈ Location.paths locations, q.same l.uri.toPath = true :=
    Path.exists_mem_distinct (List.mem_map_of_mem hl)
  obtain ⟨entry, hentry, rfl⟩ := List.mem_map.mp (hkeys ▸ hq)
  have hsome : (lines.find? fun entry => entry.1.same l.uri.toPath).isSome = true :=
    List.find?_isSome.mpr ⟨entry, hentry, hsame⟩
  obtain ⟨found, hfound⟩ := Option.isSome_iff_exists.mp hsome
  have hmem : found ∈ lines := List.mem_of_find?_eq_some hfound
  refine ⟨found.1, hkeys ▸ List.mem_map_of_mem hmem, ?_, found.2, hreads found hmem, ?_⟩
  · simpa using List.find?_some hfound
  · rw [lookup, hfound]
    rfl

/-- Where access to files does not tell spellings apart, these are the lines that the path has on its
own. -/
theorem lookup_of_load (hfiles : files.Coherent) (h : (load files locations).result = .ok lines)
    (hl : l ∈ locations) :
    ∃ content, lines.lookup l.uri.toPath = some content ∧ files.Reads l.uri.toPath content := by
  obtain ⟨key, -, hsame, content, hreads, hlookup⟩ := exists_lookup_of_load h hl
  exact ⟨content, hlookup, hfiles.reads hsame hreads⟩

end LineTable

/-! ## Records -/

namespace Location

/-- `r` is the record of a location whose file is read for it alone. -/
structure IsRecordAlone (files : Files) (context : RequestContext) (layout : ReferenceLayout)
    (l : Location) (r : Record) : Prop extends IsRecordOf context layout l r where
  shown : ∃ content, files.Reads l.uri.toPath content ∧
    ShownLine content l.range.start.line r.lineText

variable {files files' : Files} {context : RequestContext} {layout : ReferenceLayout}
  {locations : List Location} {records records' : List Record} {l : Location} {r r' : Record}

/-- What is read for a location alone decides its record. -/
theorem IsRecordAlone.unique (h : IsRecordAlone files context layout l r)
    (h' : IsRecordAlone files' context layout l r')
    (hreads : ∀ content, files'.Reads l.uri.toPath content → files.Reads l.uri.toPath content) :
    r = r' := by
  obtain ⟨content, hcontent, hshown⟩ := h.shown
  obtain ⟨content', hcontent', hshown'⟩ := h'.shown
  obtain rfl : content = content' := hcontent.unique (hreads content' hcontent')
  refine h.toIsRecordOf.eq_of_lineText h'.toIsRecordOf ?_
  exact (shownLine_iff.mp hshown).symm.trans (shownLine_iff.mp hshown')

/-- Reading each file once gives the records for which every file is read alone. -/
theorem forall₂_isRecordAlone (hfiles : files.Coherent) (hshow : layout.showLines = true)
    (h : (Location.records files context layout locations).result = .ok records) :
    List.Forall₂ (IsRecordAlone files context layout) locations records := by
  obtain ⟨lines, hlines, hrecords⟩ := records_eq_ok_iff.mp h
  rw [loaded, if_pos hshow] at hlines
  have hmem : ∀ l ∈ locations, l ∈ locations := fun _ hl => hl
  refine ((List.forall₂_and_left _ _).mpr ⟨hmem, hrecords⟩).imp ?_
  rintro l r ⟨hl, hr, hline⟩
  obtain ⟨content, hcontent, hreads⟩ := LineTable.lookup_of_load hfiles hlines hl
  refine ⟨hr, content, hreads, shownLine_iff.mpr ?_⟩
  rw [hline, lineIn, hcontent]
  rfl

/-- Where no label is too wide and no number too great, only a file that cannot be read is in the
way of the records. -/
theorem exists_records_iff (hfiles : files.Coherent) (hshow : layout.showLines = true)
    (hwidth : layout.placeWidth ≤ Text.maxWidth)
    (hstarts : ∀ l ∈ locations, l.range.start.IsCountable) :
    (∃ records, (Location.records files context layout locations).result = .ok records) ↔
      ∀ l ∈ locations, ∃ content, files.Reads l.uri.toPath content := by
  constructor
  · rintro ⟨records, h⟩ l hl
    have hrecords := forall₂_isRecordAlone hfiles hshow h
    obtain ⟨i, hi, rfl⟩ := List.getElem_of_mem hl
    obtain ⟨content, hcontent, -⟩ := (hrecords.get hi (hrecords.length_eq ▸ hi)).shown
    exact ⟨content, hcontent⟩
  · intro h
    -- nothing but a read can fail
    obtain ⟨lines, hlines⟩ := LineTable.exists_load_of_locations h
    have hloaded : loaded files layout locations = .ok lines := by
      rw [loaded, if_pos hshow, hlines]
    exact exists_records_of_loaded hloaded hwidth hstarts

/-- Records are made exactly if every file can be read. Each is the one for which the file of its
location is read alone, and what is on the disk at one path is told by no record of another path. -/
theorem records_read_alone (hfiles : files.Coherent) (hshow : layout.showLines = true)
    (hwidth : layout.placeWidth ≤ Text.maxWidth)
    (hstarts : ∀ l ∈ locations, l.range.start.IsCountable) :
    ((∃ records, (Location.records files context layout locations).result = .ok records) ↔
      ∀ l ∈ locations, ∃ content, files.Reads l.uri.toPath content) ∧
    ∀ records, (Location.records files context layout locations).result = .ok records →
      List.Forall₂ (IsRecordAlone files context layout) locations records ∧
      ∀ (path : Path) (files' : Files), files'.Coherent → files.DifferOnDiskAt path files' →
        ∃ records', (Location.records files' context layout locations).result = .ok records' ∧
          ∀ (i : Nat) (l : Location), locations[i]? = some l →
            path.same l.uri.toPath = false → records'[i]? = records[i]? := by
  have hmade := @exists_records_iff files context layout locations hfiles hshow hwidth hstarts
  refine ⟨hmade, fun records h => ?_⟩
  have halone := forall₂_isRecordAlone hfiles hshow h
  refine ⟨halone, fun path files' hfiles' hdiffer => ?_⟩
  -- what made the records for `files` is there for `files'` too, whatever its disk answers
  have hreads : ∀ l ∈ locations, ∃ content, files'.Reads l.uri.toPath content := fun l hl =>
    hdiffer.exists_reads (hmade.mp ⟨records, h⟩ l hl)
  obtain ⟨records', h'⟩ := (exists_records_iff hfiles' hshow hwidth hstarts).mpr hreads
  have halone' := forall₂_isRecordAlone hfiles' hshow h'
  refine ⟨records', h', fun i l hl hpath => ?_⟩
  obtain ⟨hi, rfl⟩ := List.getElem?_eq_some_iff.mp hl
  have hr := halone.get hi (halone.length_eq ▸ hi)
  have hr' := halone'.get hi (halone'.length_eq ▸ hi)
  have heq := hr.unique hr' fun _ => hdiffer.reads_of_not_same hpath
  rw [List.getElem?_eq_getElem (halone'.length_eq ▸ hi),
    List.getElem?_eq_getElem (halone.length_eq ▸ hi)]
  exact congrArg some heq.symm

/-- Files of which `/p/a` is loaded and `/p/b` is on the disk with a content of choice. -/
def oneOnDisk (content : Except ServiceError (List String)) : Files where
  isLoaded path := .ok (path.same (.ofText "/p/a"))
  readBuffer _ := .ok ["fn f()", "    f()"]
  readDisk path := if path.same (.ofText "/p/b") then content else .error (.io "not found")

theorem oneOnDisk_coherent (content : Except ServiceError (List String)) :
    (oneOnDisk content).Coherent := by
  have hsame (p q s : Path) (h : p.same q = true) : p.same s = q.same s := by
    rw [Path.same, Path.same, Path.same_iff.mp h]
  constructor
  · intro p q h
    exact congrArg Except.ok (hsame p q _ h)
  · intro p q _
    rfl
  · intro p q h
    show (if p.same _ then _ else _) = _
    rw [hsame p q _ h]
    rfl

theorem oneOnDisk_differ (content content' : Except ServiceError (List String)) :
    (oneOnDisk content).DifferOnDiskAt (.ofText "/p/b") (oneOnDisk content') := by
  refine ⟨fun _ => rfl, fun _ => rfl, fun path h => ?_⟩
  have hpath : path.same (.ofText "/p/b") = false := by
    rw [Path.same] at h ⊢
    rw [Bool.beq_comm, h]
  show (if _ then _ else _) = (if _ then _ else _)
  rw [hpath]
  rfl

/-- Two lines of a file in two spellings, and a line of another file. -/
def threePlaces : List Location :=
  [⟨{ text := "file:///p/a" }, ⟨⟨1, 4⟩, ⟨1, 5⟩⟩⟩, ⟨{ text := "file:///p//a" }, ⟨⟨0, 3⟩, ⟨0, 4⟩⟩⟩,
    ⟨{ text := "file:///p/b" }, ⟨⟨0, 0⟩, ⟨0, 1⟩⟩⟩]

def referencesContext : RequestContext := ⟨{ id := 1, name := "server" }, 7, .references⟩

theorem records_read_alone_threePlaces :
    ∃ records,
      (Location.records (oneOnDisk (.ok [" g "])) referencesContext ⟨true, 30, .ofText "/p"⟩
        threePlaces).result = .ok records ∧
      records.map (·.lineText) = [some "f()", some "fn f()", some "g"] ∧
      (∀ l ∈ threePlaces, l.range.start.line.toNat < UInt32.size - 1 ∧
        l.range.start.character.toNat < UInt32.size - 1) ∧
      (∀ l ∈ threePlaces, ∃ content, (oneOnDisk (.ok [" g "])).Reads l.uri.toPath content) ∧
      List.Forall₂ (IsRecordAlone (oneOnDisk (.ok [" g "])) referencesContext
        ⟨true, 30, .ofText "/p"⟩) threePlaces records ∧
      ∃ records',
        (Location.records (oneOnDisk (.error (.io "gone"))) referencesContext
          ⟨true, 30, .ofText "/p"⟩ threePlaces).result = .ok records' ∧
        ∀ (i : Nat) (l : Location), threePlaces[i]? = some l →
          (Path.ofText "/p/b").same l.uri.toPath = false → records'[i]? = records[i]? :=
  have hstarts : ∀ l ∈ threePlaces, l.range.start.line.toNat < UInt32.size - 1 ∧
      l.range.start.character.toNat < UInt32.size - 1 := by decide
  have h := @records_read_alone (oneOnDisk (.ok [" g "])) referencesContext
    ⟨true, 30, .ofText "/p"⟩ threePlaces (oneOnDisk_coherent _) rfl (by decide) hstarts
  have hmade := h.2 _ rfl
  ⟨_, rfl, rfl, hstarts, h.1.mp ⟨_, rfl⟩, hmade.1,
    hmade.2 _ _ (oneOnDisk_coherent _) (oneOnDisk_differ _ _)⟩

end Location

end CodeListing
