import CodeListing.Proofs.References.Enrichment
import CodeListing.Proofs.References.Reads
import Mathlib.Data.List.Induction

/-!
# Loading the lines of files

What is asked for a table of lines, what the table says, and what is in the way of it.

The keys of a table are the paths of the locations at their first mentions (`Path.firstMentions`,
which looks at what was mentioned before, where `Path.distinct` crosses out what comes later). Each
of them is asked about once and read once, and stands for its own lines
(`LineTable.load_reads_each_once`). What the disk answers is never in the way of the records, and of
what the editor answers the first failure in the order of the keys is
(`Location.records_fail_at_first_failure`).
-/

namespace CodeListing

/-! ## First mentions -/

namespace Path

/-- The paths of a list at the places where no earlier one names the same file. -/
def firstMentions (paths : List Path) : List Path :=
  (paths.zipIdx.filter fun (p, i) => !(paths.take i).any (·.same p)).map (·.1)

/-- A path that is mentioned last is kept if no earlier one names the same file. -/
theorem firstMentions_append_singleton (paths : List Path) (p : Path) :
    firstMentions (paths ++ [p]) =
      firstMentions paths ++ if paths.any (·.same p) then [] else [p] := by
  have hbefore : paths.zipIdx.filter (fun (q, i) => !((paths ++ [p]).take i).any (·.same q)) =
      paths.zipIdx.filter fun (q, i) => !(paths.take i).any (·.same q) := by
    refine List.filter_congr fun (q, i) hmem => ?_
    have hlt : i < paths.length := by simpa using (List.mem_zipIdx hmem).2.1
    show (!((paths ++ [p]).take i).any (·.same q)) = !(paths.take i).any (·.same q)
    rw [List.take_append_of_le_length (Nat.le_of_lt hlt)]
  rw [firstMentions, List.zipIdx_append, List.filter_append, hbefore, List.map_append]
  congr 1
  cases h : paths.any (·.same p) <;> simp [h]

theorem distinct_append_singleton (paths : List Path) (p : Path) :
    distinct (paths ++ [p]) = distinct paths ++ if paths.any (·.same p) then [] else [p] := by
  induction paths with
  | nil => rfl
  | cons q paths ih =>
    rw [List.cons_append, distinct, ih, distinct, List.filter_append, List.any_cons,
      List.cons_append]
    congr 2
    cases hq : q.same p with
    | true =>
      rw [Bool.true_or, if_pos rfl]
      split <;> simp [hq]
    | false =>
      rw [Bool.false_or]
      split <;> simp [hq]

theorem distinct_eq_firstMentions (paths : List Path) : distinct paths = firstMentions paths := by
  induction paths using List.reverseRecOn with
  | nil => rfl
  | append_singleton paths p ih =>
    rw [distinct_append_singleton, firstMentions_append_singleton, ih]

/-- No two of them name the same file. -/
theorem distinct_pairwise (paths : List Path) :
    (distinct paths).Pairwise fun p q => p.same q = false := by
  induction paths with
  | nil => exact .nil
  | cons p paths ih =>
    refine .cons ?_ (ih.sublist List.filter_sublist)
    intro q hq
    simpa using (List.mem_filter.mp hq).2

theorem nodup_distinct (paths : List Path) : (distinct paths).Nodup := by
  refine (distinct_pairwise paths).imp ?_
  rintro p _ hapart rfl
  rw [same_iff.mpr rfl] at hapart
  cases hapart

/-- What is asked of a path is asked of all that is the same. -/
theorem same_congr {p q : Path} (h : p.same q = true) (key : Path) :
    key.same p = key.same q := by
  rw [same, same, same_iff.mp h]

/-- Paths that are mentioned have one spelling that stands for them. -/
theorem exists_filter_distinct {paths : List Path} {path : Path}
    (h : ∃ p ∈ paths, p.same path = true) :
    ∃ key, (distinct paths).filter (·.same path) = [key] := by
  rw [← List.length_eq_one_iff, ← List.countP_eq_length_filter, countP_distinct,
    if_pos (List.any_eq_true.mpr h)]

/-- The spelling that stands for a path is its first. -/
theorem find?_distinct (paths : List Path) (path : Path) :
    (distinct paths).find? (·.same path) = paths.find? (·.same path) := by
  induction paths with
  | nil => rfl
  | cons first paths ih =>
    rw [distinct]
    cases hfirst : first.same path with
    | true => simp only [List.find?_cons, hfirst]
    | false =>
      -- what `first` crosses out does not name what `path` does
      have hkept : ∀ p : Path,
          decide ((!first.same p) = true ∧ p.same path = true) = p.same path := by
        intro p
        cases hp : p.same path with
        | false => simp
        | true => simp [same_congr hp, hfirst]
      simp only [List.find?_cons, hfirst, List.find?_filter, hkept, ih]

end Path

/-! ## What a table says -/

namespace LineTable

variable {files : Files} {path key : Path} {lines : LineTable}
  {content : List String} {locations : List Location} {l : Location}

/-- A table has one entry where there is one path to read. -/
theorem exists_filter_of_load (h : (load files locations).result = .ok lines)
    (hkey : (Location.paths locations).filter (·.same path) = [key]) :
    ∃ content, lines.filter (·.1.same path) = [(key, content)] := by
  rw [← (load_eq_ok_iff.mp h).1, List.filter_map, List.map_eq_singleton_iff] at hkey
  obtain ⟨entry, hentry, rfl⟩ := hkey
  exact ⟨entry.2, hentry⟩

theorem lookup_of_filter (h : lines.filter (·.1.same path) = [(key, content)]) :
    lines.lookup path = some content := by
  rw [lookup, ← List.head?_filter, h]
  rfl

/-- The lines of a location are those of the path that is mentioned first among the same ones. -/
theorem exists_first_of_load (h : (load files locations).result = .ok lines)
    (hl : l ∈ locations) :
    ∃ first content, locations.find? (·.uri.toPath.same l.uri.toPath) = some first ∧
      files.Reads first.uri.toPath content ∧
      lines.filter (·.1.same l.uri.toPath) = [(first.uri.toPath, content)] := by
  have hmentioned : ∃ p ∈ locations.map (·.uri.toPath), p.same l.uri.toPath = true :=
    ⟨l.uri.toPath, List.mem_map_of_mem hl, Path.same_iff.mpr rfl⟩
  obtain ⟨key, hkey⟩ := Path.exists_filter_distinct hmentioned
  obtain ⟨content, hentry⟩ := exists_filter_of_load h hkey
  have hfind : (locations.map (·.uri.toPath)).find? (·.same l.uri.toPath) = some key := by
    rw [← Path.find?_distinct, ← List.head?_filter, hkey, List.head?_cons]
  rw [List.find?_map, Option.map_eq_some_iff] at hfind
  obtain ⟨first, hfirst, rfl⟩ := hfind
  have hmem : (first.uri.toPath, content) ∈ lines :=
    List.mem_of_mem_filter (hentry ▸ List.mem_singleton_self _)
  exact ⟨first, content, hfirst, (load_eq_ok_iff.mp h).2 _ hmem, hentry⟩

end LineTable

/-! ## What is asked for a table -/

/-- The path that a question is about. -/
def Access.path : Access → Path
  | .check path => path
  | .buffer path => path
  | .disk path => path

namespace LineTable

variable {files : Files} {path : Path} {paths keys : List Path} {lines : LineTable}

/-- What is asked about files where each of `keys` is read once: whether it is loaded, and then its
lines, from its buffer if it is and from the disk if not. Nothing is asked about other paths. -/
structure ReadsOnce (files : Files) (keys : List Path) (accesses : List Access) : Prop where
  checks : ∀ path, accesses.count (.check path) = if path ∈ keys then 1 else 0
  loaded : ∀ path ∈ keys, files.isLoaded path = .ok true →
    accesses.count (.buffer path) = 1 ∧ accesses.count (.disk path) = 0
  unloaded : ∀ path ∈ keys, files.isLoaded path = .ok false →
    accesses.count (.buffer path) = 0 ∧ accesses.count (.disk path) = 1
  others : ∀ path, path ∉ keys →
    accesses.count (.buffer path) = 0 ∧ accesses.count (.disk path) = 0

/-- Where each key asks about itself alone, a question is asked as often as the key that it is about
asks it. -/
theorem count_flatMap {asks : Path → List Access} (hnodup : keys.Nodup)
    (own : ∀ key, ∀ asked ∈ asks key, asked.path = key) (question : Access) :
    (keys.flatMap asks).count question =
      if question.path ∈ keys then (asks question.path).count question else 0 := by
  induction keys with
  | nil => rfl
  | cons key keys ih =>
    obtain ⟨hnew, hnodup⟩ := List.nodup_cons.mp hnodup
    rw [List.flatMap_cons, List.count_append, ih hnodup]
    by_cases hkey : question.path = key
    · subst hkey
      simp [hnew]
    · have hnone : (asks key).count question = 0 :=
        List.count_eq_zero.mpr fun hmem => hkey (own key question hmem)
      simp [hnone, hkey]

/-- The questions that are asked for one key are about that key. -/
theorem path_of_mem_questions (files : Files) (key : Path) :
    ∀ asked ∈ [.check key, readAfterCheck files key], asked.path = key := by
  intro asked hasked
  rcases List.mem_cons.mp hasked with rfl | hread
  · rfl
  · rw [List.mem_singleton] at hread
    rw [hread, readAfterCheck]
    split <;> rfl

theorem readsOnce_flatMap (files : Files) (hnodup : keys.Nodup) :
    ReadsOnce files keys
      (keys.flatMap fun path => [.check path, readAfterCheck files path]) := by
  have hcount := count_flatMap hnodup (path_of_mem_questions files)
  refine ⟨?checks, ?loaded, ?unloaded, ?others⟩
  case checks =>
    intro path
    have hread : readAfterCheck files path ≠ .check path := by
      unfold readAfterCheck
      split <;> simp
    rw [hcount (.check path)]
    simp [Access.path, hread]
  case loaded =>
    intro path hpath hloaded
    rw [hcount (.buffer path), hcount (.disk path)]
    simp [Access.path, hpath, readAfterCheck, hloaded]
  case unloaded =>
    intro path hpath hloaded
    rw [hcount (.buffer path), hcount (.disk path)]
    simp [Access.path, hpath, readAfterCheck, hloaded]
  case others =>
    intro path hpath
    rw [hcount (.buffer path), hcount (.disk path)]
    simp [Access.path, hpath]

/-- Loading lines asks about each distinct file once. If it succeeds, the keys of the table are the
paths of the locations at their first mentions, one for each file; each of them was checked once and
read once, from the buffer if it is loaded and from the disk if not, and nothing was asked about any
other path; and each has the lines that its own read gave, or none if the disk could not be read.
Where lines are not shown nothing is asked about files at all. -/
theorem load_reads_each_once (files : Files) (locations : List Location) :
    (∀ lines, (load files locations).result = .ok lines →
      lines.map (·.1) = Path.firstMentions (locations.map (·.uri.toPath)) ∧
      (lines.map (·.1)).Pairwise (fun p q => p.same q = false) ∧
      (∀ l ∈ locations, ∃ key ∈ lines.map (·.1), key.same l.uri.toPath = true) ∧
      ReadsOnce files (lines.map (·.1)) (load files locations).accesses ∧
      ∀ entry ∈ lines, files.Reads entry.1 entry.2) ∧
    ∀ (context : RequestContext) (layout : ReferenceLayout), layout.showLines = false →
      (Location.records files context layout locations).accesses = [] := by
  constructor
  · intro lines h
    obtain ⟨hkeys, hreads⟩ := load_eq_ok_iff.mp h
    rw [accesses_load_of_ok h, hkeys, Location.paths]
    refine ⟨Path.distinct_eq_firstMentions _, Path.distinct_pairwise _, ?_, ?_, hreads⟩
    · intro l hl
      exact Path.exists_mem_distinct (List.mem_map_of_mem hl)
    · exact readsOnce_flatMap files (Path.nodup_distinct _)
  · intro context layout hshow
    rw [Location.records, hshow]
    rfl

theorem load_reads_each_once_threePlaces :
    ∃ lines, (load (Location.oneOnDisk (.ok [" g "])) Location.threePlaces).result = .ok lines ∧
      lines.map (·.1) = [.ofText "/p/a", .ofText "/p/b"] ∧
      lines.map (·.1) =
        Path.firstMentions [.ofText "/p/a", .ofText "/p//a", .ofText "/p/b"] ∧
      ReadsOnce (Location.oneOnDisk (.ok [" g "])) (lines.map (·.1))
        (load (Location.oneOnDisk (.ok [" g "])) Location.threePlaces).accesses ∧
      ∀ entry ∈ lines, (Location.oneOnDisk (.ok [" g "])).Reads entry.1 entry.2 := by
  obtain ⟨hkeys, -, -, honce, hreads⟩ :=
    (load_reads_each_once (Location.oneOnDisk (.ok [" g "])) Location.threePlaces).1 _ rfl
  exact ⟨_, rfl, rfl, hkeys, honce, hreads⟩

end LineTable

/-! ## What is in the way of a table -/

namespace Files

variable {files files' : Files} {path : Path} {e : ServiceError}

/-- The editor fails at the file at a path: it does not tell whether the file is loaded, or the file
is and cannot be read there. -/
inductive Fails (files : Files) (path : Path) : ServiceError → Prop where
  | check {e : ServiceError} : files.isLoaded path = .error e → Fails files path e
  | buffer {e : ServiceError} : files.isLoaded path = .ok true →
      files.readBuffer path = .error e → Fails files path e

theorem fails_iff : files.Fails path e ↔ (LineTable.read files path).result = .error e := by
  rw [LineTable.read]
  constructor
  · rintro (h | ⟨h, h'⟩) <;> simp [h]
    exact h'
  · intro h
    cases hloaded : files.isLoaded path with
    | error e' =>
      rw [hloaded] at h
      cases h
      exact .check hloaded
    | ok isLoaded =>
      rw [hloaded] at h
      cases isLoaded with
      | true => exact .buffer hloaded h
      | false => cases h

/-- Two accesses to files that differ at most in what stands on the disk. -/
structure DifferOnDisk (files files' : Files) : Prop where
  isLoaded : ∀ path : Path, files'.isLoaded path = files.isLoaded path
  readBuffer : ∀ path : Path, files'.readBuffer path = files.readBuffer path

theorem DifferOnDisk.fails_iff (h : files.DifferOnDisk files') :
    files'.Fails path e ↔ files.Fails path e := by
  constructor
  · rintro (hcheck | ⟨hcheck, hbuffer⟩)
    · exact .check (h.isLoaded path ▸ hcheck)
    · exact .buffer (h.isLoaded path ▸ hcheck) (h.readBuffer path ▸ hbuffer)
  · rintro (hcheck | ⟨hcheck, hbuffer⟩)
    · exact .check ((h.isLoaded path).trans hcheck)
    · exact .buffer ((h.isLoaded path).trans hcheck) ((h.readBuffer path).trans hbuffer)

/-- How the editor fails at the first of some paths at which it does. -/
def FailsFirst (files : Files) (paths : List Path) (e : ServiceError) : Prop :=
  ∃ before path after, paths = before ++ path :: after ∧
    (∀ p ∈ before, ∀ e', ¬ files.Fails p e') ∧ files.Fails path e

theorem failsFirst_cons {paths : List Path} : files.FailsFirst (path :: paths) e ↔
    files.Fails path e ∨ (∀ e', ¬ files.Fails path e') ∧ files.FailsFirst paths e := by
  constructor
  · rintro ⟨before, failing, after, heq, hbefore, hfails⟩
    rcases List.cons_eq_append_iff.mp heq with ⟨rfl, hrest⟩ | ⟨before, rfl, rfl⟩
    · obtain ⟨rfl, -⟩ := List.cons.inj hrest
      exact .inl hfails
    · obtain ⟨hpath, hbefore⟩ := List.forall_mem_cons.mp hbefore
      exact .inr ⟨hpath, before, failing, after, rfl, hbefore, hfails⟩
  · rintro (hfails | ⟨hpath, before, failing, after, rfl, hbefore, hfails⟩)
    · exact ⟨[], path, paths, rfl, fun _ h => absurd h List.not_mem_nil, hfails⟩
    · exact ⟨path :: before, failing, after, rfl,
        List.forall_mem_cons.mpr ⟨hpath, hbefore⟩, hfails⟩

/-- The editor fails at some of the paths just if there is a first one. -/
theorem exists_failsFirst_iff {paths : List Path} :
    (∃ e, files.FailsFirst paths e) ↔ ∃ path ∈ paths, ∃ e, files.Fails path e := by
  constructor
  · rintro ⟨e, before, path, after, rfl, -, hfails⟩
    exact ⟨path, by simp, e, hfails⟩
  · intro h
    induction paths with
    | nil =>
      obtain ⟨path, hpath, -⟩ := h
      exact absurd hpath List.not_mem_nil
    | cons path paths ih =>
      by_cases hpath : ∃ e, files.Fails path e
      · obtain ⟨e, hfails⟩ := hpath
        exact ⟨e, failsFirst_cons.mpr (.inl hfails)⟩
      · obtain ⟨other, hother, e, hfails⟩ := h
        rcases List.mem_cons.mp hother with rfl | hother
        · exact absurd ⟨e, hfails⟩ hpath
        · obtain ⟨e', hrest⟩ := ih ⟨other, hother, e, hfails⟩
          exact ⟨e', failsFirst_cons.mpr (.inr ⟨not_exists.mp hpath, hrest⟩)⟩

theorem DifferOnDisk.failsFirst_iff (h : files.DifferOnDisk files') {paths : List Path} :
    files'.FailsFirst paths e ↔ files.FailsFirst paths e := by
  simp only [FailsFirst, h.fails_iff]

end Files

theorem LineTable.readAll_eq_error_iff {files : Files} {paths : List Path} {e : ServiceError} :
    (readAll files paths).result = .error e ↔ files.FailsFirst paths e := by
  induction paths with
  | nil =>
    constructor
    · intro h
      cases h
    · rintro ⟨before, path, after, heq, -⟩
      simp at heq
  | cons path paths ih =>
    rw [readAll_cons, Files.failsFirst_cons, ← ih]
    simp only [Files.fails_iff]
    cases (read files path).result with
    | error e' => simp [bind, Except.bind]
    | ok content => cases (readAll files paths).result <;> simp [bind, Except.bind, Except.map]

theorem LineTable.load_eq_error_iff {files : Files} {locations : List Location}
    {e : ServiceError} : (load files locations).result = .error e ↔
      files.FailsFirst (Location.paths locations) e := by
  rw [result_load, map_eq_error_iff, readAll_eq_error_iff]

/-! ## What is in the way of the records -/

namespace Location

variable {files : Files} {context : RequestContext} {layout : ReferenceLayout}
  {locations : List Location}

/-- Where labels are no obstacle, the records fail just as the lines do. -/
theorem records_eq_error_iff (hwidth : layout.placeWidth ≤ Text.maxWidth)
    (hstarts : ∀ l ∈ locations, l.range.start.IsCountable) {fault : Fault} :
    (Location.records files context layout locations).result = .error fault ↔
      ∃ e, loaded files layout locations = .error e ∧ fault = .service e := by
  cases hloaded : loaded files layout locations with
  | error e =>
    rw [result_records, hloaded]
    constructor
    · intro h
      exact ⟨e, rfl, (Except.error.inj h).symm⟩
    · rintro ⟨e', he, rfl⟩
      rw [Except.error.inj he]
      rfl
  | ok lines =>
    obtain ⟨records, hrecords⟩ : ∃ records,
        (Location.records files context layout locations).result = .ok records :=
      exists_records_of_loaded hloaded hwidth hstarts
    rw [hrecords]
    constructor
    · intro h
      cases h
    · rintro ⟨e, he, -⟩
      cases he

theorem loaded_eq_error_iff {e : ServiceError} : loaded files layout locations = .error e ↔
    layout.showLines = true ∧
      files.FailsFirst (Path.firstMentions (locations.map (·.uri.toPath))) e := by
  rw [loaded, ← Path.distinct_eq_firstMentions]
  cases layout.showLines with
  | false => simp
  | true =>
    rw [if_pos rfl, LineTable.load_eq_error_iff, Location.paths]
    simp

/-- Making records of locations, none of which has a label too wide or a number too great, fails just
if lines are shown and the editor fails at one of the distinct files: it does not tell whether the
file is loaded, or the file is and cannot be read there. The failure is that at the first such file
in the order in which they are mentioned. So what the disk answers, be it a failure or not, changes
nothing about that. -/
theorem records_fail_at_first_failure (hwidth : layout.placeWidth ≤ Text.maxWidth)
    (hstarts : ∀ l ∈ locations, l.range.start.IsCountable) :
    ((∃ fault, (Location.records files context layout locations).result = .error fault) ↔
      layout.showLines = true ∧
        ∃ path ∈ Path.firstMentions (locations.map (·.uri.toPath)), ∃ e, files.Fails path e) ∧
    (∀ fault, (Location.records files context layout locations).result = .error fault ↔
      layout.showLines = true ∧ ∃ e, fault = .service e ∧
        files.FailsFirst (Path.firstMentions (locations.map (·.uri.toPath))) e) ∧
    ∀ files', files.DifferOnDisk files' → ∀ fault,
      (Location.records files' context layout locations).result = .error fault ↔
        (Location.records files context layout locations).result = .error fault := by
  have hfault : ∀ (files : Files) (fault : Fault),
      (Location.records files context layout locations).result = .error fault ↔
        layout.showLines = true ∧ ∃ e, fault = .service e ∧
          files.FailsFirst (Path.firstMentions (locations.map (·.uri.toPath))) e := by
    intro files fault
    rw [records_eq_error_iff hwidth hstarts]
    simp only [loaded_eq_error_iff]
    constructor
    · rintro ⟨e, ⟨hshow, hfails⟩, rfl⟩
      exact ⟨hshow, e, rfl, hfails⟩
    · rintro ⟨hshow, e, rfl, hfails⟩
      exact ⟨e, ⟨hshow, hfails⟩, rfl⟩
  refine ⟨?some, hfault files, ?disk⟩
  case some =>
    rw [← Files.exists_failsFirst_iff]
    simp only [hfault]
    constructor
    · rintro ⟨_, hshow, e, -, hfails⟩
      exact ⟨hshow, e, hfails⟩
    · rintro ⟨hshow, e, hfails⟩
      exact ⟨.service e, hshow, e, rfl, hfails⟩
  case disk =>
    intro files' hdiffer fault
    rw [hfault files', hfault files]
    simp only [hdiffer.failsFirst_iff]

/-- Files of which only `/p/b` is loaded, where it cannot be read, and a disk that answers as told. -/
def lockedBuffer (content : Except ServiceError (List String)) : Files where
  isLoaded path := .ok (path.same (.ofText "/p/b"))
  readBuffer _ := .error (.editor "locked")
  readDisk _ := content

/-- The file that is mentioned first is not loaded, so it cannot fail. -/
theorem lockedBuffer_failsFirst (content : Except ServiceError (List String)) :
    (lockedBuffer content).FailsFirst
      (Path.firstMentions (threePlaces.map (·.uri.toPath))) (.editor "locked") := by
  refine ⟨[.ofText "/p/a"], .ofText "/p/b", [], rfl, ?_, .buffer rfl rfl⟩
  intro path hpath e hfails
  rw [List.mem_singleton] at hpath
  subst hpath
  rcases hfails with hcheck | ⟨hcheck, -⟩
  · cases hcheck
  · exact absurd (Except.ok.inj hcheck) (by decide)

theorem records_fail_at_first_failure_threePlaces :
    30 ≤ Text.maxWidth ∧
      (∀ l ∈ threePlaces, l.range.start.line.toNat < UInt32.size - 1 ∧
        l.range.start.character.toNat < UInt32.size - 1) ∧
      (Location.records (lockedBuffer (.error (.io "gone"))) referencesContext
        ⟨true, 30, .ofText "/p"⟩ threePlaces).result = .error (.service (.editor "locked")) ∧
      (Location.records (lockedBuffer (.ok ["x"])) referencesContext
        ⟨true, 30, .ofText "/p"⟩ threePlaces).result = .error (.service (.editor "locked")) := by
  have hstarts : ∀ l ∈ threePlaces, l.range.start.line.toNat < UInt32.size - 1 ∧
      l.range.start.character.toNat < UInt32.size - 1 := by decide
  obtain ⟨-, hfault, hdisk⟩ :=
    @records_fail_at_first_failure (lockedBuffer (.error (.io "gone"))) referencesContext
      ⟨true, 30, .ofText "/p"⟩ threePlaces (by decide) hstarts
  have hfails := (hfault _).mpr ⟨rfl, _, rfl, lockedBuffer_failsFirst _⟩
  exact ⟨by decide, hstarts, hfails, (hdisk _ ⟨fun _ => rfl, fun _ => rfl⟩ _).mpr hfails⟩

end Location

end CodeListing
