import CodeListing.Listing.References
import CodeListing.Proofs.References.Enrichment

/-!
# Which files are read for a response

`Access.readsOf` counts how often a file is read, in whatever spelling it is asked for. For one
response each file that a place in it is in is read once (`Listing.readsOf_references`), and less
often only where the work on the response ends early.
-/

namespace CodeListing

/-- How often the file at a path is read, be it from a buffer or from the disk. -/
def Access.readsOf (path : Path) (accesses : List Access) : Nat :=
  (accesses.filterMap Access.readPath?).countP (·.same path)

/-- Whether some place of a response is in the file at a path. -/
def Location.isIn (path : Path) (response : Json) : Bool :=
  (Location.ofResponse response).any (·.uri.toPath.same path)

/-! ## Each path once -/

theorem Path.countP_distinct (paths : List Path) (path : Path) :
    (distinct paths).countP (·.same path) = if paths.any (·.same path) then 1 else 0 := by
  induction paths with
  | nil => rfl
  | cons p ps ih =>
    rw [distinct, List.countP_cons, List.countP_filter, List.any_cons]
    by_cases hp : p.same path = true
    · -- what names the file of `path` is another spelling of `p` and is left out
      have hrest : (distinct ps).countP (fun q => q.same path && !p.same q) = 0 := by
        rw [List.countP_eq_zero]
        intro q _ hq
        rw [Bool.and_eq_true] at hq
        have hpq : p.same q = true :=
          same_iff.mpr ((same_iff.mp hp).trans (same_iff.mp hq.1).symm)
        simp [hpq] at hq
      simp [hrest, hp]
    · have hrest : (distinct ps).countP (fun q => q.same path && !p.same q) =
          (distinct ps).countP (·.same path) := by
        refine List.countP_congr fun q _ => ?_
        rw [Bool.and_eq_true, and_iff_left_iff_imp]
        intro hq
        rw [Bool.not_eq_true', Bool.eq_false_iff]
        exact fun hpq => hp (same_iff.mpr ((same_iff.mp hpq).trans (same_iff.mp hq)))
      simp [hrest, ih, hp]

/-! ## Reading the files of a response -/

namespace LineTable

variable {files : Files} {path : Path} {paths : List Path} {contents : List (List String)}
  {locations : List Location} {lines : LineTable}

/-- For one path there is at most one read, of that path. -/
theorem readPaths_read_isPrefix (files : Files) (path : Path) :
    (read files path).accesses.filterMap Access.readPath? <+: [path] := by
  unfold read
  split
  · exact List.nil_prefix
  · exact List.prefix_rfl
  · exact List.prefix_rfl

/-- The read that follows on a check. -/
def readAfterCheck (files : Files) (path : Path) : Access :=
  match files.isLoaded path with
  | .ok true => .buffer path
  | _ => .disk path

theorem readPath?_readAfterCheck (files : Files) (path : Path) :
    (readAfterCheck files path).readPath? = some path := by
  unfold readAfterCheck
  split <;> rfl

theorem accesses_read_of_ok {content : List String} (h : (read files path).result = .ok content) :
    (read files path).accesses = [.check path, readAfterCheck files path] := by
  unfold read readAfterCheck at *
  split at h
  · cases h
  next hloaded => simp [hloaded]
  next hloaded => simp [hloaded]

theorem readPaths_checkedRead (files : Files) (path : Path) :
    List.filterMap Access.readPath? [.check path, readAfterCheck files path] = [path] := by
  rw [List.filterMap_cons_none rfl, List.filterMap_cons_some (readPath?_readAfterCheck files path),
    List.filterMap_nil]

theorem readAll_of_error {e : ServiceError} (h : (read files path).result = .error e) :
    readAll files (path :: paths) = ⟨(read files path).accesses, .error e⟩ := by
  simp [readAll, h]

theorem readAll_of_ok {content : List String} (h : (read files path).result = .ok content) :
    readAll files (path :: paths) =
      ⟨(read files path).accesses ++ (readAll files paths).accesses,
        (readAll files paths).result.map (content :: ·)⟩ := by
  simp [readAll, h]

/-- Files are read in their order, each once, up to the first that cannot be read. -/
theorem readPaths_readAll_isPrefix (files : Files) (paths : List Path) :
    (readAll files paths).accesses.filterMap Access.readPath? <+: paths := by
  induction paths with
  | nil => exact List.prefix_rfl
  | cons path paths ih =>
    cases hfirst : (read files path).result with
    | error e =>
      rw [readAll_of_error hfirst]
      exact (readPaths_read_isPrefix files path).trans (List.prefix_append [path] paths)
    | ok content =>
      rw [readAll_of_ok hfirst, List.filterMap_append, accesses_read_of_ok hfirst,
        readPaths_checkedRead]
      exact (List.prefix_append_right_inj [path]).mpr ih

/-- Where all files are read, each of them was checked and then read. -/
theorem accesses_readAll_of_ok (h : (readAll files paths).result = .ok contents) :
    (readAll files paths).accesses =
      paths.flatMap fun path => [.check path, readAfterCheck files path] := by
  induction paths generalizing contents with
  | nil => rfl
  | cons path paths ih =>
    rw [readAll_cons] at h
    obtain ⟨content, hfirst, hrest⟩ := bind_eq_ok_iff.mp h
    obtain ⟨rest, hall, -⟩ := map_eq_ok_iff.mp hrest
    rw [readAll_of_ok hfirst, accesses_read_of_ok hfirst, List.flatMap_cons, ih hall]

/-- Where a table is made, each of its keys was checked and then read. -/
theorem accesses_load_of_ok (h : (load files locations).result = .ok lines) :
    (load files locations).accesses =
      (Location.paths locations).flatMap fun path => [.check path, readAfterCheck files path] := by
  rw [result_load] at h
  obtain ⟨contents, hcontents, -⟩ := map_eq_ok_iff.mp h
  rw [accesses_load, accesses_readAll_of_ok hcontents]

theorem readPaths_load_of_ok (h : (load files locations).result = .ok lines) :
    (load files locations).accesses.filterMap Access.readPath? = Location.paths locations := by
  rw [accesses_load_of_ok h, List.filterMap_flatMap]
  simp only [readPaths_checkedRead, List.flatMap_singleton']

end LineTable

/-! ## Responses -/

namespace Listing

variable {config : ReferenceConfig} {settings : Settings} {around : Surroundings}
  {context : RequestContext} {origin : Origin} {response : Json} {path : Path}

theorem accesses_references (lines : config.showLines = true) :
    ((references config settings).batchOf around context origin response).accesses =
      (LineTable.load around.files (Location.ofResponse response)).accesses := by
  show (if config.showLines then _ else _ : Traced (Except ServiceError LineTable)).accesses = _
  rw [if_pos lines]

theorem countP_paths (path : Path) (response : Json) :
    (Location.paths (Location.ofResponse response)).countP (·.same path) =
      if Location.isIn path response then 1 else 0 := by
  rw [Location.paths, Path.countP_distinct, List.any_map]
  rfl

/-- For one response a file is read at most once, and only if some place is in it. -/
theorem readsOf_references_le (lines : config.showLines = true) :
    Access.readsOf path
        ((references config settings).batchOf around context origin response).accesses ≤
      if Location.isIn path response then 1 else 0 := by
  rw [accesses_references lines, ← countP_paths, LineTable.accesses_load]
  exact (LineTable.readPaths_readAll_isPrefix _ _).sublist.countP_le

/-- Where a batch is made of a response, each file that a place is in was read. -/
theorem readsOf_references (lines : config.showLines = true) {batch : Batch}
    (made : ((references config settings).batchOf around context origin response).result =
      .ok batch) :
    Access.readsOf path
        ((references config settings).batchOf around context origin response).accesses =
      if Location.isIn path response then 1 else 0 := by
  have hlayout : (config.layout origin.cwd).showLines = true := lines
  obtain ⟨records, hrecords, -⟩ := bind_eq_ok_iff.mp made
  obtain ⟨table, htable, -⟩ := Location.records_eq_ok_iff.mp hrecords
  have hload : (LineTable.load around.files (Location.ofResponse response)).result = .ok table := by
    rwa [Location.loaded, if_pos hlayout] at htable
  rw [accesses_references lines, ← countP_paths, Access.readsOf,
    LineTable.readPaths_load_of_ok hload]

end Listing

end CodeListing
