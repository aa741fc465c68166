import CodeListing.Proofs.Uri.FileUri
import Mathlib.Data.List.TakeWhile

/-!
# A file path, there and back

The file URI of an absolute path leads back to the path, up to the spelling of slashes and of single
dots (`Path.toPath_of_toUri`). The bytes of its names come back as they were. Only its steps to a
parent do not come back, since reading a URI resolves them: each takes back the step before it
(`Path.withoutParents`). Where one of them meets a drive letter the two notions of resolving part,
so drive letters are left out there.
-/

namespace CodeListing

open Uri

namespace Path

variable {p : Path} {c : Component} {steps kept : List Component} {name : Segment}

/-! ## Steps that take others back -/

/-- Takes one more step. A step to the parent takes back the step that was kept last, if there is
one. -/
def keepStep (kept : List Component) : Component → List Component
  | .parent => kept.dropLast
  | c => kept ++ [c]

/-- What is left of steps when each step to a parent is taken away, from the first to the last,
together with the step kept just before it. -/
def withoutParents (steps : List Component) : List Component := steps.foldl keepStep []

theorem keepStep_of_ne (h : c ≠ .parent) (kept : List Component) :
    keepStep kept c = kept ++ [c] := by
  cases c with
  | parent => exact absurd rfl h
  | root => rfl
  | current => rfl
  | normal name => rfl

theorem foldl_keepStep_of_not_mem (h : Component.parent ∉ steps) (kept : List Component) :
    steps.foldl keepStep kept = kept ++ steps := by
  induction steps generalizing kept with
  | nil => simp
  | cons c steps ih =>
    rw [List.mem_cons, not_or] at h
    rw [List.foldl_cons, keepStep_of_ne (Ne.symm h.1), ih h.2, List.append_assoc,
      List.singleton_append]

theorem keepStep_subset (kept : List Component) (c : Component) :
    keepStep kept c ⊆ kept ++ [c] := by
  by_cases hc : c = .parent
  · subst hc
    exact List.Subset.trans (List.dropLast_subset kept) (List.subset_append_left _ _)
  · rw [keepStep_of_ne hc]
    exact List.Subset.refl _

theorem foldl_keepStep_subset (steps kept : List Component) :
    steps.foldl keepStep kept ⊆ kept ++ steps := by
  induction steps generalizing kept with
  | nil => simp
  | cons c steps ih =>
    rw [List.foldl_cons, ← List.singleton_append, ← List.append_assoc]
    refine List.Subset.trans (ih _) (List.append_subset.mpr ⟨?_, List.subset_append_right _ _⟩)
    exact List.Subset.trans (keepStep_subset kept c) (List.subset_append_left _ _)

/-! ## Walking along spelled steps -/

/-- A letter and a colon. -/
def IsDriveLetter (name : Segment) : Prop :=
  ∃ letter : Char, letter.isAlpha = true ∧ name = [letter.toUInt8, ':'.toUInt8]

theorem isDriveLetter_of_encode (h : Uri.isDriveLetter (Uri.encode name) = true) :
    IsDriveLetter name := by
  unfold Uri.isDriveLetter at h
  split at h
  next letter hspelled =>
    have hpercent : letter ≠ '%' := by
      rintro rfl
      exact absurd h (by decide)
    refine ⟨letter, h, ?_⟩
    rw [← decode_encode name, hspelled, decode_cons_of_ne hpercent]
    rfl
  next => cases h

theorem IsStep.stepOf_spelling (h : IsStep c) (hc : c ≠ .parent) :
    stepOf c.spelling = .enter c.spelling := by
  cases h with
  | parent => exact absurd rfl hc
  | @normal name _ not_current not_parent _ =>
    have hdecode : decode (Component.spelling (.normal name)) = name := decode_encode name
    rw [stepOf, hdecode, if_neg not_current, if_neg not_parent]

theorem dropLast_spelling (hkept : ∀ c ∈ kept, IsStep c)
    (hdrive : ∀ name, IsDriveLetter name → Component.normal name ∉ kept) :
    Uri.dropLast (kept.map Component.spelling) = kept.dropLast.map Component.spelling := by
  have hlast : (kept.map Component.spelling).getLast?.any Uri.isDriveLetter = false := by
    rw [List.getLast?_map]
    cases hlast : kept.getLast? with
    | none => rfl
    | some c =>
      have hc : c ∈ kept := List.mem_of_getLast? hlast
      cases hkept c hc with
      | parent => rfl
      | @normal name =>
        rw [Option.map_some, Option.any_some, Bool.eq_false_iff]
        intro h
        exact hdrive name (isDriveLetter_of_encode h) hc
  rw [Uri.dropLast, hlast, if_neg Bool.false_ne_true, List.map_dropLast]

/-- Walking along steps as they are spelled leaves the steps that are not taken back, and a slash at
the end if the last one is to a parent. -/
theorem resolve_spelling (kept : List Component) (hne : steps ≠ []) (hsteps : ∀ c ∈ steps, IsStep c)
    (hkept : ∀ c ∈ kept, IsStep c)
    (hdrive : Component.parent ∈ steps →
      ∀ name, IsDriveLetter name → Component.normal name ∉ kept ++ steps) :
    ∃ voids : List (List Char), (∀ s ∈ voids, s = []) ∧
      resolve (kept.map Component.spelling) (steps.map Component.spelling) =
        (steps.foldl keepStep kept).map Component.spelling ++ voids := by
  induction steps generalizing kept with
  | nil => exact absurd rfl hne
  | cons c steps ih =>
    obtain ⟨hc, hrest⟩ := List.forall_mem_cons.mp hsteps
    by_cases hparent : c = .parent
    · subst hparent
      have hnodrive := hdrive List.mem_cons_self
      have hdrop : Uri.dropLast (kept.map Component.spelling) =
          kept.dropLast.map Component.spelling :=
        dropLast_spelling hkept fun name hname hmem =>
          hnodrive name hname (List.mem_append_left _ hmem)
      have hup : stepOf (Component.spelling .parent) = .up := by decide
      cases steps with
      | nil =>
        refine ⟨[[]], by simp, ?_⟩
        rw [List.map_singleton, resolve, hup]
        show Uri.dropLast _ ++ [[]] = _
        rw [hdrop]
        rfl
      | cons c' steps =>
        rw [List.map_cons, List.map_cons, resolve, hup]
        · show ∃ voids, _ ∧ resolve (Uri.dropLast _) _ = _
          rw [hdrop, ← List.map_cons, List.foldl_cons]
          refine ih _ (List.cons_ne_nil c' steps) hrest ?_ ?_
          · exact fun c hc => hkept c (List.dropLast_subset _ hc)
          · intro _ name hname hmem
            refine hnodrive name hname ?_
            rcases List.mem_append.mp hmem with hmem | hmem
            · exact List.mem_append_left _ (List.dropLast_subset _ hmem)
            · exact List.mem_append_right _ (List.mem_cons_of_mem _ hmem)
        · exact List.cons_ne_nil _ _
    · have henter := hc.stepOf_spelling hparent
      have hkeep := keepStep_of_ne hparent kept
      cases steps with
      | nil =>
        refine ⟨[], by simp, ?_⟩
        rw [List.map_singleton, resolve, henter, List.foldl_cons, hkeep]
        simp
      | cons c' steps =>
        rw [List.map_cons, List.map_cons, resolve, henter]
        · show ∃ voids, _ ∧ resolve (kept.map Component.spelling ++ [c.spelling]) _ = _
          have happend : kept.map Component.spelling ++ [c.spelling] =
              (kept ++ [c]).map Component.spelling := by simp
          rw [happend, ← List.map_cons, List.foldl_cons, hkeep]
          refine ih _ (List.cons_ne_nil c' steps) hrest ?_ ?_
          · intro c'' hc''
            rcases List.mem_append.mp hc'' with hc'' | hc''
            · exact hkept c'' hc''
            · exact List.mem_singleton.mp hc'' ▸ hc
          · intro hmem
            rw [List.append_assoc, List.singleton_append]
            exact hdrive (List.mem_cons_of_mem _ hmem)
        · exact List.cons_ne_nil _ _

/-! ## From segments to a path -/

theorem components_closeDrive (rest : List UInt8) :
    components ⟨closeDrive (slash :: rest)⟩ = components ⟨slash :: rest⟩ := by
  rw [closeDrive]
  split
  · split
    · exact components_append_slash rest
    · rfl
  · rfl

theorem IsStep.spelling_ne_nil (h : IsStep c) : c.spelling ≠ [] := by
  intro hnil
  have hsegment : c.segment = [] := by
    rw [← decode_encode c.segment]
    show decode c.spelling = []
    rw [hnil]
    rfl
  cases h with
  | parent => cases hsegment
  | normal nonempty => exact nonempty hsegment

theorem components_pathOfSegments (hsteps : ∀ c ∈ steps, IsStep c) {voids : List (List Char)}
    (hvoids : ∀ s ∈ voids, s = []) :
    (pathOfSegments (steps.map Component.spelling ++ voids)).components = .root :: steps := by
  obtain ⟨rest, hrest, hspelled⟩ : ∃ rest : List Segment, (∀ s ∈ rest, s = []) ∧
      ((steps.map Component.spelling ++ voids).dropWhile List.isEmpty).map decode =
        steps.map Component.segment ++ rest := by
    cases steps with
    | nil =>
      have hnothing : voids.dropWhile List.isEmpty = [] := by
        rw [List.dropWhile_eq_nil_iff]
        intro s hs
        rw [hvoids s hs]
        rfl
      exact ⟨[], by simp, by simp [hnothing]⟩
    | cons c steps =>
      refine ⟨voids.map decode, ?_, ?_⟩
      · intro s hs
        obtain ⟨s', hs', rfl⟩ := List.mem_map.mp hs
        rw [hvoids s' hs']
        rfl
      · have hc := (hsteps c List.mem_cons_self).spelling_ne_nil
        rw [List.map_cons, List.cons_append, List.dropWhile_cons_of_neg (by simpa using hc),
          ← List.cons_append, ← List.map_cons, List.map_append, List.map_map]
        congr 2
        funext c'
        exact decode_encode c'.segment
  rw [pathOfSegments, hspelled, components_closeDrive, components_spelling hsteps hrest]

/-! ## There and back -/

theorem splitOn_spelledSteps (h : p.steps ≠ []) :
    p.spelledSteps.splitOn '/' = p.steps.map Component.spelling := by
  refine List.splitOn_intercalate '/' ?_ (by simpa using h)
  intro s hs
  obtain ⟨c, -, rfl⟩ := List.mem_map.mp hs
  exact not_mem_encode (by decide) (by decide) (by decide) _

theorem toPath_eq {u : Uri} (h : p.toUri = .ok u) :
    u.toPath = pathOfSegments (resolve [] (p.spelledSteps.splitOn '/')) := by
  rw [Uri.toPath, parts_of_toUri h]
  rfl

/-- The path that is read from the URI of a path takes the steps that are not taken back. -/
theorem components_toPath {u : Uri} (h : p.toUri = .ok u)
    (hdrive : Component.parent ∈ p.steps →
      ∀ name, IsDriveLetter name → Component.normal name ∉ p.steps) :
    u.toPath.components = .root :: withoutParents p.steps := by
  have hsteps : ∀ c ∈ p.steps, IsStep c := fun c hc => isStep_of_mem_steps hc
  rw [toPath_eq h]
  by_cases hnone : p.steps = []
  · rw [spelledSteps, hnone]
    rfl
  · rw [splitOn_spelledSteps hnone]
    obtain ⟨voids, hvoids, hresolved⟩ := resolve_spelling [] hnone hsteps
      (fun c hc => absurd hc List.not_mem_nil) (by simpa using hdrive)
    rw [List.map_nil] at hresolved
    rw [hresolved]
    refine components_pathOfSegments (fun c hc => hsteps c ?_) hvoids
    simpa using foldl_keepStep_subset p.steps [] hc

/-- Where a path has a URI, the URI leads back to the path if no step of it is to a parent, and else
to the path without these steps and those that they take back, if no name is a drive letter. -/
theorem toPath_of_toUri {u : Uri} (h : p.toUri = .ok u) :
    (Component.parent ∉ p.components → u.toPath.same p = true) ∧
    ((∀ name, IsDriveLetter name → Component.normal name ∉ p.components) →
      ∃ steps, p.components = .root :: steps ∧
        u.toPath.components = .root :: withoutParents steps) := by
  rw [same_iff, components_of_isAbsolute (isAbsolute_of_toUri h)]
  constructor
  · intro hparent
    have hsteps : Component.parent ∉ p.steps := fun hmem => hparent (List.mem_cons_of_mem _ hmem)
    rw [components_toPath h fun hmem => absurd hmem hsteps, withoutParents,
      foldl_keepStep_of_not_mem hsteps, List.nil_append]
  · intro hdrive
    refine ⟨p.steps, rfl, components_toPath h fun _ name hname hmem => ?_⟩
    exact hdrive name hname (List.mem_cons_of_mem _ hmem)

/-- A path whose steps to a parent take names back, find nothing to take back, and end it. -/
def windingPath : Path := ofText "/a/../../b c/./d/.."

theorem toPath_of_toUri_oddPath :
    (∃ u, oddPath.toUri = .ok u ∧ Component.parent ∉ oddPath.components ∧
      u.toPath.same oddPath = true) ∧
    ∃ u, windingPath.toUri = .ok u ∧
      (∀ name, IsDriveLetter name → Component.normal name ∉ windingPath.components) ∧
      u.toPath.components = [.root, .normal [0x62, 0x20, 0x63]] := by
  constructor
  · have hparent : Component.parent ∉ oddPath.components := by decide
    have huri : oddPath.toUri = .ok ⟨"file:///C:/%252e/%3F%23%FF%5C%01", by decide⟩ := by decide
    exact ⟨_, huri, hparent, (toPath_of_toUri huri).1 hparent⟩
  · have hcomponents : windingPath.components = [.root, .normal [0x61], .parent, .parent,
        .normal [0x62, 0x20, 0x63], .normal [0x64], .parent] := by decide
    have hdrive : ∀ name, IsDriveLetter name → Component.normal name ∉ windingPath.components := by
      rintro name ⟨letter, -, rfl⟩
      rw [hcomponents]
      simp
    have huri : windingPath.toUri = .ok ⟨"file:///a/../../b%20c/d/..", by decide⟩ := by decide
    obtain ⟨steps, hsteps, hread⟩ := (toPath_of_toUri huri).2 hdrive
    refine ⟨_, huri, hdrive, ?_⟩
    rw [hcomponents] at hsteps
    obtain rfl := (List.cons.inj hsteps).2
    exact hread

end Path

end CodeListing
