import CodeListing.Path.Basic
import Mathlib.Data.List.Basic

/-!
# Absolute paths by their steps

What an absolute path names are the steps that it takes from the root, each to the parent or to a
name (`Path.components_of_isAbsolute`, `Path.IsStep`). A path that spells such steps between slashes
takes just these steps, with or without a slash at its end (`Path.components_spelling`). A path
along any segments takes the steps of each of them (`Path.components_fromRoot`).
-/

namespace CodeListing.Path

/-! ## Steps -/

/-- A component of an absolute path after the root: the parent, or a name that a segment spells. -/
inductive IsStep : Component → Prop where
  | parent : IsStep .parent
  | normal {name : Segment} (nonempty : name ≠ []) (not_current : name ≠ [dot])
      (not_parent : name ≠ [dot, dot]) (noSlash : slash ∉ name) : IsStep (.normal name)

/-- The segment that spells a component. -/
def Component.segment : Component → Segment
  | .root => []
  | .current => [dot]
  | .parent => [dot, dot]
  | .normal name => name

/-- The components of an absolute path after the root. -/
def steps (p : Path) : List Component := p.segments.tail.filterMap componentOf

variable {p : Path} {c : Component} {s : Segment} {segments : List Segment}

theorem IsStep.componentOf_segment (h : IsStep c) : componentOf c.segment = some c := by
  cases h with
  | parent => rfl
  | normal nonempty not_current not_parent _ =>
    simp [componentOf, Component.segment, isVoid, nonempty, not_current, not_parent]

theorem IsStep.slash_not_mem (h : IsStep c) : slash ∉ c.segment := by
  cases h with
  | parent => decide
  | normal _ _ _ noSlash => exact noSlash

theorem isStep_of_componentOf (hslash : slash ∉ s) (h : componentOf s = some c) : IsStep c := by
  rw [componentOf] at h
  split at h
  next => cases h
  next hvoid =>
    split at h
    next =>
      cases h
      exact .parent
    next hparent =>
      cases h
      have hnonempty : s ≠ [] := fun hs => hvoid (by simp [isVoid, hs])
      have hcurrent : s ≠ [dot] := fun hs => hvoid (by simp [isVoid, hs])
      exact .normal hnonempty hcurrent hparent hslash

/-! ## The steps of a path -/

/-- No piece of a list that was cut at an element has that element in it. -/
theorem not_mem_of_mem_splitOn {α : Type} [BEq α] [LawfulBEq α] {separator : α}
    {xs piece : List α} (h : piece ∈ xs.splitOn separator) : separator ∉ piece := by
  induction xs generalizing piece with
  | nil =>
    rw [List.splitOn_nil, List.mem_singleton] at h
    simp [h]
  | cons x xs ih =>
    rw [List.splitOn_cons_eq_if_modifyHead] at h
    obtain ⟨first, rest, hpieces⟩ := List.exists_cons_of_ne_nil (List.splitOn_ne_nil separator xs)
    rw [hpieces] at h ih
    split at h
    next =>
      rcases List.mem_cons.mp h with rfl | h
      · exact List.not_mem_nil
      · exact ih h
    next hx =>
      rcases List.mem_cons.mp h with rfl | h
      · rw [List.mem_cons, not_or]
        exact ⟨fun hs => hx (by simp [hs]), ih List.mem_cons_self⟩
      · exact ih (List.mem_cons_of_mem _ h)

theorem isStep_of_mem_steps (h : c ∈ p.steps) : IsStep c := by
  obtain ⟨s, hs, hc⟩ := List.mem_filterMap.mp h
  exact isStep_of_componentOf (not_mem_of_mem_splitOn (List.mem_of_mem_tail hs)) hc

theorem segments_slash_cons (rest : List UInt8) :
    Path.segments ⟨slash :: rest⟩ = [] :: rest.splitOn slash := by
  simp [Path.segments, List.splitOn_cons_eq_if_modifyHead]

theorem components_slash_cons (rest : List UInt8) :
    components ⟨slash :: rest⟩ = .root :: (rest.splitOn slash).filterMap componentOf := by
  rw [components, segments_slash_cons]
  rfl

theorem exists_of_isAbsolute (h : p.isAbsolute = true) : ∃ rest, p = ⟨slash :: rest⟩ := by
  obtain ⟨bytes⟩ := p
  cases bytes with
  | nil => simp [isAbsolute] at h
  | cons b rest =>
    obtain rfl : b = slash := by simpa [isAbsolute] using h
    exact ⟨rest, rfl⟩

theorem components_of_isAbsolute (h : p.isAbsolute = true) : p.components = .root :: p.steps := by
  obtain ⟨rest, rfl⟩ := exists_of_isAbsolute h
  rw [components_slash_cons, steps, segments_slash_cons, List.tail_cons]

/-! ## Spelling steps -/

/-- A path from the root along segments that have no slashes. -/
theorem components_intercalate (h : ∀ s ∈ segments, slash ∉ s) :
    components ⟨slash :: [slash].intercalate segments⟩ =
      .root :: segments.filterMap componentOf := by
  rw [components_slash_cons]
  by_cases hnil : segments = []
  · rw [hnil]
    rfl
  · rw [List.splitOn_intercalate slash h hnil]

/-- A slash at the end of a path from the root makes no difference. -/
theorem components_append_slash (rest : List UInt8) :
    components ⟨slash :: rest ++ [slash]⟩ = components ⟨slash :: rest⟩ := by
  rw [List.cons_append, components_slash_cons, components_slash_cons,
    List.splitOn_append_cons_self, List.filterMap_append, List.splitOn_nil]
  simp [componentOf, isVoid]

/-- A path from the root takes the steps that it spells, also if empty segments follow. -/
theorem components_spelling {cs : List Component} (hcs : ∀ c ∈ cs, IsStep c)
    {voids : List Segment} (hvoids : ∀ s ∈ voids, s = []) :
    components ⟨slash :: [slash].intercalate (cs.map Component.segment ++ voids)⟩ =
      .root :: cs := by
  rw [components_intercalate, List.filterMap_append, List.filterMap_map]
  · have hsteps : cs.filterMap (componentOf ∘ Component.segment) = cs :=
      (List.filterMap_congr fun c hc => (hcs c hc).componentOf_segment).trans List.filterMap_some
    have hnothing : voids.filterMap componentOf = [] := by
      rw [List.filterMap_eq_nil_iff]
      intro s hs
      rw [hvoids s hs]
      rfl
    rw [hsteps, hnothing, List.append_nil]
  · intro s hs
    rcases List.mem_append.mp hs with hs | hs
    · obtain ⟨c, hc, rfl⟩ := List.mem_map.mp hs
      exact (hcs c hc).slash_not_mem
    · rw [hvoids s hs]
      exact List.not_mem_nil

/-! ## Along segments -/

/-- The steps that bytes spell from some directory on. -/
def stepsIn (bytes : List UInt8) : List Component := (bytes.splitOn slash).filterMap componentOf

/-- A segment between slashes takes its steps whatever is in it, slashes included. -/
theorem stepsIn_intercalate (segments : List Segment) :
    stepsIn ([slash].intercalate segments) = segments.flatMap stepsIn := by
  induction segments with
  | nil => rfl
  | cons s segments ih =>
    cases segments with
    | nil => rw [List.intercalate_singleton, List.flatMap_singleton]
    | cons s' segments =>
      rw [List.intercalate_cons_cons, List.append_assoc, List.singleton_append, stepsIn,
        List.splitOn_append_cons_self, List.filterMap_append, List.flatMap_cons]
      exact congrArg (stepsIn s ++ ·) ih

/-- The path along these segments from the root. -/
def fromRoot (segments : List Segment) : Path := ⟨slash :: [slash].intercalate segments⟩

theorem components_fromRoot (segments : List Segment) :
    (fromRoot segments).components = .root :: segments.flatMap stepsIn := by
  rw [fromRoot, components_slash_cons, ← stepsIn_intercalate]
  rfl

end CodeListing.Path
