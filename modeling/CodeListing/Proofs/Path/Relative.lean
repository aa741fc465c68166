import CodeListing.Proofs.Path.Text

/-!
# Paths as seen from a directory

What is shown of an absolute path leads back to it: the part below a directory is relative and takes
the components that the directory lacks, and what is shown otherwise is absolute and takes all of
them (`Path.componentsIn_of_relativeTo?`). A path is shown in part only if the directory's
components, whole ones, are the first of its own (`Path.isPrefix_of_displayFrom_ne`).
-/

namespace CodeListing.Path

open Text (dropEndWhile)

/-- The components that a path leads to from a directory. An absolute path stands for itself. -/
def componentsIn (p directory : Path) : List Component :=
  if p.isAbsolute then p.components else directory.components ++ p.components

variable {directory p q : Path} {c : Component} {s name : Segment}
  {kept segments segments' : List Segment}

/-! ## Void segments -/

theorem componentOf_eq_none_iff : componentOf s = none ↔ isVoid s = true := by
  rw [componentOf]
  split
  next h => simp [h]
  next h => split <;> simp [h]

theorem segment_of_componentOf (h : componentOf s = some c) : c.segment = s := by
  rw [componentOf] at h
  split at h
  next => cases h
  next =>
    split at h
    next hparent =>
      cases h
      exact hparent.symm
    next =>
      cases h
      rfl

theorem map_segment_filterMap (segments : List Segment) :
    (segments.filterMap componentOf).map Component.segment = segments.filter (!isVoid ·) := by
  induction segments with
  | nil => rfl
  | cons s segments ih =>
    cases hs : componentOf s with
    | none =>
      have hvoid : isVoid s = true := componentOf_eq_none_iff.mp hs
      rw [List.filterMap_cons_none hs, ih, List.filter_cons_of_neg (by simp [hvoid])]
    | some c =>
      have hvoid : isVoid s ≠ true := fun h => by
        rw [componentOf_eq_none_iff.mpr h] at hs
        cases hs
      rw [List.filterMap_cons_some hs, List.map_cons, ih, segment_of_componentOf hs,
        List.filter_cons_of_pos (by simp [hvoid])]

theorem filterMap_componentOf_filter (segments : List Segment) :
    (segments.filter (!isVoid ·)).filterMap componentOf = segments.filterMap componentOf := by
  rw [List.filterMap_filter]
  refine List.filterMap_congr fun s _ => ?_
  by_cases hvoid : isVoid s = true
  · rw [if_neg (by simp [hvoid]), componentOf_eq_none_iff.mpr hvoid]
  · rw [if_pos (by simp [hvoid])]

/-- The components of segments are the same just if the segments that count are. -/
theorem filterMap_componentOf_inj :
    segments.filterMap componentOf = segments'.filterMap componentOf ↔
      segments.filter (!isVoid ·) = segments'.filter (!isVoid ·) := by
  constructor
  · intro h
    rw [← map_segment_filterMap, h, map_segment_filterMap]
  · intro h
    rw [← filterMap_componentOf_filter, h, filterMap_componentOf_filter]

theorem filterMap_dropWhile_isVoid (segments : List Segment) :
    (segments.dropWhile isVoid).filterMap componentOf = segments.filterMap componentOf := by
  induction segments with
  | nil => rfl
  | cons s segments ih =>
    by_cases h : isVoid s = true
    · rw [List.dropWhile_cons_of_pos h, ih,
        List.filterMap_cons_none (componentOf_eq_none_iff.mpr h)]
    · rw [List.dropWhile_cons_of_neg h]

theorem filterMap_dropEndWhile_isVoid (segments : List Segment) :
    (dropEndWhile isVoid segments).filterMap componentOf = segments.filterMap componentOf := by
  rw [dropEndWhile, List.filterMap_reverse, filterMap_dropWhile_isVoid, ← List.filterMap_reverse,
    List.reverse_reverse]

theorem dropEndWhile_isPrefix (f : Segment → Bool) (segments : List Segment) :
    dropEndWhile f segments <+: segments := by
  rw [← List.reverse_suffix, dropEndWhile, List.reverse_reverse]
  exact List.dropWhile_suffix f

/-- Dropping the segments of the first components drops these components. -/
theorem filterMap_dropComponents (n : Nat) (segments : List Segment) :
    (dropComponents n segments).filterMap componentOf =
      (segments.filterMap componentOf).drop n := by
  fun_induction dropComponents n segments with
  | case1 segments => rfl
  | case2 n => rfl
  | case3 n s segments ih =>
    rw [ih]
    cases hs : componentOf s with
    | none => rw [List.filterMap_cons_none hs, if_pos (componentOf_eq_none_iff.mp hs)]
    | some c =>
      have hvoid : ¬ isVoid s = true := fun h => by
        rw [componentOf_eq_none_iff.mpr h] at hs
        cases hs
      rw [List.filterMap_cons_some hs, if_neg hvoid, List.drop_succ_cons]

theorem dropComponents_sublist (n : Nat) (segments : List Segment) :
    (dropComponents n segments).Sublist segments := by
  fun_induction dropComponents n segments with
  | case1 segments => exact .refl _
  | case2 n => exact .refl _
  | case3 n s segments ih => exact ih.cons s

/-! ## Relative paths -/

/-- A path whose first segment counts takes the components that its segments stand for. -/
theorem components_of_isVoid_eq_false {rest : List Segment} (hsegments : p.segments = s :: rest)
    (hs : isVoid s = false) : p.components = p.segments.filterMap componentOf := by
  obtain ⟨hempty, hdot⟩ : s ≠ [] ∧ s ≠ [dot] := by simpa [isVoid] using hs
  rw [components, hsegments]
  simp only [hempty, hdot, if_false]
  cases hcomponent : componentOf s <;> simp [hcomponent]

/-- A path whose first component is a name begins with the segment that spells it. -/
theorem segments_of_components_normal {cs : List Component}
    (h : p.components = .normal name :: cs) :
    ∃ rest, p.segments = name :: rest := by
  rw [components] at h
  split at h
  next => cases h
  next first rest hsegments =>
    refine ⟨rest, ?_⟩
    by_cases hempty : first = []
    · -- after an empty segment there is nothing, or a slash comes first
      have hbytes : p.bytes = [slash].intercalate (first :: rest) := by
        rw [← hsegments, segments, List.intercalate_splitOn]
      cases rest <;> simp [hempty, isAbsolute, hbytes] at h
    · by_cases hcurrent : first = [dot]
      · simp [hcurrent] at h
      · have hvoid : isVoid first ≠ true := by simp [isVoid, hempty, hcurrent]
        cases hfirst : componentOf first with
        | none => exact absurd (componentOf_eq_none_iff.mp hfirst) hvoid
        | some c =>
          simp only [hempty, hcurrent, hfirst, if_false, Option.toList_some,
            List.singleton_append] at h
          rw [hsegments, ← segment_of_componentOf hfirst, (List.cons.inj h).1]
          rfl

/-- A path along segments that begin with one that counts is relative and takes the components that
they stand for. -/
theorem components_ofSegments (hslash : ∀ s ∈ kept, slash ∉ s)
    (hhead : ∀ s ∈ kept.head?, isVoid s = false) :
    (ofSegments kept).isAbsolute = false ∧
      (ofSegments kept).components = kept.filterMap componentOf := by
  cases kept with
  | nil => exact ⟨rfl, rfl⟩
  | cons s rest =>
    have hs : isVoid s = false := hhead s rfl
    have hsegments : (ofSegments (s :: rest)).segments = s :: rest :=
      List.splitOn_intercalate slash hslash (List.cons_ne_nil s rest)
    refine ⟨?_, (components_of_isVoid_eq_false hsegments hs).trans (by rw [hsegments])⟩
    obtain ⟨b, bs, rfl⟩ : ∃ b bs, s = b :: bs :=
      List.exists_cons_of_ne_nil fun hempty => by simp [isVoid, hempty] at hs
    have hb : slash ≠ b := fun hb => hslash _ List.mem_cons_self (hb ▸ List.mem_cons_self)
    cases rest <;> simp [isAbsolute, ofSegments, hb.symm]

theorem filterMap_segmentsAfter (n : Nat) (p : Path) :
    (p.segmentsAfter n).filterMap componentOf = p.steps.drop (n - 1) := by
  rw [segmentsAfter, filterMap_dropEndWhile_isVoid, filterMap_dropWhile_isVoid,
    filterMap_dropComponents, steps]

theorem isVoid_head?_segmentsAfter (n : Nat) (p : Path) :
    ∀ s ∈ (p.segmentsAfter n).head?, isVoid s = false := by
  intro s hs
  obtain ⟨after, hafter⟩ := dropEndWhile_isPrefix isVoid
    ((dropComponents (n - 1) p.segments.tail).dropWhile isVoid)
  rw [segmentsAfter] at hs
  have hhead := List.head?_dropWhile_not isVoid (dropComponents (n - 1) p.segments.tail)
  rw [← hafter, List.head?_append, hs] at hhead
  simpa using hhead

theorem segmentsAfter_sublist (n : Nat) (p : Path) : (p.segmentsAfter n).Sublist p.segments :=
  (dropEndWhile_isPrefix _ _).sublist.trans <| (List.dropWhile_sublist _).trans <|
    (dropComponents_sublist _ _).trans (List.tail_sublist _)

/-! ## Absolute paths -/

theorem trimEnd_slash_cons (rest : List UInt8) :
    trimEnd ⟨slash :: rest⟩ = fromRoot (dropEndWhile isVoid (rest.splitOn slash)) := by
  rw [trimEnd, segments_slash_cons]
  cases hkept : dropEndWhile isVoid (rest.splitOn slash) with
  | nil => simp [hkept, isAbsolute, fromRoot]
  | cons s kept => simp [hkept, ofSegments, fromRoot]

/-- Without the void segments at its end an absolute path takes the same steps. -/
theorem components_trimEnd (h : p.isAbsolute = true) :
    p.trimEnd.isAbsolute = true ∧ p.trimEnd.components = p.components := by
  obtain ⟨rest, rfl⟩ := exists_of_isAbsolute h
  rw [trimEnd_slash_cons]
  refine ⟨rfl, ?_⟩
  rw [fromRoot, components_intercalate, filterMap_dropEndWhile_isVoid, components_slash_cons]
  intro s hs
  exact not_mem_of_mem_splitOn ((dropEndWhile_isPrefix _ _).subset hs)

/-- The segments after a directory are a relative path, along the components that the directory
lacks. -/
theorem components_segmentsAfter (hp : p.isAbsolute = true)
    (habove : directory.components <+: p.components) (hne : directory.components ≠ []) :
    (ofSegments (p.segmentsAfter directory.components.length)).isAbsolute = false ∧
      directory.components ++
          (ofSegments (p.segmentsAfter directory.components.length)).components =
        p.components := by
  have hslash : ∀ s ∈ p.segmentsAfter directory.components.length, slash ∉ s := fun s hs =>
    not_mem_of_mem_splitOn ((segmentsAfter_sublist _ p).subset hs)
  obtain ⟨hrelative, hrest⟩ := components_ofSegments hslash (isVoid_head?_segmentsAfter _ p)
  obtain ⟨below, hbelow⟩ := habove
  obtain ⟨c, cs, hdirectory⟩ := List.exists_cons_of_ne_nil hne
  -- the directory begins with the root as well, which is none of the steps of `p`
  have hsteps : p.steps = cs ++ below := by
    rw [components_of_isAbsolute hp, hdirectory] at hbelow
    exact (List.cons.inj hbelow).2.symm
  refine ⟨hrelative, ?_⟩
  rw [hrest, filterMap_segmentsAfter, hsteps, hdirectory, List.length_cons, Nat.add_sub_cancel,
    List.drop_left, ← hbelow, hdirectory]

/-- What is shown of an absolute path leads back to it. -/
theorem componentsIn_of_relativeTo? (hp : p.isAbsolute = true)
    (h : relativeTo? directory p = some q) : q.componentsIn directory = p.components := by
  rw [relativeTo?] at h
  split at h
  next habove =>
    obtain rfl := Option.some.inj h
    split
    next hempty =>
      rw [componentsIn, if_pos (components_trimEnd hp).1, (components_trimEnd hp).2]
    next hempty =>
      obtain ⟨hrelative, hcomponents⟩ := components_segmentsAfter hp
        (List.isPrefixOf_iff_prefix.mp habove) fun hnil => hempty (List.isEmpty_iff.mpr hnil)
      rw [componentsIn, hrelative, if_neg Bool.false_ne_true, hcomponents]
  next => cases h

/-! ## Text -/

theorem exists_ofText_trimEnd (text : String) : ∃ shown, (ofText text).trimEnd = ofText shown := by
  rw [trimEnd]
  split
  next => exact ⟨text, rfl⟩
  next first rest hsegments =>
    have hkept : (first :: dropEndWhile isVoid rest).Sublist (ofText text).segments :=
      hsegments ▸ (dropEndWhile_isPrefix isVoid rest).sublist.cons_cons first
    dsimp only
    split
    next => exact ⟨"/", by decide⟩
    next => exact exists_ofText_of_sublist hkept

/-- What is shown of a text is a text. -/
theorem exists_ofText_of_relativeTo? {text : String}
    (h : relativeTo? directory (ofText text) = some q) : ∃ shown, q = ofText shown := by
  rw [relativeTo?] at h
  split at h
  next =>
    obtain rfl := Option.some.inj h
    split
    next => exact exists_ofText_trimEnd text
    next => exact exists_ofText_of_sublist (segmentsAfter_sublist _ _)
  next => cases h

/-- The text that shows a text in UTF-8 leads back to what it names. -/
theorem componentsIn_displayFrom {text : String} (h : (ofText text).isAbsolute = true) :
    (ofText (displayFrom directory (ofText text))).componentsIn directory =
      (ofText text).components := by
  rw [displayFrom]
  cases hshown : relativeTo? directory (ofText text) with
  | none => rw [Option.getD_none, display_ofText, componentsIn, if_pos h]
  | some q =>
    obtain ⟨shown, rfl⟩ := exists_ofText_of_relativeTo? hshown
    rw [Option.getD_some, display_ofText, componentsIn_of_relativeTo? h hshown]

/-- A text is shown in part only below a directory that all of its components are in. -/
theorem isPrefix_of_displayFrom_ne {text : String}
    (h : displayFrom directory (ofText text) ≠ text) :
    directory.components <+: (ofText text).components := by
  by_contra habove
  rw [← List.isPrefixOf_iff_prefix] at habove
  rw [displayFrom, relativeTo?, if_neg habove, Option.getD_none, display_ofText] at h
  exact h rfl

example : displayFrom (ofText "/work") (ofText "/workshop/a") = "/workshop/a" := by decide +kernel

end CodeListing.Path
