import CodeListing.Proofs.Path.Relative
import CodeListing.Proofs.Uri.Spelling

/-!
# References that name no file

A URI of another scheme than `file` stands for itself, as a path that it is spelled like. Such paths
are the same just if the URIs have the same pieces between their slashes, where empty pieces and
single dots do not count, and no other reference points to them (`Uri.toPath_same_iff`). So two of
these URIs may differ as texts and still count as one path.
-/

namespace CodeListing

/-! ## Schemes -/

theorem Text.isPrefix_takeWhile_iff {α : Type} {f : α → Bool} {before xs : List α} :
    before <+: xs.takeWhile f ↔ before <+: xs ∧ ∀ x ∈ before, f x = true := by
  constructor
  · intro h
    exact ⟨h.trans (List.takeWhile_prefix f), fun x hx => List.mem_takeWhile_imp (h.subset hx)⟩
  · rintro ⟨⟨rest, rfl⟩, hbefore⟩
    rw [List.takeWhile_append_of_pos hbefore]
    exact List.prefix_append before _

namespace Uri

variable {cs scheme : List Char} {u u' : Uri}

theorem cutScheme_eq_some_iff :
    (cutScheme cs).1 = some scheme ↔
      scheme ++ [':'] <+: cs ∧ ':' ∉ scheme ∧ '/' ∉ scheme := by
  constructor
  · intro h
    rw [cutScheme] at h
    split at h
    next rest hrest =>
      obtain rfl := Option.some.inj h
      have hmem : ∀ c ∈ cs.takeWhile fun c => c != ':' && c != '/', c ≠ ':' ∧ c ≠ '/' := by
        intro c hc
        simpa using List.mem_takeWhile_imp hc
      refine ⟨⟨rest, ?_⟩, fun h => (hmem _ h).1 rfl, fun h => (hmem _ h).2 rfl⟩
      rw [List.append_assoc, List.singleton_append, ← hrest, List.takeWhile_append_dropWhile]
    next => cases h
  · rintro ⟨⟨rest, rfl⟩, hcolon, hslash⟩
    rw [List.append_assoc, List.singleton_append, cutScheme_append hcolon hslash]

theorem forall_ne_iff {delimiter : Char} (h : delimiter ≠ ':') :
    (∀ c ∈ scheme ++ [':'], (c != delimiter) = true) ↔ delimiter ∉ scheme := by
  have hmem : delimiter ∈ scheme ++ [':'] ↔ delimiter ∈ scheme := by simp [h]
  rw [← hmem]
  constructor
  · intro h hc
    simpa using h _ hc
  · intro h c hc
    simpa using fun heq : c = delimiter => h (heq ▸ hc)

/-- A scheme stands before the first colon, and no other delimiter stands before that. -/
theorem Parts.scheme_eq_some_iff :
    (Parts.ofChars cs).scheme = some scheme ↔
      scheme ++ [':'] <+: cs ∧ ∀ c ∈ [':', '/', '?', '#'], c ∉ scheme := by
  show (cutScheme ((cs.takeWhile (· != '#')).takeWhile (· != '?'))).1 = some scheme ↔ _
  rw [cutScheme_eq_some_iff, Text.isPrefix_takeWhile_iff, Text.isPrefix_takeWhile_iff,
    forall_ne_iff (by decide), forall_ne_iff (by decide)]
  simp only [List.mem_cons, List.not_mem_nil, or_false, forall_eq_or_imp, forall_eq]
  tauto

/-- The scheme is in the piece before the first slash. -/
theorem Parts.scheme_takeWhile_slash (cs : List Char) :
    (Parts.ofChars (cs.takeWhile (· != '/'))).scheme = (Parts.ofChars cs).scheme := by
  refine Option.ext fun scheme => ?_
  rw [scheme_eq_some_iff, scheme_eq_some_iff, Text.isPrefix_takeWhile_iff,
    forall_ne_iff (by decide)]
  constructor
  · rintro ⟨⟨hbegins, -⟩, hscheme⟩
    exact ⟨hbegins, hscheme⟩
  · rintro ⟨hbegins, hscheme⟩
    exact ⟨⟨hbegins, hscheme '/' (by decide)⟩, hscheme⟩

/-! ## Foreign references -/

/-- Whether a reference has a scheme that is not that of files. -/
def isForeign (u : Uri) : Bool :=
  u.parts.scheme.any fun scheme => Domain.lowerCase scheme != ['f', 'i', 'l', 'e']

/-- What stands between the slashes of a reference, without nothing and single dots. -/
def pieces (u : Uri) : List (List Char) :=
  (u.text.toList.splitOn '/').filter fun cs => cs != [] && cs != ['.']

/-- What stands before the first slash of a reference. -/
def front (u : Uri) : List Char := u.text.toList.takeWhile (· != '/')

/-- A foreign reference stands for itself. -/
theorem toPath_of_isForeign (h : u.isForeign = true) : u.toPath = Path.ofText u.text := by
  have hscheme : u.parts.scheme.map Domain.lowerCase ≠ some ['f', 'i', 'l', 'e'] := by
    rw [isForeign] at h
    cases hscheme : u.parts.scheme with
    | none => simp
    | some scheme => simpa [hscheme] using h
  have hfile : u.parts.file? = none := by rw [Parts.file?, if_pos hscheme]
  rw [toPath, Parts.filePath?, hfile]
  rfl

/-- What stands before the first slash of a foreign reference has the colon of its scheme. -/
theorem colon_mem_of_isForeign (h : u.isForeign = true) : ':' ∈ u.front := by
  rw [isForeign] at h
  cases hscheme : u.parts.scheme with
  | none =>
    rw [hscheme] at h
    cases h
  | some scheme =>
    rw [parts, ← Parts.scheme_takeWhile_slash, Parts.scheme_eq_some_iff] at hscheme
    exact hscheme.1.subset (by simp)

/-- What stands before the first slash decides whether a reference is foreign. -/
theorem isForeign_congr (h : u'.front = u.front) : u'.isForeign = u.isForeign := by
  rw [front, front] at h
  rw [isForeign, isForeign, parts, parts, ← Parts.scheme_takeWhile_slash, h,
    Parts.scheme_takeWhile_slash]

theorem exists_segments_ofText (u : Uri) :
    ∃ others, (Path.ofText u.text).segments = Path.segmentOf u.front :: others := by
  obtain ⟨others, hpieces⟩ := Path.exists_splitOn_eq_cons '/' u.text.toList
  exact ⟨others.map Path.segmentOf, by rw [Path.segments_ofText, hpieces, List.map_cons, front]⟩

/-- A foreign reference begins with a name, in which the colon of its scheme is. -/
theorem components_of_isForeign (h : u.isForeign = true) :
    u.toPath.components = u.toPath.segments.filterMap Path.componentOf ∧
      ∃ others, u.toPath.components = .normal (Path.segmentOf u.front) :: others := by
  obtain ⟨others, hsegments⟩ := exists_segments_ofText u
  rw [← toPath_of_isForeign h] at hsegments
  have hfirst := Path.componentOf_segmentOf (colon_mem_of_isForeign h)
  have hcounts : Path.isVoid (Path.segmentOf u.front) = false := by
    rw [← Bool.not_eq_true, ← Path.componentOf_eq_none_iff, hfirst]
    exact Option.some_ne_none _
  have hcomponents := Path.components_of_isVoid_eq_false hsegments hcounts
  refine ⟨hcomponents, others.filterMap Path.componentOf, ?_⟩
  rw [hcomponents, hsegments, List.filterMap_cons_some hfirst]

/-- A reference to a file points to a path from the root. -/
theorem components_of_filePath? {p : Parts} {path : Path} (h : p.filePath? = some path) :
    ∃ steps, path.components = .root :: steps := by
  rw [Parts.filePath?, Option.bind_eq_some_iff] at h
  obtain ⟨⟨host, segments⟩, -, h⟩ := h
  dsimp only at h
  split at h
  next =>
    obtain rfl := Option.some.inj h
    exact ⟨_, components_pathOfSegments _⟩
  next => cases h

/-- Only foreign references point to what a foreign reference points to. -/
theorem isForeign_of_components (h : u.isForeign = true)
    (hsame : u'.toPath.components = u.toPath.components) : u'.isForeign = true := by
  obtain ⟨-, others, hothers⟩ := components_of_isForeign h
  rw [hothers, toPath] at hsame
  cases hfile : u'.parts.filePath? with
  | some p =>
    obtain ⟨steps, hsteps⟩ := components_of_filePath? hfile
    rw [hfile, Option.getD_some, hsteps] at hsame
    cases hsame
  | none =>
    rw [hfile] at hsame
    obtain ⟨rest, hsegments⟩ := Path.segments_of_components_normal hsame
    obtain ⟨others', hsegments'⟩ := exists_segments_ofText u'
    have hfront : Path.segmentOf u'.front = Path.segmentOf u.front :=
      (List.cons.inj (hsegments'.symm.trans hsegments)).1
    rw [isForeign_congr (Path.segmentOf_injective hfront), h]

/-- References point to the path of a foreign one just if they are foreign and have its pieces. -/
theorem toPath_same_iff (h : u.isForeign = true) (u' : Uri) :
    u'.toPath.same u.toPath = true ↔ u'.isForeign = true ∧ u'.pieces = u.pieces := by
  have hpieces : ∀ v : Uri, v.isForeign = true →
      v.toPath.segments.filter (!Path.isVoid ·) = v.pieces.map Path.segmentOf := by
    intro v hv
    rw [toPath_of_isForeign hv, Path.segments_ofText, List.filter_map, pieces]
    refine congrArg _ (List.filter_congr fun cs _ => ?_)
    rw [Function.comp, Path.isVoid_segmentOf, Bool.not_not]
  have hiff : u'.isForeign = true →
      (u'.toPath.components = u.toPath.components ↔ u'.pieces = u.pieces) := by
    intro h'
    rw [(components_of_isForeign h).1, (components_of_isForeign h').1,
      Path.filterMap_componentOf_inj, hpieces u h, hpieces u' h', List.map_inj_right]
    exact fun _ _ => Path.segmentOf_injective
  rw [Path.same_iff]
  constructor
  · intro hsame
    have h' := isForeign_of_components h hsame
    exact ⟨h', (hiff h').mp hsame⟩
  · rintro ⟨h', hsame⟩
    exact (hiff h').mpr hsame

end Uri

end CodeListing
