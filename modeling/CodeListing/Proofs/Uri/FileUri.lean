import CodeListing.Editor.Cursor
import CodeListing.Proofs.Path.Steps
import CodeListing.Proofs.Uri.Escape

/-!
# The file URI of an absolute path

The URI of an absolute path spells its steps between slashes, each encoded
(`Path.uriText_of_isAbsolute`), so that its parts are known (`Path.ofChars_uriText`). It is a
reference unless a name has one of the four bytes that are left bare although the grammar does not
allow them, and then no parameters can be built for a buffer of that name
(`Path.toUri_iff_writable`).
-/

namespace CodeListing

open Text Uri

/-! ## Segments between slashes -/

theorem not_mem_intercalate {α : Type} {separator x : α} {segments : List (List α)}
    (hx : x ≠ separator) (h : ∀ s ∈ segments, x ∉ s) : x ∉ [separator].intercalate segments := by
  induction segments with
  | nil => exact List.not_mem_nil
  | cons s segments ih =>
    obtain ⟨hs, hrest⟩ := List.forall_mem_cons.mp h
    cases segments with
    | nil => rwa [List.intercalate_singleton]
    | cons s' segments =>
      rw [List.intercalate_cons_cons, List.append_assoc, List.mem_append, List.mem_append,
        List.mem_singleton]
      rintro (hmem | rfl | hmem)
      · exact hs hmem
      · exact hx rfl
      · exact ih hrest hmem

/-- Encoded segments between slashes are text that a path may have if each byte can be written. -/
theorem Uri.isEscapedText_intercalate (segments : List (List UInt8)) :
    isEscapedText (fun c => isPathChar c || c == '/') (['/'].intercalate (segments.map encode)) =
      segments.all (·.all (!isUnwritable ·)) := by
  have hsegment (s : List UInt8) (cs : List Char) :
      isEscapedText (fun c => isPathChar c || c == '/') (encode s ++ cs) =
        (s.all (!isUnwritable ·) && isEscapedText (fun c => isPathChar c || c == '/') cs) := by
    rw [isEscapedText_encode_append]
    simp only [needsEscape_or_isPathChar]
  induction segments with
  | nil => rfl
  | cons s segments ih =>
    cases segments with
    | nil =>
      rw [List.map_singleton, List.intercalate_singleton, ← List.append_nil (encode s), hsegment]
      rfl
    | cons s' segments =>
      rw [List.map_cons, List.map_cons, List.intercalate_cons_cons, List.append_assoc, hsegment,
        List.singleton_append, isEscapedText_cons_of_ne (by decide), ← List.map_cons, ih]
      rfl

namespace Path

variable {p : Path} {c : Component}

/-! ## The text -/

/-- How a step is spelled between two slashes of a URI. -/
def Component.spelling (c : Component) : List Char := Uri.encode c.segment

theorem IsStep.encode_eq (h : IsStep c) : c.encode = '/' :: c.spelling := by
  cases h with
  | parent => rfl
  | normal => rfl

theorem flatMap_encode {cs : List Component} (hcs : ∀ c ∈ cs, IsStep c) (hne : cs ≠ []) :
    cs.flatMap Component.encode = '/' :: ['/'].intercalate (cs.map Component.spelling) := by
  induction cs with
  | nil => exact absurd rfl hne
  | cons c cs ih =>
    obtain ⟨hc, hrest⟩ := List.forall_mem_cons.mp hcs
    rw [List.flatMap_cons, hc.encode_eq, List.map_cons]
    cases cs with
    | nil => simp
    | cons c' cs =>
      rw [ih hrest (List.cons_ne_nil c' cs), List.map_cons, List.intercalate_cons_cons]
      simp

/-- What follows the first slash of the path in the URI of an absolute path. -/
def spelledSteps (p : Path) : List Char := ['/'].intercalate (p.steps.map Component.spelling)

theorem uriText_of_isAbsolute (h : p.isAbsolute = true) :
    p.uriText = ['f', 'i', 'l', 'e', ':', '/', '/', '/'] ++ p.spelledSteps := by
  have hsteps : p.components.flatMap Component.encode = p.steps.flatMap Component.encode := by
    rw [components_of_isAbsolute h]
    rfl
  have hscheme : "file://".toList = ['f', 'i', 'l', 'e', ':', '/', '/'] := by decide
  unfold uriText
  rw [hsteps, hscheme]
  by_cases hnone : p.steps = []
  · rw [spelledSteps, hnone]
    rfl
  · rw [flatMap_encode (fun c hc => isStep_of_mem_steps hc) hnone]
    rfl

theorem not_mem_spelledSteps {delimiter : Char} (hescape : needsEscape delimiter.toUInt8 = true)
    (hpercent : delimiter ≠ '%') (hdigit : isHexDigit delimiter = false) (hslash : delimiter ≠ '/')
    (p : Path) : delimiter ∉ p.spelledSteps := by
  refine not_mem_intercalate hslash fun s hs => ?_
  obtain ⟨c, -, rfl⟩ := List.mem_map.mp hs
  exact not_mem_encode hescape hpercent hdigit _

/-- The parts of the URI of an absolute path: an empty host, and nothing after the path. -/
theorem ofChars_uriText (h : p.isAbsolute = true) :
    Parts.ofChars p.uriText =
      ⟨some ['f', 'i', 'l', 'e'], some [], '/' :: p.spelledSteps, none, none⟩ := by
  have hfragment : '#' ∉ p.uriText := by
    rw [uriText_of_isAbsolute h, List.mem_append, not_or]
    exact ⟨by decide, not_mem_spelledSteps (by decide) (by decide) (by decide) (by decide) p⟩
  have hquery : '?' ∉ p.uriText := by
    rw [uriText_of_isAbsolute h, List.mem_append, not_or]
    exact ⟨by decide, not_mem_spelledSteps (by decide) (by decide) (by decide) (by decide) p⟩
  simp only [Parts.ofChars, cut_eq_none_iff.mpr hfragment, cut_eq_none_iff.mpr hquery]
  rw [uriText_of_isAbsolute h]
  rfl

/-! ## Whether it is a reference -/

theorem isReference_uriText (h : p.isAbsolute = true) :
    isReference p.uriText = p.steps.all fun c => c.segment.all (!isUnwritable ·) := by
  have hpath : isEscapedText (fun c => isPathChar c || c == '/') ('/' :: p.spelledSteps) =
      p.steps.all fun c => c.segment.all (!isUnwritable ·) := by
    rw [isEscapedText_cons_of_ne (by decide), spelledSteps]
    have hspelling : p.steps.map Component.spelling =
        (p.steps.map Component.segment).map Uri.encode := by
      rw [List.map_map]
      rfl
    rw [hspelling, isEscapedText_intercalate, List.all_map]
    rfl
  rw [isReference, ofChars_uriText h, ← hpath, Parts.isValid]
  have hscheme : (some ['f', 'i', 'l', 'e']).all isScheme = true := by decide
  have hauthority : (some ([] : List Char)).all isAuthority = true := by decide
  rw [hscheme, hauthority]
  simp

/-- The steps of a path can be written if the bytes of its names can. -/
theorem all_steps_iff (h : p.isAbsolute = true) :
    (p.steps.all fun c => c.segment.all (!isUnwritable ·)) = true ↔
      ∀ name, Component.normal name ∈ p.components → ∀ b ∈ name, isUnwritable b = false := by
  rw [components_of_isAbsolute h, List.all_eq_true]
  constructor
  · intro hall name hname b hb
    have hmem : Component.normal name ∈ p.steps := by simpa using hname
    simpa using List.all_eq_true.mp (hall _ hmem) b hb
  · intro hall c hc
    rw [List.all_eq_true]
    intro b hb
    cases isStep_of_mem_steps hc with
    | parent =>
      have hdot : b = dot := by simpa [Component.segment] using hb
      rw [hdot]
      decide
    | @normal name =>
      rw [hall name (List.mem_cons_of_mem _ hc) b hb]
      rfl

theorem toUri_eq_ok_iff (h : p.isAbsolute = true) {u : Uri} :
    p.toUri = .ok u ↔ u.text = String.ofList p.uriText := by
  rw [toUri, if_pos h]
  constructor
  · intro hu
    split at hu
    next u' hread =>
      cases hu
      exact text_of_ofText? hread
    next => cases hu
  · intro htext
    rw [← htext, ofText?_text]

theorem isAbsolute_of_toUri {u : Uri} (h : p.toUri = .ok u) : p.isAbsolute = true := by
  rw [toUri] at h
  split at h
  next habsolute => exact habsolute
  next => cases h

theorem parts_of_toUri {u : Uri} (h : p.toUri = .ok u) :
    u.parts = ⟨some ['f', 'i', 'l', 'e'], some [], '/' :: p.spelledSteps, none, none⟩ := by
  have habsolute := isAbsolute_of_toUri h
  rw [Uri.parts, (toUri_eq_ok_iff habsolute).mp h, String.toList_ofList, ofChars_uriText habsolute]

/-- An absolute path has a URI exactly if no name in it has a byte that is left bare though no path
of a reference may show it. The URI is one of a file of this machine, without query and fragment.
The parameters for a buffer are built from it, so they cannot be built where there is none. -/
theorem toUri_iff_writable (h : p.isAbsolute = true) :
    ((∃ u, p.toUri = .ok u) ↔
      ∀ name, Component.normal name ∈ p.components → ∀ b ∈ name, isUnwritable b = false) ∧
    (∀ u, p.toUri = .ok u →
      u.parts = ⟨some ['f', 'i', 'l', 'e'], some [], '/' :: p.spelledSteps, none, none⟩) ∧
    (∀ e, p.toUri = .error e →
      e = .invalidArgument s!"invalid uri {String.ofList p.uriText}") ∧
    ∀ (editor : Editor) (bufnr : UInt32), editor.bufferPath bufnr = .ok p →
      editor.documentUri bufnr = p.toUri := by
  refine ⟨?_, fun u hu => parts_of_toUri hu, ?_, ?_⟩
  · rw [← all_steps_iff h, ← isReference_uriText h]
    constructor
    · rintro ⟨u, hu⟩
      have hvalid := u.valid
      rwa [(toUri_eq_ok_iff h).mp hu, String.toList_ofList] at hvalid
    · intro hvalid
      exact ⟨⟨String.ofList p.uriText, by rwa [String.toList_ofList]⟩, (toUri_eq_ok_iff h).mpr rfl⟩
  · intro e he
    rw [toUri, if_pos h] at he
    split at he
    · cases he
    · exact (Except.error.inj he).symm
  · intro editor bufnr hpath
    rw [Editor.documentUri, hpath]
    rfl

/-- A drive letter, an escape, delimiters, a byte outside ASCII and a control. -/
def oddPath : Path :=
  ⟨[0x2F, 0x43, 0x3A, 0x2F, 0x25, 0x32, 0x65, 0x2F, 0x3F, 0x23, 0xFF, 0x5C, 0x01]⟩

theorem toUri_iff_writable_oddPath : oddPath.isAbsolute = true ∧ ∃ u, oddPath.toUri = .ok u := by
  have habsolute : oddPath.isAbsolute = true := by decide
  have hcomponents : oddPath.components = [.root, .normal [0x43, 0x3A], .normal [0x25, 0x32, 0x65],
      .normal [0x3F, 0x23, 0xFF, 0x5C, 0x01]] := by decide
  refine ⟨habsolute, (toUri_iff_writable habsolute).1.mpr ?_⟩
  intro name hname
  rw [hcomponents] at hname
  simp only [List.mem_cons, List.not_mem_nil, or_false, reduceCtorEq, false_or,
    Component.normal.injEq] at hname
  rcases hname with rfl | rfl | rfl <;>
    simp only [List.mem_cons, List.not_mem_nil, or_false, forall_eq_or_imp, forall_eq] <;> decide

/-- A name with brackets is one that no URI is made for. -/
theorem not_toUri_of_brackets : ¬ ∀ p : Path, p.isAbsolute = true → ∃ u, p.toUri = .ok u := by
  intro h
  obtain ⟨u, hu⟩ := h (ofText "/a[b]") (by decide)
  have hrefused : (ofText "/a[b]").toUri =
      .error (.invalidArgument "invalid uri file:///a[b]") := by
    decide
  rw [hrefused] at hu
  cases hu

end Path

end CodeListing
