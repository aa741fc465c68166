import CodeListing.Proofs.Listing.Display
import CodeListing.Proofs.Listing.Overflow
import CodeListing.Proofs.Outline.Container
import CodeListing.Proofs.References.Loading
import Mathlib.Data.List.Nodup

/-!
# Columns that are too wide

A configuration may ask for columns of any width that 64 bits can tell, and labels are laid out in
columns of at most `Text.maxWidth`. A wider one does no harm as long as nothing is put behind it: the
column of names stands before a container, and the column of places before a line. The first label
that has one crashes the work on the whole response, so whether an accepted configuration gives a
batch depends on the response and on the files (`Listing.batchOf_iff_columns_fit`).
-/

namespace CodeListing

theorem Text.column_of_not_le {width : Nat} (h : ¬ width ≤ maxWidth) (s : String) :
    column width s = .error (.columnTooWide width) := by
  rw [column, if_neg h]

/-! ## Work that fails in one way -/

/-- Work that succeeds just if a condition holds, and fails in one way only. -/
structure SucceedsIff {ε α : Type} (work : Except ε α) (condition : Prop) (e : ε) : Prop where
  exists_ok : (∃ a, work = .ok a) ↔ condition
  eq_of_error : ∀ e', work = .error e' → e' = e

namespace SucceedsIff

variable {ε α β : Type} {work : Except ε α} {condition : Prop} {e : ε}

theorem of_ok_or_error (hok : condition → ∃ a, work = .ok a)
    (herror : ¬ condition → work = .error e) : SucceedsIff work condition e := by
  by_cases h : condition
  · obtain ⟨a, rfl⟩ := hok h
    refine ⟨⟨fun _ => h, fun _ => ⟨a, rfl⟩⟩, ?_⟩
    intro e' he'
    cases he'
  · rw [herror h]
    refine ⟨⟨?_, fun hcondition => absurd hcondition h⟩, fun e' he' => (Except.error.inj he').symm⟩
    rintro ⟨a, ha⟩
    cases ha

theorem error_of_not (h : SucceedsIff work condition e) (hnot : ¬ condition) : work = .error e := by
  cases hwork : work with
  | ok a => exact absurd (h.exists_ok.mp ⟨a, hwork⟩) hnot
  | error e' => rw [h.eq_of_error e' hwork]

/-- Nothing that follows is in the way. -/
theorem bind (h : SucceedsIff work condition e) {next : α → Except ε β}
    (hnext : ∀ a, ∃ b, next a = .ok b) : SucceedsIff (work >>= next) condition e := by
  refine of_ok_or_error (fun hcondition => ?_) fun hnot => ?_
  · obtain ⟨a, rfl⟩ := h.exists_ok.mpr hcondition
    exact hnext a
  · rw [h.error_of_not hnot]
    rfl

/-- All elements are tried with success if each of them is. -/
theorem mapM {f : α → Except ε β} {xs : List α} {Fits : α → Prop}
    (h : ∀ x ∈ xs, SucceedsIff (f x) (Fits x) e) :
    SucceedsIff (xs.mapM f) (∀ x ∈ xs, Fits x) e := by
  refine of_ok_or_error (fun hall => ?_) fun hnot => ?_
  · exact exists_mapM fun x hx => (h x hx).exists_ok.mpr (hall x hx)
  · obtain ⟨x, hx, hfits⟩ : ∃ x ∈ xs, ¬ Fits x := by simpa using hnot
    refine mapM_eq_error (fun x hx => ?_) ⟨x, hx, (h x hx).error_of_not hfits⟩
    exact (Classical.em (Fits x)).imp (h x hx).exists_ok.mpr (h x hx).error_of_not

theorem ofCrash {work : Except Crash α} {crash : Crash} (h : SucceedsIff work condition crash) :
    SucceedsIff (Fault.ofCrash work) condition (.crash crash) := by
  refine of_ok_or_error (fun hcondition => ?_) fun hnot => ?_
  · obtain ⟨a, rfl⟩ := h.exists_ok.mpr hcondition
    exact ⟨a, rfl⟩
  · rw [h.error_of_not hnot]
    rfl

end SucceedsIff

/-! ## Outlines -/

/-- Whether there is something that contains a symbol and has a name: one of the symbols around it if
it is hierarchical, and what its server reported if it is flat. -/
def PlacedSymbol.HasContainer (placed : PlacedSymbol) : Prop :=
  match placed.symbol with
  | .hierarchical .. => ∃ name ∈ placed.ancestors, name ≠ ""
  | .flat symbol => ∃ container, symbol.containerName = some container ∧ container ≠ ""

theorem PlacedSymbol.shownContainer_eq_none_iff {placed : PlacedSymbol} {layout : OutlineLayout} :
    placed.symbol.shownContainer (Scope.top.within placed.ancestors) layout = none ↔
      ¬ (layout.showContainers = true ∧ placed.HasContainer) := by
  obtain ⟨ancestors, symbol⟩ := placed
  unfold Symbol.shownContainer
  cases layout.showContainers with
  | false => simp
  | true =>
    cases symbol with
    | hierarchical heading children =>
      have htop : Scope.top.qualifiedName = "" := rfl
      simp [HasContainer, Scope.qualifiedName_within_eq_empty_iff, htop]
    | flat symbol => cases h : symbol.containerName <;> simp [HasContainer, h]

/-- Whether a symbol can be labelled: if its container is shown, the column of names before it must
not be too wide. -/
def PlacedSymbol.Fits (layout : OutlineLayout) (placed : PlacedSymbol) : Prop :=
  layout.showContainers = true ∧ placed.HasContainer → layout.nameWidth ≤ Text.maxWidth

theorem PlacedSymbol.record_succeedsIff (placed : PlacedSymbol) (context : RequestContext)
    (layout : OutlineLayout) :
    SucceedsIff (placed.symbol.record (Scope.top.within placed.ancestors) context layout)
      (placed.Fits layout) (.columnTooWide layout.nameWidth) := by
  refine .of_ok_or_error (fun hfits => ?_) fun hnot => ?_
  · by_cases hwidth : layout.nameWidth ≤ Text.maxWidth
    · exact ⟨_, Symbol.record_of_le hwidth _ _ _⟩
    · have hnone := shownContainer_eq_none_iff.mpr fun hshown => hwidth (hfits hshown)
      rw [Symbol.record, hnone]
      exact ⟨_, rfl⟩
  · obtain ⟨hshown, hwidth⟩ := Classical.not_imp.mp hnot
    obtain ⟨container, hcontainer⟩ :
        ∃ container, placed.symbol.shownContainer (Scope.top.within placed.ancestors) layout =
          some container :=
      Option.ne_none_iff_exists'.mp fun hnone => shownContainer_eq_none_iff.mp hnone hshown
    rw [Symbol.record, hcontainer, Symbol.label, Symbol.nameLabel, Text.column_of_not_le hwidth]
    rfl

/-- There is an outline if all symbols can be labelled. -/
theorem Outline.batchOf_succeedsIff (context : RequestContext) (layout : OutlineLayout)
    (p : Record → Bool) (response : Json) :
    SucceedsIff (batchOf layout (.ofPredicate p) context response)
      (∀ placed ∈ Symbol.preorder (Symbol.ofResponse response), placed.Fits layout)
      (.columnTooWide layout.nameWidth) := by
  have hown : ∀ placed ∈ Symbol.preorder (Symbol.ofResponse response),
      SucceedsIff (ownAt context layout (.ofPredicate p) .top placed) (placed.Fits layout)
        (.columnTooWide layout.nameWidth) := fun placed _ =>
    (placed.record_succeedsIff context layout).bind fun _ => ⟨_, rfl⟩
  rw [batchOf, ofSymbols_eq_ofPlaces]
  exact ((SucceedsIff.mapM hown).bind fun _ => ⟨_, rfl⟩).bind fun _ => ⟨_, rfl⟩

/-! ## References -/

/-- Of each path there is one spelling in a list that has each path once. -/
theorem Path.eq_of_mem_distinct {paths : List Path} {p q : Path} (hp : p ∈ distinct paths)
    (hq : q ∈ distinct paths) (hsame : p.same q = true) : p = q := by
  have hnodup : ((distinct paths).map components).Nodup := by
    refine List.pairwise_map.mpr ((distinct_pairwise paths).imp fun {p q} hapart heq => ?_)
    rw [same_iff.mpr heq] at hapart
    cases hapart
  exact List.inj_on_of_nodup_map hnodup hp hq (same_iff.mp hsame)

namespace Location

variable {files : Files} {context : RequestContext} {layout : ReferenceLayout}
  {locations : List Location} {l : Location} {lines : LineTable}

/-- Whether there is a line to be shown of a location: its file, read under the spelling that is
mentioned first, has the line, and the line is not blank. -/
def HasLine (files : Files) (locations : List Location) (l : Location) : Prop :=
  ∃ key ∈ paths locations, key.same l.uri.toPath = true ∧
    ∃ content text, files.Reads key content ∧ ShownLine content l.range.start.line (some text)

/-- Whether a location can be labelled: if its line is shown, the column of places before it must not
be too wide. -/
def Fits (files : Files) (layout : ReferenceLayout) (locations : List Location) (l : Location) :
    Prop :=
  layout.showLines = true ∧ HasLine files locations l → layout.placeWidth ≤ Text.maxWidth

/-- The lines that are loaded are those that there are to be shown. -/
theorem exists_lineIn_iff (h : loaded files layout locations = .ok lines) (hl : l ∈ locations) :
    (∃ text, l.lineIn lines = some text) ↔
      layout.showLines = true ∧ HasLine files locations l := by
  rw [loaded] at h
  cases hshow : layout.showLines with
  | false =>
    rw [hshow] at h
    obtain rfl : [] = lines := Except.ok.inj h
    simp [lineIn, LineTable.lookup]
  | true =>
    rw [hshow] at h
    obtain ⟨key, hkey, hsame, content, hcontent, hlookup⟩ :=
      LineTable.exists_lookup_of_load h hl
    have hline : l.lineIn lines = LineTable.text? content l.range.start.line := by
      rw [lineIn, hlookup]
      rfl
    rw [hline]
    constructor
    · rintro ⟨text, htext⟩
      exact ⟨rfl, key, hkey, hsame, content, text, hcontent, shownLine_iff.mpr htext⟩
    · rintro ⟨-, key', hkey', hsame', content', text, hcontent', hshown⟩
      -- there is one spelling that is read, and what is read under it is one content
      obtain rfl : key = key' := Path.eq_of_mem_distinct hkey hkey'
        (Path.same_iff.mpr ((Path.same_iff.mp hsame).trans (Path.same_iff.mp hsame').symm))
      obtain rfl : content = content' := hcontent.unique hcontent'
      exact ⟨text, shownLine_iff.mp hshown⟩

theorem record_succeedsIff (hlines : loaded files layout locations = .ok lines)
    (hl : l ∈ locations) (hstart : l.range.start.IsCountable) (context : RequestContext) :
    SucceedsIff (l.record context layout lines) (l.Fits files layout locations)
      (.columnTooWide layout.placeWidth) := by
  refine .of_ok_or_error (fun hfits => ?_) fun hnot => ?_
  · cases hline : l.lineIn lines with
    | some text =>
      have hwidth := hfits ((exists_lineIn_iff hlines hl).mp ⟨text, hline⟩)
      exact exists_record hstart hwidth lines
    | none =>
      rw [record_eq, hline, Path.label, oneBased_of_lt hstart.1, oneBased_of_lt hstart.2]
      exact ⟨_, rfl⟩
  · obtain ⟨hhas, hwidth⟩ := Classical.not_imp.mp hnot
    obtain ⟨text, hline⟩ := (exists_lineIn_iff hlines hl).mpr hhas
    rw [record_eq, hline, Path.label, oneBased_of_lt hstart.1, oneBased_of_lt hstart.2]
    show (Text.column layout.placeWidth _ >>= _).map _ = _
    rw [Text.column_of_not_le hwidth]
    rfl

/-- Where files can be read and starts can be counted from one, there are records if all locations
can be labelled. -/
theorem records_succeedsIff (hread : LinesReadable files layout locations)
    (hstarts : ∀ l ∈ locations, l.range.start.IsCountable) (context : RequestContext) :
    SucceedsIff (Location.records files context layout locations).result
      (∀ l ∈ locations, l.Fits files layout locations)
      (.crash (.columnTooWide layout.placeWidth)) := by
  obtain ⟨lines, hlines⟩ := exists_loaded hread
  rw [result_records, hlines]
  exact (SucceedsIff.mapM fun l hl => record_succeedsIff hlines hl (hstarts l hl) context).ofCrash

end Location

/-! ## Listings -/

namespace Listing

/-- A configuration may have columns of any width. What a response is made into is a batch if every
label fits in them, that is if no column too wide has something behind it: a container that is shown
in an outline, a line that is shown in references, whose files can be read and whose places can be
counted from one. If a label does not fit, the work on the response crashes at the column, whatever
the predicate on records; there is no other way to fail. -/
theorem batchOf_iff_columns_fit (editor : Editor) (files : Files) (context : RequestContext)
    (origin : Origin) (settings : Settings) (response : Json) (p : Record → Bool) :
    (∀ config : OutlineConfig,
      SucceedsIff ((outline config settings).batchOf ⟨editor, files, .ofPredicate p⟩ context origin
          response).result
        (∀ placed ∈ Symbol.preorder (Symbol.ofResponse response), placed.Fits config.layout)
        (.crash (.columnTooWide config.nameWidth.toNat))) ∧
    (∀ config : ReferenceConfig,
      Location.LinesReadable files (config.layout origin.cwd) (Location.ofResponse response) →
      (∀ l ∈ Location.ofResponse response, l.range.start.IsCountable) →
      SucceedsIff ((references config settings).batchOf ⟨editor, files, .ofPredicate p⟩ context
          origin response).result
        (∀ l ∈ Location.ofResponse response,
          l.Fits files (config.layout origin.cwd) (Location.ofResponse response))
        (.crash (.columnTooWide config.placeWidth.toNat))) := by
  constructor
  · intro config
    exact (Outline.batchOf_succeedsIff context config.layout p response).ofCrash
  · intro config hread hstarts
    refine (Location.records_succeedsIff hread hstarts context).bind fun records => ?_
    rw [Visibility.keep_ofPredicate]
    exact ⟨_, rfl⟩

/-- Nothing stands behind the names of these symbols, so their column may have any width. -/
theorem symbolsAnswer_fits (width : Nat) :
    ∀ placed ∈ Symbol.preorder (Symbol.ofResponse symbolsAnswer), placed.Fits ⟨true, width⟩ := by
  have hplaces : Symbol.preorder (Symbol.ofResponse symbolsAnswer) =
      [⟨[], .flat ⟨"g", ⟨12⟩, ⟨⟨"file:///a", by decide⟩, ⟨⟨1, 4⟩, ⟨1, 4⟩⟩⟩, none⟩⟩,
        ⟨[], .flat ⟨"f", ⟨12⟩, ⟨⟨"file:///a", by decide⟩, ⟨⟨0, 0⟩, ⟨0, 0⟩⟩⟩, none⟩⟩] := rfl
  simp [hplaces, PlacedSymbol.Fits, PlacedSymbol.HasContainer]

theorem batchOf_iff_columns_fit_answers :
    (OutlineConfig.ofJson (.obj [("displayContainerName", .bool true),
        ("symbolNameWidth", .ofNat 65536)]) = .ok ⟨"", true, 65536⟩ ∧
      ∃ batch, ((outline ⟨"", true, 65536⟩ {}).batchOf
        ⟨closedEditor, loadedFiles, .ofPredicate fun _ => true⟩ Outline.editorContext rootOrigin
          symbolsAnswer).result = .ok batch) ∧
    ReferenceConfig.ofJson (.obj [("showLine", .bool true),
        ("locationPaddingWidth", .ofNat 65535)]) = .ok ⟨"", true, true, 65535⟩ ∧
      Location.LinesReadable loadedFiles ⟨true, 65535, rootOrigin.cwd⟩
        (Location.ofResponse placesAnswer) ∧
      (∀ l ∈ Location.ofResponse placesAnswer, l.range.start.line.toNat < UInt32.size - 1 ∧
        l.range.start.character.toNat < UInt32.size - 1) ∧
      ∃ batch, ((references ⟨"", true, true, 65535⟩ {}).batchOf
        ⟨closedEditor, loadedFiles, .ofPredicate fun _ => true⟩ Outline.editorContext rootOrigin
          placesAnswer).result = .ok batch := by
  have hfiles : Location.LinesReadable loadedFiles ⟨true, 65535, rootOrigin.cwd⟩
      (Location.ofResponse placesAnswer) := fun _ path _ => loadedFiles_answers.exists_reads path
  have hstarts : ∀ l ∈ Location.ofResponse placesAnswer,
      l.range.start.line.toNat < UInt32.size - 1 ∧
        l.range.start.character.toNat < UInt32.size - 1 := by decide
  refine ⟨⟨rfl, ?_⟩, rfl, hfiles, hstarts, ?_⟩
  · have h := batchOf_iff_columns_fit closedEditor loadedFiles Outline.editorContext rootOrigin {}
      symbolsAnswer fun _ => true
    exact (h.1 ⟨"", true, 65536⟩).exists_ok.mpr (symbolsAnswer_fits 65536)
  · have h := batchOf_iff_columns_fit closedEditor loadedFiles Outline.editorContext rootOrigin {}
      placesAnswer fun _ => true
    exact (h.2 ⟨"", true, true, 65535⟩ hfiles hstarts).exists_ok.mpr fun _ _ _ => by decide

/-- A column that is too wide by one crashes the work on the first container and on the first line
that stand behind it. -/
theorem not_batchOf_of_wide_column :
    (OutlineConfig.ofJson (.obj [("displayContainerName", .bool true),
        ("symbolNameWidth", .ofNat 65536)]) = .ok ⟨"", true, 65536⟩ ∧
      Symbol.ofResponse containedAnswer =
        [.flat ⟨"f", ⟨12⟩, ⟨⟨"file:///a", by decide⟩, ⟨⟨1, 4⟩, ⟨1, 4⟩⟩⟩, some "m"⟩] ∧
      ¬ ∃ batch, ((outline ⟨"", true, 65536⟩ {}).batchOf
        ⟨closedEditor, loadedFiles, .ofPredicate fun _ => true⟩ Outline.editorContext rootOrigin
          containedAnswer).result = .ok batch) ∧
    ReferenceConfig.ofJson (.obj [("showLine", .bool true),
        ("locationPaddingWidth", .ofNat 65536)]) = .ok ⟨"", true, true, 65536⟩ ∧
      (Location.ofResponse placesAnswer).map (·.range.start) = [⟨1, 4⟩, ⟨1, 4⟩, ⟨0, 0⟩] ∧
      loadedFiles.Answers ∧
      ¬ ∃ batch, ((references ⟨"", true, true, 65536⟩ {}).batchOf
        ⟨closedEditor, loadedFiles, .ofPredicate fun _ => true⟩ Outline.editorContext rootOrigin
          placesAnswer).result = .ok batch := by
  have houtline : ((outline ⟨"", true, 65536⟩ {}).batchOf
      ⟨closedEditor, loadedFiles, .ofPredicate fun _ => true⟩ Outline.editorContext rootOrigin
        containedAnswer).result = .error (.crash (.columnTooWide 65536)) := rfl
  have hreferences : ((references ⟨"", true, true, 65536⟩ {}).batchOf
      ⟨closedEditor, loadedFiles, .ofPredicate fun _ => true⟩ Outline.editorContext rootOrigin
        placesAnswer).result = .error (.crash (.columnTooWide 65536)) := rfl
  refine ⟨⟨rfl, rfl, ?_⟩, rfl, rfl, loadedFiles_answers, ?_⟩
  · rw [houtline]
    rintro ⟨batch, h⟩
    cases h
  · rw [hreferences]
    rintro ⟨batch, h⟩
    cases h

end Listing

end CodeListing
