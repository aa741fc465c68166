import CodeListing.Proofs.Failure.Traversal
import CodeListing.References.Records

/-!
# What the records of references tell

Where making records succeeds, there is one record for each location, in the order of the locations,
and every record tells its own location and nothing of the others
(`Location.forall₂_of_records_eq_ok`).
-/

namespace CodeListing

/-! ## One location -/

/-- Whether the one-based form of a position can be shown. -/
def Position.IsCountable (p : Position) : Prop :=
  p.line.toNat < UInt32.size - 1 ∧ p.character.toNat < UInt32.size - 1

theorem oneBased_of_lt {n : UInt32} (h : n.toNat < UInt32.size - 1) :
    oneBased n = .ok (n.toNat + 1) := by
  rw [oneBased, if_pos (by omega)]

theorem oneBased_of_not_lt {n : UInt32} (h : ¬ n.toNat < UInt32.size - 1) :
    oneBased n = .error .numberOverflow := by
  rw [oneBased, if_neg (by omega)]

theorem Path.exists_label {path directory : Path} {range : Range} {placeWidth : Nat}
    (hstart : range.start.IsCountable) (hwidth : placeWidth ≤ Text.maxWidth)
    (text : Option String) : ∃ word, path.label directory range text placeWidth = .ok word := by
  rw [label, oneBased_of_lt hstart.1, oneBased_of_lt hstart.2]
  cases text with
  | none => exact ⟨_, rfl⟩
  | some text =>
    show ∃ word, (Text.column placeWidth _ >>= _) = _
    rw [Text.column_of_le hwidth]
    exact ⟨_, rfl⟩

theorem Path.label_of_not_isCountable {path directory : Path} {range : Range}
    (hstart : ¬ range.start.IsCountable) (text : Option String) (placeWidth : Nat) :
    path.label directory range text placeWidth = .error .numberOverflow := by
  rw [label]
  by_cases hline : range.start.line.toNat < UInt32.size - 1
  · have hcharacter : ¬ range.start.character.toNat < UInt32.size - 1 :=
      fun hcharacter => hstart ⟨hline, hcharacter⟩
    rw [oneBased_of_lt hline, oneBased_of_not_lt hcharacter]
    rfl
  · rw [oneBased_of_not_lt hline]
    rfl

namespace Location

/-- `r` is the record of a location, whatever line it shows. -/
structure IsRecordOf (context : RequestContext) (layout : ReferenceLayout) (l : Location)
    (r : Record) : Prop where
  word : l.uri.toPath.label layout.directory l.range r.lineText layout.placeWidth = .ok r.word
  level : r.level = 0
  treePath : r.treePath = []
  isTree : r.isTree = false
  isExpanded : r.isExpanded = false
  target : r.action.target = .file l.uri.toPath l.range
  context_eq : r.action.context = context
  subject : r.subject = .location l

/-- The record of a location under this text, with a line of the file. -/
def recordWith (l : Location) (context : RequestContext) (word : String) (text : Option String) :
    Record where
  word
  level := 0
  treePath := []
  isTree := false
  isExpanded := false
  action := { target := .file l.uri.toPath l.range, context }
  lineText := text
  subject := .location l

/-- The line among `lines` that a location points to. -/
def lineIn (l : Location) (lines : LineTable) : Option String :=
  (lines.lookup l.uri.toPath).bind (LineTable.text? · l.range.start.line)

variable {files : Files} {context : RequestContext} {layout : ReferenceLayout} {lines : LineTable}
  {l : Location} {r r' : Record}

theorem IsRecordOf.eq_recordWith (h : l.IsRecordOf context layout r) :
    r = l.recordWith context r.word r.lineText := by
  obtain ⟨word, level, treePath, isTree, isExpanded, ⟨target, ctx⟩, lineText, subject⟩ := r
  obtain ⟨_, rfl, rfl, rfl, rfl, rfl, rfl, rfl⟩ := h
  rfl

/-- A record tells no more than its location and the line that it shows. -/
theorem IsRecordOf.eq_of_lineText (h : l.IsRecordOf context layout r)
    (h' : l.IsRecordOf context layout r') (hline : r.lineText = r'.lineText) : r = r' := by
  have hword : r.word = r'.word := Except.ok.inj (h.word.symm.trans (hline ▸ h'.word))
  rw [h.eq_recordWith, h'.eq_recordWith, hword, hline]

theorem record_eq : l.record context layout lines =
    (l.uri.toPath.label layout.directory l.range (l.lineIn lines) layout.placeWidth).map
      fun word => l.recordWith context word (l.lineIn lines) := rfl

theorem record_eq_ok_iff :
    l.record context layout lines = .ok r ↔
      l.IsRecordOf context layout r ∧ r.lineText = l.lineIn lines := by
  rw [record_eq]
  constructor
  · intro h
    cases hword : l.uri.toPath.label layout.directory l.range (l.lineIn lines)
        layout.placeWidth with
    | error e => rw [hword] at h; cases h
    | ok word =>
      rw [hword] at h
      obtain rfl : l.recordWith context word (l.lineIn lines) = r := Except.ok.inj h
      exact ⟨⟨hword, rfl, rfl, rfl, rfl, rfl, rfl, rfl⟩, rfl⟩
  · rintro ⟨h, hline⟩
    rw [← hline, h.word]
    exact congrArg Except.ok h.eq_recordWith.symm

theorem exists_record (hstart : l.range.start.IsCountable)
    (hwidth : layout.placeWidth ≤ Text.maxWidth) (lines : LineTable) :
    ∃ r, l.record context layout lines = .ok r := by
  obtain ⟨word, hword⟩ := Path.exists_label hstart hwidth (l.lineIn lines)
  rw [record_eq, hword]
  exact ⟨_, rfl⟩

theorem record_of_not_isCountable (hstart : ¬ l.range.start.IsCountable) (lines : LineTable) :
    l.record context layout lines = .error .numberOverflow := by
  rw [record_eq, Path.label_of_not_isCountable hstart]
  rfl

/-! ## All locations -/

/-- The lines that the records of locations are made with. -/
def loaded (files : Files) (layout : ReferenceLayout) (locations : List Location) :
    Except ServiceError LineTable :=
  if layout.showLines then (LineTable.load files locations).result else .ok []

variable {locations : List Location} {records : List Record}

theorem result_records : (Location.records files context layout locations).result =
    (Fault.ofService (loaded files layout locations) >>= fun lines =>
      Fault.ofCrash (locations.mapM (·.record context layout lines))) := by
  rw [Location.records, loaded]
  cases layout.showLines <;> rfl

theorem records_eq_ok_iff :
    (Location.records files context layout locations).result = .ok records ↔
      ∃ lines, loaded files layout locations = .ok lines ∧
        List.Forall₂ (fun l r => l.IsRecordOf context layout r ∧ r.lineText = l.lineIn lines)
          locations records := by
  rw [result_records]
  cases hloaded : loaded files layout locations with
  | error e => simp [Fault.ofService, Except.mapError, bind, Except.bind]
  | ok lines =>
    show Fault.ofCrash _ = _ ↔ _
    rw [Fault.ofCrash_eq_ok, mapM_eq_ok_iff]
    simp only [record_eq_ok_iff, Except.ok.injEq, exists_eq_left']

/-- Once the lines are loaded, records are made if no label is too wide and no number too great. -/
theorem exists_records_of_loaded (hlines : loaded files layout locations = .ok lines)
    (hwidth : layout.placeWidth ≤ Text.maxWidth)
    (hstarts : ∀ l ∈ locations, l.range.start.IsCountable) :
    ∃ records, (Location.records files context layout locations).result = .ok records := by
  obtain ⟨records, hrecords⟩ : ∃ records,
      locations.mapM (·.record context layout lines) = .ok records :=
    exists_mapM fun l hl => exists_record (hstarts l hl) hwidth lines
  refine ⟨records, records_eq_ok_iff.mpr ⟨lines, hlines, ?_⟩⟩
  exact (mapM_eq_ok_iff.mp hrecords).imp fun l r => record_eq_ok_iff.mp

/-- Once the lines are loaded, a number that is too great is the one thing that is in the way. -/
theorem records_of_not_isCountable (hlines : loaded files layout locations = .ok lines)
    (hwidth : layout.placeWidth ≤ Text.maxWidth)
    (hstart : ∃ l ∈ locations, ¬ l.range.start.IsCountable) :
    (Location.records files context layout locations).result = .error (.crash .numberOverflow) := by
  rw [result_records, hlines]
  show Fault.ofCrash (locations.mapM (·.record context layout lines)) = _
  have hmade : locations.mapM (·.record context layout lines) = .error .numberOverflow := by
    refine mapM_eq_error (fun l _ => ?_) ?_
    · by_cases hl : l.range.start.IsCountable
      · exact .inl (exists_record hl hwidth lines)
      · exact .inr (record_of_not_isCountable hl lines)
    · obtain ⟨l, hl, hstart⟩ := hstart
      exact ⟨l, hl, record_of_not_isCountable hstart lines⟩
  rw [hmade]
  rfl

/-- There is one record for each location, in the order of the locations. -/
theorem forall₂_of_records_eq_ok
    (h : (Location.records files context layout locations).result = .ok records) :
    List.Forall₂ (IsRecordOf context layout) locations records := by
  obtain ⟨lines, -, hrecords⟩ := records_eq_ok_iff.mp h
  exact hrecords.imp fun l r hr => hr.1

end Location

end CodeListing
