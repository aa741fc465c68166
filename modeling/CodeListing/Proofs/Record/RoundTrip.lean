import CodeListing.Proofs.Symbol.RoundTrip
import CodeListing.Record.Json

/-!
# Records read back

A record has a written form exactly if it goes into a buffer or its path is a text, and the written
form reads back as the same record (`Record.ofJson?_toJson?`). Where the reader takes the first
alternative that fits, what the writer makes of a later alternative does not fit an earlier one:

* a file target is written without a buffer number of its own. The one in the same object belongs to
  the request and stands a level deeper, under the name of the context;
* a flat symbol is written without a range of its own, and a location without a name.
-/

namespace CodeListing

/-! ## Targets -/

/-- What a target has to be to have a written form: a range in a buffer, or in a file whose path is
the bytes of a text. -/
inductive Target.IsWritable : Target → Prop where
  | buffer (bufnr : UInt32) (range : Range) : IsWritable (.buffer bufnr range)
  | file (text : String) (range : Range) : IsWritable (.file (.ofText text) range)

theorem Path.toJson?_ofText (s : String) : (ofText s).toJson? = some (.str s) := by
  simp [toJson?, text?_ofText]

theorem Path.eq_ofText_of_toJson? {p : Path} {v : Json} (h : p.toJson? = some v) :
    ∃ s, p = ofText s := by
  obtain ⟨s, hs, -⟩ := Option.map_eq_some_iff.mp h
  refine ⟨s, ?_⟩
  show p = ⟨Text.bytes s⟩
  rw [← Text.eq_bytes_of_ofBytes? hs]

namespace Target

theorem isWritable_of_toEntries? {t : Target} {entries : Json.Entries}
    (h : t.toEntries? = some entries) : t.IsWritable := by
  cases t with
  | buffer bufnr range => exact .buffer bufnr range
  | file path range =>
    obtain ⟨v, hv, -⟩ := Option.bind_eq_some_iff.mp h
    obtain ⟨s, rfl⟩ := Path.eq_ofText_of_toJson? hv
    exact .file s range

/-- Neither target is disturbed by the context that stands after it. -/
theorem IsWritable.exists_toEntries? {t : Target} (h : t.IsWritable) :
    ∃ entries, t.toEntries? = some entries ∧
      ∀ context, ofFields? (entries ++ [("context", context)]) = some t ∧
        (entries ++ [("context", context)]).lookup "context" = some context := by
  cases h with
  | buffer bufnr range =>
    refine ⟨_, rfl, fun context => ⟨?_, rfl⟩⟩
    simp [ofFields?, Json.required, List.lookup_cons]
  | file text range =>
    refine ⟨[("path", .str text), ("range", range.toJson)], ?_, fun context => ⟨?_, rfl⟩⟩
    · simp [toEntries?, Path.toJson?_ofText]
    -- there is no buffer number among the fields, so the target is no buffer
    · simp [ofFields?, Json.required, List.lookup_cons, Path.ofJson?]

end Target

namespace Action

theorem isWritable_of_toJson? {a : Action} {v : Json} (h : a.toJson? = some v) :
    a.target.IsWritable := by
  obtain ⟨entries, hentries, -⟩ := Option.bind_eq_some_iff.mp h
  exact Target.isWritable_of_toEntries? hentries

theorem exists_toJson? {a : Action} (h : a.target.IsWritable) :
    ∃ v, a.toJson? = some v ∧ ofJson? v = some a := by
  obtain ⟨entries, hentries, hread⟩ := h.exists_toEntries?
  obtain ⟨htarget, hcontext⟩ := hread a.context.toJson
  refine ⟨.obj (entries ++ [("context", a.context.toJson)]), ?_, ?_⟩
  · simp [toJson?, hentries]
  · simp [ofJson?, Json.object?, htarget, Json.required, hcontext]

end Action

/-! ## Subjects -/

/-- A location has no name, so it is no symbol. -/
theorem Symbol.ofJson?_location (l : Location) : Symbol.ofJson? l.toJson = none := by
  rw [Location.toJson, ofJson?_of_no_heading rfl]
  rfl

theorem Subject.ofJson?_toJson (s : Subject) : ofJson? s.toJson = some s := by
  cases s with
  | symbol symbol => simp [ofJson?, toJson, Symbol.ofJson?_toJson]
  | location location => simp [ofJson?, toJson, Symbol.ofJson?_location]

/-! ## Records -/

namespace Record

theorem exists_toJson? {r : Record} (h : r.action.target.IsWritable) :
    ∃ v, r.toJson? = some v ∧ ofJson? v = some r := by
  obtain ⟨word, level, treePath, isTree, isExpanded, action, lineText, subject⟩ := r
  obtain ⟨v, hv, hread⟩ := Action.exists_toJson? h
  have hpath : (Json.arr (treePath.map Json.str)).list? Json.text? = some treePath :=
    Json.list?_map Json.text?_str treePath
  have hsubject := subject.ofJson?_toJson
  simp only [toJson?, hv]
  refine ⟨_, rfl, ?_⟩
  cases lineText <;>
    simp [ofJson?, Json.fields?, Json.required, Json.optional, Json.optional?, Json.entry?,
      List.lookup_cons, hread, hpath, hsubject]

/-- A record has a written form exactly if it goes into a buffer or its path is a text, and what was
written reads back as the same record. -/
theorem ofJson?_toJson? (r : Record) :
    ((∃ v, r.toJson? = some v) ↔ r.action.target.IsWritable) ∧
      ∀ v, r.toJson? = some v → ofJson? v = some r := by
  have hwritable : ∀ v, r.toJson? = some v → r.action.target.IsWritable := by
    intro v hv
    obtain ⟨action, haction, -⟩ := Option.bind_eq_some_iff.mp hv
    exact Action.isWritable_of_toJson? haction
  refine ⟨⟨?written, ?writable⟩, ?readBack⟩
  case written =>
    rintro ⟨v, hv⟩
    exact hwritable v hv
  case writable =>
    intro h
    obtain ⟨v, hv, -⟩ := exists_toJson? h
    exact ⟨v, hv⟩
  case readBack =>
    intro v hv
    obtain ⟨v', hv', hread⟩ := exists_toJson? (hwritable v hv)
    obtain rfl : v' = v := Option.some.inj (hv'.symm.trans hv)
    exact hread

/-- A record that goes into another file than the one it was asked for in, made from a class with a
method that has an empty list of children and with a flat symbol beside the method. -/
def farRecord : Record where
  word := "[Class]         C"
  level := 1
  treePath := ["outer"]
  isTree := false
  isExpanded := false
  action :=
    { target := .file (.ofText "/café") ⟨⟨0, 6⟩, ⟨0, 7⟩⟩
      context := ⟨{ id := -1, name := "server", offsetEncoding := .utf8 }, 7, .documentSymbol⟩ }
  lineText := some "class C"
  subject := .symbol (.hierarchical Symbol.classHeading (some
    [.hierarchical Symbol.methodHeading (some []),
      .flat ⟨"f", ⟨-12⟩, Symbol.fileStart, some "C"⟩]))

theorem ofJson?_toJson?_farRecord :
    farRecord.action.target.IsWritable ∧
      ∃ v, farRecord.toJson? = some v ∧ ofJson? v = some farRecord := by
  obtain ⟨hwritten, hread⟩ := ofJson?_toJson? farRecord
  have hwritable : farRecord.action.target.IsWritable := .file "/café" _
  obtain ⟨v, hv⟩ := hwritten.mpr hwritable
  exact ⟨hwritable, v, hv, hread v hv⟩

end Record

end CodeListing
