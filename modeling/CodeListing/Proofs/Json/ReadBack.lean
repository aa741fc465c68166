import CodeListing.Request
import CodeListing.Symbol.Basic

/-!
# What was written reads back

For every type that a record is made of and that needs no recursion, the reader undoes the writer:
`ofJson? a.toJson = some a`. The lemmas are tagged for `simp`, and each rests on those of the types
of its fields. A field that is written only when there is a value reads as none where it is left
out, which needs that no other field has its name.
-/

namespace CodeListing

/-! ## Single values -/

namespace Json

@[simp] theorem text?_str (s : String) : (str s).text? = some s := rfl

@[simp] theorem bool?_bool (b : Bool) : (bool b).bool? = some b := rfl

@[simp] theorem nat?_ofNat (n : Nat) : (ofNat n).nat? = some n := by
  simp [ofNat, nat?, int?]

@[simp] theorem uint32?_ofNat (n : UInt32) : (ofNat n.toNat).uint32? = some n := by
  simp [uint32?, n.toNat_lt]

@[simp] theorem int32?_ofInt (n : Int32) : (ofInt n.toInt).int32? = some n := by
  show (if _ ∧ _ then some (Int32.ofInt n.toInt) else none) = some n
  rw [if_pos ⟨n.minValue_le_toInt, n.toInt_le⟩, Int32.ofInt_toInt]

@[simp] theorem int64?_ofInt (n : Int64) : (ofInt n.toInt).int64? = some n := by
  show (if _ ∧ _ then some (Int64.ofInt n.toInt) else none) = some n
  rw [if_pos ⟨n.minValue_le_toInt, n.toInt_le⟩, Int64.ofInt_toInt]

/-- An array reads back if its items do. -/
theorem list?_map {α : Type} {read : Json → Option α} {write : α → Json}
    (h : ∀ a, read (write a) = some a) (as : List α) :
    (arr (as.map write)).list? read = some as := by
  show (as.map write).mapM read = some as
  induction as with
  | nil => rfl
  | cons a as ih => simp [h, ih]

end Json

/-! ## Places -/

@[simp] theorem Position.ofJson?_toJson (p : Position) : ofJson? p.toJson = some p := by
  simp [ofJson?, toJson, Json.fields?, Json.required, List.lookup_cons]

@[simp] theorem Range.ofJson?_toJson (r : Range) : ofJson? r.toJson = some r := by
  simp [ofJson?, toJson, Json.fields?, Json.required, List.lookup_cons]

@[simp] theorem Uri.ofJson?_toJson (u : Uri) : ofJson? u.toJson = some u := by
  simp [ofJson?, toJson, ofText?_text]

@[simp] theorem Location.ofJson?_toJson (l : Location) : ofJson? l.toJson = some l := by
  simp [ofJson?, toJson, Json.fields?, Json.required, List.lookup_cons]

/-! ## Requests -/

@[simp] theorem OffsetEncoding.ofJson?_toJson (e : OffsetEncoding) : ofJson? e.toJson = some e := by
  cases e <;> rfl

@[simp] theorem Method.ofJson?_toJson (m : Method) : ofJson? m.toJson = some m := by
  cases m <;> rfl

@[simp] theorem Client.ofJson?_toJson (c : Client) : ofJson? c.toJson = some c := by
  simp [ofJson?, toJson, Json.fields?, Json.required, Json.defaulted, List.lookup_cons]

@[simp] theorem RequestContext.ofJson?_toJson (c : RequestContext) : ofJson? c.toJson = some c := by
  simp [ofJson?, toJson, Json.fields?, Json.required, List.lookup_cons]

/-! ## Symbols without what is inside them -/

@[simp] theorem SymbolKind.ofJson?_toJson (k : SymbolKind) : ofJson? k.toJson = some k := by
  simp [ofJson?, toJson]

@[simp] theorem Heading.ofFields?_toEntries (h : Heading) : ofFields? h.toEntries = some h := by
  obtain ⟨name, detail, kind, range, selectionRange⟩ := h
  cases detail <;>
    simp [ofFields?, toEntries, Json.required, Json.optional, Json.optional?, Json.entry?,
      List.lookup_cons]

@[simp] theorem FlatSymbol.ofFields?_toEntries (s : FlatSymbol) :
    ofFields? s.toEntries = some s := by
  obtain ⟨name, kind, location, containerName⟩ := s
  cases containerName <;>
    simp [ofFields?, toEntries, Json.required, Json.optional, Json.optional?, Json.entry?,
      List.lookup_cons]

end CodeListing
