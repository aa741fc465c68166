import CodeListing.Config.Basic
import CodeListing.Proofs.Failure.Traversal
import Mathlib.Data.List.Induction
import Mathlib.Data.List.Nodup

/-!
# Configurations are read field by field

A configuration is described by its fields (`Config.Field`): the name that each has in JSON, how its
values are written there, and where the configuration keeps it. Reading one entry sets the field of
its name and no other (`Config.overlayOf`, `Config.Independent`). From this it follows, by induction
on the entries, when reading succeeds and what every field of the result is
(`Config.Independent.readsFieldwise`). The three kinds of configuration are read in this way
(`Config.configurations_readFieldwise`).
-/

namespace CodeListing

namespace Config

/-! ## Values -/

section Values

variable {v : Json}

theorem readText_eq_ok_iff {s : String} : readText v = .ok s ↔ v = .str s := by
  cases v <;> simp [readText]

theorem readFlag_eq_ok_iff {b : Bool} : readFlag v = .ok b ↔ v = .bool b := by
  cases v <;> simp [readFlag]

/-- The integers that read as a width are those that 64 bits without sign can tell. -/
theorem readWidth_eq_ok_iff {n : UInt64} : readWidth v = .ok n ↔ v = .ofNat n.toNat := by
  cases v with
  | num number =>
    cases number with
    | int m =>
      have hbound := n.toNat_lt
      simp only [readWidth, Json.ofNat, Json.num.injEq, Number.int.injEq]
      constructor
      · intro h
        split at h
        next hrange =>
          obtain ⟨hpos, hlt⟩ := hrange
          have hvalue : (UInt64.ofNat m.toNat).toNat = m.toNat :=
            UInt64.toNat_ofNat_of_lt' (by omega)
          rw [← Except.ok.inj h, hvalue]
          omega
        next => cases h
      · rintro rfl
        rw [if_pos ⟨by omega, by exact_mod_cast hbound⟩, Int.toNat_natCast, UInt64.ofNat_toNat]
    | float x => simp [readWidth, Json.ofNat]
  | _ => simp [readWidth, Json.ofNat]

/-- Null reads as no text. -/
theorem readText?_eq_ok_iff {o : Option String} :
    readText? v = .ok o ↔ v = (o.map Json.str).getD .null := by
  cases v <;> cases o <;> simp [readText?, readText, Except.map]

end Values

/-! ## Fields -/

/-- A field of a configuration. A value in JSON is of the type of the field if it is how some value
of the field is written, and then it is read as that value. -/
structure Field (α : Type) where
  name : String
  Value : Type
  write : Value → Json
  read : Json → Except ReadError Value
  read_eq_ok_iff : ∀ {v : Json} {x : Value}, read v = .ok x ↔ v = write x
  get : α → Value
  set : α → Value → α
  get_set : ∀ c x, get (set c x) = x

namespace Field

variable {α : Type}

def text (name : String) (get : α → String) (set : α → String → α)
    (get_set : ∀ c x, get (set c x) = x) : Field α :=
  ⟨name, String, .str, readText, readText_eq_ok_iff, get, set, get_set⟩

def flag (name : String) (get : α → Bool) (set : α → Bool → α)
    (get_set : ∀ c x, get (set c x) = x) : Field α :=
  ⟨name, Bool, .bool, readFlag, readFlag_eq_ok_iff, get, set, get_set⟩

/-- A width is an integer of at most 64 bits without sign. -/
def width (name : String) (get : α → UInt64) (set : α → UInt64 → α)
    (get_set : ∀ c x, get (set c x) = x) : Field α :=
  ⟨name, UInt64, fun n => .ofNat n.toNat, readWidth, readWidth_eq_ok_iff, get, set, get_set⟩

/-- A text that may be null. -/
def text? (name : String) (get : α → Option String) (set : α → Option String → α)
    (get_set : ∀ c x, get (set c x) = x) : Field α :=
  ⟨name, Option String, fun o => (o.map Json.str).getD .null, readText?, readText?_eq_ok_iff, get,
    set, get_set⟩

theorem write_injective (field : Field α) : Function.Injective field.write := by
  intro x y h
  have hx : field.read (field.write x) = .ok x := field.read_eq_ok_iff.mpr rfl
  exact Except.ok.inj (hx.symm.trans (field.read_eq_ok_iff.mpr h))

/-- The entry under which a configuration writes the field. -/
def entryOf (field : Field α) (c : α) : String × Json := (field.name, field.write (field.get c))

/-- Every entry of the field has a value of its type. -/
def Admits (field : Field α) (entries : Json.Entries) : Prop :=
  ∀ v, (field.name, v) ∈ entries → ∃ x, v = field.write x

end Field

/-- What entries say under a name: the last of them counts. -/
def lastOf (name : String) (entries : Json.Entries) : Option Json := entries.reverse.lookup name

theorem lastOf_append_singleton (name key : String) (entries : Json.Entries) (v : Json) :
    lastOf name (entries ++ [(key, v)]) = if name = key then some v else lastOf name entries := by
  rw [lastOf, List.reverse_append, List.reverse_singleton, List.singleton_append, List.lookup_cons]
  by_cases h : name = key
  · simp [h]
  · rw [if_neg h, beq_false_of_ne h, lastOf]

theorem mem_of_lastOf {name : String} {entries : Json.Entries} {v : Json}
    (h : lastOf name entries = some v) : (name, v) ∈ entries := by
  obtain ⟨before, after, heq, -⟩ := List.lookup_eq_some_iff.mp h
  rw [← List.mem_reverse, heq]
  exact List.mem_append_right before List.mem_cons_self

/-- The configuration `c` has in a field what the entries say, and what `base` has there if they say
nothing. -/
def Field.Overlays {α : Type} (field : Field α) (base : α) (entries : Json.Entries) (c : α) :
    Prop :=
  match lastOf field.name entries with
  | none => field.get c = field.get base
  | some v => v = field.write (field.get c)

/-- A configuration is read field by field over `base`: from an object, whatever else is in it, from
an array as from the object that has its items under the names of the fields, and from what was
written. -/
structure ReadsFieldwise {α : Type} (fields : List (Field α)) (base : α)
    (read : Json → Except ReadError α) (write : α → Json) : Prop where
  /-- There is nothing to a configuration but its fields. -/
  ext : ∀ c c', (∀ field ∈ fields, field.get c = field.get c') → c = c'
  succeeds : ∀ entries,
    (∃ c, read (.obj entries) = .ok c) ↔ ∀ field ∈ fields, field.Admits entries
  overlays : ∀ entries c, read (.obj entries) = .ok c →
    ∀ field ∈ fields, field.Overlays base entries c
  /-- What entries say about other fields, or about none, makes no difference to a field. -/
  independent : ∀ field ∈ fields, ∀ entries entries' c c',
    read (.obj entries) = .ok c → read (.obj entries') = .ok c' →
    lastOf field.name entries = lastOf field.name entries' → field.get c = field.get c'
  array : ∀ items, items.length ≤ fields.length →
    read (.arr items) = read (.obj ((fields.map (·.name)).zip items))
  array_tooLong : ∀ items, fields.length < items.length → ∃ e, read (.arr items) = .error e
  /-- Only objects and arrays are configurations. -/
  other : ∀ v, (∀ entries, v ≠ .obj entries) → (∀ items, v ≠ .arr items) →
    ∃ e, read v = .error e
  /-- A configuration is written in full. -/
  written : ∀ c, write c = .obj (fields.map (·.entryOf c))
  readBack : ∀ c, read (write c) = .ok c

/-! ## One entry -/

variable {α : Type} {fields : List (Field α)} {base c c' : α} {name : String} {v : Json}

/-- Reads one entry into the field of its name, if there is one. -/
def overlayOf (fields : List (Field α)) (c : α) (entry : String × Json) : Except ReadError α :=
  match fields.find? (·.name == entry.1) with
  | none => .ok c
  | some field => (field.read entry.2).map (field.set c)

theorem overlayOf_of_forall_ne (h : ∀ field ∈ fields, field.name ≠ name) :
    overlayOf fields c (name, v) = .ok c := by
  have hfind : fields.find? (·.name == name) = none :=
    List.find?_eq_none.mpr fun field hfield => by simpa using h field hfield
  simp only [overlayOf, hfind]

/-- The fields have different names, do not touch each other, and are all there is to a
configuration. -/
structure Independent (fields : List (Field α)) : Prop where
  nodup : (fields.map (·.name)).Nodup
  frame : ∀ field ∈ fields, ∀ other ∈ fields, other.name ≠ field.name →
    ∀ c x, other.get (field.set c x) = other.get c
  ext : ∀ c c', (∀ field ∈ fields, field.get c = field.get c') → c = c'

namespace Independent

/-- An entry has a field of its name, and there is no other one, or it has none. -/
theorem find?_cases (h : Independent fields) (name : String) :
    (fields.find? (·.name == name) = none ∧ ∀ field ∈ fields, field.name ≠ name) ∨
    ∃ field ∈ fields, fields.find? (·.name == name) = some field ∧ field.name = name ∧
      ∀ other ∈ fields, other.name = name → other = field := by
  cases hfind : fields.find? (·.name == name) with
  | none =>
    refine .inl ⟨rfl, fun field hfield => ?_⟩
    simpa using List.find?_eq_none.mp hfind field hfield
  | some field =>
    have hfield := List.mem_of_find?_eq_some hfind
    have hname : field.name = name := by simpa using List.find?_some hfind
    exact .inr ⟨field, hfield, rfl, hname, fun other hother hsame =>
      List.inj_on_of_nodup_map h.nodup hother hfield (hsame.trans hname.symm)⟩

theorem exists_overlayOf_iff (h : Independent fields) (c : α) (name : String) (v : Json) :
    (∃ c', overlayOf fields c (name, v) = .ok c') ↔
      ∀ field ∈ fields, field.name = name → ∃ x, v = field.write x := by
  rcases h.find?_cases name with ⟨hfind, hnone⟩ | ⟨field, hfield, hfind, hname, honly⟩
  · simp only [overlayOf, hfind]
    exact ⟨fun _ field hfield hname => absurd hname (hnone field hfield), fun _ => ⟨c, rfl⟩⟩
  · simp only [overlayOf, hfind]
    constructor
    · rintro ⟨c', hc'⟩ other hother hsame
      obtain rfl := honly other hother hsame
      obtain ⟨x, hx, -⟩ := map_eq_ok_iff.mp hc'
      exact ⟨x, other.read_eq_ok_iff.mp hx⟩
    · intro hall
      obtain ⟨x, hx⟩ := hall field hfield hname
      exact ⟨_, map_eq_ok_iff.mpr ⟨x, field.read_eq_ok_iff.mpr hx, rfl⟩⟩

/-- An entry sets the field of its name and leaves every other one as it is. -/
theorem overlayOf_sets (h : Independent fields) (hc' : overlayOf fields c (name, v) = .ok c') :
    ∀ field ∈ fields,
      if field.name = name then v = field.write (field.get c') else field.get c' = field.get c := by
  intro other hother
  rcases h.find?_cases name with ⟨hfind, hnone⟩ | ⟨field, hfield, hfind, hname, honly⟩
  · simp only [overlayOf, hfind] at hc'
    rw [if_neg (hnone other hother), Except.ok.inj hc']
  · simp only [overlayOf, hfind] at hc'
    obtain ⟨x, hx, rfl⟩ := map_eq_ok_iff.mp hc'
    split
    next hsame =>
      obtain rfl := honly other hother hsame
      rw [other.get_set, other.read_eq_ok_iff.mp hx]
    next hother' => exact h.frame field hfield other hother (hname ▸ hother') c x

/-! ## All entries -/

variable {entries entries' : Json.Entries} {field : Field α}

/-- Entries can be read if each of them can. -/
theorem exists_foldlM_iff (h : Independent fields) :
    (∃ c, entries.foldlM (overlayOf fields) base = .ok c) ↔
      ∀ field ∈ fields, field.Admits entries := by
  induction entries using List.reverseRecOn with
  | nil =>
    constructor
    · intro _ field _ v hv
      exact absurd hv List.not_mem_nil
    · intro _
      exact ⟨base, rfl⟩
  | append_singleton entries entry ih =>
    obtain ⟨name, v⟩ := entry
    simp only [List.foldlM_append, List.foldlM_cons, List.foldlM_nil, bind_pure, bind_eq_ok_iff]
    constructor
    · rintro ⟨c, before, hbefore, hlast⟩ field hfield w hw
      rcases List.mem_append.mp hw with hw | hw
      · exact ih.mp ⟨before, hbefore⟩ field hfield w hw
      · obtain ⟨hname, rfl⟩ := Prod.mk.inj (List.mem_singleton.mp hw)
        exact (h.exists_overlayOf_iff before name w).mp ⟨c, hlast⟩ field hfield hname
    · intro hall
      obtain ⟨before, hbefore⟩ := ih.mpr fun field hfield w hw =>
        hall field hfield w (List.mem_append_left _ hw)
      obtain ⟨c, hlast⟩ := (h.exists_overlayOf_iff before name v).mpr fun field hfield hname =>
        hall field hfield v (by simp [hname])
      exact ⟨c, before, hbefore, hlast⟩

theorem overlays_of_foldlM (h : Independent fields)
    (hc : entries.foldlM (overlayOf fields) base = .ok c) :
    ∀ field ∈ fields, field.Overlays base entries c := by
  induction entries using List.reverseRecOn generalizing c with
  | nil =>
    obtain rfl : base = c := Except.ok.inj hc
    exact fun _ _ => rfl
  | append_singleton entries entry ih =>
    obtain ⟨name, v⟩ := entry
    simp only [List.foldlM_append, List.foldlM_cons, List.foldlM_nil, bind_pure,
      bind_eq_ok_iff] at hc
    obtain ⟨before, hbefore, hlast⟩ := hc
    intro field hfield
    have hsets := h.overlayOf_sets hlast field hfield
    rw [Field.Overlays, lastOf_append_singleton]
    by_cases hname : field.name = name
    · rw [if_pos hname] at hsets ⊢
      exact hsets
    · -- the entry is about another field, or about none, and leaves this one as it was
      rw [if_neg hname] at hsets ⊢
      have hoverlays := ih hbefore field hfield
      rw [Field.Overlays] at hoverlays
      rwa [hsets]

/-- The names of fields that are written tell them apart. -/
theorem mem_entries_iff (h : Independent fields) (hfield : field ∈ fields) (c : α) :
    (field.name, v) ∈ fields.map (·.entryOf c) ↔ v = field.write (field.get c) := by
  rw [List.mem_map]
  constructor
  · rintro ⟨other, hother, heq⟩
    obtain ⟨hname, rfl⟩ := Prod.mk.inj heq
    rw [List.inj_on_of_nodup_map h.nodup hother hfield hname]
  · rintro rfl
    exact ⟨field, hfield, rfl⟩

/-- Where all fields are written, what is said of one is what it is. -/
theorem lastOf_written (h : Independent fields) (hfield : field ∈ fields) (c : α) :
    lastOf field.name (fields.map (·.entryOf c)) = some (field.write (field.get c)) := by
  cases hlast : lastOf field.name (fields.map (·.entryOf c)) with
  | none =>
    rw [lastOf, List.lookup_eq_none_iff] at hlast
    have hwritten := (h.mem_entries_iff hfield c).mpr rfl
    exact absurd (hlast _ (List.mem_reverse.mpr hwritten)) (by simp)
  | some v => rw [(h.mem_entries_iff hfield c).mp (mem_of_lastOf hlast)]

theorem readsFieldwise (h : Independent fields) (title : String) (base : α) :
    ReadsFieldwise fields base (read title (fields.map (·.name)) (overlayOf fields) base)
      fun c => .obj (fields.map (·.entryOf c)) where
  ext := h.ext
  succeeds _ := h.exists_foldlM_iff
  overlays _ _ := h.overlays_of_foldlM
  independent field hfield entries entries' c c' hc hc' hsame := by
    have hoverlays := h.overlays_of_foldlM hc field hfield
    have hoverlays' := h.overlays_of_foldlM hc' field hfield
    rw [Field.Overlays, hsame] at hoverlays
    rw [Field.Overlays] at hoverlays'
    cases hlast : lastOf field.name entries' with
    | none =>
      rw [hlast] at hoverlays hoverlays'
      exact hoverlays.trans hoverlays'.symm
    | some v =>
      rw [hlast] at hoverlays hoverlays'
      exact field.write_injective (hoverlays.symm.trans hoverlays')
  array items hlength := by
    simp only [read, List.length_map, if_pos hlength]
    exact bind_pure _
  array_tooLong items hlength := by
    simp only [read, List.length_map, if_neg (Nat.not_le.mpr hlength)]
    cases List.foldlM (overlayOf fields) base ((fields.map (·.name)).zip items) with
    | error e => exact ⟨e, rfl⟩
    | ok c => exact ⟨_, rfl⟩
  other v hobj harr := by
    cases v with
    | obj entries => exact absurd rfl (hobj entries)
    | arr items => exact absurd rfl (harr items)
    | _ => exact ⟨_, rfl⟩
  written _ := rfl
  readBack c := by
    obtain ⟨c', hc'⟩ : ∃ c', (fields.map (·.entryOf c)).foldlM (overlayOf fields) base = .ok c' :=
      h.exists_foldlM_iff.mpr fun field hfield v hv => ⟨_, (h.mem_entries_iff hfield c).mp hv⟩
    obtain rfl : c = c' := by
      refine h.ext c c' fun field hfield => ?_
      have hoverlays := h.overlays_of_foldlM hc' field hfield
      rw [Field.Overlays, h.lastOf_written hfield] at hoverlays
      exact field.write_injective hoverlays
    exact hc'

end Independent

end Config

/-! ## Configurations -/

open Config

namespace OutlineConfig

/-- The fields in the order in which an array gives them. -/
def fieldList : List (Config.Field OutlineConfig) :=
  [.text "clientName" (·.clientName) (fun c s => { c with clientName := s }) fun _ _ => rfl,
    .flag "displayContainerName" (·.showContainers) (fun c b => { c with showContainers := b })
      fun _ _ => rfl,
    .width "symbolNameWidth" (·.nameWidth) (fun c n => { c with nameWidth := n }) fun _ _ => rfl]

theorem independent_fieldList : Independent fieldList where
  nodup := by decide
  frame := by simp [fieldList, Config.Field.text, Config.Field.flag, Config.Field.width]
  ext c c' h := by
    cases c
    cases c'
    simpa [fieldList, Config.Field.text, Config.Field.flag, Config.Field.width] using h

theorem overlay_eq : overlay = overlayOf fieldList := by
  funext c ⟨name, v⟩
  unfold overlay
  split
  case h_4 hclient hcontainers hwidth =>
    refine (overlayOf_of_forall_ne ?_).symm
    simp only [fieldList, List.forall_mem_cons]
    exact ⟨fun h => hclient v (h ▸ rfl), fun h => hcontainers v (h ▸ rfl),
      fun h => hwidth v (h ▸ rfl), by simp⟩
  all_goals
    next heq =>
      cases heq
      rfl

theorem ofJson_readsFieldwise : ReadsFieldwise fieldList {} ofJson toJson := by
  have h := independent_fieldList.readsFieldwise "DocumentSymbolConfig" {}
  rwa [← overlay_eq] at h

end OutlineConfig

namespace ReferenceConfig

/-- The fields in the order in which an array gives them. -/
def fieldList : List (Config.Field ReferenceConfig) :=
  [.text "clientName" (·.clientName) (fun c s => { c with clientName := s }) fun _ _ => rfl,
    .flag "includeDeclaration" (·.includeDeclaration)
      (fun c b => { c with includeDeclaration := b }) fun _ _ => rfl,
    .flag "showLine" (·.showLines) (fun c b => { c with showLines := b }) fun _ _ => rfl,
    .width "locationPaddingWidth" (·.placeWidth) (fun c n => { c with placeWidth := n })
      fun _ _ => rfl]

theorem independent_fieldList : Independent fieldList where
  nodup := by decide
  frame := by simp [fieldList, Config.Field.text, Config.Field.flag, Config.Field.width]
  ext c c' h := by
    cases c
    cases c'
    simpa [fieldList, Config.Field.text, Config.Field.flag, Config.Field.width] using h

theorem overlay_eq : overlay = overlayOf fieldList := by
  funext c ⟨name, v⟩
  unfold overlay
  split
  case h_5 hclient hdeclaration hlines hwidth =>
    refine (overlayOf_of_forall_ne ?_).symm
    simp only [fieldList, List.forall_mem_cons]
    exact ⟨fun h => hclient v (h ▸ rfl), fun h => hdeclaration v (h ▸ rfl),
      fun h => hlines v (h ▸ rfl), fun h => hwidth v (h ▸ rfl), by simp⟩
  all_goals
    next heq =>
      cases heq
      rfl

theorem ofJson_readsFieldwise : ReadsFieldwise fieldList {} ofJson toJson := by
  have h := independent_fieldList.readsFieldwise "ReferencesConfig" {}
  rwa [← overlay_eq] at h

end ReferenceConfig

namespace Settings

/-- The one field. -/
def fieldList : List (Config.Field Settings) :=
  [.text? "defaultClientName" (·.defaultClientName) (fun c o => { c with defaultClientName := o })
    fun _ _ => rfl]

theorem independent_fieldList : Independent fieldList where
  nodup := by decide
  frame := by simp [fieldList]
  ext c c' h := by
    cases c
    cases c'
    simpa [fieldList, Config.Field.text?] using h

theorem overlay_eq : overlay = overlayOf fieldList := by
  funext c ⟨name, v⟩
  unfold overlay
  split
  case h_2 hclient =>
    refine (overlayOf_of_forall_ne ?_).symm
    simp only [fieldList, List.forall_mem_cons]
    exact ⟨fun h => hclient v (h ▸ rfl), by simp⟩
  case h_1 heq =>
    cases heq
    rfl

theorem ofJson_readsFieldwise : ReadsFieldwise fieldList {} ofJson toJson := by
  have h := independent_fieldList.readsFieldwise "GatherSettings" {}
  rwa [← overlay_eq] at h

end Settings

/-- Every kind of configuration is read field by field over its defaults. -/
theorem Config.configurations_readFieldwise :
    ReadsFieldwise OutlineConfig.fieldList {} OutlineConfig.ofJson OutlineConfig.toJson ∧
    ReadsFieldwise ReferenceConfig.fieldList {} ReferenceConfig.ofJson ReferenceConfig.toJson ∧
    ReadsFieldwise Settings.fieldList {} Settings.ofJson Settings.toJson :=
  ⟨OutlineConfig.ofJson_readsFieldwise, ReferenceConfig.ofJson_readsFieldwise,
    Settings.ofJson_readsFieldwise⟩

example : ReferenceConfig.ofJson (.obj [("showLine", .bool true), ("unknown", .null)]) =
    .ok { showLines := true } := rfl

end CodeListing
