import CodeListing.Json.Basic

/-!
# Entries that no reader looks up

A server may say more than what is read of it. `Json.Extends` is a value with entries added to the
objects in it, at any depth and in any number, under keys other than those that are known; an entry
that stands under such a key already may be written over. A reader overlooks additions
(`Json.Overlooks`) if it takes the value before and after them for the same thing, which includes
that it refuses both or neither. Each way to read a field hands this on from the reader of the value
to the reader of the fields, since what stands under a known key is extended and never put there
(`Json.ExtendsEntries.lookup_rel`).
-/

namespace CodeListing.Json

mutual

/-- A value with entries added to objects in it, under keys that are not known. -/
inductive Extends (known : List String) : Json → Json → Prop where
  | refl (v : Json) : Extends known v v
  | arr {items items' : List Json} (h : ExtendsItems known items items') :
      Extends known (.arr items) (.arr items')
  | obj {entries entries' : Entries} (h : ExtendsEntries known entries entries') :
      Extends known (.obj entries) (.obj entries')

/-- Items that are extended one by one. -/
inductive ExtendsItems (known : List String) : List Json → List Json → Prop where
  | nil : ExtendsItems known [] []
  | cons {v v' : Json} {items items' : List Json} (h : Extends known v v')
      (rest : ExtendsItems known items items') : ExtendsItems known (v :: items) (v' :: items')

/-- Entries that are kept, with their values extended, and others put among them. -/
inductive ExtendsEntries (known : List String) : Entries → Entries → Prop where
  | nil : ExtendsEntries known [] []
  | kept {v v' : Json} {entries entries' : Entries} (key : String) (h : Extends known v v')
      (rest : ExtendsEntries known entries entries') :
      ExtendsEntries known ((key, v) :: entries) ((key, v') :: entries')
  | added {key : String} {entries entries' : Entries} (h : key ∉ known) (v : Json)
      (rest : ExtendsEntries known entries entries') :
      ExtendsEntries known entries ((key, v) :: entries')
  | overwritten {key : String} {entries entries' : Entries} (h : key ∉ known) (v v' : Json)
      (rest : ExtendsEntries known entries entries') :
      ExtendsEntries known ((key, v) :: entries) ((key, v') :: entries')

end

variable {known : List String} {α : Type}

/-! ### Fields -/

theorem ExtendsEntries.refl (entries : Entries) : ExtendsEntries known entries entries := by
  induction entries with
  | nil => exact .nil
  | cons entry entries ih => exact .kept entry.1 (.refl entry.2) ih

theorem beq_eq_false_of_unknown {key name : String} (hkey : key ∈ known) (h : name ∉ known) :
    (key == name) = false :=
  beq_false_of_ne (ne_of_mem_of_not_mem hkey h)

/-- What stands under a known key stood there before, and is extended like all the rest. -/
theorem ExtendsEntries.lookup_rel {entries entries' : Entries} {key : String} (hkey : key ∈ known) :
    ExtendsEntries known entries entries' →
      Option.Rel (Extends known) (entries.lookup key) (entries'.lookup key)
  | .nil => .none
  | .kept name h rest => by
    rw [List.lookup_cons, List.lookup_cons]
    cases key == name with
    | true => exact .some h
    | false => exact rest.lookup_rel hkey
  | .added h v rest => by
    rw [List.lookup_cons, beq_eq_false_of_unknown hkey h]
    exact rest.lookup_rel hkey
  | .overwritten h v v' rest => by
    rw [List.lookup_cons, List.lookup_cons, beq_eq_false_of_unknown hkey h]
    exact rest.lookup_rel hkey

/-- Whether a known key is there is not a matter of additions. -/
theorem ExtendsEntries.isSome_lookup {entries entries' : Entries} (key : String)
    (hkey : key ∈ known) (h : ExtendsEntries known entries entries') :
    (entries'.lookup key).isSome = (entries.lookup key).isSome := by
  have hrel := h.lookup_rel hkey
  generalize entries.lookup key = o, entries'.lookup key = o' at hrel ⊢
  cases hrel <;> rfl

theorem ExtendsItems.length_eq {items items' : List Json} :
    ExtendsItems known items items' → items'.length = items.length
  | .nil => rfl
  | .cons _ rest => congrArg (· + 1) rest.length_eq

/-- Names and extended items make extended entries. -/
theorem ExtendsItems.zip {items items' : List Json} :
    ∀ names : List String, ExtendsItems known items items' →
      ExtendsEntries known (names.zip items) (names.zip items')
  | [], _ => .nil
  | _ :: _, .nil => .nil
  | name :: names, .cons h rest => .kept name h (rest.zip names)

/-- The fields of a value are extended with it, whichever of the two forms it has. -/
theorem Extends.fields?_rel {v v' : Json} (names : List String) (h : Extends known v v') :
    Option.Rel (ExtendsEntries known) (v.fields? names) (v'.fields? names) := by
  cases h with
  | refl =>
    cases v.fields? names with
    | none => exact .none
    | some fs => exact .some (.refl fs)
  | arr h =>
    rw [Json.fields?, Json.fields?, h.length_eq]
    split
    · exact .some (h.zip names)
    · exact .none
  | obj h => exact .some h

/-! ### Readers -/

/-- A reader that takes a value and its extensions for the same thing. -/
def Overlooks (known : List String) (read : Json → Option α) : Prop :=
  ∀ ⦃v v' : Json⦄, Extends known v v' → read v' = read v

/-- A reader that takes no arrays and no objects has nothing to overlook. -/
theorem overlooks_of_scalar {read : Json → Option α} (harr : ∀ items, read (.arr items) = none)
    (hobj : ∀ entries, read (.obj entries) = none) : Overlooks known read := by
  intro v v' h
  cases h with
  | refl => rfl
  | arr => rw [harr, harr]
  | obj => rw [hobj, hobj]

theorem text?_overlooks : Overlooks known text? :=
  overlooks_of_scalar (fun _ => rfl) fun _ => rfl

theorem uint32?_overlooks : Overlooks known uint32? :=
  overlooks_of_scalar (fun _ => rfl) fun _ => rfl

theorem bind_eq_of_rel {β : Type} {r : β → β → Prop} {f : β → Option α}
    (hf : ∀ ⦃x x'⦄, r x x' → f x' = f x) {o o' : Option β} :
    Option.Rel r o o' → o'.bind f = o.bind f
  | .none => rfl
  | .some h => hf h

/-- Null is extended by itself alone, so what means nothing goes on to do so. -/
theorem optional?_eq_of_rel {read : Json → Option α} (hread : Overlooks known read)
    {o o' : Option Json} :
    Option.Rel (Extends known) o o' → optional? read o' = optional? read o
  | .none => rfl
  | .some (.refl _) => rfl
  | .some (.arr h) => congrArg (Option.map some) (hread (.arr h))
  | .some (.obj h) => congrArg (Option.map some) (hread (.obj h))

namespace Overlooks

variable {read : Json → Option α} {entries entries' : Entries}

theorem required (hread : Overlooks known read) (key : String) (hkey : key ∈ known)
    (h : ExtendsEntries known entries entries') :
    Json.required read key entries' = Json.required read key entries :=
  bind_eq_of_rel hread (h.lookup_rel hkey)

theorem optional (hread : Overlooks known read) (key : String) (hkey : key ∈ known)
    (h : ExtendsEntries known entries entries') :
    Json.optional read key entries' = Json.optional read key entries :=
  optional?_eq_of_rel hread (h.lookup_rel hkey)

/-- Additions are overlooked by the reader of a value with fields if they are by what it reads from
the fields. -/
theorem ofFields {read : Entries → Option α} (names : List String)
    (hread : ∀ ⦃fs fs'⦄, ExtendsEntries known fs fs' → read fs' = read fs) :
    Overlooks known fun v => (v.fields? names).bind read :=
  fun _ _ h => bind_eq_of_rel hread (h.fields?_rel names)

end Overlooks

theorem ExtendsItems.filterMap_eq {read : Json → Option α} (hread : Overlooks known read)
    {items items' : List Json} :
    ExtendsItems known items items' → items'.filterMap read = items.filterMap read
  | .nil => rfl
  | .cons h rest => by
    rw [List.filterMap_cons, List.filterMap_cons, hread h, rest.filterMap_eq hread]

end CodeListing.Json
