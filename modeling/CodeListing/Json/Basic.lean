/-!
# JSON values

The values that language servers and hosts exchange. A number written with a point or an exponent
is not an integer, whatever its value, so the two kinds of number stay apart. An object is the list
of its entries; what reads from an object looks its keys up, so that neither unknown keys nor the
order of the keys play a part.

A type with named fields is read from an object that has them as keys, or from an array that lists
them in a fixed order: `fields?` turns either into entries.
-/

namespace CodeListing

/-- A number, by the form it was written in. -/
inductive Number where
  | int (n : Int)
  | float (x : Float)

/-- A JSON value. -/
inductive Json where
  | null
  | bool (b : Bool)
  | num (n : Number)
  | str (s : String)
  | arr (items : List Json)
  | obj (entries : List (String × Json))

instance : Inhabited Json := ⟨.null⟩

/-- The entries of an object. -/
abbrev Json.Entries := List (String × Json)

namespace Json

/-! ### Single values -/

def bool? : Json → Option Bool
  | .bool b => some b
  | _ => none

def text? : Json → Option String
  | .str s => some s
  | _ => none

def int? : Json → Option Int
  | .num (.int n) => some n
  | _ => none

/-- An integer that is not negative. -/
def nat? (v : Json) : Option Nat :=
  v.int?.bind fun n => if 0 ≤ n then some n.toNat else none

/-- An integer of at most 32 bits without sign. -/
def uint32? (v : Json) : Option UInt32 :=
  v.nat?.bind fun n => if n < UInt32.size then some (UInt32.ofNat n) else none

/-- An integer of at most 64 bits without sign. -/
def uint64? (v : Json) : Option UInt64 :=
  v.nat?.bind fun n => if n < UInt64.size then some (UInt64.ofNat n) else none

/-- An integer of at most 32 bits with sign. -/
def int32? (v : Json) : Option Int32 :=
  v.int?.bind fun n =>
    if Int32.minValue.toInt ≤ n ∧ n ≤ Int32.maxValue.toInt then some (Int32.ofInt n) else none

/-- An integer of at most 64 bits with sign. -/
def int64? (v : Json) : Option Int64 :=
  v.int?.bind fun n =>
    if Int64.minValue.toInt ≤ n ∧ n ≤ Int64.maxValue.toInt then some (Int64.ofInt n) else none

/-- An array whose items all read. -/
def list? {α : Type} (read : Json → Option α) : Json → Option (List α)
  | .arr items => items.mapM read
  | _ => none

def ofNat (n : Nat) : Json := .num (.int n)

def ofInt (n : Int) : Json := .num (.int n)

/-! ### Fields -/

/-- The fields of a value: the entries of an object, or the items of an array under the names of the
fields in their order. An array may be short but not longer than the names. -/
def fields? (names : List String) : Json → Option Entries
  | .obj entries => some entries
  | .arr items => if items.length ≤ names.length then some (names.zip items) else none
  | _ => none

/-- A field that has to be present. -/
def required {α : Type} (read : Json → Option α) (name : String) (fields : Entries) : Option α :=
  (fields.lookup name).bind read

/-- A value that may be missing or null, which both mean that there is none. -/
def optional? {α : Type} (read : Json → Option α) : Option Json → Option (Option α)
  | none | some .null => some none
  | some v => (read v).map some

/-- A field that may be missing or null. -/
def optional {α : Type} (read : Json → Option α) (name : String) (fields : Entries) :
    Option (Option α) :=
  optional? read (fields.lookup name)

/-- A field that may be missing, and then has the value `default`. -/
def defaulted {α : Type} (default : α) (read : Json → Option α) (name : String)
    (fields : Entries) : Option α :=
  match fields.lookup name with
  | none => some default
  | some v => read v

/-- The entry of a field that is written only when there is a value. -/
def entry? {α : Type} (name : String) (write : α → Json) : Option α → Entries
  | none => []
  | some a => [(name, write a)]

end Json

end CodeListing
