import CodeListing.Json.Basic
import CodeListing.Decimal.Shortest
import CodeListing.Text.Quoted

/-!
# Reading configurations

A configuration is a type all of whose fields have defaults. Reading one lays the entries of a value
over the defaults, one after another; the first entry of a recognised name whose value has another
type ends the reading. Entries come from an object or, under the names of the fields in their
order, from an array. An array with more items than there are fields is refused, but only after
those that have a field were read.
-/

namespace CodeListing

/-- What a reader expected. -/
inductive Expected where
  | text
  | flag
  | width
  | configuration (name : String)
  deriving Repr, DecidableEq

/-- The words for what was expected. -/
def Expected.phrase : Expected → String
  | .text => "a string"
  | .flag => "a boolean"
  | .width => "usize"
  | .configuration name => s!"struct {name}"

/-- Why a value does not read as a configuration. -/
inductive ReadError where
  /-- The value is of another type. -/
  | wrongType (found : Json) (expected : Expected)
  /-- The value is an integer outside the range of a width. -/
  | outOfRange (n : Int)
  /-- The array is longer than the fields. -/
  | tooLong (length : Nat)

/-- The words for a value of the wrong type. -/
def Json.phrase : Json → String
  | .null => "null"
  | .bool b => s!"boolean `{b}`"
  | .num (.int n) => s!"integer `{n}`"
  | .num (.float x) => s!"floating point `{Decimal.ofFloat x}`"
  | .str s => s!"string {Text.quoted s}"
  | .arr _ => "sequence"
  | .obj _ => "map"

/-- How a reading error is worded. -/
def ReadError.message : ReadError → String
  | .wrongType found expected => s!"invalid type: {found.phrase}, expected {expected.phrase}"
  | .outOfRange n => s!"invalid value: integer `{n}`, expected {Expected.width.phrase}"
  | .tooLong length => s!"invalid length {length}, expected fewer elements in array"

namespace Config

/-! ### Field values -/

def readText : Json → Except ReadError String
  | .str s => .ok s
  | v => .error (.wrongType v .text)

def readFlag : Json → Except ReadError Bool
  | .bool b => .ok b
  | v => .error (.wrongType v .flag)

/-- A width is an integer of at most 64 bits without sign. -/
def readWidth : Json → Except ReadError UInt64
  | .num (.int n) =>
    if 0 ≤ n ∧ n < UInt64.size then .ok (UInt64.ofNat n.toNat) else .error (.outOfRange n)
  | v => .error (.wrongType v .width)

/-- A text that may be null. -/
def readText? : Json → Except ReadError (Option String)
  | .null => .ok none
  | v => (readText v).map some

/-! ### Whole values -/

/-- Lays the entries of `v` over `base`. `overlay` reads one entry and leaves alone what has a name
that it does not recognise. -/
def read {α : Type} (name : String) (fields : List String)
    (overlay : α → String × Json → Except ReadError α) (base : α) : Json → Except ReadError α
  | .obj entries => entries.foldlM overlay base
  | .arr items => do
    let config ← (fields.zip items).foldlM overlay base
    if items.length ≤ fields.length then .ok config else .error (.tooLong items.length)
  | v => .error (.wrongType v (.configuration name))

end Config

end CodeListing
