import CodeListing.Json.Basic
import CodeListing.Uri.Basic

/-!
# Positions, ranges and locations

Where something stands in a file: a zero-based line and character, counted in the units that client
and server agreed on. Positions are ordered by line, then by character.
-/

namespace CodeListing

/-- A place between two characters of a file. -/
structure Position where
  line : UInt32
  character : UInt32
  deriving Repr, DecidableEq

/-- What lies between two positions. -/
structure Range where
  start : Position
  stop : Position
  deriving Repr, DecidableEq

/-- A range in the file that a reference points to. -/
structure Location where
  uri : Uri
  range : Range
  deriving Repr, DecidableEq

/-! ### Order -/

namespace Position

/-- By line, then by character. -/
def order : Position → Position → Ordering := compareLex (compareOn line) (compareOn character)

/-- Whether `p` does not stand after `q`. -/
def atOrBefore (p q : Position) : Bool := (order p q).isLE

end Position

/-! ### Reading and writing -/

namespace Position

def fields : List String := ["line", "character"]

def ofJson? (v : Json) : Option Position := do
  let fs ← v.fields? fields
  let line ← Json.required Json.uint32? "line" fs
  let character ← Json.required Json.uint32? "character" fs
  return { line, character }

def toJson (p : Position) : Json :=
  .obj [("line", .ofNat p.line.toNat), ("character", .ofNat p.character.toNat)]

end Position

namespace Range

def fields : List String := ["start", "end"]

def ofJson? (v : Json) : Option Range := do
  let fs ← v.fields? fields
  let start ← Json.required Position.ofJson? "start" fs
  let stop ← Json.required Position.ofJson? "end" fs
  return { start, stop }

def toJson (r : Range) : Json := .obj [("start", r.start.toJson), ("end", r.stop.toJson)]

end Range

/-- A URI is read from its text. -/
def Uri.ofJson? (v : Json) : Option Uri := v.text?.bind Uri.ofText?

def Uri.toJson (u : Uri) : Json := .str u.text

namespace Location

def fields : List String := ["uri", "range"]

def ofJson? (v : Json) : Option Location := do
  let fs ← v.fields? fields
  let uri ← Json.required Uri.ofJson? "uri" fs
  let range ← Json.required Range.ofJson? "range" fs
  return { uri, range }

def toJson (l : Location) : Json := .obj [("uri", l.uri.toJson), ("range", l.range.toJson)]

end Location

end CodeListing
