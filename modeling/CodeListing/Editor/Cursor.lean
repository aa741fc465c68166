import CodeListing.Failure.Service
import CodeListing.Place
import CodeListing.Request
import CodeListing.Uri.FilePath

/-!
# The position of the cursor

An editor knows the cursor by line and byte column; a server wants the column in units of its own.
A byte column stands for the longest part of the line, in whole characters, whose UTF-8 length does
not go beyond it, and in another unit for the length of the same part.
-/

namespace CodeListing

/-- How many units a character takes. -/
def OffsetEncoding.units : OffsetEncoding → Char → Nat
  | .utf8, c => c.utf8Size
  | .utf16, c => if c.toNat < 0x10000 then 1 else 2
  | .utf32, _ => 1

/-- How many units a text takes. -/
def OffsetEncoding.length (e : OffsetEncoding) : List Char → Nat
  | [] => 0
  | c :: cs => e.units c + e.length cs

/-- The longest part from the beginning, in whole characters, of at most `budget` bytes. -/
def wholePart : Nat → List Char → List Char
  | _, [] => []
  | budget, c :: cs => if c.utf8Size ≤ budget then c :: wholePart (budget - c.utf8Size) cs else []

/-- The column in units of `e` of a byte column, as a 32-bit number. -/
def OffsetEncoding.column (e : OffsetEncoding) (line : String) (byteColumn : Nat) : UInt32 :=
  UInt32.ofNat (e.length (wholePart byteColumn line.toList))

/-! ### What is asked about the cursor -/

/-- What an editor tells about its buffers and windows. -/
structure Editor where
  bufferPath : UInt32 → Except ServiceError Path
  /-- The zero-based line and the byte column of the cursor in a window. -/
  cursor : UInt32 → Except ServiceError (UInt32 × Nat)
  line : UInt32 → UInt32 → Except ServiceError String

namespace Editor

/-- The URI of a buffer. -/
def documentUri (editor : Editor) (bufnr : UInt32) : Except ServiceError Uri := do
  let path ← editor.bufferPath bufnr
  path.toUri

/-- The URI of a buffer and the position of the cursor in units of `e`. -/
def cursorPosition (editor : Editor) (bufnr winid : UInt32) (e : OffsetEncoding) :
    Except ServiceError (Uri × Position) := do
  let uri ← editor.documentUri bufnr
  let (line, byteColumn) ← editor.cursor winid
  let text ← editor.line bufnr line
  return (uri, { line, character := e.column text byteColumn })

end Editor

/-! ### Parameters of requests -/

/-- The parameter that names a document. -/
def documentEntry (uri : Uri) : String × Json := ("textDocument", .obj [("uri", uri.toJson)])

/-- The parameters that name a position in a document. -/
def positionEntries (uri : Uri) (position : Position) : Json.Entries :=
  [documentEntry uri, ("position", position.toJson)]

end CodeListing
