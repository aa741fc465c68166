import CodeListing.Json.Basic
import CodeListing.Path.Basic

/-!
# Clients and requests

A client is a live connection to one language server. A request is made from a buffer, which is its
origin, by one method; every record of the answer carries the context of the request: client, buffer
and method.
-/

namespace CodeListing

/-- The unit in which a server counts the characters of a line. -/
inductive OffsetEncoding where
  | utf8
  | utf16
  | utf32
  deriving Repr, DecidableEq

/-- A connection to a language server. -/
structure Client where
  id : Int64
  name : String
  offsetEncoding : OffsetEncoding := .utf16
  deriving Repr, DecidableEq

/-- What servers are asked for. -/
inductive Method where
  | documentSymbol
  | references
  deriving Repr, DecidableEq

/-- Where a listing is asked for. -/
structure Origin where
  bufnr : UInt32
  winid : UInt32
  /-- The directory that shown paths are relative to. -/
  cwd : Path
  deriving Repr, DecidableEq

/-- The request that a record answers. -/
structure RequestContext where
  client : Client
  bufnr : UInt32
  method : Method
  deriving Repr, DecidableEq

/-! ### Reading and writing -/

/-- The name of an enumerated value: a text, or an object that has it as its only key, with null. -/
def Json.tag? : Json → Option String
  | .str s => some s
  | .obj [(key, .null)] => some key
  | _ => none

namespace OffsetEncoding

def name : OffsetEncoding → String
  | .utf8 => "utf-8"
  | .utf16 => "utf-16"
  | .utf32 => "utf-32"

def ofName? : String → Option OffsetEncoding
  | "utf-8" => some .utf8
  | "utf-16" => some .utf16
  | "utf-32" => some .utf32
  | _ => none

def ofJson? (v : Json) : Option OffsetEncoding := v.tag?.bind ofName?

def toJson (e : OffsetEncoding) : Json := .str e.name

end OffsetEncoding

namespace Method

def name : Method → String
  | .documentSymbol => "textDocument/documentSymbol"
  | .references => "textDocument/references"

def ofName? : String → Option Method
  | "textDocument/documentSymbol" => some .documentSymbol
  | "textDocument/references" => some .references
  | _ => none

def ofJson? (v : Json) : Option Method := v.tag?.bind ofName?

def toJson (m : Method) : Json := .str m.name

end Method

/-- A path is read from its text. -/
def Path.ofJson? (v : Json) : Option Path := v.text?.map Path.ofText

/-- A path is written as its text, which it has if it is valid UTF-8. -/
def Path.toJson? (p : Path) : Option Json := p.text?.map Json.str

namespace Client

def fields : List String := ["id", "name", "offsetEncoding"]

def ofJson? (v : Json) : Option Client := do
  let fs ← v.fields? fields
  let id ← Json.required Json.int64? "id" fs
  let name ← Json.required Json.text? "name" fs
  let offsetEncoding ← Json.defaulted .utf16 OffsetEncoding.ofJson? "offsetEncoding" fs
  return { id, name, offsetEncoding }

def toJson (c : Client) : Json :=
  .obj [("id", .ofInt c.id.toInt), ("name", .str c.name),
    ("offsetEncoding", c.offsetEncoding.toJson)]

end Client

namespace Origin

def fields : List String := ["bufnr", "winid", "cwd"]

def ofJson? (v : Json) : Option Origin := do
  let fs ← v.fields? fields
  let bufnr ← Json.required Json.uint32? "bufnr" fs
  let winid ← Json.required Json.uint32? "winid" fs
  let cwd ← Json.required Path.ofJson? "cwd" fs
  return { bufnr, winid, cwd }

def toJson? (o : Origin) : Option Json := do
  let cwd ← o.cwd.toJson?
  return .obj [("bufnr", .ofNat o.bufnr.toNat), ("winid", .ofNat o.winid.toNat), ("cwd", cwd)]

end Origin

namespace RequestContext

def fields : List String := ["client", "bufnr", "method"]

def ofJson? (v : Json) : Option RequestContext := do
  let fs ← v.fields? fields
  let client ← Json.required Client.ofJson? "client" fs
  let bufnr ← Json.required Json.uint32? "bufnr" fs
  let method ← Json.required Method.ofJson? "method" fs
  return { client, bufnr, method }

def toJson (c : RequestContext) : Json :=
  .obj [("client", c.client.toJson), ("bufnr", .ofNat c.bufnr.toNat),
    ("method", c.method.toJson)]

end RequestContext

end CodeListing
