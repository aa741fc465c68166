import CodeListing.Record.Basic
import CodeListing.Symbol.Strict

/-!
# Records as JSON

A record is read from an object or an array; its action only from an object, since the fields of the
target and the context of the request stand in one object there. A target is a buffer if it reads as
one, and else a file; the subject is a symbol if it reads as one, and else a location. A record has
a written form only if the path it points to has a text.
-/

namespace CodeListing

/-! ### Reading -/

namespace Target

/-- A target among fields: a buffer if a buffer number and a range read, else a file. -/
def ofFields? (fs : Json.Entries) : Option Target :=
  let buffer := do
    let bufnr ← Json.required Json.uint32? "bufnr" fs
    let range ← Json.required Range.ofJson? "range" fs
    return .buffer bufnr range
  let file := do
    let path ← Json.required Path.ofJson? "path" fs
    let range ← Json.required Range.ofJson? "range" fs
    return .file path range
  buffer <|> file

end Target

/-- The entries of an object. -/
def Json.object? : Json → Option Json.Entries
  | .obj entries => some entries
  | _ => none

def Target.ofJson? (v : Json) : Option Target := v.object?.bind Target.ofFields?

/-- The fields of the target and the context stand in one object. -/
def Action.ofJson? (v : Json) : Option Action := do
  let fs ← v.object?
  let target ← Target.ofFields? fs
  let context ← Json.required RequestContext.ofJson? "context" fs
  return { target, context }

/-- A symbol, else a location. -/
def Subject.ofJson? (v : Json) : Option Subject :=
  (Symbol.ofJson? v).map .symbol <|> (Location.ofJson? v).map .location

namespace Record

def fields : List String :=
  ["word", "level", "treePath", "isTree", "isExpanded", "action", "lineText", "data"]

def ofJson? (v : Json) : Option Record := do
  let fs ← v.fields? fields
  let word ← Json.required Json.text? "word" fs
  let level ← Json.required Json.nat? "level" fs
  let treePath ← Json.required (Json.list? Json.text?) "treePath" fs
  let isTree ← Json.required Json.bool? "isTree" fs
  let isExpanded ← Json.required Json.bool? "isExpanded" fs
  let action ← Json.required Action.ofJson? "action" fs
  let lineText ← Json.optional Json.text? "lineText" fs
  let subject ← Json.required Subject.ofJson? "data" fs
  return { word, level, treePath, isTree, isExpanded, action, lineText, subject }

end Record

/-! ### Writing -/

def Target.toEntries? : Target → Option Json.Entries
  | .buffer bufnr range => some [("bufnr", .ofNat bufnr.toNat), ("range", range.toJson)]
  | .file path range => do
    let text ← path.toJson?
    return [("path", text), ("range", range.toJson)]

def Target.toJson? (t : Target) : Option Json := t.toEntries?.map Json.obj

def Action.toJson? (a : Action) : Option Json := do
  let target ← a.target.toEntries?
  return .obj (target ++ [("context", a.context.toJson)])

def Subject.toJson : Subject → Json
  | .symbol s => s.toJson
  | .location l => l.toJson

def Record.toJson? (r : Record) : Option Json := do
  let action ← r.action.toJson?
  return .obj <|
    [("word", .str r.word), ("level", .ofNat r.level),
      ("treePath", .arr (r.treePath.map Json.str)), ("isTree", .bool r.isTree),
      ("isExpanded", .bool r.isExpanded), ("action", action)] ++
    Json.entry? "lineText" Json.str r.lineText ++ [("data", r.subject.toJson)]

end CodeListing
