import CodeListing.Failure.Service
import CodeListing.Path.Basic
import CodeListing.Uri.Basic
import CodeListing.Uri.Host

/-!
# File URIs and paths

`Uri.toPath` is the path that a reference points to. A `file` URI of this machine, or of one of its
drives, points to the path that its segments spell once the dot segments are resolved and the
escapes are decoded; any other reference stands for itself, so that a host can still open it.
`Path.toUri` spells an absolute path as a `file` URI, escaping what a URI path cannot show; it does
not resolve `..`, and it fails for the few characters that it leaves as they are but that the grammar
forbids.
-/

namespace CodeListing

namespace Uri

/-! ### Dot segments -/

/-- What a segment does to the path before it. -/
inductive Step where
  | stay
  | up
  | enter (segment : List Char)
  deriving Repr, DecidableEq

/-- A segment as a step. A dot segment is one that decodes to dots, so a dot may be escaped. -/
def stepOf (segment : List Char) : Step :=
  if decode segment = [Path.dot] then .stay
  else if decode segment = [Path.dot, Path.dot] then .up
  else .enter segment

/-- A letter and a colon. -/
def isDriveLetter (segment : List Char) : Bool :=
  match segment with
  | [letter, ':'] => letter.isAlpha
  | _ => false

/-- The path without its last segment. A drive letter at its end stays. -/
def dropLast (path : List (List Char)) : List (List Char) :=
  if path.getLast?.any isDriveLetter then path else path.dropLast

/-- Walks along segments from `path`. A dot segment at the end leaves an empty segment, which shows
as a slash at the end of the path. -/
def resolve (path : List (List Char)) : List (List Char) → List (List Char)
  | [] => path
  | [segment] =>
    match stepOf segment with
    | .stay => path ++ [[]]
    | .up => dropLast path ++ [[]]
    | .enter s => path ++ [s]
  | segment :: segments =>
    match stepOf segment with
    | .stay => resolve path segments
    | .up => resolve (dropLast path) segments
    | .enter s => resolve (path ++ [s]) segments

/-! ### From references to paths -/

/-- A slash after a path that ends like a drive, in a letter and a colon or a bar. -/
def closeDrive (bytes : List UInt8) : List UInt8 :=
  match bytes.reverse with
  | mark :: letter :: _ =>
    if (mark = ':'.toUInt8 || mark = '|'.toUInt8) && (Char.ofUInt8 letter).isAlpha then
      bytes ++ [Path.slash]
    else bytes
  | _ => bytes

/-- The path that resolved segments spell. Empty segments at its beginning do not count. -/
def pathOfSegments (segments : List (List Char)) : Path :=
  let spelled := (segments.dropWhile List.isEmpty).map decode
  ⟨closeDrive (Path.slash :: [Path.slash].intercalate spelled)⟩

/-- The host and the segments of a `file` URI. A drive letter in place of a host is the first
segment. -/
def Parts.file? (p : Parts) : Option (Host × List (List Char)) :=
  if p.scheme.map Domain.lowerCase ≠ some ['f', 'i', 'l', 'e'] then none
  else
    let segments := (if p.path.head? = some '/' then p.path.tail else p.path).splitOn '/'
    let host := p.authority.getD []
    if isDriveLetter host then some (.here, if p.path.isEmpty then [host] else host :: segments)
    else (Host.ofChars? host).map (·, segments)

/-- The path of the file that a reference names, if it names one of this machine. Drives are of this
machine whatever the host is. -/
def Parts.filePath? (p : Parts) : Option Path :=
  p.file?.bind fun (host, segments) =>
    let segments := resolve [] segments
    if host = .here || segments.head?.any isDriveLetter then some (pathOfSegments segments)
    else none

/-- The path that a reference points to. -/
def toPath (u : Uri) : Path := u.parts.filePath?.getD (Path.ofText u.text)

end Uri

namespace Path

/-- How a component is spelled in a URI. The root is the slash before the others. -/
def Component.encode : Component → List Char
  | .root => []
  | .current => ['/', '.']
  | .parent => ['/', '.', '.']
  | .normal name => '/' :: Uri.encode name

/-- The text of the `file` URI of an absolute path. -/
def uriText (p : Path) : List Char :=
  let spelled := p.components.flatMap Component.encode
  "file://".toList ++ if spelled.isEmpty then ['/'] else spelled

/-- The `file` URI of an absolute path. -/
def toUri (p : Path) : Except ServiceError Uri :=
  if p.isAbsolute then
    match Uri.ofText? (String.ofList p.uriText) with
    | some u => .ok u
    | none => .error (.invalidArgument s!"invalid uri {String.ofList p.uriText}")
  else .error (.invalidArgument s!"not an absolute path: {p.display}")

end Path

end CodeListing
