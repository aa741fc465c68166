import CodeListing.Path.Basic
import CodeListing.Text.Cut

/-!
# Paths relative to a directory

A path below a directory is shown by what follows the directory's components, as it was spelled but
without void segments at its two ends. The empty directory is above every path and only trims the
end. A path that is not below the directory is shown as it is.
-/

namespace CodeListing.Path

open CodeListing.Text

/-- The path with these segments. -/
def ofSegments (segments : List Segment) : Path := ⟨[slash].intercalate segments⟩

/-- Drops the segments that make up the first `n` components, where single dots do not count. -/
def dropComponents : Nat → List Segment → List Segment
  | 0, segments => segments
  | _ + 1, [] => []
  | n + 1, s :: segments => dropComponents (if isVoid s then n + 1 else n) segments

/-- The segments after the first `n` components, of which there is at least one. The first segment
is a component by itself, or the nothing before the root. -/
def segmentsAfter (n : Nat) (p : Path) : List Segment :=
  dropEndWhile isVoid ((dropComponents (n - 1) p.segments.tail).dropWhile isVoid)

/-- A path without void segments at its end. Its first segment stays: it is the nothing before the
root, a single dot that counts, or a name. -/
def trimEnd (p : Path) : Path :=
  match p.segments with
  | [] => p
  | first :: rest =>
    let kept := dropEndWhile isVoid rest
    if kept.isEmpty && p.isAbsolute then ⟨[slash]⟩ else ofSegments (first :: kept)

/-- The rest of a path below a directory. -/
def relativeTo? (directory p : Path) : Option Path :=
  let above := directory.components
  if above.isPrefixOf p.components then
    some (if above.isEmpty then p.trimEnd else ofSegments (p.segmentsAfter above.length))
  else none

/-- The text that shows `p` to someone who works in `directory`. -/
def displayFrom (directory p : Path) : String :=
  ((relativeTo? directory p).getD p).display

end CodeListing.Path
