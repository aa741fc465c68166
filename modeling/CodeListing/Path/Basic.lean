import CodeListing.Text.Utf8

/-!
# File paths

A path is any string of bytes. What it names is given by its components: the segments between
slashes, without the empty ones and without the single dots, except that a single dot which begins
a relative path counts. Two dots are a component like any other. Two paths are the same when their
components are, so repeated slashes, inner single dots and a slash at the end make no difference;
the spelling is kept nevertheless, because labels and answers show it.
-/

namespace CodeListing

/-- A path, as it is spelled. -/
structure Path where
  bytes : List UInt8
  deriving Repr, DecidableEq

namespace Path

/-- The byte between segments. -/
def slash : UInt8 := 0x2F

/-- The byte that dot segments are made of. -/
def dot : UInt8 := 0x2E

/-- What lies between two slashes. -/
abbrev Segment := List UInt8

/-- One step of what a path names. -/
inductive Component where
  | root
  /-- The single dot at the beginning of a relative path. -/
  | current
  | parent
  | normal (name : Segment)
  deriving Repr, DecidableEq

/-- Whether a segment adds nothing to the path: it is empty or a single dot. -/
def isVoid (s : Segment) : Bool := s.isEmpty || s == [dot]

/-- The component that a segment stands for where single dots do not count. -/
def componentOf (s : Segment) : Option Component :=
  if isVoid s then none
  else if s = [dot, dot] then some .parent
  else some (.normal s)

/-- The segments of a path. -/
def segments (p : Path) : List Segment := p.bytes.splitOn slash

/-- Whether a path begins at the root. -/
def isAbsolute (p : Path) : Bool := p.bytes.head? == some slash

/-- The components of a path. -/
def components (p : Path) : List Component :=
  match p.segments with
  | [] => []
  | first :: rest =>
    let start : List Component :=
      if first = [] then (if p.isAbsolute then [.root] else [])
      else if first = [dot] then [.current]
      else (componentOf first).toList
    start ++ rest.filterMap componentOf

/-- Whether two paths name the same file: they have the same components. -/
def same (p q : Path) : Bool := p.components == q.components

/-- The path that a text spells. -/
def ofText (s : String) : Path := ⟨Text.bytes s⟩

/-- The text of a path that is valid UTF-8. -/
def text? (p : Path) : Option String := Text.ofBytes? p.bytes

/-- The text that shows a path, with U+FFFD for what is not UTF-8. -/
def display (p : Path) : String := p.text?.getD (Text.decodeLossy p.bytes)

theorem text?_ofText (s : String) : (ofText s).text? = some s := Text.ofBytes?_bytes s

theorem display_ofText (s : String) : (ofText s).display = s := by
  simp [display, text?_ofText]

theorem same_iff {p q : Path} : p.same q = true ↔ p.components = q.components := by
  simp [same]

end Path

end CodeListing
