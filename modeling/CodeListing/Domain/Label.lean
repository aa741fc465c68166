import CodeListing.Domain.Mapping
import CodeListing.Domain.Punycode
import CodeListing.Text.Cut
import CodeListing.Unicode.Composition
import CodeListing.Unicode.Direction
import CodeListing.Unicode.Joining

/-!
# Labels

The labels of a domain name are what stands between its dots. A label may be spelled in ASCII, after
the mark `xn--`; `label?` reads it either way. What it may hold is restricted so that a label looks
like what it is: it does not begin with a mark, a joiner stands only where it changes how letters
look, and, in a name with letters that are written from right to left, the directions of its
characters follow from one another.
-/

namespace CodeListing.Domain

open CodeListing.Unicode

/-- The characters that end or delimit a host, and those that are not written: no label has them. -/
def isForbidden (c : Char) : Bool :=
  c.toNat ≤ 0x20 || c.toNat == 0x7F ||
    ['#', '%', '/', ':', '<', '>', '?', '@', '[', '\\', ']', '^', '|'].contains c

/-- Whether a character belongs to ASCII. -/
def isAscii (c : Char) : Bool := c.toNat < 0x80

/-! ### Joiners -/

/-- Whether the last character is the sign that silences a vowel; `before` is in reverse. -/
def endsInVirama (before : List Char) : Bool :=
  before.head?.any fun c => combiningClass c == viramaClass

/-- Whether the letters around a place join; `before` is in reverse. -/
def joinsAcross (before after : List Char) : Bool :=
  (before.dropWhile isTransparent).head?.any joinsOnward &&
    (after.dropWhile isTransparent).head?.any joinsBack

/-- Whether every joiner has a use: both kinds after a virama, and the one that keeps letters apart
also between letters that join. What stands before is in reverse. -/
def joinersFit (before : List Char) : List Char → Bool
  | [] => true
  | c :: cs =>
    (if c = '\u200c' then endsInVirama before || joinsAcross before cs
      else if c = '\u200d' then endsInVirama before
      else true) && joinersFit (c :: before) cs

/-! ### Directions -/

/-- Whether the directions of the characters of a label follow from its first one: no other
direction occurs, no two kinds of digits do, and it ends in a letter or a digit, up to marks. -/
def directionsFit (directions : List Direction) : Bool :=
  let last := (Text.dropEndWhile (· == .mark) directions).getLast?
  match directions.head? with
  | none => true
  | some .left =>
    !directions.any Direction.isRightward &&
      last.any fun d => d == .left || d == .europeanNumber
  | some .right =>
    !directions.contains .left &&
      !(directions.contains .arabicNumber && directions.contains .europeanNumber) &&
      last.any fun d => d == .right || d == .arabicNumber || d == .europeanNumber
  | some _ => false

/-! ### Labels -/

/-- Whether a label may be part of a name, the directions aside. A label beyond ASCII is limited in
length. -/
def isAllowed (label : List Char) : Bool :=
  !label.any isForbidden &&
    (label.all isAscii ||
      (label.length ≤ 1000 && !label.head?.any isMark && joinersFit [] label))

/-- What stands in front of a label that is spelled in ASCII. -/
def asciiMark : List Char := ['x', 'n', '-', '-']

/-- The label that is spelled in ASCII. It has characters beyond ASCII, or it would not be spelled
so, and all of them are as the mapping leaves them. -/
def decodedLabel? (spelling : List Char) : Option (List Char) :=
  if spelling.all isAscii && spelling.length ≤ 2000 && spelling.getLast? != some '-' then
    (Punycode.decode? spelling).filter fun label =>
      !label.all isAscii && label.all isKept && composed label == label &&
        !asciiMark.isPrefixOf label
  else none

/-- The label that a mapped text spells, if it may be part of a name. -/
def label? (cs : List Char) : Option (List Char) :=
  let label := if asciiMark.isPrefixOf cs then decodedLabel? (cs.drop asciiMark.length) else some cs
  label.filter isAllowed

end CodeListing.Domain
