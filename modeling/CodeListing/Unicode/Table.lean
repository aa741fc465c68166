import CodeListing.Text.Hex

/-!
# Tables of code points

A property of characters is data: for ranges of code points it says whether the characters are in a
class, or what they are mapped to. A `Table` is a list of rows, ascending and apart, and it is
spelled as a text, one token for a row, with hexadecimal numbers:

* `A` or `A~B`: the code points from `A` to `B`, each its own image;
* `A~B=X.Y`: the same image for all of them, the code points `X` and `Y`; it may be empty;
* `A=X.Y,Z`: the images of `A` and of the code points after it, one for each;
* `A~B+D` and `A~B-D`: each is mapped to the code point that is `D` greater or `D` less;
* `A~B:`: every second one, from `A` on, is mapped to the next one; those between have no image.
-/

namespace CodeListing.Unicode

open CodeListing.Text

/-- What a row maps its code points to. -/
inductive Rule where
  | same
  | constant (image : List Nat)
  /-- One image for each code point in turn. -/
  | each (images : List (List Nat))
  | up (distance : Nat)
  | down (distance : Nat)
  | alternate
  deriving Repr, DecidableEq

/-- The image of the code point `n` of a row that begins at `low`. -/
def Rule.image? (low n : Nat) : Rule → Option (List Nat)
  | .same => some [n]
  | .constant image => some image
  | .each images => images[n - low]?
  | .up distance => some [n + distance]
  | .down distance => some [n - distance]
  | .alternate => if (n - low) % 2 = 0 then some [n + 1] else none

/-- A range of code points and its rule. -/
structure Row where
  low : Nat
  high : Nat
  rule : Rule
  deriving Repr, DecidableEq

/-- A property of code points: rows that ascend and do not overlap. -/
structure Table where
  rows : List Row

/-! ### Reading -/

/-- The code points that a text spells with points between them. -/
def pointsOf (cs : List Char) : List Nat :=
  if cs.isEmpty then [] else (cs.splitOn '.').map hexNumber

/-- The rule of a range. -/
def Rule.ofChars : List Char → Rule
  | '=' :: image => .constant (pointsOf image)
  | '+' :: distance => .up (hexNumber distance)
  | '-' :: distance => .down (hexNumber distance)
  | [':'] => .alternate
  | _ => .same

/-- The row that a token spells. -/
def Row.ofChars (token : List Char) : Row :=
  let low := hexNumber (token.takeWhile isHexDigit)
  match token.dropWhile isHexDigit with
  | '~' :: rest =>
    ⟨low, hexNumber (rest.takeWhile isHexDigit), Rule.ofChars (rest.dropWhile isHexDigit)⟩
  | '=' :: rest =>
    let images := (rest.splitOn ',').map pointsOf
    ⟨low, low + (images.length - 1), .each images⟩
  | _ => ⟨low, low, .same⟩

namespace Table

/-- The table that a text spells. -/
def ofText (text : String) : Table :=
  let tokens := text.toList.splitOnP fun c => c == ' ' || c == '\n'
  ⟨(tokens.filter (!·.isEmpty)).map Row.ofChars⟩

/-! ### Looking up -/

/-- The row that `n` is in: the first one that does not end before it, if it begins at it or before
it. -/
def row? (t : Table) (n : Nat) : Option Row :=
  (t.rows.find? (n ≤ ·.high)).filter (·.low ≤ n)

/-- Whether `c` is in one of the rows. -/
def contains (t : Table) (c : Char) : Bool := (t.row? c.toNat).isSome

/-- The image of a code point. -/
def image? (t : Table) (n : Nat) : Option (List Nat) :=
  (t.row? n).bind fun row => row.rule.image? row.low n

/-- The code point in a row of single images that has the image `image`. -/
def preimage? (t : Table) (image : List Nat) : Option Nat :=
  t.rows.findSome? fun row =>
    match row.rule with
    | .each images => (images.idxOf? image).map (row.low + ·)
    | _ => none

end Table

end CodeListing.Unicode
