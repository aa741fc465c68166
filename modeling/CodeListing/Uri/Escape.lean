import CodeListing.Text.Hex

/-!
# Escapes

A byte that a part of a URI cannot show is spelled as an escape, a percent sign and two hexadecimal
digits.
-/

namespace CodeListing.Uri

open CodeListing.Text

/-- The upper-case hexadecimal digit of a value below 16. -/
def hexDigit (n : UInt8) : Char :=
  if n < 10 then Char.ofUInt8 ('0'.toUInt8 + n) else Char.ofUInt8 ('A'.toUInt8 + (n - 10))

/-- The bytes of a text of ASCII characters and escapes. -/
def decode : List Char → List UInt8
  | [] => []
  | '%' :: a :: b :: cs =>
    if isHexDigit a && isHexDigit b then UInt8.ofNat (hexValue a * 16 + hexValue b) :: decode cs
    else '%'.toUInt8 :: decode (a :: b :: cs)
  | c :: cs => c.toUInt8 :: decode cs

/-- Whether a byte of a path is written as an escape: a control, a byte outside ASCII, or one of the
characters that end or delimit a path in some reader. -/
def needsEscape (b : UInt8) : Bool :=
  b < 0x20 || 0x7F ≤ b ||
    [' ', '\x22', '#', '<', '>', '?', '\x60', '{', '}', '/', '%', '\\'].any (·.toUInt8 == b)

/-- How a byte of a path is written. -/
def encodeByte (b : UInt8) : List Char :=
  if needsEscape b then ['%', hexDigit (b / 16), hexDigit (b % 16)] else [Char.ofUInt8 b]

/-- How a segment of a path is written. -/
def encode (segment : List UInt8) : List Char := segment.flatMap encodeByte

end CodeListing.Uri
