import CodeListing.Json.Basic
import CodeListing.Decimal.Shortest

/-!
# Writing JSON text

`Json.toText` writes a value without any space between its tokens. In strings the quote, the
backslash, the controls and the three characters that some readers take for line ends are escaped.
-/

namespace CodeListing.Json

/-- A 16-bit unit as an escape of four lower-case hexadecimal digits. -/
def unicodeEscape (n : Nat) : String :=
  let digits := Nat.toDigits 16 n
  "\\u" ++ String.ofList (List.replicate (4 - digits.length) '0' ++ digits)

/-- How `c` is written in a string. -/
def escapeChar (c : Char) : String :=
  if c = '\x22' then "\\\""
  else if c = '\\' then "\\\\"
  else if c.toNat < 0x20 ∨ c = '\u0085' ∨ c = '\u2028' ∨ c = '\u2029' then unicodeEscape c.toNat
  else c.toString

/-- A string literal. -/
def stringText (s : String) : String :=
  "\"" ++ String.join (s.toList.map escapeChar) ++ "\""

def numberText : Number → String
  | .int n => toString n
  | .float x => Decimal.ofFloat x

mutual

/-- The text of a value. -/
def toText : Json → String
  | .null => "null"
  | .bool true => "true"
  | .bool false => "false"
  | .num n => numberText n
  | .str s => stringText s
  | .arr items => "[" ++ ",".intercalate (itemTexts items) ++ "]"
  | .obj entries => "\x7b" ++ ",".intercalate (entryTexts entries) ++ "\x7d"

/-- The texts of items. -/
def itemTexts : List Json → List String
  | [] => []
  | v :: vs => v.toText :: itemTexts vs

/-- The texts of entries. -/
def entryTexts : List (String × Json) → List String
  | [] => []
  | (k, v) :: entries => (stringText k ++ ":" ++ v.toText) :: entryTexts entries

end

end CodeListing.Json
