import CodeListing.Unicode.Hidden

/-!
# Quoted text

Messages show a text between double quotes. A quote and a backslash are written after a backslash,
and so are the line feed, the carriage return, the tab and the null character by their letters.
Every other character that does not show on its own is written by its number, `\u{..}` in lower-case
hexadecimal.
-/

namespace CodeListing.Text

/-- How `c` is written between quotes. -/
def escaped (c : Char) : String :=
  if c = '\x22' then "\\\""
  else if c = '\\' then "\\\\"
  else if c = '\n' then "\\n"
  else if c = '\r' then "\\r"
  else if c = '\t' then "\\t"
  else if c = '\x00' then "\\0"
  else if Unicode.isHidden c then "\\u\x7b" ++ String.ofList (Nat.toDigits 16 c.toNat) ++ "\x7d"
  else c.toString

/-- `s` between quotes. -/
def quoted (s : String) : String :=
  "\"" ++ String.join (s.toList.map escaped) ++ "\""

end CodeListing.Text
