/-!
# Blank characters

The characters with the Unicode property White_Space, and trimming by it. The table is the whole
property: the controls U+0009 to U+000D, the space, the next-line control, the no-break space and
the space separators, and the line and paragraph separators.
-/

namespace CodeListing.Text

/-- Whether `c` has the Unicode property White_Space. -/
def isBlank (c : Char) : Bool :=
  ('\t' ≤ c && c ≤ '\r') || c == ' ' || c == '\u0085' || c == '\u00a0' || c == '\u1680' ||
    ('\u2000' ≤ c && c ≤ '\u200a') || c == '\u2028' || c == '\u2029' || c == '\u202f' ||
    c == '\u205f' || c == '\u3000'

/-- `s` without the blank characters at its two ends. -/
def trim (s : String) : String :=
  String.ofList ((s.toList.dropWhile isBlank).reverse.dropWhile isBlank).reverse

end CodeListing.Text
