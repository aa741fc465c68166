import CodeListing.Text.Cut
import CodeListing.Text.Hex

/-!
# The grammar of URI references

A reference is taken apart into scheme, authority, path, query and fragment by its delimiters
alone, and each part is then checked against the characters and the shape that RFC 3986 allows it.
Only ASCII passes, since every class of characters below is ASCII. A zone identifier and an address
of a future version are not accepted between the brackets of a host.
-/

namespace CodeListing.Uri

open CodeListing.Text

/-! ### Characters -/

/-- A character without a role as delimiter. -/
def isUnreserved (c : Char) : Bool :=
  c.isAlphanum || c == '-' || c == '.' || c == '_' || c == '~'

/-- A delimiter within a part. -/
def isSubDelim (c : Char) : Bool :=
  ['!', '$', '&', '\x27', '(', ')', '*', '+', ',', ';', '='].contains c

/-- A character of a path segment. -/
def isPathChar (c : Char) : Bool := isUnreserved c || isSubDelim c || c == ':' || c == '@'

/-- A character of a query or a fragment. -/
def isQueryChar (c : Char) : Bool := isPathChar c || c == '/' || c == '?'

/-- A character of a scheme after its first. -/
def isSchemeChar (c : Char) : Bool := c.isAlphanum || c == '+' || c == '-' || c == '.'

/-- Whether every character is allowed or belongs to an escape: a percent sign and two hexadecimal
digits. -/
def isEscapedText (allowed : Char → Bool) : List Char → Bool
  | [] => true
  | '%' :: a :: b :: cs => isHexDigit a && isHexDigit b && isEscapedText allowed cs
  | '%' :: _ => false
  | c :: cs => allowed c && isEscapedText allowed cs

/-! ### Hosts -/

/-- A decimal number of at most 255 without leading zeros. -/
def isDecOctet (cs : List Char) : Bool :=
  cs.all Char.isDigit && 1 ≤ cs.length && cs.length ≤ 3 && (cs.length == 1 || cs.head? != some '0')
    && cs.foldl (fun n c => n * 10 + (c.toNat - '0'.toNat)) 0 ≤ 255

/-- Four octets between dots. -/
def isIPv4 (cs : List Char) : Bool :=
  let octets := cs.splitOn '.'
  octets.length == 4 && octets.all isDecOctet

/-- A group of an IPv6 address: one to four hexadecimal digits. -/
def isGroup (cs : List Char) : Bool :=
  1 ≤ cs.length && cs.length ≤ 4 && cs.all isHexDigit

/-- How many groups a run of groups between colons stands for, if it is one; an IPv4 address may
take the place of the last two if `v4` allows it. -/
def groupCount? (v4 : Bool) (cs : List Char) : Option Nat :=
  if cs.isEmpty then some 0
  else
    let parts := cs.splitOn ':'
    match parts.reverse with
    | last :: before =>
      if !before.all isGroup then none
      else if isGroup last then some parts.length
      else if v4 && isIPv4 last then some (parts.length + 1)
      else none
    | [] => some 0

/-- Splits at the first pair of colons. -/
def cutElision : List Char → List Char × Option (List Char)
  | ':' :: ':' :: cs => ([], some cs)
  | [] => ([], none)
  | c :: cs => (c :: (cutElision cs).1, (cutElision cs).2)

/-- Eight groups, or fewer around a pair of colons that stands for the missing ones. -/
def isIPv6 (cs : List Char) : Bool :=
  match cutElision cs with
  | (_, none) => !cs.isEmpty && groupCount? true cs == some 8
  | (left, some right) =>
    match groupCount? false left, groupCount? true right with
    | some m, some n => m + n ≤ 7
    | _, _ => false

/-- A host with an optional port. -/
def isHostPort (cs : List Char) : Bool :=
  match cs with
  | '[' :: rest =>
    match cut ']' rest with
    | (address, some after) =>
      isIPv6 address &&
        match after with
        | [] => true
        | ':' :: port => port.all Char.isDigit
        | _ => false
    | (_, none) => false
  | _ =>
    match cut ':' cs with
    | (host, port) =>
      isEscapedText (fun c => isUnreserved c || isSubDelim c) host &&
        (port.getD []).all Char.isDigit

/-- An optional user before a host. -/
def isAuthority (cs : List Char) : Bool :=
  match cut '@' cs with
  | (user, some host) =>
    isEscapedText (fun c => isUnreserved c || isSubDelim c || c == ':') user && isHostPort host
  | (host, none) => isHostPort host

/-! ### References -/

/-- The parts of a reference, without the delimiters between them. -/
structure Parts where
  scheme : Option (List Char)
  authority : Option (List Char)
  path : List Char
  query : Option (List Char)
  fragment : Option (List Char)
  deriving Repr, DecidableEq

/-- The scheme, if a colon stands before the first slash, and the rest. -/
def cutScheme (cs : List Char) : Option (List Char) × List Char :=
  let head := cs.takeWhile fun c => c != ':' && c != '/'
  match cs.dropWhile fun c => c != ':' && c != '/' with
  | ':' :: rest => (some head, rest)
  | _ => (none, cs)

/-- The authority, if two slashes come first, and the path. -/
def cutAuthority : List Char → Option (List Char) × List Char
  | '/' :: '/' :: cs => (some (cs.takeWhile (· != '/')), cs.dropWhile (· != '/'))
  | cs => (none, cs)

/-- Takes a reference apart. -/
def Parts.ofChars (cs : List Char) : Parts :=
  let (cs, fragment) := cut '#' cs
  let (cs, query) := cut '?' cs
  let (scheme, cs) := cutScheme cs
  let (authority, path) := cutAuthority cs
  ⟨scheme, authority, path, query, fragment⟩

/-- A letter, then scheme characters. -/
def isScheme : List Char → Bool
  | [] => false
  | c :: cs => c.isAlpha && cs.all isSchemeChar

/-- Whether every part is one that the grammar allows. A path needs no more than its characters: it
begins with a slash after an authority, and its first segment has no colon where there is no
scheme, because the parts were cut there. -/
def Parts.isValid (p : Parts) : Bool :=
  p.scheme.all isScheme && p.authority.all isAuthority &&
    isEscapedText (fun c => isPathChar c || c == '/') p.path &&
    p.query.all (isEscapedText isQueryChar) && p.fragment.all (isEscapedText isQueryChar)

/-- Whether `cs` is a URI reference. -/
def isReference (cs : List Char) : Bool := (Parts.ofChars cs).isValid

end CodeListing.Uri
