import CodeListing.Domain.Basic
import CodeListing.Text.Utf8
import CodeListing.Uri.Escape

/-!
# Hosts of file URIs

The host of a `file` URI says on which machine the file is. It is a domain name, of which some bytes
may be escaped, or an address. A name that ends in a number is an address too or none at all: each
part is in base 10, in base 8 after a `0`, or in base 16 after `0x`, and the last part fills up the
bytes that are missing.
-/

namespace CodeListing.Uri

open CodeListing.Text

/-- Where the file of a URI is. -/
inductive Host where
  /-- On this machine. -/
  | here
  | elsewhere
  deriving Repr, DecidableEq

/-! ### Addresses -/

/-- The number that a part of an address spells. -/
def addressNumber? : List Char → Option Nat
  | [] => none
  | '0' :: 'x' :: ds => if ds.all isHexDigit then some (hexNumber ds) else none
  | '0' :: d :: ds =>
    if (d :: ds).all fun c => '0' ≤ c && c ≤ '7' then some ((d :: ds).foldl (step 8) 0) else none
  | ds => if ds.all Char.isDigit then some (ds.foldl (step 10) 0) else none
where
  /-- A number with one more digit. -/
  step (base n : Nat) (c : Char) : Nat := n * base + (c.toNat - '0'.toNat)

/-- The parts of a name between its dots. A dot at the end has no part after it. -/
def addressParts (name : List Char) : List (List Char) :=
  let parts := name.splitOn '.'
  if parts.getLast? = some [] then parts.dropLast else parts

/-- Whether a name is taken for an address: its last part is a number, or has only digits. -/
def endsInNumber (name : List Char) : Bool :=
  (addressParts name).getLast?.any fun part =>
    (!part.isEmpty && part.all Char.isDigit) || (addressNumber? part).isSome

/-- Whether a name is an address of four bytes. -/
def isAddress (name : List Char) : Bool :=
  match (addressParts name).mapM addressNumber? with
  | none => false
  | some numbers =>
    numbers.length ≤ 4 && numbers.dropLast.all (· < 256) &&
      numbers.getLast?.any (· < Nat.pow 256 (5 - numbers.length))

/-! ### Hosts -/

/-- The name of this machine. -/
def localhost : List Char := ['l', 'o', 'c', 'a', 'l', 'h', 'o', 's', 't']

/-- The host that a text spells, if it spells one. Without a host the file is on this machine. What
stands between brackets is an address, as the grammar of references has it; nothing may follow. -/
def Host.ofChars? (host : List Char) : Option Host :=
  if host.isEmpty then some .here
  else if host.head? = some '[' then if host.getLast? = some ']' then some .elsewhere else none
  else do
    let text ← Text.ofBytes? (decode host)
    let name ← Domain.canonical? text.toList
    if name = localhost then some .here
    else if name.isEmpty || (endsInNumber name && !isAddress name) then none
    else some .elsewhere

end CodeListing.Uri
