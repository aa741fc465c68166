/-!
# Punycode

A label of a domain name that has characters beyond ASCII can be spelled in letters, digits and
hyphens alone. Its ASCII characters come first, up to the last hyphen; then come numbers, one for
each other character, in ascending order of the characters. A number says how far to go on from the
character before, where one step goes on by a place in the label and, after the last place, to the
next character. Numbers are in base 36 with the least digit first, and the digit that ends a number
is one below a threshold; the thresholds follow a bias, which adapts to the numbers so far.
-/

namespace CodeListing.Domain.Punycode

/-! ### Numbers -/

/-- The value of a digit. -/
def digit? (c : Char) : Option Nat :=
  if 'a' ≤ c && c ≤ 'z' then some (c.toNat - 'a'.toNat)
  else if c.isDigit then some (c.toNat - '0'.toNat + 26)
  else none

/-- The threshold of the digit at a position, counted in steps of the base from the base on. -/
def threshold (position bias : Nat) : Nat :=
  if position ≤ bias then 1 else min (position - bias) 26

/-- How often a number is divided until it is small, in steps of the base, and what is left. -/
def shrink (number steps : Nat) : Nat × Nat :=
  if 455 < number then shrink (number / 35) (steps + 36) else (number, steps)
termination_by number
decreasing_by exact Nat.div_lt_self (by omega) (by omega)

/-- The bias after a number, when the label has `length` characters. -/
def adapt (number length : Nat) (first : Bool) : Nat :=
  let halved := if first then number / 700 else number / 2
  let (number, steps) := shrink (halved + halved / length) 0
  steps + 36 * number / (number + 38)

/-- What is left of a text after reading a number of it. -/
abbrev Rest (cs : List Char) := { rest : List Char // rest.length < cs.length }

/-- Reads the rest of a number from the digit at a position on, which counts `weight`. Numbers and
weights are of 32 bits. -/
def number? (bias position weight number : Nat) : (cs : List Char) → Option (Nat × Rest cs)
  | [] => none
  | c :: cs =>
    match digit? c with
    | none => none
    | some digit =>
      let number := number + digit * weight
      let threshold := threshold position bias
      let next := weight * (36 - threshold)
      if UInt32.size ≤ number then none
      else if digit < threshold then some (number, ⟨cs, by simp⟩)
      else if UInt32.size ≤ next then none
      else
        (number? bias (position + 36) next number cs).map fun (n, r) =>
          (n, ⟨r.1, Nat.lt_succ_of_lt r.2⟩)

/-! ### Labels -/

/-- Inserts characters into `label` as numbers tell: the last one inserted was `code`, and `place`
is the place after it. -/
def insert? (bias code place : Nat) (label : List Char) (cs : List Char) : Option (List Char) :=
  match cs with
  | [] => some label
  | c :: cs =>
    match number? bias 36 1 place (c :: cs) with
    | none => none
    | some (number, rest) =>
      let length := label.length + 1
      let code := code + number / length
      if code.isValidChar then
        insert? (adapt (number - place) length (place == 0)) code (number % length + 1)
          (label.insertIdx (number % length) (Char.ofNat code)) rest.1
      else none
termination_by cs.length
decreasing_by exact rest.2

/-- The label that a text in ASCII spells. A hyphen at the beginning ends no characters of ASCII,
and it is not a digit. -/
def decode? (cs : List Char) : Option (List Char) :=
  let numbers := (cs.reverse.takeWhile (· != '-')).reverse
  let plain := cs.take (cs.length - numbers.length - 1)
  if plain.isEmpty then insert? 72 0x80 0 [] cs else insert? 72 0x80 0 plain numbers

end CodeListing.Domain.Punycode
