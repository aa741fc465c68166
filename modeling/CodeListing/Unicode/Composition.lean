import CodeListing.Unicode.CombiningClass
import CodeListing.Unicode.Composite

/-!
# Canonical composition

One text can be spelled with composites or with letters and marks, and marks of different combining
classes can be spelled in any order. `composed` gives the spelling that stands for all of them,
normalization form C: everything is decomposed, the marks of each letter are put in the order of
their classes, and then each letter takes up the marks that it has a composite with, as long as no
mark of the same or a higher class stands between.
-/

namespace CodeListing.Unicode

/-! ### Decomposition -/

/-- What `c` is composed of, or `c` itself. -/
def parted (c : Char) : List Char :=
  match pairOf? c with
  | some (a, b) => [a, b]
  | none => [c]

/-- A text without composites. The parts of a composite may be composites, but the parts of those
are not composed of composites any more. -/
def decomposed (cs : List Char) : List Char :=
  ((cs.flatMap parted).flatMap parted).flatMap parted

/-! ### Order -/

/-- Puts `c` in front of a text in canonical order, behind the marks of lower classes if it is a
mark itself. -/
def insertMark (c : Char) : List Char → List Char
  | [] => [c]
  | d :: ds =>
    if combiningClass d ≠ 0 ∧ combiningClass d < combiningClass c then d :: insertMark c ds
    else c :: d :: ds

/-- A text with its marks in canonical order. Marks of one class keep their order. -/
def ordered (cs : List Char) : List Char := cs.foldr insertMark []

/-! ### Composition -/

/-- Composes `letter` with what follows it, where `skipped` stands between already. -/
def composeFrom (letter : Char) (skipped : List Char) : List Char → List Char
  | [] => letter :: skipped
  | c :: cs =>
    let reached := skipped.getLast?.all fun d => combiningClass d < combiningClass c
    match if reached then composite? letter c else none with
    | some d => composeFrom d skipped cs
    | none =>
      if combiningClass c = 0 then letter :: skipped ++ composeFrom c [] cs
      else composeFrom letter (skipped ++ [c]) cs

/-- Composes a text in canonical order without composites. Marks before the first letter stay. -/
def compose : List Char → List Char
  | [] => []
  | c :: cs => if combiningClass c = 0 then composeFrom c [] cs else c :: compose cs

/-- The composed spelling of a text. -/
def composed (cs : List Char) : List Char := compose (ordered (decomposed cs))

end CodeListing.Unicode
