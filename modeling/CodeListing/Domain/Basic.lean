import CodeListing.Domain.Label

/-!
# Domain names

A domain name has many spellings: in capital or small letters, in variants of letters such as those
of full width, with or without characters that are not seen, in composed or decomposed letters, and
in ASCII. `canonical?` gives the one that they have in common, by the processing of UTS 46 without
the rules that reserve characters of ASCII and hyphens and limit lengths.
-/

namespace CodeListing.Domain

open CodeListing.Unicode

/-- The lower-case form of ASCII letters. -/
def lowerCase (cs : List Char) : List Char := cs.map Char.toLower

/-- Whether a name is its own spelling up to the case of letters: it is in ASCII, and no label of it
spells another one. -/
def isPlain (name : List Char) : Bool :=
  name.all isAscii && ((lowerCase name).splitOn '.').all (!asciiMark.isPrefixOf ·)

/-- The characters that a name is mapped to. -/
def mapping? (name : List Char) : Option (List Char) := (name.mapM image?).map List.flatten

/-- The labels that a name spells. In a name with letters from right to left the directions in every
label have to fit. -/
def labels? (name : List Char) : Option (List (List Char)) := do
  let labels ← ((composed (← mapping? name)).splitOn '.').mapM label?
  let directions := labels.map (·.map direction)
  if directions.any (·.any Direction.isRightward) && !directions.all directionsFit then none
  else some labels

/-- The spelling that all spellings of a name have in common, if it is a name. -/
def canonical? (name : List Char) : Option (List Char) :=
  if isPlain name then
    if name.any isForbidden then none else some (lowerCase name)
  else (labels? name).map (['.'].intercalate ·)

end CodeListing.Domain
