import CodeListing.Uri.Grammar

/-!
# URI references

A `Uri` is a text that the grammar accepts. It keeps its spelling: two spellings of one resource
are two values, and what is written out is what was read.
-/

namespace CodeListing

/-- A URI reference as it is spelled. -/
structure Uri where
  text : String
  valid : Uri.isReference text.toList = true := by decide
  deriving DecidableEq

namespace Uri

instance : Repr Uri := ⟨fun u n => reprPrec u.text n⟩

/-- The reference that a text spells, if it is one. -/
def ofText? (s : String) : Option Uri :=
  if h : Uri.isReference s.toList = true then some ⟨s, h⟩ else none

/-- The parts of a reference. -/
def parts (u : Uri) : Parts := Parts.ofChars u.text.toList

theorem ofText?_text (u : Uri) : ofText? u.text = some u := by
  simp [ofText?, u.valid]

theorem text_of_ofText? {s : String} {u : Uri} (h : ofText? s = some u) : u.text = s := by
  unfold ofText? at h
  split at h
  · cases h
    rfl
  · cases h

end Uri

end CodeListing
