import CodeListing.Editor.Cursor
import Mathlib.Data.List.Infix

/-!
# Boundaries between characters

A boundary of a line is given by the characters before it. An encoding turns these into units, and
as every character has one unit at least, the number of units tells the boundary
(`OffsetEncoding.Reaches.unique`). A byte column need not fall on a boundary. What it stands for is
the last one that is not beyond it (`IsLastBoundary`), and the column of any encoding is the number
of units that reaches this very boundary (`OffsetEncoding.reaches_column_iff`).
-/

namespace CodeListing

namespace OffsetEncoding

variable {e : OffsetEncoding} {line before other : List Char} {n : Nat}

/-! ## Units -/

/-- The units of a character. In UTF-16 a character beyond the first 65536 is a pair of surrogates,
which hold ten bits each. -/
def encodeChar : OffsetEncoding → Char → List Nat
  | .utf8, c => (String.utf8EncodeChar c).map UInt8.toNat
  | .utf16, c =>
    if c.toNat < 0x10000 then [c.toNat]
    else [0xD800 + (c.toNat - 0x10000) / 0x400, 0xDC00 + (c.toNat - 0x10000) % 0x400]
  | .utf32, c => [c.toNat]

/-- The units of a text. -/
def encode (e : OffsetEncoding) (cs : List Char) : List Nat := cs.flatMap e.encodeChar

theorem length_encodeChar (e : OffsetEncoding) (c : Char) :
    (e.encodeChar c).length = e.units c := by
  cases e with
  | utf8 => rw [encodeChar, List.length_map, String.length_utf8EncodeChar, units]
  | utf16 =>
    rw [encodeChar, units]
    split <;> rfl
  | utf32 => rfl

example : utf16.encodeChar '😀' = [0xD83D, 0xDE00] := by decide

theorem length_encode (e : OffsetEncoding) (cs : List Char) :
    (e.encode cs).length = e.length cs := by
  induction cs with
  | nil => rfl
  | cons c cs ih =>
    rw [encode, List.flatMap_cons, List.length_append, length_encodeChar, ← encode, ih, length]

theorem length_append (e : OffsetEncoding) (front back : List Char) :
    e.length (front ++ back) = e.length front + e.length back := by
  rw [← length_encode, ← length_encode, ← length_encode, encode, List.flatMap_append,
    List.length_append, encode, encode]

/-- A text has as many units of UTF-8 as it has bytes. -/
theorem utf8_length_toList (s : String) : utf8.length s.toList = s.utf8ByteSize := by
  have hbytes : s.toByteArray = s.toList.utf8Encode := by
    rw [← String.toByteArray_ofList, String.ofList_toList]
  rw [← String.size_toByteArray, hbytes, ← length_encode, encode]
  simp [List.utf8Encode, encodeChar, List.length_flatMap]

theorem units_pos (e : OffsetEncoding) (c : Char) : 0 < e.units c := by
  cases e with
  | utf8 => exact c.utf8Size_pos
  | utf16 =>
    rw [units]
    split <;> decide
  | utf32 => exact Nat.one_pos

theorem eq_nil_of_length_eq_zero {cs : List Char} (h : e.length cs = 0) : cs = [] := by
  cases cs with
  | nil => rfl
  | cons c cs =>
    have hpos := e.units_pos c
    rw [length] at h
    omega

/-- No encoding takes more units than UTF-8 does. -/
theorem units_le_utf8Size (e : OffsetEncoding) (c : Char) : e.units c ≤ c.utf8Size := by
  cases e with
  | utf8 => exact Nat.le_refl _
  | utf16 =>
    rw [units]
    split
    · exact c.utf8Size_pos
    next hbeyond =>
      -- a character with two surrogates is not one of those that take a single byte
      have hsize : c.utf8Size ≠ 1 := by
        rw [Ne, Char.utf8Size_eq_one_iff, UInt32.le_iff_toNat_le, Char.toNat_val]
        show ¬ c.toNat ≤ 127
        omega
      have hpos := c.utf8Size_pos
      omega
  | utf32 => exact c.utf8Size_pos

theorem length_le_utf8 (e : OffsetEncoding) (cs : List Char) : e.length cs ≤ utf8.length cs := by
  induction cs with
  | nil => exact Nat.le_refl 0
  | cons c cs ih => exact Nat.add_le_add (e.units_le_utf8Size c) ih

/-! ## Boundaries -/

/-- The boundary after `before` is reached by going over `n` units of a line. -/
structure Reaches (e : OffsetEncoding) (line : List Char) (n : Nat) (before : List Char) :
    Prop where
  isPrefix : before <+: line
  count : (e.encode before).length = n

/-- A number of units reaches one boundary at most. -/
theorem Reaches.unique (h : e.Reaches line n before) (h' : e.Reaches line n other) :
    before = other := by
  have hcount : e.length before = e.length other := by
    rw [← length_encode, ← length_encode, h.count, h'.count]
  -- one of the two goes on where the other ends, and there is no unit in between
  rcases List.prefix_or_prefix_of_prefix h.isPrefix h'.isPrefix with ⟨rest, rfl⟩ | ⟨rest, rfl⟩
  · rw [length_append] at hcount
    have hrest : e.length rest = 0 := by omega
    rw [eq_nil_of_length_eq_zero hrest, List.append_nil]
  · rw [length_append] at hcount
    have hrest : e.length rest = 0 := by omega
    rw [eq_nil_of_length_eq_zero hrest, List.append_nil]

end OffsetEncoding

/-- The boundary after `before` is the last one of a line that is at most `byteColumn` bytes from
its beginning. -/
structure IsLastBoundary (line : List Char) (byteColumn : Nat) (before : List Char) : Prop where
  isPrefix : before <+: line
  fits : (OffsetEncoding.utf8.encode before).length ≤ byteColumn
  last : ∀ other, other <+: line → (OffsetEncoding.utf8.encode other).length ≤ byteColumn →
    other <+: before

theorem wholePart_isPrefix (budget : Nat) (line : List Char) : wholePart budget line <+: line := by
  induction line generalizing budget with
  | nil => exact List.prefix_rfl
  | cons c cs ih =>
    rw [wholePart]
    split
    · exact (List.prefix_cons_inj c).mpr (ih _)
    · exact List.nil_prefix

theorem length_wholePart_le (budget : Nat) (line : List Char) :
    OffsetEncoding.utf8.length (wholePart budget line) ≤ budget := by
  induction line generalizing budget with
  | nil => exact Nat.zero_le _
  | cons c cs ih =>
    rw [wholePart]
    split
    next hfits =>
      have hrest := ih (budget - c.utf8Size)
      simp only [OffsetEncoding.length, OffsetEncoding.units]
      omega
    · exact Nat.zero_le _

theorem prefix_wholePart {other line : List Char} (h : other <+: line) {budget : Nat}
    (hfits : OffsetEncoding.utf8.length other ≤ budget) : other <+: wholePart budget line := by
  induction other generalizing line budget with
  | nil => exact List.nil_prefix
  | cons c other ih =>
    obtain ⟨rest, rfl⟩ := h
    simp only [OffsetEncoding.length, OffsetEncoding.units] at hfits
    -- the first character is within the budget, and the others within what it leaves of it
    rw [List.cons_append, wholePart, if_pos (by omega)]
    exact (List.prefix_cons_inj c).mpr (ih (List.prefix_append _ _) (by omega))

/-- A byte column stands for the last boundary that is not beyond it. -/
theorem wholePart_isLastBoundary (byteColumn : Nat) (line : List Char) :
    IsLastBoundary line byteColumn (wholePart byteColumn line) where
  isPrefix := wholePart_isPrefix byteColumn line
  fits := by
    rw [OffsetEncoding.length_encode]
    exact length_wholePart_le byteColumn line
  last other h hfits := by
    rw [OffsetEncoding.length_encode] at hfits
    exact prefix_wholePart h hfits

namespace OffsetEncoding

/-- A column fits its word if the line has fewer bytes than the word has values. -/
theorem toNat_column {text : String} (short : text.utf8ByteSize < UInt32.size)
    (e : OffsetEncoding) (byteColumn : Nat) :
    (e.column text byteColumn).toNat = e.length (wholePart byteColumn text.toList) := by
  have hlength : e.length (wholePart byteColumn text.toList) ≤ text.utf8ByteSize := by
    -- the part has no more bytes than the line, and no more units than bytes
    obtain ⟨rest, hrest⟩ := wholePart_isPrefix byteColumn text.toList
    have hsum := utf8.length_append (wholePart byteColumn text.toList) rest
    rw [hrest, utf8_length_toList] at hsum
    have hle := e.length_le_utf8 (wholePart byteColumn text.toList)
    omega
  rw [column]
  exact UInt32.toNat_ofNat_of_lt' (by omega)

/-- The column of an encoding is the number of units that reaches the boundary which the byte column
stands for, and reaches no other. -/
theorem reaches_column_iff {text : String} (short : text.utf8ByteSize < UInt32.size)
    (e : OffsetEncoding) (byteColumn : Nat) (before : List Char) :
    e.Reaches text.toList (e.column text byteColumn).toNat before ↔
      before = wholePart byteColumn text.toList := by
  have hreaches : e.Reaches text.toList (e.column text byteColumn).toNat
      (wholePart byteColumn text.toList) := by
    refine ⟨wholePart_isPrefix byteColumn text.toList, ?_⟩
    rw [length_encode, toNat_column short]
  constructor
  · intro h
    exact h.unique hreaches
  · rintro rfl
    exact hreaches

end OffsetEncoding

end CodeListing
