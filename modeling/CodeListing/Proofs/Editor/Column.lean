import CodeListing.Proofs.Editor.Boundary

/-!
# Columns in the units of an encoding

The column that an encoding gives for a byte column counts the units of the longest part of the line,
in whole characters, that is not longer than the byte column. This module says how such parts behave
(`wholePart_isPrefix_of_le`, `wholePart_length_wholePart`, `wholePart_append`) and what follows for
the columns of a line whose bytes a 32-bit number can count (`OffsetEncoding.CountsColumns`,
`OffsetEncoding.column_countsColumns`).
-/

namespace CodeListing

/-! ## The part that a byte column stands for -/

variable {budget budget' : Nat} {line front back : List Char}

/-- A greater byte column stands for the same part of a line or a longer one. -/
theorem wholePart_isPrefix_of_le (h : budget ≤ budget') (line : List Char) :
    wholePart budget line <+: wholePart budget' line :=
  prefix_wholePart (wholePart_isPrefix budget line)
    (Nat.le_trans (length_wholePart_le budget line) h)

/-- A byte column at the end of a line or past it stands for the whole line. -/
theorem wholePart_of_length_le (h : OffsetEncoding.utf8.length line ≤ budget) :
    wholePart budget line = line :=
  (wholePart_isPrefix budget line).eq_of_length_le (prefix_wholePart List.prefix_rfl h).length_le

/-- The length of a part stands for the same part. -/
theorem wholePart_length_wholePart (budget : Nat) (line : List Char) :
    wholePart (OffsetEncoding.utf8.length (wholePart budget line)) line =
      wholePart budget line := by
  have hshorter := wholePart_isPrefix_of_le (length_wholePart_le budget line) line
  have hfits : wholePart budget line <+:
      wholePart (OffsetEncoding.utf8.length (wholePart budget line)) line :=
    prefix_wholePart (wholePart_isPrefix budget line) (Nat.le_refl _)
  exact hshorter.eq_of_length_le hfits.length_le

/-- A byte column beyond the first part of a line is a byte column of the rest. -/
theorem wholePart_append (budget : Nat) (front back : List Char) :
    wholePart (OffsetEncoding.utf8.length front + budget) (front ++ back) =
      front ++ wholePart budget back := by
  induction front with
  | nil => rw [List.nil_append, List.nil_append, OffsetEncoding.length, Nat.zero_add]
  | cons c front ih =>
    have hrest : c.utf8Size + OffsetEncoding.utf8.length front + budget - c.utf8Size =
        OffsetEncoding.utf8.length front + budget := by omega
    rw [List.cons_append, List.cons_append, OffsetEncoding.length, OffsetEncoding.units, wholePart,
      if_pos (by omega), hrest, ih]

namespace OffsetEncoding

/-! ## Counting units -/

theorem length_le_of_isPrefix (e : OffsetEncoding) (h : front <+: line) :
    e.length front ≤ e.length line := by
  obtain ⟨rest, rfl⟩ := h
  rw [length_append]
  exact Nat.le_add_right _ _

/-- No text has more characters than units of UTF-16. -/
theorem utf32_length_le (cs : List Char) : utf32.length cs ≤ utf16.length cs := by
  induction cs with
  | nil => exact Nat.le_refl 0
  | cons c cs ih => exact Nat.add_le_add (utf16.units_pos c) ih

/-! ## Columns -/

/-- What the columns of a line are in every encoding. -/
structure CountsColumns (text : String) : Prop where
  /-- A column counts the units before the last boundary that is not beyond the byte column. -/
  counts : ∀ (e : OffsetEncoding) (byteColumn : Nat), ∃ before,
    IsLastBoundary text.toList byteColumn before ∧
      (e.column text byteColumn).toNat = (e.encode before).length
  mono : ∀ (e : OffsetEncoding) (byteColumn byteColumn' : Nat), byteColumn ≤ byteColumn' →
    e.column text byteColumn ≤ e.column text byteColumn'
  /-- Past the end the column is that of the end. -/
  full : ∀ (e : OffsetEncoding) (byteColumn : Nat), text.utf8ByteSize ≤ byteColumn →
    (e.column text byteColumn).toNat = (e.encode text.toList).length
  /-- The column in bytes is a byte column that stands for the same boundary. -/
  clamp : ∀ (e : OffsetEncoding) (byteColumn : Nat),
    e.column text (utf8.column text byteColumn).toNat = e.column text byteColumn
  utf32_le_utf16 : ∀ byteColumn, utf32.column text byteColumn ≤ utf16.column text byteColumn
  utf16_le_utf8 : ∀ byteColumn, utf16.column text byteColumn ≤ utf8.column text byteColumn
  utf8_le : ∀ byteColumn, (utf8.column text byteColumn).toNat ≤ byteColumn
  /-- The columns of a line that is put together are those of its second half, moved on by the
  column at the end of the first. -/
  add : ∀ (e : OffsetEncoding) (front back : String) (byteColumn : Nat), text = front ++ back →
    (e.column text (front.utf8ByteSize + byteColumn)).toNat =
      (e.column front front.utf8ByteSize).toNat + (e.column back byteColumn).toNat

/-- The columns of a line of fewer than 2^32 bytes count whole characters, in every encoding. -/
theorem column_countsColumns {text : String} (short : text.utf8ByteSize < UInt32.size) :
    CountsColumns text where
  counts e byteColumn := by
    refine ⟨_, wholePart_isLastBoundary byteColumn text.toList, ?_⟩
    rw [toNat_column short, length_encode]
  mono e byteColumn byteColumn' h := by
    rw [UInt32.le_iff_toNat_le, toNat_column short, toNat_column short]
    exact e.length_le_of_isPrefix (wholePart_isPrefix_of_le h text.toList)
  full e byteColumn h := by
    rw [← utf8_length_toList] at h
    rw [toNat_column short, wholePart_of_length_le h, length_encode]
  clamp e byteColumn := by
    rw [column, toNat_column short, wholePart_length_wholePart, ← column]
  utf32_le_utf16 byteColumn := by
    rw [UInt32.le_iff_toNat_le, toNat_column short, toNat_column short]
    exact utf32_length_le _
  utf16_le_utf8 byteColumn := by
    rw [UInt32.le_iff_toNat_le, toNat_column short, toNat_column short]
    exact utf16.length_le_utf8 _
  utf8_le byteColumn := by
    rw [toNat_column short]
    exact length_wholePart_le byteColumn text.toList
  add e front back byteColumn h := by
    subst h
    -- both halves are as short as the line, so that none of the three columns wraps around
    rw [String.utf8ByteSize_append] at short
    have hfront : front.utf8ByteSize < UInt32.size := by omega
    have hback : back.utf8ByteSize < UInt32.size := by omega
    have hwhole : (front ++ back).utf8ByteSize < UInt32.size := by
      rwa [String.utf8ByteSize_append]
    have hend : wholePart front.utf8ByteSize front.toList = front.toList :=
      wholePart_of_length_le (Nat.le_of_eq (utf8_length_toList front))
    rw [toNat_column hwhole, toNat_column hfront, toNat_column hback, hend, String.toList_append,
      ← utf8_length_toList front, wholePart_append, length_append]

/-- A line of three characters that take two, four and one bytes, asked about inside the second. -/
theorem column_countsColumns_mixedLine :
    "é😀x".utf8ByteSize < UInt32.size ∧ CountsColumns "é😀x" ∧
      (utf8.column "é😀x" 5).toNat = 2 ∧ utf16.column "é😀x" 5 ≤ utf16.column "é😀x" 6 ∧
      (utf16.column "é😀x" ("é".utf8ByteSize + 4)).toNat =
        (utf16.column "é" "é".utf8ByteSize).toNat + (utf16.column "😀x" 4).toNat ∧
      (utf16.column "é😀x" 6).toNat = 3 :=
  have h : CountsColumns "é😀x" := column_countsColumns (by decide)
  ⟨by decide, h, by decide, h.mono .utf16 5 6 (by decide),
    h.add .utf16 "é" "😀x" 4 (by decide), by decide⟩

end OffsetEncoding

end CodeListing
