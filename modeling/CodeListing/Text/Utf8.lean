/-!
# Reading UTF-8 that may be ill-formed

`decodeLossy` reads any bytes as text. A well-formed sequence gives its character; of an ill-formed
one every maximal part that some well-formed sequence begins with gives one U+FFFD, and so does
each byte that begins none. The bytes that may follow a lead byte are those of the well-formedness
table of the Unicode standard: only the first byte after a lead of `E0`, `ED`, `F0` or `F4` has a
narrower range than `80..BF`.
-/

namespace CodeListing.Text

/-- A character of which some bytes are still to come. -/
structure Unfinished where
  /-- How many bytes are missing. -/
  owed : Nat
  /-- The least and the greatest byte that may come next. -/
  low : UInt8
  high : UInt8
  /-- The bits that the bytes so far contribute to the scalar value. -/
  bits : Nat

/-- The replacement for what is not well-formed. -/
def replacement : Char := '\ufffd'

/-- Reads a byte that stands where a character begins: the characters it completes, and the
character it leaves unfinished. -/
def readLead (b : UInt8) : List Char × Option Unfinished :=
  let n := b.toNat
  if n ≤ 0x7F then ([Char.ofNat n], none)
  else if 0xC2 ≤ n ∧ n ≤ 0xDF then ([], some ⟨1, 0x80, 0xBF, n - 0xC0⟩)
  else if n = 0xE0 then ([], some ⟨2, 0xA0, 0xBF, 0⟩)
  else if n = 0xED then ([], some ⟨2, 0x80, 0x9F, 0xD⟩)
  else if 0xE1 ≤ n ∧ n ≤ 0xEF then ([], some ⟨2, 0x80, 0xBF, n - 0xE0⟩)
  else if n = 0xF0 then ([], some ⟨3, 0x90, 0xBF, 0⟩)
  else if 0xF1 ≤ n ∧ n ≤ 0xF3 then ([], some ⟨3, 0x80, 0xBF, n - 0xF0⟩)
  else if n = 0xF4 then ([], some ⟨3, 0x80, 0x8F, 4⟩)
  else ([replacement], none)

/-- Reads the next byte of an unfinished character, or gives the character up and reads the byte as
the beginning of another one. -/
def readNext (u : Unfinished) (b : UInt8) : List Char × Option Unfinished :=
  if u.low ≤ b ∧ b ≤ u.high then
    let bits := u.bits * 64 + (b.toNat - 0x80)
    if u.owed ≤ 1 then ([Char.ofNat bits], none) else ([], some ⟨u.owed - 1, 0x80, 0xBF, bits⟩)
  else
    let (chars, unfinished) := readLead b
    (replacement :: chars, unfinished)

/-- Reads bytes in the middle of a text. -/
def decodeFrom : Option Unfinished → List UInt8 → List Char
  | none, [] => []
  | some _, [] => [replacement]
  | none, b :: bs => let (chars, unfinished) := readLead b; chars ++ decodeFrom unfinished bs
  | some u, b :: bs => let (chars, unfinished) := readNext u b; chars ++ decodeFrom unfinished bs

/-- The text of any bytes, with U+FFFD for what is not well-formed. -/
def decodeLossy (bytes : List UInt8) : String :=
  String.ofList (decodeFrom none bytes)

/-- The bytes of a text. -/
def bytes (s : String) : List UInt8 := s.toUTF8.data.toList

/-- The text that well-formed bytes spell. -/
def ofBytes? (bs : List UInt8) : Option String := String.fromUTF8? ⟨bs.toArray⟩

/-- Bytes of a text spell that text. -/
theorem ofBytes?_bytes (s : String) : ofBytes? (bytes s) = some s := by
  simp [ofBytes?, bytes, String.fromUTF8?, s.isValidUTF8, String.fromUTF8]

theorem bytes_injective {s s' : String} (h : bytes s = bytes s') : s = s' :=
  Option.some.inj <| by rw [← ofBytes?_bytes s, h, ofBytes?_bytes]

/-- A text is encoded character by character. -/
theorem bytes_ofList (cs : List Char) :
    bytes (String.ofList cs) = cs.flatMap String.utf8EncodeChar := by
  rw [bytes, String.toUTF8, String.toByteArray_ofList, List.utf8Encode, List.data_toByteArray]

/-- Bytes that spell a text are that text's bytes. -/
theorem eq_bytes_of_ofBytes? {bs : List UInt8} {s : String} (h : ofBytes? bs = some s) :
    bs = bytes s := by
  unfold ofBytes? String.fromUTF8? at h
  split at h
  · cases h
    simp [bytes, String.fromUTF8]
  · cases h

end CodeListing.Text
