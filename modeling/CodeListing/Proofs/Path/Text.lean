import CodeListing.Path.Relative
import CodeListing.Proofs.Path.Steps

/-!
# Paths that spell text

The byte of a slash is in the encoding of no other character (`Text.toNat_eq_of_mem_encoding`).
So cutting the bytes of a text at slashes cuts the text at slashes (`Path.segments_ofText`), and
putting such pieces together again spells the text that they make up
(`Path.ofSegments_map_segmentOf`).
-/

namespace CodeListing

/-! ## The encoding of a character -/

namespace Text

/-- A byte in ASCII is the whole encoding of the one character whose encoding it is in. -/
theorem toNat_eq_of_mem_encoding {c : Char} {b : UInt8} (hascii : b.toNat < 0x80)
    (h : b ∈ String.utf8EncodeChar c) : c.toNat = b.toNat := by
  have hbyte : ∀ n, b = UInt8.ofNat n → b.toNat = n % 256 := fun n hn => by
    rw [hn, UInt8.toNat_ofNat']
  have hval : c.val.toNat = c.toNat := rfl
  simp only [String.utf8EncodeChar, hval] at h
  split at h
  next =>
    have hb := hbyte _ (List.mem_singleton.mp h)
    omega
  next =>
    -- every byte of a longer encoding is at least `0x80`
    exfalso
    split at h
    next =>
      simp only [List.mem_cons, List.not_mem_nil, or_false] at h
      rcases h with h | h <;> have hb := hbyte _ h <;> omega
    next =>
      split at h
      next =>
        simp only [List.mem_cons, List.not_mem_nil, or_false] at h
        rcases h with h | h | h <;> have hb := hbyte _ h <;> omega
      next =>
        simp only [List.mem_cons, List.not_mem_nil, or_false] at h
        rcases h with h | h | h | h <;> have hb := hbyte _ h <;> omega

theorem flatMap_intercalate {α β : Type} (f : α → List β) (a : α) (pieces : List (List α)) :
    ([a].intercalate pieces).flatMap f = (f a).intercalate (pieces.map (·.flatMap f)) := by
  induction pieces with
  | nil => rfl
  | cons piece pieces ih =>
    cases pieces with
    | nil => rw [List.map_singleton, List.intercalate_singleton, List.intercalate_singleton]
    | cons piece' pieces =>
      rw [List.intercalate_cons_cons, List.flatMap_append, List.flatMap_append, ih,
        List.flatMap_singleton, List.map_cons (l := piece' :: pieces), List.map_cons,
        List.intercalate_cons_cons]

end Text

/-! ## Segments of text -/

namespace Path

open Text (toNat_eq_of_mem_encoding)

/-- The segment that spells characters. -/
def segmentOf (cs : List Char) : Segment := Text.bytes (String.ofList cs)

theorem segmentOf_injective {cs cs' : List Char} (h : segmentOf cs = segmentOf cs') : cs = cs' :=
  String.ofList_injective (Text.bytes_injective h)

theorem slash_not_mem_segmentOf {cs : List Char} (h : '/' ∉ cs) : slash ∉ segmentOf cs := by
  rw [segmentOf, Text.bytes_ofList, List.mem_flatMap]
  rintro ⟨c, hc, hslash⟩
  have hnat : c.toNat = slash.toNat := toNat_eq_of_mem_encoding (by decide) hslash
  have hchar : c = '/' := Char.ext (UInt32.toNat_inj.mp hnat)
  exact h (hchar ▸ hc)

theorem isVoid_segmentOf (cs : List Char) :
    isVoid (segmentOf cs) = !(cs != [] && cs != ['.']) := by
  have hempty : segmentOf cs = [] ↔ cs = [] :=
    ⟨fun h => segmentOf_injective h, fun h => by rw [h]; decide⟩
  have hdot : segmentOf cs = [dot] ↔ cs = ['.'] := by
    have hspelled : segmentOf ['.'] = [dot] := by decide
    exact ⟨fun h => segmentOf_injective (h.trans hspelled.symm), fun h => by rw [h, hspelled]⟩
  rw [Bool.eq_iff_iff]
  simp [isVoid, hempty, hdot]

/-- A segment with a colon in it is a name. -/
theorem componentOf_segmentOf {cs : List Char} (h : ':' ∈ cs) :
    componentOf (segmentOf cs) = some (.normal (segmentOf cs)) := by
  have hne : ∀ other : List Char, ':' ∉ other → segmentOf cs ≠ segmentOf other :=
    fun other hother heq => hother (segmentOf_injective heq ▸ h)
  have hvoid : isVoid (segmentOf cs) = false := by
    have hempty : cs ≠ [] := fun heq => by simp [heq] at h
    have hdot : cs ≠ ['.'] := fun heq => by simp [heq] at h
    rw [isVoid_segmentOf]
    simp [hempty, hdot]
  have hparent : segmentOf ['.', '.'] = [dot, dot] := by decide
  rw [componentOf, hvoid, if_neg Bool.false_ne_true, if_neg (hparent ▸ hne _ (by decide))]

/-- Segments of text between slashes spell the text with slashes between these pieces. -/
theorem ofSegments_map_segmentOf (pieces : List (List Char)) :
    ofSegments (pieces.map segmentOf) = ofText (String.ofList (['/'].intercalate pieces)) := by
  have hslash : String.utf8EncodeChar '/' = [slash] := by decide
  have hsegment : segmentOf = fun cs => cs.flatMap String.utf8EncodeChar :=
    funext Text.bytes_ofList
  rw [ofSegments, ofText, Text.bytes_ofList, Text.flatMap_intercalate, hslash, hsegment]

/-- The first piece is what stands before the first separator. -/
theorem exists_splitOn_eq_cons {α : Type} [BEq α] [LawfulBEq α] (separator : α) (xs : List α) :
    ∃ others, xs.splitOn separator = xs.takeWhile (· != separator) :: others := by
  induction xs with
  | nil => exact ⟨[], rfl⟩
  | cons x xs ih =>
    obtain ⟨others, hothers⟩ := ih
    rw [List.splitOn_cons_eq_if_modifyHead, hothers]
    by_cases hx : x = separator
    · exact ⟨xs.takeWhile (· != separator) :: others, by simp [hx]⟩
    · exact ⟨others, by simp [hx]⟩

/-- A text is cut where it has slashes. -/
theorem segments_ofText (s : String) :
    (ofText s).segments = (s.toList.splitOn '/').map segmentOf := by
  have hs : ofText s = ofSegments ((s.toList.splitOn '/').map segmentOf) := by
    rw [ofSegments_map_segmentOf, List.intercalate_splitOn, String.ofList_toList]
  rw [segments, hs, ofSegments, List.splitOn_intercalate]
  · intro segment hsegment
    obtain ⟨cs, hcs, rfl⟩ := List.mem_map.mp hsegment
    exact slash_not_mem_segmentOf (not_mem_of_mem_splitOn hcs)
  · simp [List.splitOn_ne_nil]

/-- Segments that are left of a text spell a text. -/
theorem exists_ofText_of_sublist {kept : List Segment} {s : String}
    (h : kept.Sublist (ofText s).segments) : ∃ t, ofSegments kept = ofText t := by
  rw [segments_ofText] at h
  obtain ⟨pieces, -, rfl⟩ := List.sublist_map_iff.mp h
  exact ⟨_, ofSegments_map_segmentOf pieces⟩

end Path

end CodeListing
