import CodeListing.Uri.Escape
import CodeListing.Uri.Grammar

/-!
# Escapes, undone and in their place

Decoding undoes encoding, whatever the bytes of a segment are (`decode_encode`). What encoding
writes is free of the characters that delimit a reference (`not_mem_encode`), and it is text that
the grammar accepts unless a byte is left bare that the grammar does not allow
(`isEscapedText_encode_append`). There are four such bytes (`isUnwritable`).
-/

namespace CodeListing.Uri

open CodeListing.Text

/-! ## Bytes -/

/-- What holds of the bytes below a bound is checked one by one. -/
theorem forall_byte_lt {bound : Nat} {P : UInt8 → Prop} (h : ∀ n < bound, P (UInt8.ofNat n))
    {b : UInt8} (hb : b.toNat < bound) : P b := by
  have hn := h b.toNat hb
  rwa [UInt8.ofNat_toNat] at hn

theorem toUInt8_ofUInt8 (b : UInt8) : (Char.ofUInt8 b).toUInt8 = b :=
  UInt8.toUInt8_toUInt32 b

theorem isHexDigit_hexDigit {n : UInt8} (h : n.toNat < 16) : isHexDigit (hexDigit n) = true :=
  forall_byte_lt (P := fun n => isHexDigit (hexDigit n) = true) (by decide) h

theorem hexValue_hexDigit {n : UInt8} (h : n.toNat < 16) : hexValue (hexDigit n) = n.toNat :=
  forall_byte_lt (P := fun n => hexValue (hexDigit n) = n.toNat) (by decide) h

/-! ## One byte -/

theorem toNat_high (b : UInt8) : (b / 16).toNat = b.toNat / 16 := UInt8.toNat_div b 16

theorem toNat_low (b : UInt8) : (b % 16).toNat = b.toNat % 16 := UInt8.toNat_mod b 16

theorem toNat_high_lt (b : UInt8) : (b / 16).toNat < 16 := by
  have := b.toNat_lt
  rw [toNat_high]
  omega

theorem toNat_low_lt (b : UInt8) : (b % 16).toNat < 16 := by
  rw [toNat_low]
  omega

/-- A byte is written as an escape or as the character that it is. -/
theorem encodeByte_cases {motive : List Char → Prop} (b : UInt8)
    (escape : needsEscape b = true → motive ['%', hexDigit (b / 16), hexDigit (b % 16)])
    (bare : needsEscape b = false → Char.ofUInt8 b ≠ '%' → motive [Char.ofUInt8 b]) :
    motive (encodeByte b) := by
  rw [encodeByte]
  cases h : needsEscape b with
  | true => exact escape h
  | false =>
    refine bare h fun hpercent => ?_
    have hb : b = '%'.toUInt8 := by rw [← toUInt8_ofUInt8 b, hpercent]
    rw [hb] at h
    exact absurd h (by decide)

theorem decode_cons_of_ne {c : Char} (h : c ≠ '%') (cs : List Char) :
    decode (c :: cs) = c.toUInt8 :: decode cs := by
  simp [decode, h]

/-- What has no escapes is decoded character by character. -/
theorem decode_of_not_mem {cs : List Char} (h : '%' ∉ cs) : decode cs = cs.map Char.toUInt8 := by
  induction cs with
  | nil => rfl
  | cons c cs ih =>
    rw [List.mem_cons, not_or] at h
    rw [decode_cons_of_ne (Ne.symm h.1), ih h.2, List.map_cons]

theorem decode_encodeByte_append (b : UInt8) (cs : List Char) :
    decode (encodeByte b ++ cs) = b :: decode cs := by
  refine encodeByte_cases (motive := fun written => decode (written ++ cs) = b :: decode cs) b
    ?escape ?bare
  case escape =>
    intro _
    have hbyte : UInt8.ofNat (hexValue (hexDigit (b / 16)) * 16 + hexValue (hexDigit (b % 16))) =
        b := by
      rw [hexValue_hexDigit (toNat_high_lt b), hexValue_hexDigit (toNat_low_lt b), toNat_high,
        toNat_low, Nat.mul_comm, Nat.div_add_mod, UInt8.ofNat_toNat]
    simp only [List.cons_append, List.nil_append, decode, isHexDigit_hexDigit (toNat_high_lt b),
      isHexDigit_hexDigit (toNat_low_lt b), Bool.and_self, if_true, hbyte]
  case bare =>
    intro _ hpercent
    rw [List.singleton_append, decode_cons_of_ne hpercent, toUInt8_ofUInt8]

theorem isEscapedText_cons_of_ne {c : Char} (h : c ≠ '%') (allowed : Char → Bool)
    (cs : List Char) :
    isEscapedText allowed (c :: cs) = (allowed c && isEscapedText allowed cs) := by
  simp [isEscapedText, h]

theorem isEscapedText_encodeByte_append (allowed : Char → Bool) (b : UInt8) (cs : List Char) :
    isEscapedText allowed (encodeByte b ++ cs) =
      ((needsEscape b || allowed (Char.ofUInt8 b)) && isEscapedText allowed cs) := by
  refine encodeByte_cases (motive := fun written => isEscapedText allowed (written ++ cs) = _) b
    ?escape ?bare
  case escape =>
    intro hescape
    simp only [List.cons_append, List.nil_append, isEscapedText, hescape,
      isHexDigit_hexDigit (toNat_high_lt b), isHexDigit_hexDigit (toNat_low_lt b), Bool.true_and,
      Bool.true_or]
  case bare =>
    intro hbare hpercent
    rw [List.singleton_append, isEscapedText_cons_of_ne hpercent, hbare, Bool.false_or]

/-! ## Segments -/

theorem decode_encode_append (segment : List UInt8) (cs : List Char) :
    decode (encode segment ++ cs) = segment ++ decode cs := by
  induction segment with
  | nil => rfl
  | cons b segment ih =>
    rw [encode, List.flatMap_cons, List.append_assoc, decode_encodeByte_append]
    exact congrArg (b :: ·) ih

/-- What is encoded is decoded to the same bytes, whatever they are. -/
theorem decode_encode (segment : List UInt8) : decode (encode segment) = segment := by
  have h := decode_encode_append segment []
  rwa [List.append_nil, decode, List.append_nil] at h

/-- A delimiter that is always escaped does not occur in what encoding writes. -/
theorem not_mem_encode {delimiter : Char} (hescape : needsEscape delimiter.toUInt8 = true)
    (hpercent : delimiter ≠ '%') (hdigit : isHexDigit delimiter = false) (segment : List UInt8) :
    delimiter ∉ encode segment := by
  intro hmem
  obtain ⟨b, -, hb⟩ := List.mem_flatMap.mp hmem
  revert hb
  refine encodeByte_cases (motive := fun written => delimiter ∈ written → False) b ?escape ?bare
  case escape =>
    intro _ hb
    simp only [List.mem_cons, List.not_mem_nil, or_false] at hb
    rcases hb with rfl | rfl | rfl
    · exact hpercent rfl
    · rw [isHexDigit_hexDigit (toNat_high_lt b)] at hdigit
      cases hdigit
    · rw [isHexDigit_hexDigit (toNat_low_lt b)] at hdigit
      cases hdigit
  case bare =>
    intro hbare _ hb
    obtain rfl := List.mem_singleton.mp hb
    rw [toUInt8_ofUInt8, hbare] at hescape
    cases hescape

theorem isEscapedText_encode_append (allowed : Char → Bool) (segment : List UInt8)
    (cs : List Char) :
    isEscapedText allowed (encode segment ++ cs) =
      (segment.all (fun b => needsEscape b || allowed (Char.ofUInt8 b)) &&
        isEscapedText allowed cs) := by
  induction segment with
  | nil => rfl
  | cons b segment ih =>
    rw [encode, List.flatMap_cons, List.append_assoc, isEscapedText_encodeByte_append,
      List.all_cons, Bool.and_assoc]
    exact congrArg (_ && ·) ih

/-! ## Bytes that cannot be written -/

/-- A byte that is written as the character that it is though no path of a reference may show it. -/
def isUnwritable (b : UInt8) : Bool := ['[', ']', '^', '|'].any (·.toUInt8 == b)

/-- All other bytes are escaped or allowed. -/
theorem needsEscape_or_isPathChar (b : UInt8) :
    (needsEscape b || (isPathChar (Char.ofUInt8 b) || Char.ofUInt8 b == '/')) =
      !isUnwritable b := by
  refine forall_byte_lt (P := fun b => (needsEscape b ||
    (isPathChar (Char.ofUInt8 b) || Char.ofUInt8 b == '/')) = !isUnwritable b) ?_ b.toNat_lt
  decide +kernel

end CodeListing.Uri
