import CodeListing.Proofs.Uri.Escape
import CodeListing.Uri.Host
import Mathlib.Data.List.Basic

/-!
# The name of this machine

A host is this machine in whatever case its name is written (`Uri.Host.ofChars?_localhost`). Such a
name is in ASCII and has neither escapes nor characters that a domain must not have, so that it is
its own spelling up to case.
-/

namespace CodeListing

open Text

/-! ## Letters -/

/-- A delimiter that has no case is in no text whose lower-case form lacks it. -/
theorem Domain.not_mem_of_lowerCase {cs : List Char} {c : Char}
    (h : c.toLower ∉ lowerCase cs) : c ∉ cs :=
  fun hc => h (List.mem_map_of_mem hc)

/-- Text in ASCII has a byte for each character. -/
theorem Text.bytes_ofList_of_isAscii {cs : List Char} (h : ∀ c ∈ cs, Domain.isAscii c = true) :
    bytes (String.ofList cs) = cs.map Char.toUInt8 := by
  have hchar : ∀ c ∈ cs, String.utf8EncodeChar c = [c.toUInt8] := by
    intro c hc
    have hle : c.toNat ≤ 127 := Nat.le_of_lt_succ (of_decide_eq_true (h c hc))
    exact String.utf8EncodeChar_eq_singleton
      (Char.utf8Size_eq_one_iff.mpr (UInt32.le_iff_toNat_le.mpr hle))
  rw [bytes_ofList, List.flatMap_congr hchar, List.map_eq_flatMap]

/-- A character whose lower-case form is in ASCII is in ASCII. -/
theorem Domain.isAscii_of_toLower {c : Char} (h : isAscii c.toLower = true) : isAscii c = true := by
  by_cases hupper : c.val ≥ 'A'.val ∧ c.val ≤ 'Z'.val
  · have hz : c.toNat ≤ 90 := UInt32.le_iff_toNat_le.mp hupper.2
    exact decide_eq_true (Nat.lt_of_le_of_lt hz (by decide))
  · have hlower : c.toLower = c := dif_neg hupper
    rwa [hlower] at h

/-! ## The host -/

namespace Uri

/-- The letters of the name, in either case. -/
theorem localhost_letters {c : Char} (h : c.toLower ∈ localhost) :
    Domain.isAscii c = true ∧ Domain.isForbidden c = false := by
  have hall : ∀ n < 0x80, (Char.ofNat n).toLower ∈ localhost →
      Domain.isForbidden (Char.ofNat n) = false := by decide
  have hlower : localhost.all Domain.isAscii = true := by decide
  have hascii := Domain.isAscii_of_toLower (List.all_eq_true.mp hlower _ h)
  refine ⟨hascii, ?_⟩
  have hchar := hall c.toNat (of_decide_eq_true hascii)
  rw [Char.ofNat_toNat] at hchar
  exact hchar h

/-- The name of this machine is known in any case of its letters. -/
theorem Host.ofChars?_localhost {host : List Char} (h : Domain.lowerCase host = localhost) :
    Host.ofChars? host = some .here := by
  have hlower : ∀ c ∈ host, c.toLower ∈ localhost := fun c hc => h ▸ List.mem_map_of_mem hc
  have hascii : ∀ c ∈ host, Domain.isAscii c = true := fun c hc =>
    (localhost_letters (hlower c hc)).1
  have hpercent : '%' ∉ host := fun hc => absurd (hlower _ hc) (by decide)
  have hbracket : host.head? ≠ some '[' := fun hc =>
    absurd (hlower _ (List.mem_of_head? hc)) (by decide)
  have hempty : host.isEmpty = false := by
    cases host with
    | nil => cases h
    | cons c cs => rfl
  have htext : Text.ofBytes? (decode host) = some (String.ofList host) := by
    rw [decode_of_not_mem hpercent, ← Text.bytes_ofList_of_isAscii hascii, Text.ofBytes?_bytes]
  have hplain : Domain.isPlain host = true := by
    rw [Domain.isPlain, h, List.all_eq_true.mpr hascii]
    decide
  have hforbidden : host.any Domain.isForbidden = false := by
    rw [List.any_eq_false]
    intro c hc
    rw [(localhost_letters (hlower c hc)).2]
    exact Bool.false_ne_true
  have hname : Domain.canonical? (String.ofList host).toList = some localhost := by
    rw [String.toList_ofList, Domain.canonical?, if_pos hplain, hforbidden, h]
    rfl
  rw [Host.ofChars?, hempty, if_neg Bool.false_ne_true, if_neg hbracket, htext]
  show (Domain.canonical? _ >>= _) = _
  rw [hname]
  rfl

end Uri

end CodeListing
