import Specloom.Proofs.Text.Utf8
import Specloom.Url.Query

/-!
# Percent-encoded texts read back

An encoded text has only unreserved characters and percent signs, each with its two digits. So it
holds none of the separators of a URL, it means the same as a piece of a path and as a part of a
form, and decoding gives the text back.

## Main definitions

* `isSafe`: the characters of encoded texts

## Main results

* `isSafe_of_mem_encode`: encoded texts hold no separator
* `unescape_encodeOctet`: one octet is read off the front
* `decode?_encode`, `decodeForm_encode`: both ways of decoding undo the encoding
-/

namespace Specloom.Url

open Text

/-- Whether a character is ASCII and neither a separator of URLs nor a plus sign, which forms read
as a space. -/
def isSafe (c : Char) : Bool :=
  c.toNat < 0x80 && !"/?#&=+".toList.contains c

/-! ## The characters of encoded texts -/

theorem all_isSafe_encodeOctet (b : UInt8) : (encodeOctet b).all isSafe = true := by
  have key : ∀ n < 256, (encodeOctet n.toUInt8).all isSafe = true := by decide +kernel
  simpa using key b.toNat b.toNat_lt

theorem isSafe_of_mem_encode {c : Char} {cs : List Char} (h : c ∈ encode cs) : isSafe c = true := by
  obtain ⟨b, -, hb⟩ := List.mem_flatMap.mp h
  exact List.all_eq_true.mp (all_isSafe_encodeOctet b) c hb

/-- No separator occurs in an encoded text. -/
theorem not_mem_encode {c : Char} (hc : isSafe c = false) (cs : List Char) : c ∉ encode cs := by
  intro h
  rw [isSafe_of_mem_encode h] at hc
  cases hc

theorem encode_ne_nil {cs : List Char} (h : cs ≠ []) : encode cs ≠ [] := by
  obtain ⟨c, rest, rfl⟩ := List.exists_cons_of_ne_nil h
  -- a character has an octet, whichever of the four lengths it takes
  have hoctets : ∃ b bs, Utf8.encode (c :: rest) = b :: bs := by
    simp only [Utf8.encode, List.flatMap_cons, Utf8.encodeChar]
    split
    · exact ⟨_, _, rfl⟩
    · split
      · exact ⟨_, _, rfl⟩
      · split <;> exact ⟨_, _, rfl⟩
  obtain ⟨b, bs, hb⟩ := hoctets
  rw [encode, hb, List.flatMap_cons, encodeOctet]
  split <;> simp

/-! ## Octets -/

/-- An octet other than the percent sign stands for itself. -/
theorem unescape_cons_of_ne {b : UInt8} (hb : b ≠ 0x25) (rest : List UInt8) :
    unescape (b :: rest) = b :: unescape rest := by
  match rest with
  | [] => rfl
  | [_] => rfl
  | _ :: _ :: _ => simp [unescape, hb]

theorem digitValue?_hexDigit {n : Nat} (h : n < 16) :
    digitValue? (hexDigit 'A' n).toNat.toUInt8 = some n := by
  have key : ∀ n < 16, digitValue? (hexDigit 'A' n).toNat.toUInt8 = some n := by decide +kernel
  exact key n h

/-- **An encoded octet is read as that octet**, whatever comes after it. -/
theorem unescape_encodeOctet (b : UInt8) (rest : List UInt8) :
    unescape ((encodeOctet b).map (fun c => c.toNat.toUInt8) ++ rest) = b :: unescape rest := by
  by_cases h : isUnreserved b = true
  · have hb : b ≠ 0x25 := by
      rintro rfl
      revert h
      decide
    -- an unreserved octet stands for itself, and it is no percent sign
    have key : ∀ n < 256, (Char.ofNat n).toNat = n := by decide +kernel
    have hc : (Char.ofNat b.toNat).toNat.toUInt8 = b := by
      rw [key b.toNat b.toNat_lt]
      simp
    rw [encodeOctet, if_pos h, List.map_singleton, hc, List.singleton_append,
      unescape_cons_of_ne hb]
  -- the two digits after the percent sign are the two halves of the octet
  · have hlt : b.toNat < 256 := b.toNat_lt
    have hdigits : upperHex 2 b.toNat =
        [hexDigit 'A' (b.toNat / 16 % 16), hexDigit 'A' (b.toNat % 16)] := rfl
    have hsum : 16 * (b.toNat / 16 % 16) + b.toNat % 16 = b.toNat := by omega
    rw [encodeOctet, if_neg h, hdigits]
    simp only [List.map_cons, List.map_nil, List.cons_append, List.nil_append]
    rw [unescape, digitValue?_hexDigit (Nat.mod_lt _ (by omega)),
      digitValue?_hexDigit (Nat.mod_lt _ (by omega))]
    simp [hsum]

theorem unescape_encodeOctets (bs : List UInt8) :
    unescape ((bs.flatMap encodeOctet).map fun c => c.toNat.toUInt8) = bs := by
  induction bs with
  | nil => rfl
  | cons b bs ih => rw [List.flatMap_cons, List.map_append, unescape_encodeOctet, ih]

theorem decodeOctets_encode (cs : List Char) : decodeOctets (encode cs) = Utf8.encode cs := by
  -- an encoded text is ASCII, so its characters are its octets
  have hascii : ∀ c ∈ encode cs, c.toNat < 0x80 := by
    intro c hc
    have := isSafe_of_mem_encode hc
    simp only [isSafe, Bool.and_eq_true, decide_eq_true_eq] at this
    exact this.1
  rw [decodeOctets, Utf8.encode_ascii hascii]
  exact unescape_encodeOctets _

/-! ## Texts -/

/-- Decoding a piece of a path undoes the encoding. -/
theorem decode?_encode (cs : List Char) : decode? (encode cs) = some cs := by
  rw [decode?, decodeOctets_encode, Utf8.decode?_encode]

/-- Decoding a part of a form undoes the encoding: there is no plus sign to be read as a space. -/
theorem decodeForm_encode (cs : List Char) : decodeForm (encode cs) = cs := by
  have hplus : (encode cs).map (fun c => if c = '+' then ' ' else c) = encode cs := by
    refine Eq.trans (List.map_congr_left fun c hc => ?_) (List.map_id _)
    have hne : c ≠ '+' := fun h => not_mem_encode (by decide) cs (h ▸ hc)
    rw [if_neg hne, id_eq]
  rw [decodeForm, hplus, decodeOctets_encode, Utf8.decodeLossy_encode]

end Specloom.Url
