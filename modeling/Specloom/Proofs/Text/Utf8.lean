import Specloom.Text.Utf8

/-!
# UTF-8 reads back

The octets of a text are well-formed, and reading them gives the text: each character begins with
an octet that says how many follow, and the bounds of the octet after it leave out exactly the
forms that no character has. The strict and the lenient decoder agree on such octets.

## Main results

* `scalarsFrom_encodeChar`: one character is read off the front
* `decode?_encode`, `decodeLossy_encode`: both decoders undo the encoding
* `encode_inj`: a text is known from its octets
* `count_zero_encode`: the zeros among the octets are those of the text
-/

namespace Specloom.Text.Utf8

theorem toNat_toUInt8 {n : Nat} (h : n < 256) : n.toUInt8.toNat = n := by
  simp [Nat.toUInt8, Nat.mod_eq_of_lt h]

/-! ## Single octets -/

theorem scalarsFrom_idle (b : UInt8) (rest : List UInt8) :
    scalarsFrom .idle (b :: rest) = (start b).1 ++ scalarsFrom (start b).2 rest := by
  simp [scalarsFrom, Pending.idle]

section Within

variable {p : Pending} {m : Nat} (rest : List UInt8)

theorem within_bounds (hlo : p.lo.toNat ≤ m) (hhi : m ≤ p.hi.toNat) :
    m.toUInt8.toNat = m ∧ p.lo ≤ m.toUInt8 ∧ m.toUInt8 ≤ p.hi := by
  -- the bounds are octets, so the number between them is one
  have hm : m.toUInt8.toNat = m := toNat_toUInt8 (by have := p.hi.toNat_lt; omega)
  rw [UInt8.le_iff_toNat_le, UInt8.le_iff_toNat_le, hm]
  exact ⟨rfl, hlo, hhi⟩

/-- An octet within the bounds, with more to come, adds its six bits. -/
theorem scalarsFrom_continue (hn : 1 < p.need) (hlo : p.lo.toNat ≤ m) (hhi : m ≤ p.hi.toNat) :
    scalarsFrom p (m.toUInt8 :: rest) =
      scalarsFrom ⟨p.need - 1, p.bits * 0x40 + m % 0x40, 0x80, 0xbf⟩ rest := by
  obtain ⟨hm, hb⟩ := within_bounds hlo hhi
  rw [scalarsFrom, if_neg (by omega), if_pos hb]
  simp only [hm]
  rw [if_neg (by omega)]

/-- The last octet of a character completes it. -/
theorem scalarsFrom_last (hn : p.need = 1) (hlo : p.lo.toNat ≤ m) (hhi : m ≤ p.hi.toNat) :
    scalarsFrom p (m.toUInt8 :: rest) =
      some (Char.ofNat (p.bits * 0x40 + m % 0x40)) :: scalarsFrom .idle rest := by
  obtain ⟨hm, hb⟩ := within_bounds hlo hhi
  rw [scalarsFrom, if_neg (by omega), if_pos hb]
  simp only [hm]
  rw [if_pos hn]

end Within

theorem start_one {m : Nat} (h : m < 0x80) :
    start m.toUInt8 = ([some (Char.ofNat m)], .idle) := by
  have hm : m.toUInt8.toNat = m := toNat_toUInt8 (by omega)
  simp only [start, UInt8.lt_iff_toNat_lt, hm]
  rw [if_pos (by simpa using h)]

theorem start_two {m : Nat} (hlo : 0xc2 ≤ m) (hhi : m < 0xe0) :
    start m.toUInt8 = ([], ⟨1, m - 0xc0, 0x80, 0xbf⟩) := by
  have hm : m.toUInt8.toNat = m := toNat_toUInt8 (by omega)
  simp only [start, UInt8.lt_iff_toNat_lt, hm]
  rw [if_neg (by simp; omega), if_neg (by simp; omega), if_pos (by simpa using hhi)]

theorem start_three {m : Nat} (hlo : 0xe0 ≤ m) (hhi : m < 0xf0) :
    start m.toUInt8 = ([], ⟨2, m - 0xe0, if m = 0xe0 then 0xa0 else 0x80,
      if m = 0xed then 0x9f else 0xbf⟩) := by
  have hm : m.toUInt8.toNat = m := toNat_toUInt8 (by omega)
  simp only [start, UInt8.lt_iff_toNat_lt, ← UInt8.toNat_inj, hm]
  rw [if_neg (by simp; omega), if_neg (by simp; omega), if_neg (by simp; omega),
    if_pos (by simpa using hhi)]
  rfl

theorem start_four {m : Nat} (hlo : 0xf0 ≤ m) (hhi : m ≤ 0xf4) :
    start m.toUInt8 = ([], ⟨3, m - 0xf0, if m = 0xf0 then 0x90 else 0x80,
      if m = 0xf4 then 0x8f else 0xbf⟩) := by
  have hm : m.toUInt8.toNat = m := toNat_toUInt8 (by omega)
  simp only [start, UInt8.lt_iff_toNat_lt, ← UInt8.toNat_inj, hm]
  rw [if_neg (by simp; omega), if_neg (by simp; omega), if_neg (by simp; omega),
    if_neg (by simp; omega)]
  rfl

/-! ## Characters and texts -/

/-- **The octets of a character are read as that character**, whatever comes after them. -/
theorem scalarsFrom_encodeChar (c : Char) (rest : List UInt8) :
    scalarsFrom .idle (encodeChar c ++ rest) = some c :: scalarsFrom .idle rest := by
  have hv : c.toNat < 0xd800 ∨ 0xdfff < c.toNat ∧ c.toNat < 0x110000 := c.valid
  have hc : Char.ofNat c.toNat = c := Char.ofNat_toNat c
  simp only [encodeChar]
  generalize c.toNat = n at hv hc ⊢
  -- one case for each number of octets; the bits of the octets add up to the number
  rcases Nat.lt_or_ge n 0x80 with h | h1
  · rw [if_pos h, List.singleton_append, scalarsFrom_idle, start_one h, hc]
    rfl
  rw [if_neg (by omega)]
  rcases Nat.lt_or_ge n 0x800 with h | h2
  · rw [if_pos h, List.cons_append, scalarsFrom_idle, start_two (by omega) (by omega),
      List.nil_append, List.singleton_append, scalarsFrom_last _ rfl (by simp) (by simp; omega),
      ← hc]
    congr 3
    dsimp only
    omega
  rw [if_neg (by omega)]
  rcases Nat.lt_or_ge n 0x10000 with h | h3
  · rw [if_pos h, List.cons_append, scalarsFrom_idle, start_three (by omega) (by omega),
      List.nil_append, List.cons_append,
      scalarsFrom_continue _ (by simp) (by simp only; split <;> simp; omega)
        (by simp only; split <;> simp <;> omega),
      List.singleton_append, scalarsFrom_last _ rfl (by simp) (by simp; omega), ← hc]
    congr 3
    dsimp only
    omega
  · rw [if_neg (by omega), List.cons_append, scalarsFrom_idle, start_four (by omega) (by omega),
      List.nil_append, List.cons_append,
      scalarsFrom_continue _ (by simp) (by simp only; split <;> simp; omega)
        (by simp only; split <;> simp <;> omega),
      List.cons_append, scalarsFrom_continue _ (by simp) (by simp) (by simp; omega),
      List.singleton_append, scalarsFrom_last _ rfl (by simp) (by simp; omega), ← hc]
    congr 3
    dsimp only
    omega

theorem scalars_encode (cs : List Char) : scalars (encode cs) = cs.map some := by
  unfold scalars encode
  induction cs with
  | nil => rfl
  | cons c cs ih => rw [List.flatMap_cons, scalarsFrom_encodeChar, ih, List.map_cons]

/-- The strict decoder undoes the encoding. -/
theorem decode?_encode (cs : List Char) : decode? (encode cs) = some cs := by
  rw [decode?, scalars_encode]
  induction cs with
  | nil => rfl
  | cons c cs ih => simp_all

/-- The lenient decoder undoes the encoding. -/
theorem decodeLossy_encode (cs : List Char) : decodeLossy (encode cs) = cs := by
  simp [decodeLossy, scalars_encode, Function.comp_def]

/-- Characters below `0x80` are their own octets. -/
theorem encode_ascii {cs : List Char} (h : ∀ c ∈ cs, c.toNat < 0x80) :
    encode cs = cs.map fun c => c.toNat.toUInt8 := by
  induction cs with
  | nil => rfl
  | cons c cs ih =>
    have hc : encodeChar c = [c.toNat.toUInt8] := by
      simp only [encodeChar]
      rw [if_pos (h c List.mem_cons_self)]
    have hcs := ih fun d hd => h d (List.mem_cons_of_mem _ hd)
    unfold encode at hcs ⊢
    rw [List.flatMap_cons, hc, hcs, List.map_cons, List.singleton_append]

/-- **A text is known from its octets.** -/
theorem encode_inj {cs cs' : List Char} (h : encode cs = encode cs') : cs = cs' := by
  have hdecode := decode?_encode cs
  rw [h, decode?_encode] at hdecode
  exact (Option.some.inj hdecode).symm

/-- Only a zero has a zero among its octets. -/
theorem ne_zero_of_mem_encodeChar {c : Char} (hc : c ≠ '\x00') {b : UInt8}
    (hb : b ∈ encodeChar c) : b ≠ 0 := by
  have hpos : c.toNat ≠ 0 := fun h => hc (Char.toNat_inj.mp h)
  have hmax : c.toNat < 0x110000 := by
    have hv : c.toNat < 0xd800 ∨ 0xdfff < c.toNat ∧ c.toNat < 0x110000 := c.valid
    omega
  have hoctet {n : Nat} (h : 0 < n ∧ n < 256) : n.toUInt8 ≠ 0 := by
    intro hzero
    have hn := toNat_toUInt8 h.2
    rw [hzero] at hn
    exact absurd hn (Nat.ne_of_lt h.1)
  simp only [encodeChar] at hb
  generalize c.toNat = n at hpos hmax hb
  repeat' split at hb
  all_goals
    simp only [List.mem_cons, List.not_mem_nil, or_false] at hb
  · subst hb
    exact hoctet (by omega)
  · rcases hb with rfl | rfl <;> exact hoctet (by omega)
  · rcases hb with rfl | rfl | rfl <;> exact hoctet (by omega)
  · rcases hb with rfl | rfl | rfl | rfl <;> exact hoctet (by omega)

/-- **The zeros among the octets of a text** are those of the text. -/
theorem count_zero_encode (cs : List Char) : (encode cs).count 0 = cs.count '\x00' := by
  unfold encode
  induction cs with
  | nil => rfl
  | cons c cs ih =>
    rw [List.flatMap_cons, List.count_append, ih, List.count_cons]
    by_cases hc : c = '\x00'
    · subst hc
      exact Nat.add_comm ..
    · have hzero : (encodeChar c).count 0 = 0 :=
        List.count_eq_zero.mpr fun h => ne_zero_of_mem_encodeChar hc h rfl
      simp [hzero, hc]

end Specloom.Text.Utf8
