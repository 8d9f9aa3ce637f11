import Mathlib.Algebra.GroupWithZero.Nat
import Specloom.Enum
import Specloom.Proofs.Module.Loaded
import Specloom.Proofs.Text.Utf8
import Specloom.Proofs.Text.Word

/-!
# What the digest of an enum tells

The digest hashes the octets of identifiers and members, each ended by a zero. The identifier of a
member has as many zeros as the member, so where members have equally many zeros, they end at the
same place. Lists without zeros are known from their octets; a zero inside of a member can be taken
for an end.

## Main definitions

* `EnumDecl.octets`: the octets that are hashed
* `memberOctets`: those of one member
* `DifferInZeros`: lists of which the first members that differ differ in their zeros
* `EnumDecl.Tells`: what the octets and the digest tell

## Main results

* `memberOctets_append_inj`: a member is read off the front
* `eq_or_differInZeros`: what equal octets mean for lists of members
* `exists_same_digest`: two enums with the same digest, where a member has a zero
* `EnumDecl.digest_tells`: what the digest tells
-/

namespace Specloom

open Text Utf8

/-! ## Hexadecimal digits -/

namespace Text

theorem hexDigit_inj {n n' : Nat} (hn : n < 16) (hn' : n' < 16)
    (h : hexDigit 'a' n = hexDigit 'a' n') : n = n' := by
  have hall : ∀ n < 16, ∀ n' < 16, hexDigit 'a' n = hexDigit 'a' n' → n = n' := by decide
  exact hall n hn n' hn' h

/-- A number is known from its digits, up to those that are not written. -/
theorem mod_eq_of_hexDigits_eq {count n n' : Nat} (h : hexDigits 'a' count n = hexDigits 'a' count n') :
    n % 16 ^ count = n' % 16 ^ count := by
  induction count generalizing n n' with
  | zero => simp [Nat.mod_one]
  | succ count ih =>
    obtain ⟨hinit, hlast⟩ := List.append_inj' h rfl
    have hdigit : n % 16 = n' % 16 :=
      hexDigit_inj (Nat.mod_lt _ (by decide)) (Nat.mod_lt _ (by decide)) (List.cons.inj hlast).1
    rw [Nat.pow_succ', Nat.mod_mul, Nat.mod_mul, hdigit, ih hinit]

/-- The digits of a word. -/
theorem lowerHex_inj {w w' : UInt64} (h : lowerHex 16 w.toNat = lowerHex 16 w'.toNat) : w = w' := by
  have hmod := mod_eq_of_hexDigits_eq h
  rw [Nat.mod_eq_of_lt (Nat.lt_of_lt_of_le w.toNat_lt (by decide)),
    Nat.mod_eq_of_lt (Nat.lt_of_lt_of_le w'.toNat_lt (by decide))] at hmod
  exact UInt64.toNat_inj.mp hmod

end Text

/-! ## Frames -/

/-- Two lists that are cut at separators: where the first parts have equally many of these, they are
the same. -/
theorem append_cons_inj_of_count {α : Type} [BEq α] [LawfulBEq α] {sep : α} {a b x y : List α}
    (hcount : a.count sep = b.count sep) (h : a ++ sep :: x = b ++ sep :: y) : a = b ∧ x = y := by
  -- what one part has more than the other begins with the separator
  have hlonger {a b x y : List α} {more : List α} (hb : b = a ++ more)
      (hx : sep :: x = more ++ sep :: y) (hcount : a.count sep = b.count sep) : more = [] := by
    cases more with
    | nil => rfl
    | cons first more =>
      obtain ⟨rfl, -⟩ := List.cons.inj hx
      subst hb
      rw [List.count_append, List.count_cons_self] at hcount
      omega
  rcases List.append_eq_append_iff.mp h with ⟨more, hb, hx⟩ | ⟨more, ha, hy⟩
  · obtain rfl := hlonger hb hx hcount
    rw [List.append_nil] at hb
    exact ⟨hb.symm, (List.cons.inj hx).2⟩
  · obtain rfl := hlonger ha hy hcount.symm
    rw [List.append_nil] at ha
    exact ⟨ha, (List.cons.inj hy).2.symm⟩

/-- The octets of one member: its identifier and its text, each ended by a zero. -/
def memberOctets (member : String) : List UInt8 :=
  encode (Text.pascal member.toList) ++ 0 :: (encode member.toList ++ [0])

/-- The number of zeros in a text. -/
def zeros (s : String) : Nat :=
  s.toList.count '\x00'

theorem zeros_eq_zero_iff {s : String} : zeros s = 0 ↔ '\x00' ∉ s.toList :=
  List.count_eq_zero

/-- **A member is read off the front**, if its number of zeros is known. -/
theorem memberOctets_append_inj {m m' : String} {rest rest' : List UInt8}
    (hzeros : zeros m = zeros m') (h : memberOctets m ++ rest = memberOctets m' ++ rest') :
    m = m' ∧ rest = rest' := by
  unfold zeros at hzeros
  simp only [memberOctets, List.append_assoc, List.cons_append, List.nil_append] at h
  -- the identifiers have the zeros of the members
  obtain ⟨-, htexts⟩ := append_cons_inj_of_count
    (by rw [count_zero_encode, count_zero_encode, count_nul_pascal, count_nul_pascal, hzeros]) h
  obtain ⟨htext, hrest⟩ := append_cons_inj_of_count
    (by rw [count_zero_encode, count_zero_encode, hzeros]) htexts
  exact ⟨String.toList_inj.mp (encode_inj htext), hrest⟩

theorem memberOctets_ne_nil (m : String) : memberOctets m ≠ [] := by
  simp [memberOctets]

/-- Two lists of members have the same begin, and then members whose numbers of zeros differ. -/
def DifferInZeros (members members' : List String) : Prop :=
  ∃ common m rest m' rest', members = common ++ m :: rest ∧ members' = common ++ m' :: rest' ∧
    zeros m ≠ zeros m'

/-- **What equal octets mean**: the members are the same, or the first that differ do so in their
zeros. By induction on the members: each is read off the front. -/
theorem eq_or_differInZeros {members members' : List String}
    (h : members.flatMap memberOctets = members'.flatMap memberOctets) :
    members = members' ∨ DifferInZeros members members' := by
  induction members generalizing members' with
  | nil =>
    cases members' with
    | nil => exact .inl rfl
    | cons m' rest' =>
      rw [List.flatMap_nil, List.flatMap_cons] at h
      exact absurd (List.append_eq_nil_iff.mp h.symm).1 (memberOctets_ne_nil m')
  | cons m rest ih =>
    cases members' with
    | nil =>
      rw [List.flatMap_nil, List.flatMap_cons] at h
      exact absurd (List.append_eq_nil_iff.mp h).1 (memberOctets_ne_nil m)
    | cons m' rest' =>
      by_cases hzeros : zeros m = zeros m'
      · rw [List.flatMap_cons, List.flatMap_cons] at h
        obtain ⟨rfl, hrest⟩ := memberOctets_append_inj hzeros h
        rcases ih hrest with rfl | ⟨common, n, after, n', after', rfl, rfl, hne⟩
        · exact .inl rfl
        · exact .inr ⟨m :: common, n, after, n', after', rfl, rfl, hne⟩
      · exact .inr ⟨[], m, rest, m', rest', rfl, rfl, hzeros⟩

/-! ## Enums -/

namespace EnumDecl

/-- The octets that the digest of an enum is made of. -/
def octets (e : EnumDecl) : List UInt8 :=
  digestInput (e.allMembers.map fun m => (m.key, m.value))

theorem octets_eq (e : EnumDecl) : e.octets = e.members.flatMap memberOctets := by
  change _ = e.members.flatMap fun m => memberOctets m
  simp [octets, digestInput, allMembers, member, memberOctets, Name.pascal, List.flatMap_map]

/-- What the octets and the digests of two enums tell about their members. The digest is the hash of
the octets, and the octets are those of the members, up to zeros in members. -/
structure Tells (e e' : EnumDecl) : Prop where
  hash : e.digest = e'.digest ↔ Digest.xxh3 e.octets = Digest.xxh3 e'.octets
  members : e.octets = e'.octets → e.members = e'.members ∨ DifferInZeros e.members e'.members
  ofNoZeros : (∀ m ∈ e.members ++ e'.members, '\x00' ∉ m.toList) →
    (e.octets = e'.octets ↔ e.members = e'.members)

theorem digest_eq_iff (e e' : EnumDecl) :
    e.digest = e'.digest ↔ Digest.xxh3 e.octets = Digest.xxh3 e'.octets := by
  have hdigest (e : EnumDecl) : e.digest = String.ofList (lowerHex 16 (Digest.xxh3 e.octets).toNat) :=
    rfl
  rw [hdigest, hdigest]
  constructor
  · intro h
    exact lowerHex_inj (String.ofList_inj.mp h)
  · intro h
    rw [h]

/-- **What the digest of an enum tells**: up to collisions of the hash and to zeros in members, every
change of the list of members changes the digest. -/
theorem digest_tells (e e' : EnumDecl) : e.Tells e' := by
  have hmembers : e.octets = e'.octets →
      e.members = e'.members ∨ DifferInZeros e.members e'.members := by
    rw [octets_eq, octets_eq]
    exact eq_or_differInZeros
  refine ⟨digest_eq_iff e e', hmembers, fun hzeros => ⟨fun h => ?_, fun h => ?_⟩⟩
  · refine (hmembers h).resolve_right ?_
    rintro ⟨common, m, rest, m', rest', hm, hm', hne⟩
    have hno {n : String} (hn : n ∈ e.members ++ e'.members) : zeros n = 0 :=
      zeros_eq_zero_iff.mpr (hzeros n hn)
    exact hne ((hno (by simp [hm])).trans (hno (by simp [hm'])).symm)
  · rw [octets_eq, octets_eq, h]

/-- The order of the members counts: none of them has a zero. -/
theorem digest_tells_order : (⟨"Mode", ["on", "off"]⟩ : EnumDecl).Tells ⟨"Mode", ["off", "on"]⟩ ∧
    (⟨"Mode", ["on", "off"]⟩ : EnumDecl).octets ≠ octets ⟨"Mode", ["off", "on"]⟩ := by
  have htells := digest_tells ⟨"Mode", ["on", "off"]⟩ ⟨"Mode", ["off", "on"]⟩
  refine ⟨htells, fun h => ?_⟩
  have hmembers := (htells.ofNoZeros (by decide)).mp h
  exact absurd hmembers (by decide)

end EnumDecl

/-- Two enums of a loaded module with the same digest: the zero inside of a member of one is taken
for the end of a member of the other. -/
theorem exists_same_digest : ∃ run m e e', load
      (fun _ => .ok ("[[],[[\"Old\",[\"AbCD\\u0000ab_c_d\"]]," ++
        "[\"New\",[\"abCD\",\"ab_c_d\"]]],[],[]]"))
      [⟨"modes", some "types", none, none, none⟩] = .ok run ∧ m ∈ run ∧ m.enums = [e, e'] ∧
    e.members = ["AbCD\x00ab_c_d"] ∧ e'.members = ["abCD", "ab_c_d"] ∧
    e.octets = e'.octets ∧ e.digest = e'.digest := by
  generalize hload : load _ _ = loaded
  have hdata : loaded.toOption.map (fun run => run.map fun m => m.enums) =
      some [[⟨"Old", ["AbCD\x00ab_c_d"]⟩, ⟨"New", ["abCD", "ab_c_d"]⟩]] := by
    rw [← hload]
    decide +kernel
  obtain ⟨run, rfl, hrun⟩ := map_toOption_eq_some.mp hdata
  obtain ⟨m, rfl, henums⟩ := List.map_eq_singleton_iff.mp hrun
  have hoctets : EnumDecl.octets ⟨"Old", ["AbCD\x00ab_c_d"]⟩ =
      EnumDecl.octets ⟨"New", ["abCD", "ab_c_d"]⟩ := by
    decide +kernel
  exact ⟨_, m, _, _, rfl, List.mem_singleton_self m, henums, rfl, rfl, hoctets,
    (EnumDecl.digest_eq_iff _ _).mpr (congrArg _ hoctets)⟩

end Specloom
