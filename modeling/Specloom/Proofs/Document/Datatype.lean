import Specloom.Proofs.Datatype.OfDocument
import Specloom.Proofs.Json.Tokens

/-!
# The JSON values that write datatypes

A name is written as a string. A node is written as an object with known keys, none of them twice,
or as the list of the entries in their order, where the last ones may be left out. So a list is read
as the object whose members are its items under the known keys, and an object is read key by key:
what has been entered for a key is what its one member holds.

## Main definitions

* `entries?`: the entries of a node by key, in either form
* `Writes`: a JSON value writes a datatype
* `DatatypeParts.Enters`: what members add to what has been read

## Main results

* `ofItems?_eq`: a list is read as the object of its items
* `foldlM_enter_eq_some_iff`: a run through the members
* `readsAsWritten`: a value is read as the datatype that it writes
* `decodeText_eq_ok_iff`: the texts of datatypes
* `Writes.nodup_nodes`: the keys of what a written document describes
-/

namespace Specloom.Document

open Json

/-! ## Values that write datatypes -/

/-- The keys of a datatype node, in the order of a list that writes one. -/
def nodeKeys : List String :=
  ["_", "nullable", "of", "fields"]

/-- The entries of a node by key: the members of an object, or the items of a list under the keys in
their order, if there are not more items than keys. -/
def entries? : Node → Option (List (String × Node))
  | .object members _ => some members
  | .list items _ => if items.length ≤ nodeKeys.length then some (nodeKeys.zip items) else none
  | _ => none

/-- An entry for the nullability. -/
inductive WritesNullable : Option Node → Bool → Prop where
  | absent : WritesNullable none false
  | bool (b : Bool) : WritesNullable (some (.bool b)) b

mutual

/-- A JSON value writes a datatype: a string is a name, and a node has a name and perhaps a
nullability, an element and fields under known keys, none of them twice. -/
inductive Writes : Node → DatatypeDoc → Prop where
  | name (s : String) : Writes (.string s) (.name s)
  | node {v : Node} {entries : List (String × Node)} {n : String} {b : Bool}
    {d : Option DatatypeDoc} {fs : Option (List (String × DatatypeDoc))}
    (entries_eq : entries? v = some entries)
    (known : ∀ m ∈ entries, m.1 ∈ nodeKeys)
    (nodup : (entries.map (·.1)).Nodup)
    (name : entries.lookup "_" = some (.string n))
    (nullable : WritesNullable (entries.lookup "nullable") b)
    (of : WritesElement (entries.lookup "of") d)
    (fields : WritesFields (entries.lookup "fields") fs) :
    Writes v (.node n b d fs)

/-- An entry for the element: `null` or a datatype. -/
inductive WritesElement : Option Node → Option DatatypeDoc → Prop where
  | absent : WritesElement none none
  | null : WritesElement (some .null) none
  | value {v : Node} {d : DatatypeDoc} (h : Writes v d) : WritesElement (some v) (some d)

/-- An entry for the fields: `null` or an object with distinct keys, whose members are the fields in
their order. -/
inductive WritesFields : Option Node → Option (List (String × DatatypeDoc)) → Prop where
  | absent : WritesFields none none
  | null : WritesFields (some .null) none
  | object {members : List (String × Node)} {fault : Option Fault}
    {fields : List (String × DatatypeDoc)}
    (nodup : (members.map (·.1)).Nodup)
    (keys : fields.map (·.1) = members.map (·.1))
    (values : ∀ p ∈ members.zip fields, Writes p.1.2 p.2.2) :
    WritesFields (some (.object members fault)) (some fields)

end

/-- What stands in one of two lists of one length is paired with something. -/
theorem exists_zip_mem_right {α β : Type} {xs : List α} {ys : List β}
    (h : ys.length = xs.length) {y : β} (hy : y ∈ ys) : ∃ x, (x, y) ∈ xs.zip ys := by
  obtain ⟨i, hi, rfl⟩ := List.getElem_of_mem hy
  exact ⟨xs[i], List.mem_iff_getElem.mpr ⟨i, by simp [h ▸ hi, hi], List.getElem_zip⟩⟩

/-- The keys of fields that are written are distinct. -/
theorem WritesFields.nodup_keys {entry : Option Node} {fields : List (String × DatatypeDoc)}
    (h : WritesFields entry (some fields)) : (fields.map (·.1)).Nodup := by
  cases h with
  | object nodup keys => rwa [keys]

/-- Each field that is written is written by a member. -/
theorem WritesFields.exists_writes {entry : Option Node} {fields : List (String × DatatypeDoc)}
    (h : WritesFields entry (some fields)) {f : String × DatatypeDoc} (hf : f ∈ fields) :
    ∃ v, Writes v f.2 := by
  cases h with
  | @object members fault _ nodup keys values =>
    have hlength : fields.length = members.length := by
      simpa using congrArg List.length keys
    obtain ⟨m, hm⟩ := exists_zip_mem_right hlength hf
    exact ⟨m.2, values _ hm⟩

/-! ## Reading the members of an object -/

/-- Reads a name. -/
def readName? : Node → Option String
  | .string s => some s
  | _ => none

/-- Reads a nullability. -/
def readBool? : Node → Option Bool
  | .bool b => some b
  | _ => none

/-- What an entry, if there is one, adds to what has been read: nothing may have been read before
it. -/
inductive Entered {α : Type} (read? : Node → Option α) :
    Option α → Option α → Option Node → Prop where
  | skip {old : Option α} : Entered read? old old none
  | enter {v : Node} {x : α} (h : read? v = some x) : Entered read? none (some x) (some v)

section Entered

variable {α : Type} {read? : Node → Option α} {old new : Option α}

@[simp] theorem entered_none_iff : Entered read? old new none ↔ new = old := by
  constructor
  · rintro ⟨⟩
    rfl
  · rintro rfl
    exact .skip

@[simp] theorem entered_some_iff {v : Node} :
    Entered read? old new (some v) ↔ old = none ∧ ∃ x, read? v = some x ∧ new = some x := by
  constructor
  · rintro (_ | h)
    exact ⟨rfl, _, h, rfl⟩
  · rintro ⟨rfl, x, h, rfl⟩
    exact .enter h

/-- A member and then others: the key of the member does not come again. -/
theorem exists_entered_iff {key : String} {m : String × Node} {rest : List (String × Node)} :
    (∃ mid, Entered read? old mid ([m].lookup key) ∧ Entered read? mid new (rest.lookup key)) ↔
      (key = m.1 → key ∉ rest.map (·.1)) ∧ Entered read? old new ((m :: rest).lookup key) := by
  obtain ⟨key', v⟩ := m
  by_cases hkey : key = key'
  · subst hkey
    have hnone : rest.lookup key = none ↔ key ∉ rest.map (·.1) := by
      rw [List.lookup_eq_none_iff, List.mem_map]
      simp only [bne_iff_ne, ne_comm, not_exists, not_and]
    simp only [List.lookup_cons_self, entered_some_iff, forall_const, ← hnone]
    -- the member fills the part, so nothing may be entered for it afterwards
    constructor
    · rintro ⟨mid, ⟨hold, x, hx, rfl⟩, hrest⟩
      cases hlookup : rest.lookup key with
      | none => exact ⟨rfl, hold, x, hx, by simpa [hlookup] using hrest⟩
      | some v => simp [hlookup] at hrest
    · rintro ⟨hrest, hold, x, hx, rfl⟩
      exact ⟨some x, ⟨hold, x, hx, rfl⟩, by simp [hrest]⟩
  · simp [List.lookup_cons, beq_eq_false_iff_ne.mpr hkey, hkey]

end Entered

namespace DatatypeParts

/-- Enters a member. -/
def enter (parts : DatatypeParts) (m : String × Node) : Option DatatypeParts :=
  if m.1 = "_" then parts.setName m.2
  else if m.1 = "nullable" then parts.setNullable m.2
  else if m.1 = "of" then (DatatypeDoc.ofElement? m.2).bind parts.setOf
  else if m.1 = "fields" then (DatatypeDoc.ofFields? m.2).bind parts.setFields
  else none

/-- What members add to the parts that have been read, key by key. -/
@[mk_iff] structure Enters (old new : DatatypeParts) (members : List (String × Node)) :
    Prop where
  name : Entered readName? old.name new.name (members.lookup "_")
  nullable : Entered readBool? old.nullable new.nullable (members.lookup "nullable")
  of : Entered DatatypeDoc.ofElement? old.of new.of (members.lookup "of")
  fields : Entered DatatypeDoc.ofFields? old.fields new.fields (members.lookup "fields")

theorem mem_nodeKeys_iff {key : String} :
    key ∈ nodeKeys ↔ key = "_" ∨ key = "nullable" ∨ key = "of" ∨ key = "fields" := by
  simp [nodeKeys]

/-- A part is entered with what is read of a value, if it has not been entered before. -/
theorem bind_enter_eq_some_iff {α : Type} {read? : Node → Option α} {v : Node} {old : Option α}
    {set : α → DatatypeParts} {new : DatatypeParts} :
    ((read? v).bind fun x => if old.isNone then some (set x) else none) = some new ↔
      ∃ x, Entered read? old (some x) (some v) ∧ set x = new := by
  simp only [Option.bind_eq_some_iff, entered_some_iff, Option.isNone_iff_eq_none]
  constructor
  · rintro ⟨x, hx, hset⟩
    obtain ⟨hold, hnew⟩ := Option.ite_none_right_eq_some.mp hset
    exact ⟨x, ⟨hold, x, hx, rfl⟩, Option.some.inj hnew⟩
  · rintro ⟨_, ⟨hold, x, hx, ⟨⟩⟩, hset⟩
    exact ⟨_, hx, by rw [if_pos hold, hset]⟩

section Enter

variable {old new : DatatypeParts} {v : Node}

theorem enter_name : enter old ("_", v) = (readName? v).bind fun s =>
    if old.name.isNone then some { old with name := some s } else none := by
  cases v <;> rfl

theorem enter_nullable : enter old ("nullable", v) = (readBool? v).bind fun b =>
    if old.nullable.isNone then some { old with nullable := some b } else none := by
  cases v <;> rfl

theorem enter_of : enter old ("of", v) = (DatatypeDoc.ofElement? v).bind fun of =>
    if old.of.isNone then some { old with of := some of } else none :=
  rfl

theorem enter_fields : enter old ("fields", v) = (DatatypeDoc.ofFields? v).bind fun fields =>
    if old.fields.isNone then some { old with fields := some fields } else none :=
  rfl

/-- A member is entered under its key, if the key is known. -/
theorem enter_eq_some_iff {m : String × Node} :
    enter old m = some new ↔ m.1 ∈ nodeKeys ∧ Enters old new [m] := by
  obtain ⟨key, v⟩ := m
  by_cases hknown : key ∈ nodeKeys
  · rw [and_iff_right hknown, enters_iff]
    rcases mem_nodeKeys_iff.mp hknown with rfl | rfl | rfl | rfl
    all_goals
      simp only [enter_name, enter_nullable, enter_of, enter_fields, bind_enter_eq_some_iff,
        List.lookup_cons, String.reduceBEq, List.lookup_nil, beq_self_eq_true, entered_some_iff,
        entered_none_iff]
      grind [DatatypeParts]
  · rw [mem_nodeKeys_iff, not_or, not_or, not_or] at hknown
    obtain ⟨h₁, h₂, h₃, h₄⟩ := hknown
    simp [enter, mem_nodeKeys_iff, h₁, h₂, h₃, h₄]

end Enter

/-- Members are entered one after the other. -/
theorem exists_enters_iff {old new : DatatypeParts} {m : String × Node}
    {rest : List (String × Node)} (h : m.1 ∈ nodeKeys) :
    (∃ mid, Enters old mid [m] ∧ Enters mid new rest) ↔
      m.1 ∉ rest.map (·.1) ∧ Enters old new (m :: rest) := by
  have hfresh : (∀ key ∈ nodeKeys, key = m.1 → key ∉ rest.map (·.1)) ↔
      m.1 ∉ rest.map (·.1) :=
    ⟨fun hall => hall m.1 h rfl, fun hnot _ _ hkey => hkey ▸ hnot⟩
  simp only [nodeKeys, List.forall_mem_cons] at hfresh
  rw [← hfresh, enters_iff]
  constructor
  · rintro ⟨mid, hm, hrest⟩
    obtain ⟨hname, hname'⟩ := exists_entered_iff.mp ⟨_, hm.name, hrest.name⟩
    obtain ⟨hnullable, hnullable'⟩ := exists_entered_iff.mp ⟨_, hm.nullable, hrest.nullable⟩
    obtain ⟨hof, hof'⟩ := exists_entered_iff.mp ⟨_, hm.of, hrest.of⟩
    obtain ⟨hfields, hfields'⟩ := exists_entered_iff.mp ⟨_, hm.fields, hrest.fields⟩
    exact ⟨⟨hname, hnullable, hof, hfields, List.forall_mem_nil _⟩, hname', hnullable', hof',
      hfields'⟩
  · rintro ⟨⟨hname, hnullable, hof, hfields, -⟩, hname', hnullable', hof', hfields'⟩
    obtain ⟨name, hm₁, hrest₁⟩ := exists_entered_iff.mpr ⟨hname, hname'⟩
    obtain ⟨nullable, hm₂, hrest₂⟩ := exists_entered_iff.mpr ⟨hnullable, hnullable'⟩
    obtain ⟨of, hm₃, hrest₃⟩ := exists_entered_iff.mpr ⟨hof, hof'⟩
    obtain ⟨fields, hm₄, hrest₄⟩ := exists_entered_iff.mpr ⟨hfields, hfields'⟩
    exact ⟨⟨name, nullable, of, fields⟩, ⟨hm₁, hm₂, hm₃, hm₄⟩, ⟨hrest₁, hrest₂, hrest₃, hrest₄⟩⟩

/-- **A run through members** enters each key at most once, and nothing but known keys. -/
theorem foldlM_enter_eq_some_iff {members : List (String × Node)} {old new : DatatypeParts} :
    members.foldlM enter old = some new ↔
      (∀ m ∈ members, m.1 ∈ nodeKeys) ∧ (members.map (·.1)).Nodup ∧ Enters old new members := by
  induction members generalizing old with
  | nil =>
    obtain ⟨name, nullable, of, fields⟩ := old
    obtain ⟨name', nullable', of', fields'⟩ := new
    simp [enters_iff, eq_comm]
  | cons m rest ih =>
    rw [List.foldlM_cons, Option.bind_eq_bind, Option.bind_eq_some_iff]
    simp only [enter_eq_some_iff, ih, List.forall_mem_cons, List.map_cons, List.nodup_cons]
    constructor
    · rintro ⟨mid, ⟨hkey, hm⟩, hknown, hnodup, hrest⟩
      obtain ⟨hnot, henters⟩ := (exists_enters_iff hkey).mp ⟨mid, hm, hrest⟩
      exact ⟨⟨hkey, hknown⟩, ⟨hnot, hnodup⟩, henters⟩
    · rintro ⟨⟨hkey, hknown⟩, ⟨hnot, hnodup⟩, henters⟩
      obtain ⟨mid, hm, hrest⟩ := (exists_enters_iff hkey).mpr ⟨hnot, henters⟩
      exact ⟨mid, ⟨hkey, hm⟩, hknown, hnodup, hrest⟩

end DatatypeParts

namespace DatatypeDoc

variable {parts : DatatypeParts}

theorem ofMembers?_cons (m : String × Node) (rest : List (String × Node)) :
    ofMembers? parts (m :: rest) = (parts.enter m).bind (ofMembers? · rest) := by
  obtain ⟨key, v⟩ := m
  rw [ofMembers?, DatatypeParts.enter]
  split_ifs <;> rfl

/-- Members are read into parts, which then make up the datatype. -/
theorem ofMembers?_eq (members : List (String × Node)) :
    ofMembers? parts members = (members.foldlM DatatypeParts.enter parts).bind (·.finish) := by
  induction members generalizing parts with
  | nil => rfl
  | cons m members ih =>
    rw [ofMembers?_cons, List.foldlM_cons, Option.bind_eq_bind, Option.bind_assoc]
    exact congrArg _ (funext fun _ => ih)

/-- **A list is read as the object of its items**, each under the key of its place. -/
theorem ofItems?_eq (items : List Node) : ofItems? 0 .empty items =
    if items.length ≤ nodeKeys.length then ofMembers? .empty (nodeKeys.zip items) else none := by
  -- up to four items, each is entered under the key of its place; a fifth one has none
  match items with
  | [] => rfl
  | [a] => rfl
  | [a, b] => rfl
  | [a, b, c] => rfl
  | [a, b, c, d] => rfl
  | a :: b :: c :: d :: e :: items =>
    rw [if_neg (by simp [nodeKeys])]
    simp [ofItems?]

theorem ofNode?_of_entries {v : Node} {entries : List (String × Node)}
    (h : entries? v = some entries) : ofNode? v = ofMembers? .empty entries := by
  cases v with
  | object members fault =>
    cases h
    rfl
  | list items fault =>
    obtain ⟨hlength, ⟨⟩⟩ := Option.ite_none_right_eq_some.mp h
    rw [ofNode?, ofItems?_eq, if_pos hlength]
  | _ => cases h

/-- What has no entries is a name, if it is a datatype. -/
theorem ofNode?_of_no_entries {v : Node} (h : entries? v = none) :
    ofNode? v = (readName? v).map .name := by
  cases v with
  | object members fault => cases h
  | list items fault =>
    have hlength : ¬ items.length ≤ nodeKeys.length := fun hle => by
      rw [entries?, if_pos hle] at h
      cases h
    rw [ofNode?, ofItems?_eq, if_neg hlength]
    rfl
  | _ => rfl

theorem ofElement?_eq_of_ne {v : Node} (h : v ≠ .null) : ofElement? v = (ofNode? v).map some := by
  cases v with
  | null => exact absurd rfl h
  | _ => rfl

theorem consField_eq_some_iff {key : String} {t : DatatypeDoc}
    {rest fields : List (String × DatatypeDoc)} :
    consField key t rest = some fields ↔ key ∉ rest.map (·.1) ∧ fields = (key, t) :: rest := by
  rw [consField, Option.ite_none_left_eq_some, Option.some.injEq, eq_comm (b := fields)]
  refine and_congr_left fun _ => not_congr ?_
  simp

/-- Entries are read key by key. -/
theorem ofMembers?_eq_some_iff {members : List (String × Node)} {doc : DatatypeDoc} :
    ofMembers? .empty members = some doc ↔
      (∀ m ∈ members, m.1 ∈ nodeKeys) ∧ (members.map (·.1)).Nodup ∧
        ∃ new, DatatypeParts.Enters .empty new members ∧ new.finish = some doc := by
  rw [ofMembers?_eq, Option.bind_eq_some_iff]
  simp only [DatatypeParts.foldlM_enter_eq_some_iff]
  constructor
  · rintro ⟨new, ⟨hknown, hnodup, henters⟩, hfinish⟩
    exact ⟨hknown, hnodup, new, henters, hfinish⟩
  · rintro ⟨hknown, hnodup, new, henters, hfinish⟩
    exact ⟨new, ⟨hknown, hnodup, henters⟩, hfinish⟩

/-! ## What is read is what is written -/

/-- The values that a value writes are read from it, as a datatype and as fields. -/
structure ReadsAsWritten (v : Node) : Prop where
  ofNode?_iff : ∀ doc, ofNode? v = some doc ↔ Writes v doc
  ofFields?_iff : ∀ fields, ofFields? v = some fields ↔ WritesFields (some v) fields

theorem readName?_eq_some_iff {v : Node} {s : String} : readName? v = some s ↔ v = .string s := by
  cases v <;> simp [readName?]

/-- What is left of an entry in the end, with its value for the case that it is missing, is what the
entry writes. -/
theorem exists_entered_getD_iff {β : Type} {read? : Node → Option β}
    {Writes : Option Node → β → Prop} {missing : β} {entry : Option Node}
    (habsent : ∀ x, Writes none x ↔ x = missing)
    (hvalue : ∀ v ∈ entry, ∀ x, read? v = some x ↔ Writes (some v) x) {x : β} :
    (∃ new, Entered read? none new entry ∧ new.getD missing = x) ↔ Writes entry x := by
  cases entry with
  | none => simp [habsent, eq_comm]
  | some v => simp [hvalue v rfl]

theorem writesNullable_none_iff (b : Bool) : WritesNullable none b ↔ b = false := by
  constructor
  · rintro ⟨⟩
    rfl
  · rintro rfl
    exact .absent

theorem writesElement_none_iff (of : Option DatatypeDoc) : WritesElement none of ↔ of = none := by
  constructor
  · rintro ⟨⟩
    rfl
  · rintro rfl
    exact .absent

theorem writesFields_none_iff (fields : Option (List (String × DatatypeDoc))) :
    WritesFields none fields ↔ fields = none := by
  constructor
  · rintro ⟨⟩
    rfl
  · rintro rfl
    exact .absent

theorem readBool?_eq_some_iff (v : Node) (b : Bool) :
    readBool? v = some b ↔ WritesNullable (some v) b := by
  constructor
  · intro h
    cases v with
    | bool b' =>
      obtain rfl : b' = b := Option.some.inj h
      exact .bool b'
    | _ => cases h
  · rintro ⟨⟩
    rfl

theorem ofElement?_eq_some_iff {v : Node} (hv : ReadsAsWritten v) (of : Option DatatypeDoc) :
    ofElement? v = some of ↔ WritesElement (some v) of := by
  by_cases hnull : v = .null
  · subst hnull
    constructor
    · rintro ⟨⟩
      exact .null
    · intro h
      cases h with
      | null => rfl
      | value h => cases h with
        | node hentries => cases hentries
  · rw [ofElement?_eq_of_ne hnull, Option.map_eq_some_iff]
    constructor
    · rintro ⟨d, hd, rfl⟩
      exact .value ((hv.ofNode?_iff d).mp hd)
    · intro h
      cases h with
      | null => exact absurd rfl hnull
      | value h => exact ⟨_, (hv.ofNode?_iff _).mpr h, rfl⟩

theorem finish_eq_some_iff {parts : DatatypeParts} {doc : DatatypeDoc} :
    parts.finish = some doc ↔ ∃ n, parts.name = some n ∧
      .node n (parts.nullable.getD false) (parts.of.getD none) (parts.fields.getD none) = doc :=
  Option.map_eq_some_iff

/-- What is read of the name is the name. -/
theorem entered_name_iff {entry : Option Node} {n : String} :
    Entered readName? none (some n) entry ↔ entry = some (.string n) := by
  cases entry <;> simp [readName?_eq_some_iff]

/-- A value with entries is read as it is written, if the entries are. -/
theorem ofNode?_iff_of_entries {v : Node} {entries : List (String × Node)}
    (hentries : entries? v = some entries) (h : ∀ m ∈ entries, ReadsAsWritten m.2)
    (doc : DatatypeDoc) : ofNode? v = some doc ↔ Writes v doc := by
  have hlookup (key : String) : ∀ v ∈ entries.lookup key, ReadsAsWritten v := fun v hv => by
    obtain ⟨before, after, rfl, -⟩ := List.lookup_eq_some_iff.mp hv
    exact h (key, v) (by simp)
  -- what has been entered for each key is what its entry writes
  have hnullable {b : Bool} :
      (∃ new, Entered readBool? none new (entries.lookup "nullable") ∧ new.getD false = b) ↔
        WritesNullable (entries.lookup "nullable") b :=
    exists_entered_getD_iff writesNullable_none_iff fun v _ => readBool?_eq_some_iff v
  have hof {d : Option DatatypeDoc} :
      (∃ new, Entered ofElement? none new (entries.lookup "of") ∧ new.getD none = d) ↔
        WritesElement (entries.lookup "of") d :=
    exists_entered_getD_iff writesElement_none_iff fun v hv =>
      ofElement?_eq_some_iff (hlookup "of" v hv)
  have hfields {fs : Option (List (String × DatatypeDoc))} :
      (∃ new, Entered ofFields? none new (entries.lookup "fields") ∧ new.getD none = fs) ↔
        WritesFields (entries.lookup "fields") fs :=
    exists_entered_getD_iff writesFields_none_iff fun v hv => (hlookup "fields" v hv).ofFields?_iff
  rw [ofNode?_of_entries hentries, ofMembers?_eq_some_iff]
  constructor
  · rintro ⟨hknown, hnodup, new, henters, hfinish⟩
    obtain ⟨n, hname, rfl⟩ := finish_eq_some_iff.mp hfinish
    exact .node hentries hknown hnodup (entered_name_iff.mp (hname ▸ henters.name))
      (hnullable.mp ⟨_, henters.nullable, rfl⟩) (hof.mp ⟨_, henters.of, rfl⟩)
      (hfields.mp ⟨_, henters.fields, rfl⟩)
  · intro hwrites
    cases hwrites with
    | name s => cases hentries
    | @node _ entries' n b d fs hentries' hknown hnodup hname wnullable wof wfields =>
      obtain rfl : entries = entries' := Option.some.inj (hentries.symm.trans hentries')
      obtain ⟨nullable, enullable, rfl⟩ := hnullable.mpr wnullable
      obtain ⟨of, eof, rfl⟩ := hof.mpr wof
      obtain ⟨fields, efields, rfl⟩ := hfields.mpr wfields
      exact ⟨hknown, hnodup, ⟨some n, nullable, of, fields⟩,
        ⟨entered_name_iff.mpr hname, enullable, eof, efields⟩, rfl⟩

/-- A value without entries writes a name or nothing. -/
theorem ofNode?_iff_of_no_entries {v : Node} (hentries : entries? v = none) (doc : DatatypeDoc) :
    ofNode? v = some doc ↔ Writes v doc := by
  rw [ofNode?_of_no_entries hentries, Option.map_eq_some_iff]
  simp only [readName?_eq_some_iff]
  constructor
  · rintro ⟨s, rfl, rfl⟩
    exact .name s
  · intro hwrites
    cases hwrites with
    | name s => exact ⟨s, rfl, rfl⟩
    | node hentries' => cases hentries.symm.trans hentries'

/-- Members are read as fields under their keys, which are distinct. -/
theorem ofEntries?_eq_some_iff {members : List (String × Node)}
    (h : ∀ m ∈ members, ReadsAsWritten m.2) {fields : List (String × DatatypeDoc)} :
    ofEntries? members = some fields ↔ (members.map (·.1)).Nodup ∧
      List.Forall₂ (fun m f => m.1 = f.1 ∧ Writes m.2 f.2) members fields := by
  induction members generalizing fields with
  | nil => simp [ofEntries?, eq_comm]
  | cons m rest ih =>
    obtain ⟨key, v⟩ := m
    obtain ⟨hv, hrest⟩ := List.forall_mem_cons.mp h
    simp only [ofEntries?, Option.bind_eq_bind, Option.bind_eq_some_iff, hv.ofNode?_iff,
      ih hrest, consField_eq_some_iff, List.map_cons, List.nodup_cons]
    constructor
    · rintro ⟨d, hd, fields, ⟨hnodup, hfields⟩, hkey, rfl⟩
      have hkeys := (Datatype.forall₂_entries_iff.mp hfields).1
      exact ⟨⟨hkeys ▸ hkey, hnodup⟩, .cons ⟨rfl, hd⟩ hfields⟩
    · rintro ⟨⟨hkey, hnodup⟩, hforall⟩
      cases hforall with
      | @cons _ f _ fields hf hfields =>
        obtain ⟨key', d⟩ := f
        obtain ⟨rfl, hd⟩ := hf
        have hkeys := (Datatype.forall₂_entries_iff.mp hfields).1
        exact ⟨d, hd, fields, ⟨hnodup, hfields⟩, hkeys ▸ hkey, rfl⟩

theorem ofFields?_object_iff {members : List (String × Node)} {fault : Option Fault}
    (h : ∀ m ∈ members, ReadsAsWritten m.2) (fields : Option (List (String × DatatypeDoc))) :
    ofFields? (.object members fault) = some fields ↔
      WritesFields (some (.object members fault)) fields := by
  rw [ofFields?, Option.map_eq_some_iff]
  simp only [ofEntries?_eq_some_iff h, Datatype.forall₂_entries_iff]
  constructor
  · rintro ⟨fields, ⟨hnodup, hkeys, hvalues⟩, rfl⟩
    exact .object hnodup hkeys hvalues
  · rintro (_ | _ | ⟨hnodup, hkeys, hvalues⟩)
    exact ⟨_, ⟨hnodup, hkeys, hvalues⟩, rfl⟩

/-- **A value is read as the datatype that it writes**, and as the fields. -/
theorem readsAsWritten (v : Node) : ReadsAsWritten v := by
  induction v using Node.induction with
  | list items fault ih =>
    refine ⟨fun doc => ?_, fun fields => ⟨nofun, nofun⟩⟩
    cases hentries : entries? (.list items fault) with
    | none => exact ofNode?_iff_of_no_entries hentries doc
    | some entries =>
      -- under its key, an item is an entry like any other
      refine ofNode?_iff_of_entries hentries (fun m hm => ?_) doc
      obtain ⟨-, ⟨⟩⟩ := Option.ite_none_right_eq_some.mp hentries
      exact ih m.2 (List.of_mem_zip hm).2
  | object members fault ih =>
    exact ⟨ofNode?_iff_of_entries rfl ih, ofFields?_object_iff ih⟩
  | null =>
    refine ⟨ofNode?_iff_of_no_entries rfl, fun fields => ⟨?_, ?_⟩⟩
    · rintro ⟨⟩
      exact .null
    · rintro ⟨⟩
      rfl
  | bool b => exact ⟨ofNode?_iff_of_no_entries rfl, fun fields => ⟨nofun, nofun⟩⟩
  | number n => exact ⟨ofNode?_iff_of_no_entries rfl, fun fields => ⟨nofun, nofun⟩⟩
  | string s => exact ⟨ofNode?_iff_of_no_entries rfl, fun fields => ⟨nofun, nofun⟩⟩
  | broken fault => exact ⟨ofNode?_iff_of_no_entries rfl, fun fields => ⟨nofun, nofun⟩⟩

/-! ## Texts -/

/-- A value is decoded if it is whole and writes a datatype. -/
theorem decode_eq_ok_iff {v : Node} {doc : DatatypeDoc} :
    decode v = .ok doc ↔ v.fault? = none ∧ Writes v doc := by
  rw [decode, ← (readsAsWritten v).ofNode?_iff]
  cases v.fault? with
  | some fault => simp
  | none => cases ofNode? v <;> simp

/-- **The texts that are decoded** are those of values that write datatypes. -/
theorem decodeText_eq_ok_iff {text : String} {doc : DatatypeDoc} :
    decodeText decode text = .ok doc ↔ ∃ v, IsTextOf text v ∧ Writes v doc := by
  have hdecoded : decodeText decode text = .ok doc ↔
      decode (Document.read text).root = .ok doc ∧ (Document.read text).trailing = false := by
    rw [decodeText]
    cases hdecode : decode (Document.read text).root with
    | error e => simp [bind, Except.bind]
    | ok doc' =>
      cases htrailing : (Document.read text).trailing <;>
        simp [bind, Except.bind, pure, Except.pure]
  rw [hdecoded, decode_eq_ok_iff]
  simp only [← read_eq_iff]
  constructor
  · rintro ⟨⟨hfault, hwrites⟩, htrailing⟩
    exact ⟨_, ⟨by rw [← htrailing], hfault⟩, hwrites⟩
  · rintro ⟨v, ⟨hread, hfault⟩, hwrites⟩
    rw [hread]
    exact ⟨⟨hfault, hwrites⟩, rfl⟩

end DatatypeDoc

/-! ## Keys of what is described -/

namespace Writes

variable {v : Node} {doc : DatatypeDoc}

/-- The keys that count are distinct. -/
theorem nodup_fields (h : Writes v doc) : (doc.fields.map (·.1)).Nodup := by
  cases h with
  | name s => exact List.nodup_nil
  | @node _ entries n b d fs _ _ _ _ _ _ hfields =>
    rw [DatatypeDoc.fields]
    split
    · cases fs with
      | none => exact List.nodup_nil
      | some fs => exact hfields.nodup_keys
    · exact List.nodup_nil

/-- An element that counts is written. -/
theorem exists_element (h : Writes v doc) {d : DatatypeDoc} (hd : d ∈ doc.element?) :
    ∃ w, Writes w d := by
  cases h with
  | name s => cases hd
  | node _ _ _ _ _ hof _ =>
    obtain ⟨-, rfl⟩ := Option.ite_none_right_eq_some.mp hd
    generalize List.lookup "of" _ = entry at hof
    cases hof with
    | value hd => exact ⟨_, hd⟩

/-- A field that counts is written. -/
theorem exists_field (h : Writes v doc) {f : String × DatatypeDoc} (hf : f ∈ doc.fields) :
    ∃ w, Writes w f.2 := by
  cases h with
  | name s => cases hf
  | @node _ entries n b d fs _ _ _ _ _ _ hfields =>
    rw [DatatypeDoc.fields] at hf
    split at hf
    · cases fs with
      | none => cases hf
      | some fs => exact hfields.exists_writes hf
    · cases hf

/-- **In what a written document describes, the keys of each object are distinct.** -/
theorem nodup_nodes (h : Writes v doc) {t : Datatype} (hmirrors : Datatype.Mirrors doc t)
    {u : Datatype} (hu : u ∈ t.nodes) : (u.fields.map (·.1)).Nodup := by
  induction doc using DatatypeDoc.induction generalizing v t with
  | h doc ihElement ihFields =>
    obtain ⟨-, -, -, hsome, helement, hkeys, hfields⟩ := hmirrors
    rw [Datatype.nodes_eq, List.mem_cons, List.mem_flatMap] at hu
    -- the node itself has the keys of the document; a child belongs to a part that is written too
    rcases hu with rfl | ⟨child, hchild, hu⟩
    · rw [hkeys]
      exact h.nodup_fields
    · rcases List.mem_append.mp hchild with hchild | hchild
      · have hchild : t.element? = some child := by simpa using hchild
        obtain ⟨d, hd⟩ := Option.isSome_iff_exists.mp (hsome ▸ Option.isSome_of_eq_some hchild)
        obtain ⟨w, hw⟩ := h.exists_element hd
        exact ihElement d hd hw (helement d hd child hchild) hu
      · obtain ⟨g, hg, rfl⟩ := List.mem_map.mp hchild
        have hlength : t.fields.length = doc.fields.length := by
          simpa using congrArg List.length hkeys
        obtain ⟨f, hf⟩ := exists_zip_mem_right hlength hg
        obtain ⟨w, hw⟩ := h.exists_field (List.of_mem_zip hf).1
        exact ihFields f (List.of_mem_zip hf).1 hw (hfields _ hf) hu

end Writes

namespace DatatypeDoc

/-- **Which texts are documents of datatypes.** A text is decoded as a datatype exactly if it is the
text of a value that writes it; and in what it describes, the keys of each object are distinct. -/
theorem decodeText_iff_writes (text : String) (doc : DatatypeDoc) :
    (decodeText decode text = .ok doc ↔ ∃ v, IsTextOf text v ∧ Writes v doc) ∧
      ∀ module location t, decodeText decode text = .ok doc →
        Datatype.ofDoc module location doc = .ok t →
          ∀ u ∈ t.nodes, (u.fields.map (·.1)).Nodup := by
  refine ⟨decodeText_eq_ok_iff, fun module location t hdecode ht u hu => ?_⟩
  obtain ⟨v, -, hwrites⟩ := decodeText_eq_ok_iff.mp hdecode
  exact hwrites.nodup_nodes (Datatype.ofDoc_eq_ok_iff.mp ht) hu

/-- A node in the form of a list, with its fields in their order. -/
example : ofNode? (.list [.string "object", .bool false, .null,
    .object [("b", .string "string"), ("a", .list [.string "array", .bool true] none)] none] none) =
    some (.node "object" false none
      (some [("b", .name "string"), ("a", .node "array" true none none)])) := by
  rfl

end DatatypeDoc

end Specloom.Document
