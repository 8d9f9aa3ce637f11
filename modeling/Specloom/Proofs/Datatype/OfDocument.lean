import Specloom.Proofs.Datatype.Mentions

/-!
# Datatypes and the documents they are read from

Not all of a document counts. An element counts for arrays only and fields count for objects only,
so from the root some names are reached and others are not. A document describes a datatype exactly
if each name that is reached is a type name, and then the datatype mirrors what is reached. If there
are names that are none, the first of them is reported, at the place of the field it stands in.

## Main definitions

* `IsTypeName`: the name of a built-in type, or a reference
* `DatatypeDoc.element?`, `DatatypeDoc.fields`: what counts of a document
* `DatatypeDoc.reached`: the names that are reached, with the keys on the way
* `Datatype.Mirrors`: a datatype is what a document says

## Main results

* `classify?_isSome_iff`: what denotes something is a type name
* `ofDoc_eq`: one step of reading a document
* `ofDoc_map_unit`: a document is refused as the names in it are
* `ofDoc_eq_ok_iff`: the datatype of a document mirrors it
-/

namespace Specloom

open Text

/-! ## Type names -/

/-- A reference that can be written: its owner is not empty, and its name begins with a capital
letter and has no dot in it. -/
structure TypeRef.IsWritable (ref : TypeRef) : Prop where
  owner_ne : ref.owner ≠ some ""
  startsCapital : startsCapital ref.name.toList = true
  not_mem_name : '.' ∉ ref.name.toList

/-- The name of a built-in type, or a reference as it is written. -/
def IsTypeName (name : String) : Prop :=
  (∃ p : Primitive, name = p.keyword) ∨ ∃ ref : TypeRef, ref.IsWritable ∧ name = ref.qualified

/-- **Reading a reference is the inverse of writing it.** -/
theorem TypeRef.parse?_eq_some_iff {raw : String} {ref : TypeRef} :
    TypeRef.parse? raw = some ref ↔ ref.IsWritable ∧ raw = ref.qualified := by
  constructor
  · intro h
    refine ⟨?_, (qualified_of_parse h).symm⟩
    rw [parse?] at h
    split at h
    · rename_i owner name hsplit
      obtain ⟨-, hdot⟩ := splitLast?_eq_some_iff.mp hsplit
      split at h
      · rename_i hparts
        cases h
        exact ⟨by simpa using hparts.1, by simpa using hparts.2, by simpa using hdot⟩
      · cases h
    · rename_i hsplit
      split at h
      · rename_i hcapital
        cases h
        exact ⟨by simp, hcapital, splitLast?_eq_none_iff.mp hsplit⟩
      · cases h
  · rintro ⟨⟨howner, hcapital, hdot⟩, rfl⟩
    obtain ⟨_ | owner, name⟩ := ref
    · have hsplit : splitLast? '.' name.toList = none := splitLast?_eq_none_iff.mpr hdot
      show parse? name = _
      rw [parse?, hsplit]
      exact if_pos hcapital
    · have hsplit : splitLast? '.' (owner ++ "." ++ name).toList =
          some (owner.toList, name.toList) :=
        splitLast?_eq_some_iff.mpr ⟨by simp, hdot⟩
      have hne : owner.toList ≠ [] := fun hnil => howner (by
        rw [← String.toList_inj.mp (hnil.trans String.toList_empty.symm)])
      show parse? (owner ++ "." ++ name) = _
      rw [parse?, hsplit]
      exact (if_pos ⟨hne, hcapital⟩).trans (by rw [String.ofList_toList, String.ofList_toList])

theorem Primitive.ofKeyword?_eq_some_iff {name : String} {p : Primitive} :
    Primitive.ofKeyword? name = some p ↔ name = p.keyword := by
  constructor
  · intro h
    have hfound := List.find?_some (show Primitive.all.find? (·.keyword == name) = some p from h)
    exact (beq_iff_eq.mp hfound).symm
  · rintro rfl
    rcases p with (_ | _ | _ | _ | _ | _) | _ | _ <;> decide +kernel

/-- What denotes something is a type name. -/
theorem TypeKind.classify?_isSome_iff {name : String} :
    (TypeKind.classify? name).isSome ↔ IsTypeName name := by
  rw [classify?]
  cases hkeyword : Primitive.ofKeyword? name with
  | some p =>
    exact iff_of_true rfl (Or.inl ⟨p, Primitive.ofKeyword?_eq_some_iff.mp hkeyword⟩)
  | none =>
    have hnot (p : Primitive) : name ≠ p.keyword := fun h => by
      rw [Primitive.ofKeyword?_eq_some_iff.mpr h] at hkeyword
      cases hkeyword
    have hnone : ¬ ∃ p : Primitive, name = p.keyword := not_exists.mpr hnot
    simp only [Option.isSome_map, Option.isSome_iff_exists, TypeRef.parse?_eq_some_iff]
    exact ⟨Or.inr, fun h => h.resolve_left hnone⟩

/-- The name of what is denoted. -/
def TypeKind.name : TypeKind → String
  | .primitive p => p.keyword
  | .reference ref => ref.qualified

theorem Datatype.name_eq (t : Datatype) : t.name = t.kind.name := by
  rw [Datatype.name]
  cases t.kind <;> rfl

/-- A name is the name of what it denotes. -/
theorem TypeKind.name_of_classify {name : String} {kind : TypeKind}
    (h : TypeKind.classify? name = some kind) : kind.name = name := by
  rw [classify?] at h
  cases hkeyword : Primitive.ofKeyword? name with
  | some p =>
    rw [hkeyword] at h
    cases h
    exact (Primitive.ofKeyword?_eq_some_iff.mp hkeyword).symm
  | none =>
    rw [hkeyword] at h
    obtain ⟨ref, href, rfl⟩ := Option.map_eq_some_iff.mp h
    exact TypeRef.qualified_of_parse href

/-! ## What counts of a document -/

namespace Document.DatatypeDoc

/-- The name that a datatype is written with. -/
def typeName : DatatypeDoc → String
  | .name n | .node n _ _ _ => n

/-- Whether a datatype is written as nullable. -/
def isNullable : DatatypeDoc → Bool
  | .name _ => false
  | .node _ nullable _ _ => nullable

/-- The element of an array, if it has one. -/
def element? : DatatypeDoc → Option DatatypeDoc
  | .name _ => none
  | .node n _ of _ => if n = Primitive.array.keyword then of else none

/-- The fields of an object, in order. -/
def fields : DatatypeDoc → List (String × DatatypeDoc)
  | .name _ => []
  | .node n _ _ fields => if n = Primitive.object.keyword then fields.getD [] else []

mutual

/-- The names that are reached, each with the keys of the fields on the way to it: the name of the
datatype itself, and then those in its element or in its fields. -/
def reached : DatatypeDoc → List (List String × String)
  | .name n => [([], n)]
  | .node n _ of fields =>
    ([], n) ::
      ((if n = Primitive.array.keyword then reachedOfElement of else []) ++
        if n = Primitive.object.keyword then reachedOfOptionalFields fields else [])

/-- The names that are reached in an element. -/
def reachedOfElement : Option DatatypeDoc → List (List String × String)
  | none => []
  | some doc => doc.reached

/-- The names that are reached in fields, if there are any. -/
def reachedOfOptionalFields : Option (List (String × DatatypeDoc)) → List (List String × String)
  | none => []
  | some fields => reachedOfFields fields

/-- The names that are reached in fields. -/
def reachedOfFields : List (String × DatatypeDoc) → List (List String × String)
  | [] => []
  | (key, doc) :: rest =>
    doc.reached.map (fun r => (key :: r.1, r.2)) ++ reachedOfFields rest

end

/-- What is no array has no element. -/
theorem element?_of_kind {doc : DatatypeDoc} {kind : TypeKind}
    (hkind : TypeKind.classify? doc.typeName = some kind) (hne : kind ≠ .primitive .array) :
    doc.element? = none := by
  cases doc with
  | name n => rfl
  | node n nullable of fields =>
    refine if_neg fun h => hne ?_
    rw [typeName, h, TypeKind.classify?_keyword] at hkind
    exact (Option.some.inj hkind).symm

/-- What is no object has no fields. -/
theorem fields_of_kind {doc : DatatypeDoc} {kind : TypeKind}
    (hkind : TypeKind.classify? doc.typeName = some kind) (hne : kind ≠ .primitive .object) :
    doc.fields = [] := by
  cases doc with
  | name n => rfl
  | node n nullable of fields =>
    refine if_neg fun h => hne ?_
    rw [typeName, h, TypeKind.classify?_keyword] at hkind
    exact (Option.some.inj hkind).symm

theorem reachedOfFields_eq (fields : List (String × DatatypeDoc)) :
    reachedOfFields fields =
      fields.flatMap fun f => f.2.reached.map fun r => (f.1 :: r.1, r.2) := by
  induction fields with
  | nil => rfl
  | cons field fields ih => rw [reachedOfFields, ih, List.flatMap_cons]

theorem reached_eq (doc : DatatypeDoc) :
    doc.reached = ([], doc.typeName) ::
      (doc.element?.toList.flatMap reached ++
        doc.fields.flatMap fun f => f.2.reached.map fun r => (f.1 :: r.1, r.2)) := by
  cases doc with
  | name n => rfl
  | node n nullable of fields =>
    rw [reached, typeName, element?, DatatypeDoc.fields, ← reachedOfFields_eq]
    congr 2
    · split
      · cases of <;> simp [reachedOfElement]
      · rfl
    · split
      · cases fields <;> rfl
      · rfl

mutual

/-- Induction along what counts of a document. -/
theorem induction {motive : DatatypeDoc → Prop}
    (h : ∀ doc, (∀ d ∈ doc.element?, motive d) → (∀ f ∈ doc.fields, motive f.2) → motive doc) :
    (doc : DatatypeDoc) → motive doc
  | .name n => h _ (by simp [element?]) (by simp [DatatypeDoc.fields])
  | .node n nullable of fields => by
    refine h _ (fun d hd => ?_) fun f hf => ?_
    · rw [element?] at hd
      split at hd
      · exact inductionElement h of d hd
      · cases hd
    · rw [DatatypeDoc.fields] at hf
      split at hf
      · exact inductionOptionalFields h fields f hf
      · cases hf

theorem inductionElement {motive : DatatypeDoc → Prop}
    (h : ∀ doc, (∀ d ∈ doc.element?, motive d) → (∀ f ∈ doc.fields, motive f.2) → motive doc) :
    (of : Option DatatypeDoc) → ∀ d ∈ of, motive d
  | none => by simp
  | some doc => by
    rintro _ ⟨⟩
    exact induction h doc

theorem inductionOptionalFields {motive : DatatypeDoc → Prop}
    (h : ∀ doc, (∀ d ∈ doc.element?, motive d) → (∀ f ∈ doc.fields, motive f.2) → motive doc) :
    (fields : Option (List (String × DatatypeDoc))) → ∀ f ∈ fields.getD [], motive f.2
  | none => by simp
  | some fields => inductionFields h fields

theorem inductionFields {motive : DatatypeDoc → Prop}
    (h : ∀ doc, (∀ d ∈ doc.element?, motive d) → (∀ f ∈ doc.fields, motive f.2) → motive doc) :
    (fields : List (String × DatatypeDoc)) → ∀ f ∈ fields, motive f.2
  | [] => by simp
  | (_, doc) :: rest => List.forall_mem_cons.mpr ⟨induction h doc, inductionFields h rest⟩

end

end Document.DatatypeDoc

/-! ## Reading a document -/

namespace Datatype

open Document

variable {module : String} {location : Location}

theorem ofFields_eq (fields : List (String × DatatypeDoc)) :
    ofFields module location fields =
      fields.mapM fun f => (ofDoc module (.member location f.1) f.2).map (f.1, ·) := by
  induction fields with
  | nil => rfl
  | cons field fields ih =>
    obtain ⟨key, doc⟩ := field
    rw [ofFields, ih, List.mapM_cons]
    cases ofDoc module (.member location key) doc <;> rfl

/-- **One step of reading a document**: what the name denotes says what else is read. -/
theorem ofDoc_eq (doc : DatatypeDoc) :
    ofDoc module location doc =
      match TypeKind.classify? doc.typeName with
      | none => .error (.unknownType module location doc.typeName)
      | some (.primitive (.scalar s)) => .ok (.scalar s doc.isNullable)
      | some (.primitive .object) =>
        (ofFields module location doc.fields).map (.object · doc.isNullable)
      | some (.primitive .array) =>
        (ofElement module location doc.element?).map (.array · doc.isNullable)
      | some (.reference ref) => .ok (.reference ref doc.isNullable) := by
  cases doc with
  | name n =>
    rw [ofDoc]
    simp only [DatatypeDoc.typeName]
    rcases TypeKind.classify? n with _ | (s | _ | _) | ref <;> rfl
  | node n nullable of fields =>
    rw [ofDoc]
    simp only [DatatypeDoc.typeName]
    cases hkind : TypeKind.classify? n with
    | none => rfl
    | some kind =>
      have hname := TypeKind.name_of_classify hkind
      rcases kind with (s | _ | _) | ref
      · rfl
      · have hfields : (DatatypeDoc.node n nullable of fields).fields = fields.getD [] :=
          if_pos hname.symm
        rw [hfields]
        cases fields <;> rfl
      · have helement : (DatatypeDoc.node n nullable of fields).element? = of :=
          if_pos hname.symm
        rw [helement]
        rfl
      · rfl

/-! ### Refusals -/

/-- A place below another: the field that is reached along some keys. -/
def within (location : Location) (path : List String) : Location :=
  path.foldl .member location

theorem text_within (location : Location) (path : List String) :
    (within location path).text = location.text ++ String.join (path.map ("." ++ ·)) := by
  unfold within
  induction path generalizing location with
  | nil => simp
  | cons key path ih =>
    have hmember : (Location.member location key).text = location.text ++ "." ++ key := rfl
    rw [List.foldl_cons, ih, List.map_cons, String.join_cons, hmember]
    simp only [String.append_assoc]

/-- Refuses a name that denotes nothing, at the place that it is reached at. -/
def checkName (module : String) (location : Location) (r : List String × String) :
    Except Error Unit :=
  if (TypeKind.classify? r.2).isSome then .ok ()
  else .error (.unknownType module (within location r.1) r.2)

theorem checkName_cons (key : String) (r : List String × String) :
    checkName module location (key :: r.1, r.2) = checkName module (.member location key) r :=
  rfl

/-- **A document is refused as the names are that are reached in it**, one after the other. -/
theorem ofDoc_map_unit (doc : DatatypeDoc) : (ofDoc module location doc).map (fun _ => ()) =
    doc.reached.forM (checkName module location) := by
  induction doc using DatatypeDoc.induction generalizing location with
  | h doc ihElement ihFields =>
    have helement : (ofElement module location doc.element?).map (fun _ => ()) =
        (doc.element?.toList.flatMap DatatypeDoc.reached).forM (checkName module location) := by
      cases hof : doc.element? with
      | none => rfl
      | some d =>
        rw [ofElement, map_map_unit, ihElement d hof]
        simp
    have hfields : (ofFields module location doc.fields).map (fun _ => ()) =
        (doc.fields.flatMap fun f => f.2.reached.map fun r => (f.1 :: r.1, r.2)).forM
          (checkName module location) := by
      rw [ofFields_eq, mapM_map_unit, forM_flatMap]
      refine forM_congr fun f hf => ?_
      rw [map_map_unit, ihFields f hf, forM_map]
      exact forM_congr fun r _ => (checkName_cons f.1 r).symm
    rw [ofDoc_eq, DatatypeDoc.reached_eq, forM_cons, forM_append, ← helement, ← hfields]
    cases hkind : TypeKind.classify? doc.typeName with
    | none => simp [checkName, hkind, within, bind, Except.bind, Except.map]
    | some kind =>
      have hhead : checkName module location ([], doc.typeName) = .ok () := by
        rw [checkName, hkind]
        rfl
      rw [hhead]
      -- what does not count for the kind is not there
      rcases kind with (s | _ | _) | ref
      · rw [DatatypeDoc.element?_of_kind hkind (by simp),
          DatatypeDoc.fields_of_kind hkind (by simp)]
        rfl
      · rw [DatatypeDoc.element?_of_kind hkind (by simp)]
        exact map_map_unit _
      · rw [DatatypeDoc.fields_of_kind hkind (by simp)]
        cases ofElement module location doc.element? <;> rfl
      · rw [DatatypeDoc.element?_of_kind hkind (by simp),
          DatatypeDoc.fields_of_kind hkind (by simp)]
        rfl

/-! ### Results -/

/-- A document describes a datatype exactly if the name and the parts that count do. -/
theorem ofDoc_eq_ok_iff_parts {doc : DatatypeDoc} {t : Datatype} :
    ofDoc module location doc = .ok t ↔
      TypeKind.classify? doc.typeName = some t.kind ∧ t.nullable = doc.isNullable ∧
        ofElement module location doc.element? = .ok t.element? ∧
        ofFields module location doc.fields = .ok t.fields := by
  rw [ofDoc_eq]
  cases hkind : TypeKind.classify? doc.typeName with
  | none => simp
  | some kind =>
    rcases kind with (s | _ | _) | ref
    · rw [DatatypeDoc.element?_of_kind hkind (by simp),
        DatatypeDoc.fields_of_kind hkind (by simp)]
      cases t <;> simp [Datatype.kind, Datatype.nullable, element?, Datatype.fields, ofElement,
        ofFields, eq_comm]
    · rw [DatatypeDoc.element?_of_kind hkind (by simp)]
      refine map_eq_ok.trans ?_
      cases t <;> simp [Datatype.kind, Datatype.nullable, element?, Datatype.fields, ofElement,
        eq_comm, and_comm]
    · rw [DatatypeDoc.fields_of_kind hkind (by simp)]
      refine map_eq_ok.trans ?_
      cases t <;> simp [Datatype.kind, Datatype.nullable, element?, Datatype.fields, ofFields,
        eq_comm, and_comm]
    · rw [DatatypeDoc.element?_of_kind hkind (by simp),
        DatatypeDoc.fields_of_kind hkind (by simp)]
      cases t <;> simp [Datatype.kind, Datatype.nullable, element?, Datatype.fields, ofElement,
        ofFields, eq_comm]

/-- A datatype is what a document says: its name is the written one, its kind is what the name
denotes, and it is nullable as written. It has an element where one counts, and a field for each
field that counts, with the same keys in the same order, and they are what their documents say. -/
inductive Mirrors : DatatypeDoc → Datatype → Prop where
  | intro {doc : DatatypeDoc} {t : Datatype}
    (name : t.name = doc.typeName)
    (kind : TypeKind.classify? doc.typeName = some t.kind)
    (nullable : t.nullable = doc.isNullable)
    (isSome_element : t.element?.isSome = doc.element?.isSome)
    (element : ∀ d ∈ doc.element?, ∀ u ∈ t.element?, Mirrors d u)
    (keys : t.fields.map (·.1) = doc.fields.map (·.1))
    (fields : ∀ p ∈ doc.fields.zip t.fields, Mirrors p.1.2 p.2.2) : Mirrors doc t

theorem forall₂_entries_iff {α β : Type} {R : α → β → Prop} {xs : List (String × α)}
    {ys : List (String × β)} :
    List.Forall₂ (fun x y => x.1 = y.1 ∧ R x.2 y.2) xs ys ↔
      ys.map (·.1) = xs.map (·.1) ∧ ∀ p ∈ xs.zip ys, R p.1.2 p.2.2 := by
  induction xs generalizing ys with
  | nil => cases ys <;> simp
  | cons x xs ih =>
    cases ys with
    | nil => simp
    | cons y ys =>
      rw [List.forall₂_cons, ih, List.zip_cons_cons, List.forall_mem_cons, List.map_cons,
        List.map_cons, List.cons.injEq, and_assoc, and_assoc, eq_comm (a := x.1)]
      tauto

/-- **The datatype of a document mirrors it**, and nothing else does. -/
theorem ofDoc_eq_ok_iff {doc : DatatypeDoc} {t : Datatype} :
    ofDoc module location doc = .ok t ↔ Mirrors doc t := by
  induction doc using DatatypeDoc.induction generalizing location t with
  | h doc ihElement ihFields =>
    have helement : ofElement module location doc.element? = .ok t.element? ↔
        t.element?.isSome = doc.element?.isSome ∧
          ∀ d ∈ doc.element?, ∀ u ∈ t.element?, Mirrors d u := by
      cases hof : doc.element? with
      | none => cases t.element? <;> simp [ofElement]
      | some d =>
        cases t.element? with
        | none => simp [ofElement, map_eq_ok]
        | some u => simpa [ofElement, map_eq_ok] using ihElement d hof
    have hfields : ofFields module location doc.fields = .ok t.fields ↔
        t.fields.map (·.1) = doc.fields.map (·.1) ∧
          ∀ p ∈ doc.fields.zip t.fields, Mirrors p.1.2 p.2.2 := by
      rw [ofFields_eq, mapM_eq_ok, ← forall₂_entries_iff, List.forall₂_iff_zip,
        List.forall₂_iff_zip]
      refine and_congr_right fun _ => forall₂_congr fun f g => imp_congr_right fun hmem => ?_
      rw [map_eq_ok]
      constructor
      · rintro ⟨u, hu, rfl⟩
        exact ⟨rfl, (ihFields f (List.of_mem_zip hmem).1).mp hu⟩
      · rintro ⟨hkey, hu⟩
        exact ⟨g.2, (ihFields f (List.of_mem_zip hmem).1).mpr hu, by rw [hkey]⟩
    rw [ofDoc_eq_ok_iff_parts, helement, hfields]
    constructor
    · rintro ⟨hkind, hnullable, ⟨hsome, hmirrors⟩, hkeys, hall⟩
      have hname := TypeKind.name_of_classify hkind
      exact .intro (t.name_eq.trans hname) hkind hnullable hsome hmirrors hkeys hall
    · rintro ⟨-, hkind, hnullable, hsome, hmirrors, hkeys, hall⟩
      exact ⟨hkind, hnullable, ⟨hsome, hmirrors⟩, hkeys, hall⟩

/-! ### The outcome -/

theorem checkName_eq_ok_iff {r : List String × String} :
    checkName module location r = .ok () ↔ IsTypeName r.2 := by
  rw [checkName, ← TypeKind.classify?_isSome_iff]
  split <;> simp_all

theorem checkName_eq_error_iff {r : List String × String} {e : Error} :
    checkName module location r = .error e ↔
      ¬ IsTypeName r.2 ∧ e = .unknownType module (within location r.1) r.2 := by
  rw [checkName, ← TypeKind.classify?_isSome_iff]
  split
  · simp_all
  · rename_i hnone
    rw [Except.error.injEq, and_iff_right hnone, eq_comm]

/-- **What becomes of a document.** It describes a datatype exactly if every name that is reached is
a type name; the datatype mirrors it; and otherwise the first name that is none is reported, at the
place that the keys on the way to it lead to. -/
theorem ofDoc_iff_reached (module : String) (location : Location) (doc : DatatypeDoc) :
    ((∃ t, ofDoc module location doc = .ok t) ↔ ∀ r ∈ doc.reached, IsTypeName r.2) ∧
      (∀ t, ofDoc module location doc = .ok t ↔ Mirrors doc t) ∧
      ∀ e, ofDoc module location doc = .error e ↔
        ∃ before path name after, doc.reached = before ++ (path, name) :: after ∧
          (∀ r ∈ before, IsTypeName r.2) ∧ ¬ IsTypeName name ∧
          e = .unknownType module (within location path) name ∧
          (within location path).text = location.text ++ String.join (path.map ("." ++ ·)) := by
  have hunit : (ofDoc module location doc).map _ = _ := ofDoc_map_unit doc
  refine ⟨?_, fun t => ofDoc_eq_ok_iff, fun e => ?_⟩
  · have hchecked : (∃ t, ofDoc module location doc = .ok t) ↔
        (ofDoc module location doc).map (fun _ => ()) = .ok () := by
      cases ofDoc module location doc <;> simp [Except.map]
    rw [hchecked, hunit, forM_eq_ok]
    exact forall₂_congr fun r _ => checkName_eq_ok_iff
  · have hchecked : ofDoc module location doc = .error e ↔
        (ofDoc module location doc).map (fun _ => ()) = .error e := by
      cases ofDoc module location doc <;> simp [Except.map]
    rw [hchecked, hunit, forM_eq_error_iff]
    constructor
    · rintro ⟨before, ⟨path, name⟩, after, heq, hrefused, hbefore⟩
      obtain ⟨hname, he⟩ := checkName_eq_error_iff.mp hrefused
      exact ⟨before, path, name, after, heq,
        fun r hr => checkName_eq_ok_iff.mp (hbefore r hr), hname, he, text_within location path⟩
    · rintro ⟨before, path, name, after, heq, hbefore, hname, he, -⟩
      exact ⟨before, (path, name), after, heq, checkName_eq_error_iff.mpr ⟨hname, he⟩,
        fun r hr => checkName_eq_ok_iff.mpr (hbefore r hr)⟩

/-- The fields of an array do not count, and a name in its element is reported at its field. -/
example : ofDoc "users" (.type "T") (.node "array" false
    (some (.node "object" true none (some [("a", .name "string"), ("b", .name "strin")])))
    (some [("c", .name "integr")])) =
    .error (.unknownType "users" (.member (.type "T") "b") "strin") := by
  rfl

end Datatype

end Specloom
