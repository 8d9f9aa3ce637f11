import Specloom.Datatype.TsType
import Specloom.Proofs.Datatype.Within
import Specloom.Proofs.Text.Reader

/-!
# TypeScript types read back

A type of TypeScript is read from its text: the brackets of an array bind tighter than the bar of a
union, parentheses group, and a name may have dots and arguments. The type expression of a datatype
is read as the type that the datatype translates to, part by part.

Every reader has a budget for the depth of what it reads; the length of the text is always enough.

## Main definitions

* `TsType`: a type of TypeScript
* `TsType.type?`, `TsType.read?`: what is read as a type
* `Datatype.tsForm`: the type that a datatype translates to

## Main results

* `Datatype.isTypeText_ts`: type expressions are read as the translation
* `Datatype.read?_ts`, `Datatype.read?_interface`: whole texts
-/

namespace Specloom

open Text

/-- A type of TypeScript. -/
inductive TsType where
  /-- A name, which may be dotted, with its arguments. -/
  | name (s : String) (args : List TsType)
  | array (element : TsType)
  | union (members : List TsType)
  | object (fields : List (String × TsType))

namespace TsType

/-! ## Readers -/

variable (type : Reader TsType)

/-- Reads a field: a key, a colon and a type. -/
def field? : Reader (String × TsType) := fun cs => do
  let (key, rest) ← ident? cs
  match skipSpaces rest with
  | ':' :: rest => do
    let (t, rest) ← type (skipSpaces rest)
    return ((key, t), rest)
  | _ => none

/-- Reads arguments, at least one, up to the closing bracket. -/
def args? : Nat → Reader (List TsType)
  | 0, _ => none
  | budget + 1, cs => do
    let (t, rest) ← type (skipSpaces cs)
    match skipSpaces rest with
    | '>' :: rest => return ([t], rest)
    | ',' :: rest =>
      let (ts, rest) ← args? budget rest
      return (t :: ts, rest)
    | _ => none

/-- Reads what follows a name: arguments, if there are any. -/
def named? (s : String) : Reader TsType
  | '<' :: rest => do
    let (args, rest) ← args? type rest.length rest
    return (.name s args, rest)
  | rest => return (.name s [], rest)

/-- Reads a type without operators: one in parentheses, an object, or a name. -/
def primary? : Reader TsType
  | '(' :: rest => do
    let (t, rest) ← type (skipSpaces rest)
    match skipSpaces rest with
    | ')' :: rest => return (t, rest)
    | _ => none
  | '{' :: rest => do
    let (fields, rest) ← items? (field? type) rest.length rest
    return (.object fields, rest)
  | cs => do
    let (s, rest) ← dotted? cs
    named? type s rest

/-- The array that the brackets after a type make of it, and what follows them. -/
def arrays (t : TsType) : List Char → TsType × List Char
  | '[' :: ']' :: rest => arrays (.array t) rest
  | rest => (t, rest)

/-- Reads a member of a union: a type without operators, with brackets after it. -/
def member? : Reader TsType := fun cs => do
  let (t, rest) ← primary? type cs
  return arrays t rest

/-- Reads the members of a union. -/
def members? : Nat → Reader (List TsType)
  | 0, _ => none
  | budget + 1, cs => do
    let (t, rest) ← member? type cs
    match skipSpaces rest with
    | '|' :: rest =>
      let (ts, rest) ← members? budget (skipSpaces rest)
      return (t :: ts, rest)
    | _ => return ([t], rest)

/-- The union of some types, which is the type itself if it is only one. -/
def ofMembers : List TsType → TsType
  | [t] => t
  | ts => .union ts

/-- Reads a type. -/
def type? : Nat → Reader TsType
  | 0, _ => none
  | depth + 1, cs => do
    let (ts, rest) ← members? (type? depth) cs.length cs
    return (ofMembers ts, rest)

/-- Reads a text that is a type. -/
def read? (text : String) : Option TsType :=
  match type? (text.toList.length + 1) text.toList with
  | some (t, []) => some t
  | _ => none

example : read? "a.B | null[]" = some (.union [.name "a.B" [], .array (.name "null" [])]) := by rfl
example : read? "( a.B | null )[] | Record<string, never>" =
    some (.union [.array (.union [.name "a.B" [], .name "null" []]),
      .name "Record" [.name "string" [], .name "never" []]]) := by rfl

/-! ## Translation -/

/-- The type of objects with some fields; without fields it has no other values. -/
def objectOf : List (String × TsType) → TsType
  | [] => .name "Record" [.name "string" [], .name "never" []]
  | fields => .object fields

/-- A type, with `null` if nullable. -/
def orNull (nullable : Bool) (t : TsType) : TsType :=
  if nullable then .union [t, .name "null" []] else t

end TsType

namespace Datatype

open TsType

mutual

/-- The type that a datatype translates to. -/
def tsForm : Datatype → TsType
  | .scalar s n => orNull n (.name s.ts [])
  | .object fields n => orNull n (objectOf (tsFieldForms fields))
  | .array element n => orNull n (.array (tsElementForm element))
  | .reference ref n => orNull n (.name ref.qualified [])

/-- The fields of an object, translated. -/
def tsFieldForms : List (String × Datatype) → List (String × TsType)
  | [] => []
  | (key, t) :: rest => (key, t.tsForm) :: tsFieldForms rest

/-- The element of an array, translated; without one it is unknown. -/
def tsElementForm : Option Datatype → TsType
  | none => .name "unknown" []
  | some t => t.tsForm

end

end Datatype

namespace TsType

/-! ## What may follow -/

/-- What may follow a type: nothing, what ends an item, or a mark that ends types. -/
inductive EndsType : List Char → Prop where
  | nil : EndsType []
  | item {rest : List Char} (h : EndsItem rest) : EndsType rest
  | mark {c : Char} (h : c ∈ [')', ',', '>']) (rest : List Char) : EndsType (c :: rest)

/-- What may follow a type with brackets: no character of names, and no arguments. -/
def EndsMember (rest : List Char) : Prop :=
  EndsName rest ∧ rest.head? ≠ some '<'

theorem endsMember_cons {c : Char} (h : isDottedPart c = false ∧ c ≠ '<') (rest : List Char) :
    EndsMember (c :: rest) :=
  ⟨endsName_cons h.1 rest, by simpa using h.2⟩

theorem EndsType.endsMember {rest : List Char} (h : EndsType rest) : EndsMember rest := by
  rcases h with _ | (_ | _ | _) | ⟨hc, rest⟩
  case nil => exact ⟨endsName_nil, by simp⟩
  case mark c =>
    simp only [List.mem_cons, List.not_mem_nil, or_false] at hc
    rcases hc with rfl | rfl | rfl <;> exact endsMember_cons (by decide) rest
  all_goals exact endsMember_cons (by decide) _

/-- Neither brackets nor a bar continue the type. -/
theorem EndsType.arrays_eq {rest : List Char} (h : EndsType rest) (t : TsType) :
    arrays t rest = (t, rest) ∧ ∀ rest', skipSpaces rest ≠ '|' :: rest' := by
  rcases h with _ | (_ | _ | _) | ⟨hc, rest⟩
  case mark c =>
    simp only [List.mem_cons, List.not_mem_nil, or_false] at hc
    rcases hc with rfl | rfl | rfl <;> simp [arrays, skipSpaces]
  all_goals simp [arrays, skipSpaces]

/-! ## Types and members -/

/-- Before what may follow, a text is read as a type. -/
abbrev IsType (depth : Nat) (text : String) (t : TsType) : Prop :=
  Reads (type? depth) EndsType text t

/-- A text is read as a type without operators, to which brackets may be added. -/
def IsMember (depth : Nat) (text : String) (t : TsType) : Prop :=
  ∀ rest, EndsMember rest → member? (type? depth) (text.toList ++ rest) = some (arrays t rest)

variable {depth : Nat} {text : String} {t : TsType}

/-- What is read as a member does not begin with a blank. -/
theorem skipSpaces_of_member? {type : Reader TsType} {cs : List Char} {r : TsType × List Char}
    (h : member? type cs = some r) : skipSpaces cs = cs := by
  cases cs with
  | nil => rfl
  | cons c cs =>
    by_cases hblank : c = ' ' ∨ c = '\t'
    · -- a blank begins neither a group nor a name
      have hnone : member? type (c :: cs) = none := by
        rcases hblank with rfl | rfl <;> rfl
      rw [hnone] at h
      cases h
    · simp [skipSpaces, hblank]

theorem type?_succ (depth : Nat) (cs : List Char) :
    type? (depth + 1) cs =
      (members? (type? depth) cs.length cs).map fun (ts, rest) => (ofMembers ts, rest) := by
  rw [type?]
  cases members? (type? depth) cs.length cs <;> rfl

/-- A member that nothing continues is a type. -/
theorem IsMember.isType (h : IsMember depth text t) : IsType (depth + 1) text t := by
  intro rest hrest
  obtain ⟨harrays, hbar⟩ := hrest.arrays_eq t
  have hmember := h rest hrest.endsMember
  rw [harrays] at hmember
  have hlength : text.toList ++ rest ≠ [] := by
    intro hnil
    rw [hnil] at hmember
    cases hmember
  obtain ⟨budget, hbudget⟩ := Nat.exists_eq_succ_of_ne_zero
    (Nat.ne_of_gt (List.length_pos_iff.mpr hlength))
  rw [type?_succ, hbudget, members?, hmember]
  simp only [Option.bind_eq_bind, Option.bind_some]
  rfl

/-- A name is read as such. -/
theorem primary?_name (type : Reader TsType) {s : String} (h : isDotted s.toList = true)
    {rest : List Char} (hrest : EndsName rest) :
    primary? type (s.toList ++ rest) = named? type s rest := by
  unfold primary?
  -- the text begins neither with a parenthesis nor with a brace
  split
  · exact absurd ‹_› (append_ne_cons_of_isDotted h (by decide) _ _)
  · exact absurd ‹_› (append_ne_cons_of_isDotted h (by decide) _ _)
  · rw [reads_dotted h rest hrest]
    rfl

theorem isMember_name (depth : Nat) {s : String} (h : isDotted s.toList = true) :
    IsMember depth s (.name s []) := by
  intro rest hrest
  have hangle : ∀ rest', rest ≠ '<' :: rest' := by
    rintro rest' rfl
    exact hrest.2 rfl
  have hprimary : primary? (type? depth) (s.toList ++ rest) = some (.name s [], rest) := by
    rw [primary?_name _ h hrest.1]
    unfold named?
    split
    · exact absurd rfl (hangle _)
    · rfl
  rw [member?, hprimary]
  rfl

/-- A member, with `null` after a bar. -/
theorem IsMember.orNull (h : IsMember depth text t) :
    IsType (depth + 1) (text ++ " | null") (.union [t, .name "null" []]) := by
  intro rest hrest
  have hnull := isMember_name depth (s := "null") (by decide) rest hrest.endsMember
  obtain ⟨harrays, hbar⟩ := hrest.arrays_eq (.name "null" [])
  rw [harrays] at hnull
  have hmember : member? (type? depth) (text.toList ++ (" | null".toList ++ rest)) =
      some (t, " | null".toList ++ rest) :=
    h (" | null".toList ++ rest) (endsMember_cons (by decide) _)
  have hlength : ∃ budget, (text.toList ++ (" | null".toList ++ rest)).length = budget + 2 :=
    Nat.exists_eq_add_of_le' (by simp; omega)
  obtain ⟨budget, hbudget⟩ := hlength
  rw [type?_succ, String.toList_append, List.append_assoc, hbudget, members?, hmember]
  simp only [Option.bind_eq_bind, Option.bind_some]
  have hlast : members? (type? depth) (budget + 1) ("null".toList ++ rest) =
      some ([.name "null" []], rest) := by
    rw [members?, hnull]
    simp only [Option.bind_eq_bind, Option.bind_some]
    rfl
  show ((members? (type? depth) (budget + 1) ("null".toList ++ rest)).bind _).map _ = _
  rw [hlast]
  rfl

/-- Brackets make an array of a member. -/
theorem IsMember.array (h : IsMember depth text t) : IsMember depth (text ++ "[]") (.array t) := by
  intro rest hrest
  have hbrackets : EndsMember ("[]".toList ++ rest) := endsMember_cons (by decide) _
  rw [String.toList_append, List.append_assoc, h _ hbrackets]
  rfl

/-- What is read as a type does not begin with a blank. -/
theorem skipSpaces_of_type? {cs : List Char} {r : TsType × List Char}
    (h : type? depth cs = some r) : skipSpaces cs = cs := by
  cases depth with
  | zero => cases h
  | succ depth =>
    rw [type?_succ] at h
    obtain ⟨⟨ts, rest⟩, hmembers, -⟩ := Option.map_eq_some_iff.mp h
    cases hlength : cs.length with
    | zero =>
      rw [hlength] at hmembers
      cases hmembers
    | succ budget =>
      rw [hlength, members?] at hmembers
      obtain ⟨⟨t, rest⟩, hmember, -⟩ := Option.bind_eq_some_iff.mp hmembers
      exact skipSpaces_of_member? hmember

/-- A type in parentheses is a member. -/
theorem IsType.parens (h : IsType depth text t) : IsMember depth ("(" ++ text ++ ")") t := by
  intro rest hrest
  have hread := h (')' :: rest) (.mark (by simp) rest)
  have hprimary : primary? (type? depth) ('(' :: (text.toList ++ ')' :: rest)) =
      some (t, rest) := by
    rw [primary?, skipSpaces_of_type? hread, hread]
    rfl
  have htext : ("(" ++ text ++ ")").toList ++ rest = '(' :: (text.toList ++ ')' :: rest) := by
    simp
  rw [htext, member?, hprimary]
  rfl

/-- The type of objects without fields. -/
theorem isMember_objectOf_nil (depth : Nat) :
    IsMember (depth + 1) "Record<string, never>" (objectOf []) := by
  intro rest hrest
  have hstring := (isMember_name depth (s := "string") (by decide)).isType
    (',' :: (" never>".toList ++ rest)) (.mark (by simp) _)
  have hnever := (isMember_name depth (s := "never") (by decide)).isType ('>' :: rest)
    (.mark (by simp) _)
  have hlast (budget : Nat) : args? (type? (depth + 1)) (budget + 1) (" never>".toList ++ rest) =
      some ([.name "never" []], rest) := by
    have hskip : skipSpaces (" never>".toList ++ rest) = "never".toList ++ '>' :: rest := rfl
    rw [args?, hskip, hnever]
    rfl
  have hargs (budget : Nat) :
      args? (type? (depth + 1)) (budget + 2) ("string, never>".toList ++ rest) =
        some ([.name "string" [], .name "never" []], rest) := by
    have hskip : skipSpaces ("string, never>".toList ++ rest) =
        "string".toList ++ ',' :: (" never>".toList ++ rest) := rfl
    rw [args?, hskip, hstring]
    simp only [Option.bind_eq_bind, Option.bind_some]
    show (args? (type? (depth + 1)) (budget + 1) (" never>".toList ++ rest)).bind _ = _
    rw [hlast]
    rfl
  have hprimary : primary? (type? (depth + 1))
      ("Record".toList ++ '<' :: ("string, never>".toList ++ rest)) =
        some (objectOf [], rest) := by
    rw [primary?_name (s := "Record") _ (by decide) (endsName_cons (by decide) _)]
    obtain ⟨budget, hbudget⟩ : ∃ budget, ("string, never>".toList ++ rest).length = budget + 2 :=
      Nat.exists_eq_add_of_le' (by simp)
    rw [named?, hbudget, hargs]
    rfl
  show member? (type? (depth + 1))
    ("Record".toList ++ '<' :: ("string, never>".toList ++ rest)) = _
  rw [member?, hprimary]
  rfl

/-- Fields in braces are an object. -/
theorem isMember_braces {body : String} {fields : List (String × TsType)}
    (h : IsBody (field? (type? depth)) body fields) :
    IsMember depth ("\x7b" ++ body) (.object fields) := by
  intro rest hrest
  have hprimary : primary? (type? depth) ('{' :: (body.toList ++ rest)) =
      some (.object fields, rest) := by
    rw [primary?, h]
    rfl
  have htext : ("\x7b" ++ body).toList ++ rest = '{' :: (body.toList ++ rest) := by
    simp
  rw [htext, member?, hprimary]
  rfl

/-- A key with a type after a colon. -/
theorem isItem_field {key : String} (hkey : Path.isIdent key.toList = true)
    (h : IsType depth text t) : IsItem (field? (type? depth)) (key ++ ": " ++ text) (key, t) where
  head := by
    rw [String.append_assoc]
    exact exists_head?_of_isIdent hkey _
  reads := by
    intro rest hrest
    have hident := @reads_ident key hkey (':' :: ' ' :: (text.toList ++ rest)) (by simp; decide)
    have hread := h rest (.item hrest)
    have htext : (key ++ ": " ++ text).toList ++ rest =
        key.toList ++ ':' :: ' ' :: (text.toList ++ rest) := by
      simp
    rw [htext, field?, hident]
    show (type? depth (skipSpaces (text.toList ++ rest))).bind _ = _
    rw [skipSpaces_of_type? hread, hread]
    rfl

/-! ## Type expressions of datatypes -/

/-- A text is read as a type at any depth that it may need, and as a member unless it is
nullable. -/
structure IsTypeText (nullable : Bool) (text : String) (t : TsType) : Prop where
  type : ∀ depth, text.toList.length < depth → IsType depth text t
  member : nullable = false → ∀ depth, text.toList.length ≤ depth → IsMember depth text t

/-- It is enough to read what stands before the bar. -/
theorem isTypeText_tsUnion (nullable : Bool)
    (h : ∀ depth, text.toList.length ≤ depth → IsMember depth text t) :
    IsTypeText nullable (tsUnion nullable text) (orNull nullable t) where
  type depth hdepth := by
    obtain ⟨depth, rfl⟩ := Nat.exists_eq_succ_of_ne_zero (Nat.ne_zero_of_lt hdepth)
    cases nullable with
    | false => exact (h depth (Nat.le_of_lt_succ hdepth)).isType
    | true =>
      refine (h depth ?_).orNull
      rw [tsUnion, if_pos rfl, String.toList_append, List.length_append] at hdepth
      omega
  member hnullable := by
    rw [hnullable]
    exact h

end TsType

namespace Datatype

open TsType

theorem isMember_tsElement {t : Datatype} (h : IsTypeText t.nullable t.ts t.tsForm) {depth : Nat}
    (hdepth : (tsElement (some t)).toList.length ≤ depth) :
    IsMember depth (tsElement (some t)) t.tsForm := by
  rw [tsElement] at hdepth ⊢
  cases hn : t.nullable with
  | false =>
    rw [hn] at hdepth
    exact h.member hn depth hdepth
  | true =>
    rw [hn, if_pos rfl, String.toList_append, String.toList_append, List.length_append,
      List.length_append] at hdepth
    have hparen : ")".toList.length = 1 := rfl
    exact (h.type depth (by omega)).parens

theorem tsFields_eq (fields : List (String × Datatype)) :
    tsFields fields = fields.map fun field => field.1 ++ ": " ++ field.2.ts := by
  induction fields with
  | nil => rfl
  | cons field fields ih => rw [tsFields, ih, List.map_cons]

theorem tsFieldForms_eq (fields : List (String × Datatype)) :
    tsFieldForms fields = fields.map fun field => (field.1, field.2.tsForm) := by
  induction fields with
  | nil => rfl
  | cons field fields ih => rw [tsFieldForms, ih, List.map_cons]

theorem forall₂_tsFields {fields : List (String × Datatype)} {depth : Nat}
    (hkey : ∀ field ∈ fields, Path.isIdent field.1.toList = true)
    (h : ∀ field ∈ fields, IsType depth field.2.ts field.2.tsForm) :
    List.Forall₂ (IsItem (field? (type? depth))) (tsFields fields) (tsFieldForms fields) := by
  rw [tsFields_eq, tsFieldForms_eq, List.forall₂_map_left_iff, List.forall₂_map_right_iff,
    List.forall₂_same]
  exact fun field hfield => isItem_field (hkey field hfield) (h field hfield)

/-- The text of an object with fields. -/
theorem tsObject_eq (fields : List (String × Datatype)) :
    "\x7b " ++ "; ".intercalate (tsFields fields) ++ " \x7d" =
      "\x7b" ++ oneLine (tsFields fields) := by
  simp [← String.toList_inj, oneLine]

theorem exists_mem_tsFields {fields : List (String × Datatype)} {field : String × Datatype}
    (h : field ∈ fields) :
    ∃ text ∈ tsFields fields, field.2.ts.toList.length ≤ text.toList.length := by
  refine ⟨field.1 ++ ": " ++ field.2.ts, ?_, ?_⟩
  · rw [tsFields_eq]
    exact List.mem_map_of_mem h
  · simp only [String.toList_append, List.length_append]
    omega

/-- **Type expressions are read as the translation.** -/
theorem isTypeText_ts {t : Datatype} (h : t.HasIdentifiers) :
    IsTypeText t.nullable t.ts t.tsForm := by
  induction t using Datatype.induction with
  | scalar s n =>
    refine isTypeText_tsUnion n fun depth _ => isMember_name depth ?_
    cases s <;> decide
  | object fields n ih =>
    refine isTypeText_tsUnion n fun depth hdepth => ?_
    rcases eq_or_ne fields [] with rfl | hne
    · obtain ⟨depth, rfl⟩ := Nat.exists_eq_succ_of_ne_zero (Nat.ne_zero_of_lt hdepth)
      exact isMember_objectOf_nil depth
    · have hform : objectOf (tsFieldForms fields) = .object (tsFieldForms fields) := by
        cases fields with
        | nil => exact absurd rfl hne
        | cons field fields => rfl
      rw [if_neg (by simpa using hne), tsObject_eq] at hdepth ⊢
      rw [hform]
      have htypes (field) (hfield : field ∈ fields) : IsType depth field.2.ts field.2.tsForm := by
        obtain ⟨text, htext, hlength⟩ := exists_mem_tsFields hfield
        have hline := length_lt_oneLine htext
        rw [String.toList_append, List.length_append] at hdepth
        exact (ih field hfield (h.field hfield)).type depth (by omega)
      exact isMember_braces (isBody_oneLine (forall₂_tsFields (h.key fields n .self) htypes)
        (by simpa [tsFields_eq] using hne))
  | array element n ih =>
    refine isTypeText_tsUnion n fun depth hdepth => IsMember.array ?_
    rw [String.toList_append, List.length_append] at hdepth
    cases element with
    | none => exact isMember_name depth (by decide)
    | some t =>
      exact isMember_tsElement (ih t rfl h.element) (Nat.le_trans (Nat.le_add_right _ _) hdepth)
  | reference ref n =>
    refine isTypeText_tsUnion n fun depth _ => isMember_name depth ?_
    exact List.all_eq_true.mpr (h.reference ref (.reference n))

/-- The type expression of a datatype, as a whole. -/
theorem read?_ts {t : Datatype} (h : t.HasIdentifiers) : read? t.ts = some t.tsForm := by
  have hread := (isTypeText_ts h).type (t.ts.toList.length + 1) (Nat.lt_succ_self _) [] .nil
  rw [List.append_nil] at hread
  rw [read?, hread]

/-- The interface of an object with fields. -/
theorem tsDeclaration_object (name : String) {fields : List (String × Datatype)}
    (hne : fields ≠ []) : tsDeclaration name (.object fields false) =
      "export interface " ++ name ++ " " ++ ("\x7b" ++ lines ";\n" (tsFields fields)) := by
  have hdeclaration : tsDeclaration name (.object fields false) =
      "export interface " ++ name ++ " \x7b\n" ++
        "".intercalate ((tsFields fields).map fun text => "\t" ++ text ++ ";\n") ++ "\x7d" := by
    cases fields with
    | nil => exact absurd rfl hne
    | cons field fields =>
      unfold tsDeclaration
      rfl
  have hbrace : " \x7b\n" = " " ++ ("\x7b" ++ "\n") := by decide +kernel
  rw [hdeclaration, intercalate_empty, hbrace, lines]
  simp only [String.append_assoc]

/-- **An interface** has the fields of the object, in order and with their translations. -/
theorem read?_interface {fields : List (String × Datatype)}
    (h : (object fields false).HasIdentifiers) (hne : fields ≠ []) (name : String) :
    ∃ body,
      tsDeclaration name (.object fields false) = "export interface " ++ name ++ " " ++ body ∧
      read? body = some (.object (fields.map fun field => (field.1, field.2.tsForm))) := by
  refine ⟨_, tsDeclaration_object name hne, ?_⟩
  have htypes (field) (hfield : field ∈ fields) :
      IsType ("\x7b" ++ lines ";\n" (tsFields fields)).toList.length
        field.2.ts field.2.tsForm := by
    obtain ⟨text, htext, hlength⟩ := exists_mem_tsFields hfield
    have hlines := length_lt_lines htext ";\n"
    refine (isTypeText_ts (h.field hfield)).type _ ?_
    rw [String.toList_append, List.length_append]
    omega
  have hbody := isBody_lines (forall₂_tsFields (h.key fields false .self) htypes)
    (show ";\n".toList = [';', '\n'] from rfl) (Or.inl rfl) (by simp)
  have hread := (isMember_braces hbody).isType [] .nil
  rw [List.append_nil] at hread
  rw [read?, hread, tsFieldForms_eq]

end Datatype

end Specloom
