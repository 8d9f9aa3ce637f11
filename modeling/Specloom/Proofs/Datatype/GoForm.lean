import Specloom.Datatype.GoType
import Specloom.Proofs.Datatype.Within
import Specloom.Proofs.Name
import Specloom.Proofs.Text.Reader
import Specloom.Text.Quoted

/-!
# Go types read back

A type of Go is read from its text: a star makes a pointer and brackets make a slice of what
follows, and a struct lists its fields with their types and tags. The type expression of a datatype
is read as the type that the datatype translates to.

Of the reserved words only `struct` and `interface` begin a type here. Identifiers with dots between
them are one name, and which package or type they denote is not looked up.

## Main definitions

* `GoType`: a type of Go
* `GoType.type?`, `GoType.read?`: what is read as a type
* `Datatype.goForm`: the type that a datatype translates to

## Main results

* `Datatype.isType_go`: type expressions are read as the translation
* `Datatype.read?_go`, `Datatype.read?_struct`: whole texts
-/

namespace Specloom

open Text

/-- A field of a struct: its name, its type, and the JSON key in its tag if it has one. -/
structure GoField (T : Type) where
  name : String
  type : T
  key : Option String

/-- A type of Go: of the interfaces only the one without methods. -/
inductive GoType where
  /-- A name, which may be dotted. -/
  | name (s : String)
  | pointer (t : GoType)
  | slice (element : GoType)
  | struct (fields : List (GoField GoType))
  | interface

namespace GoType

/-! ## Readers -/

/-- The key in a JSON tag. -/
def jsonKey? : List Char → Option String
  | 'j' :: 's' :: 'o' :: 'n' :: ':' :: quoted =>
    match QuoteStyle.double.scan? quoted with
    | some (key, []) => some (String.ofList key)
    | _ => none
  | _ => none

/-- Reads a tag in backquotes, if there is one. -/
def tag? : Reader (Option String)
  | '`' :: rest => do
    let (tag, rest) ← splitFirst? '`' rest
    let key ← jsonKey? tag
    return (some key, rest)
  | rest => return (none, rest)

variable (type : Reader GoType)

/-- Reads a field: a name, a type and perhaps a tag. -/
def field? : Reader (GoField GoType) := fun cs => do
  let (s, rest) ← ident? cs
  let (t, rest) ← type rest
  let (key, rest) ← tag? (skipSpaces rest)
  return (⟨s, t, key⟩, rest)

/-- Reads the fields of a struct in braces. -/
def struct? : Reader GoType := fun cs =>
  match skipSpaces cs with
  | '{' :: rest => do
    let (fields, rest) ← items? (field? type) rest.length rest
    return (.struct fields, rest)
  | _ => none

/-- Reads the braces of an interface without methods. -/
def interface? : Reader GoType := fun cs =>
  match skipSpaces cs with
  | '{' :: rest =>
    match skipLines rest with
    | '}' :: rest => some (.interface, rest)
    | _ => none
  | _ => none

/-- Reads a name, or what the keyword that stands in its place begins. -/
def named? : Reader GoType := fun cs => do
  let (s, rest) ← dotted? cs
  if s = "struct" then struct? type rest
  else if s = "interface" then interface? rest
  else return (.name s, rest)

/-- Reads a type. -/
def type? : Nat → Reader GoType
  | 0, _ => none
  | depth + 1, cs =>
    match skipSpaces cs with
    | '*' :: rest => do
      let (t, rest) ← type? depth rest
      return (.pointer t, rest)
    | '[' :: ']' :: rest => do
      let (t, rest) ← type? depth rest
      return (.slice t, rest)
    | '(' :: rest => do
      let (t, rest) ← type? depth rest
      match skipSpaces rest with
      | ')' :: rest => return (t, rest)
      | _ => none
    | cs => named? (type? depth) cs

/-- Reads a text that is a type. -/
def read? (text : String) : Option GoType :=
  match type? (text.toList.length + 1) text.toList with
  | some (t, []) => some t
  | _ => none

example : read? "[]*struct \x7b Id a.B `json:\"id\"`; Any interface\x7b\x7d \x7d" =
    some (.slice (.pointer (.struct
      [⟨"Id", .name "a.B", some "id"⟩, ⟨"Any", .interface, none⟩]))) := by rfl

/-! ## Translation -/

/-- A type, as a pointer if nullable. -/
def orPointer (nullable : Bool) (t : GoType) : GoType :=
  if nullable then .pointer t else t

end GoType

/-- The type that a scalar translates to. -/
def Scalar.goForm : Scalar → GoType
  | .binary => .slice (.name "byte")
  | s => .name s.go

namespace Datatype

open GoType

mutual

/-- The type that a datatype translates to. -/
def goForm : Datatype → GoType
  | .scalar s n => orPointer n s.goForm
  | .object fields n => orPointer n (.struct (goFieldForms fields))
  | .array element n => orPointer n (.slice (goElementForm element))
  | .reference ref n => orPointer n (.name ref.qualified)

/-- The fields of an object, translated: a field has the key with a capital first letter as its
name, and the key as it is in its tag. -/
def goFieldForms : List (String × Datatype) → List (GoField GoType)
  | [] => []
  | (key, t) :: rest => ⟨Name.upperFirst key, t.goForm, some key⟩ :: goFieldForms rest

/-- The element of an array, translated; without one, anything goes. -/
def goElementForm : Option Datatype → GoType
  | none => .interface
  | some t => t.goForm

end

end Datatype

namespace GoType

/-! ## Types -/

/-- Where no name goes on, a text is read as a type. -/
abbrev IsType (depth : Nat) (text : String) (t : GoType) : Prop :=
  Reads (type? depth) EndsName text t

variable {depth : Nat} {text : String} {t : GoType}

/-- A name or a keyword is read as such. -/
theorem type?_named {s : String} (h : isDotted s.toList = true) (depth : Nat) {rest : List Char}
    (hrest : EndsName rest) : type? (depth + 1) (s.toList ++ rest) =
      if s = "struct" then struct? (type? depth) rest
      else if s = "interface" then interface? rest
      else some (.name s, rest) := by
  have hskip : skipSpaces (s.toList ++ rest) = s.toList ++ rest := by
    obtain ⟨c, cs, hcs, hpart⟩ := exists_cons_of_isDotted h
    have hblank : ¬ (c = ' ' ∨ c = '\t') := by
      rintro (rfl | rfl) <;> cases hpart
    simp [hcs, skipSpaces, hblank]
  rw [type?, hskip]
  -- the text begins with none of the marks of other types
  split
  · exact absurd ‹_› (append_ne_cons_of_isDotted h (by decide) _ _)
  · exact absurd ‹_› (append_ne_cons_of_isDotted h (by decide) _ _)
  · exact absurd ‹_› (append_ne_cons_of_isDotted h (by decide) _ _)
  · rw [named?, reads_dotted h rest hrest]
    rfl

theorem isType_name {s : String} (h : isDotted s.toList = true) (hstruct : s ≠ "struct")
    (hinterface : s ≠ "interface") (hdepth : s.toList.length ≤ depth) :
    IsType depth s (.name s) := by
  intro rest hrest
  obtain ⟨c, cs, hcs, -⟩ := exists_cons_of_isDotted h
  rw [hcs] at hdepth
  obtain ⟨depth, rfl⟩ := Nat.exists_eq_succ_of_ne_zero (Nat.ne_zero_of_lt hdepth)
  rw [type?_named h depth hrest, if_neg hstruct, if_neg hinterface]

theorem IsType.pointer (h : IsType depth text t) :
    IsType (depth + 1) ("*" ++ text) (.pointer t) := by
  intro rest hrest
  have htext : ("*" ++ text).toList ++ rest = '*' :: (text.toList ++ rest) := by
    simp
  rw [htext, type?]
  show (type? depth (text.toList ++ rest)).bind _ = _
  rw [h rest hrest]
  rfl

theorem IsType.slice (h : IsType depth text t) : IsType (depth + 1) ("[]" ++ text) (.slice t) := by
  intro rest hrest
  have htext : ("[]" ++ text).toList ++ rest = '[' :: ']' :: (text.toList ++ rest) := by
    simp
  rw [htext, type?]
  show (type? depth (text.toList ++ rest)).bind _ = _
  rw [h rest hrest]
  rfl

/-- A type, with a star in front if nullable. -/
theorem isType_goPointer {nullable : Bool}
    (h : ∀ depth, text.toList.length ≤ depth → IsType depth text t)
    (hdepth : (goPointer nullable text).toList.length ≤ depth) :
    IsType depth (goPointer nullable text) (orPointer nullable t) := by
  cases nullable with
  | false => exact h depth hdepth
  | true =>
    rw [goPointer, if_pos rfl, String.toList_append, List.length_append] at hdepth
    have hstar : "*".toList.length = 1 := rfl
    obtain ⟨depth, rfl⟩ := Nat.exists_eq_succ_of_ne_zero (n := depth) (by omega)
    exact (h depth (by omega)).pointer

theorem isType_interface (depth : Nat) : IsType (depth + 1) "interface\x7b\x7d" .interface := by
  intro rest hrest
  have hkeyword : isDotted "interface".toList = true := by decide
  have hbraces : EndsName ("\x7b\x7d".toList ++ rest) := endsName_cons (by decide) _
  exact type?_named hkeyword depth hbraces

/-- Fields in braces are a struct. -/
theorem isType_braces {body : String} {fields : List (GoField GoType)}
    (h : IsBody (field? (type? depth)) body fields) :
    IsType (depth + 1) ("struct \x7b" ++ body) (.struct fields) := by
  intro rest hrest
  have hkeyword : isDotted "struct".toList = true := by decide
  have hspace : EndsName (" \x7b".toList ++ (body.toList ++ rest)) := endsName_cons (by decide) _
  have htext : ("struct \x7b" ++ body).toList ++ rest =
      "struct".toList ++ (" \x7b".toList ++ (body.toList ++ rest)) := by
    simp
  rw [htext, type?_named hkeyword depth hspace, if_pos rfl]
  show (items? (field? (type? depth)) (body.toList ++ rest).length (body.toList ++ rest)).bind _ = _
  rw [h]
  rfl

theorem isType_struct_nil (depth : Nat) : IsType (depth + 1) "struct\x7b\x7d" (.struct []) := by
  intro rest hrest
  have hkeyword : isDotted "struct".toList = true := by decide
  have hbraces : EndsName ("\x7b\x7d".toList ++ rest) := endsName_cons (by decide) _
  exact type?_named hkeyword depth hbraces

/-! ## Fields -/

/-- A literal in which nothing is escaped. -/
theorem scanBody?_ident {cs : List Char} (h : ∀ c ∈ cs, Path.isIdentPart c = true) :
    QuoteStyle.double.scanBody? (cs ++ ['"']) = some (cs, []) := by
  induction cs with
  | nil => rfl
  | cons c cs ih =>
    rw [List.forall_mem_cons] at h
    have hquote : c ≠ QuoteStyle.double.quote := by
      rintro rfl
      cases h.1
    have hplain : ¬ (c = '\\' ∨ c = '\n' ∨ c = '\r') := by
      rintro (rfl | rfl | rfl) <;> cases h.1
    rw [List.cons_append, QuoteStyle.scanBody?, if_neg hquote, if_neg hplain, ih h.2]
    · rfl
    · exact fun _ _ hc => absurd (Or.inl hc) hplain

/-- The tag of a field. -/
theorem tag?_json {key : String} (h : Path.isIdent key.toList = true) (rest : List Char) :
    tag? ('`' :: ("json:\"".toList ++ key.toList ++ '"' :: '`' :: rest)) =
      some (some key, rest) := by
  have hparts := Path.isIdentPart_of_isIdent h
  have hcut : splitFirst? '`' ("json:\"".toList ++ key.toList ++ '"' :: '`' :: rest) =
      some ("json:\"".toList ++ key.toList ++ ['"'], rest) := by
    refine splitFirst?_eq_some_iff.mpr ⟨by simp, ?_⟩
    have hkey : '`' ∉ key.toList := Path.not_mem_of_isIdent (by decide) h
    simpa using hkey
  have hjson : jsonKey? ("json:\"".toList ++ key.toList ++ ['"']) = some key := by
    have hscan : QuoteStyle.double.scan? ('"' :: (key.toList ++ ['"'])) = some (key.toList, []) :=
      scanBody?_ident hparts
    show (match QuoteStyle.double.scan? ('"' :: (key.toList ++ ['"'])) with
      | some (key, []) => some (String.ofList key)
      | _ => none) = some key
    rw [hscan]
    simp
  rw [tag?, hcut]
  show (jsonKey? _).bind _ = _
  rw [hjson]
  rfl

theorem type?_space (depth : Nat) (cs : List Char) : type? depth (' ' :: cs) = type? depth cs := by
  cases depth with
  | zero => rfl
  | succ depth =>
    have hskip : skipSpaces (' ' :: cs) = skipSpaces cs := rfl
    rw [type?, type?, hskip]

/-- A name, a type and a tag with the key. -/
theorem isItem_goField {key : String} (hkey : Path.isIdent key.toList = true)
    (h : IsType depth text t) : IsItem (field? (type? depth)) (goField key text)
      ⟨Name.upperFirst key, t, some key⟩ where
  head := by
    rw [goField]
    simp only [String.append_assoc]
    exact exists_head?_of_isIdent (isIdent_upperFirst hkey) _
  reads := by
    intro rest hrest
    -- what stands after the type, and after the name
    let tag := '`' :: ("json:\"".toList ++ key.toList ++ '"' :: '`' :: rest)
    have htext : (goField key text).toList ++ rest =
        (Name.upperFirst key).toList ++ ' ' :: (text.toList ++ ' ' :: tag) := by
      simp [goField, tag]
    have hname := @reads_ident (Name.upperFirst key) (isIdent_upperFirst hkey)
      (' ' :: (text.toList ++ ' ' :: tag)) (by simp; decide)
    have htype : type? depth (' ' :: (text.toList ++ ' ' :: tag)) = some (t, ' ' :: tag) := by
      rw [type?_space, h (' ' :: tag) (endsName_cons (by decide) tag)]
    rw [htext, field?, hname]
    show (type? depth (' ' :: (text.toList ++ ' ' :: tag))).bind _ = _
    rw [htype]
    show (tag? tag).bind _ = _
    rw [tag?_json hkey]
    rfl

end GoType

/-! ## Type expressions of datatypes -/

/-- No reference is written as a keyword, since the names of references begin with capital
letters. -/
theorem TypeKind.qualified_ne {ref : TypeRef} {keyword : String}
    (h : TypeKind.classify? ref.qualified = some (.reference ref))
    (hkeyword : TypeKind.classify? keyword = none) : ref.qualified ≠ keyword := by
  rintro rfl
  rw [h] at hkeyword
  cases hkeyword

namespace Datatype

open GoType

theorem Named.field {fields : List (String × Datatype)} {nullable : Bool}
    (h : (object fields nullable).Named) {field : String × Datatype} (hfield : field ∈ fields) :
    field.2.Named :=
  fun ref href => h ref (.field hfield href)

theorem Named.element {t : Datatype} {nullable : Bool} (h : (array (some t) nullable).Named) :
    t.Named :=
  fun ref href => h ref (.element href)

theorem goFields_eq (fields : List (String × Datatype)) :
    goFields fields = fields.map fun field => goField field.1 field.2.go := by
  induction fields with
  | nil => rfl
  | cons field fields ih => rw [goFields, ih, List.map_cons]

theorem goFieldForms_eq (fields : List (String × Datatype)) :
    goFieldForms fields = fields.map fun field =>
      ⟨Name.upperFirst field.1, field.2.goForm, some field.1⟩ := by
  induction fields with
  | nil => rfl
  | cons field fields ih => rw [goFieldForms, ih, List.map_cons]

theorem forall₂_goFields {fields : List (String × Datatype)} {depth : Nat}
    (hkey : ∀ field ∈ fields, Path.isIdent field.1.toList = true)
    (h : ∀ field ∈ fields, IsType depth field.2.go field.2.goForm) :
    List.Forall₂ (IsItem (field? (type? depth))) (goFields fields) (goFieldForms fields) := by
  rw [goFields_eq, goFieldForms_eq, List.forall₂_map_left_iff, List.forall₂_map_right_iff,
    List.forall₂_same]
  exact fun field hfield => isItem_goField (hkey field hfield) (h field hfield)

/-- The text of a struct with fields. -/
theorem goObject_eq (fields : List (String × Datatype)) :
    "struct \x7b " ++ "; ".intercalate (goFields fields) ++ " \x7d" =
      "struct \x7b" ++ oneLine (goFields fields) := by
  simp [← String.toList_inj, oneLine]

theorem exists_mem_goFields {fields : List (String × Datatype)} {field : String × Datatype}
    (h : field ∈ fields) :
    ∃ text ∈ goFields fields, field.2.go.toList.length ≤ text.toList.length := by
  refine ⟨goField field.1 field.2.go, ?_, ?_⟩
  · rw [goFields_eq]
    exact List.mem_map_of_mem h
  · simp only [goField, String.toList_append, List.length_append]
    omega

theorem isType_scalar (s : Scalar) {depth : Nat} (hdepth : s.go.toList.length ≤ depth) :
    IsType depth s.go s.goForm := by
  cases s with
  | binary =>
    obtain ⟨depth, rfl⟩ : ∃ d, depth = d + 6 := Nat.exists_eq_add_of_le' hdepth
    have hlength : "byte".toList.length ≤ depth + 5 := Nat.le_add_left 4 (depth + 1)
    exact (isType_name (by decide) (by decide) (by decide) hlength).slice
  | _ => exact isType_name (by decide) (by decide) (by decide) hdepth

/-- **Type expressions are read as the translation.** -/
theorem isType_go {t : Datatype} (h : t.HasIdentifiers) (hnamed : t.Named) {depth : Nat}
    (hdepth : t.go.toList.length ≤ depth) : IsType depth t.go t.goForm := by
  induction t using Datatype.induction generalizing depth with
  | scalar s n => exact isType_goPointer (fun depth => isType_scalar s) hdepth
  | object fields n ih =>
    refine isType_goPointer (fun depth hdepth => ?_) hdepth
    rcases eq_or_ne fields [] with rfl | hne
    · obtain ⟨depth, rfl⟩ := Nat.exists_eq_succ_of_ne_zero (Nat.ne_zero_of_lt hdepth)
      exact isType_struct_nil depth
    · rw [if_neg (by simpa using hne), goObject_eq] at hdepth ⊢
      have hkeyword : "struct \x7b".toList.length = 8 := rfl
      rw [String.toList_append, List.length_append] at hdepth
      obtain ⟨depth, rfl⟩ : ∃ d, depth = d + 1 := Nat.exists_eq_add_of_le' (by omega)
      have htypes (field) (hfield : field ∈ fields) : IsType depth field.2.go field.2.goForm := by
        obtain ⟨text, htext, hlength⟩ := exists_mem_goFields hfield
        have hline := length_lt_oneLine htext
        exact ih field hfield (h.field hfield) (hnamed.field hfield) (by omega)
      exact isType_braces (isBody_oneLine (forall₂_goFields (h.key fields n .self) htypes)
        (by simpa [goFields_eq] using hne))
  | array element n ih =>
    refine isType_goPointer (fun depth hdepth => ?_) hdepth
    have hbrackets : "[]".toList.length = 2 := rfl
    rw [String.toList_append, List.length_append] at hdepth
    obtain ⟨depth, rfl⟩ : ∃ d, depth = d + 2 := Nat.exists_eq_add_of_le' (by omega)
    refine IsType.slice ?_
    cases element with
    | none => exact isType_interface depth
    | some t =>
      rw [goElement] at hdepth
      exact ih t rfl h.element hnamed.element (by omega)
  | reference ref n =>
    refine isType_goPointer (fun depth hdepth => ?_) hdepth
    have hkind := hnamed ref (.reference n)
    exact isType_name (List.all_eq_true.mpr (h.reference ref (.reference n)))
      (TypeKind.qualified_ne hkind (by decide +kernel))
      (TypeKind.qualified_ne hkind (by decide +kernel)) hdepth

/-- The type expression of a datatype, as a whole. -/
theorem read?_go {t : Datatype} (h : t.HasIdentifiers) (hnamed : t.Named) :
    read? t.go = some t.goForm := by
  have hread := isType_go h hnamed (Nat.le_succ t.go.toList.length) [] endsName_nil
  rw [List.append_nil] at hread
  rw [read?, hread]

/-- The declaration of an object with fields. -/
theorem goDeclaration_object (name : String) {fields : List (String × Datatype)}
    (hne : fields ≠ []) : goDeclaration name (.object fields false) =
      "type " ++ name ++ " " ++ ("struct \x7b" ++ lines "\n" (goFields fields)) := by
  have hdeclaration : goDeclaration name (.object fields false) =
      "type " ++ name ++ " struct \x7b\n" ++
        "".intercalate ((goFields fields).map fun text => "\t" ++ text ++ "\n") ++ "\x7d" := by
    cases fields with
    | nil => exact absurd rfl hne
    | cons field fields =>
      unfold goDeclaration
      rfl
  have hkeyword : " struct \x7b\n" = " " ++ ("struct \x7b" ++ "\n") := by decide +kernel
  rw [hdeclaration, intercalate_empty, hkeyword, lines]
  simp only [String.append_assoc]

/-- **A declared struct** has the fields of the object, in order and with their translations. -/
theorem read?_struct {fields : List (String × Datatype)}
    (h : (object fields false).HasIdentifiers) (hnamed : (object fields false).Named)
    (hne : fields ≠ []) (name : String) :
    ∃ body, goDeclaration name (.object fields false) = "type " ++ name ++ " " ++ body ∧
      read? body = some (.struct (fields.map fun field =>
        ⟨Name.upperFirst field.1, field.2.goForm, some field.1⟩)) := by
  refine ⟨_, goDeclaration_object name hne, ?_⟩
  have htypes (field) (hfield : field ∈ fields) :
      IsType ("struct \x7b" ++ lines "\n" (goFields fields)).toList.length
        field.2.go field.2.goForm := by
    obtain ⟨text, htext, hlength⟩ := exists_mem_goFields hfield
    have hlines := length_lt_lines htext "\n"
    refine isType_go (h.field hfield) (hnamed.field hfield) ?_
    rw [String.toList_append, List.length_append]
    omega
  have hbody := isBody_lines (forall₂_goFields (h.key fields false .self) htypes)
    (show "\n".toList = ['\n'] from rfl) (Or.inr rfl) (by simp)
  have hread := isType_braces hbody [] endsName_nil
  rw [List.append_nil] at hread
  rw [read?, hread, goFieldForms_eq]

end Datatype

end Specloom
