import Specloom.Text.Split

/-!
# Datatypes

A datatype is a scalar, an object with ordered fields, an array, or a reference to a named type or
enum, possibly of another module. Every datatype may be nullable.

## Main definitions

* `Scalar`, `Primitive`: the built-in types
* `TypeRef`: a reference, written `Name` or `module.Name`
* `TypeKind.classify?`: what a type name denotes
* `Datatype`: a datatype, `Datatype.name` its name
-/

namespace Specloom

open Text

/-- The built-in types without parts. -/
inductive Scalar where
  | string | boolean | integer | date | datetime | binary
deriving DecidableEq, Repr

/-- The built-in types. -/
inductive Primitive where
  | scalar (s : Scalar)
  | object
  | array
deriving DecidableEq, Repr

/-- The name of a built-in type without parts. -/
def Scalar.keyword : Scalar → String
  | .string => "string"
  | .boolean => "boolean"
  | .integer => "integer"
  | .date => "date"
  | .datetime => "datetime"
  | .binary => "binary"

/-- The name of a built-in type. -/
def Primitive.keyword : Primitive → String
  | .scalar s => s.keyword
  | .object => "object"
  | .array => "array"

/-- The built-in types, in the order in which messages list them. -/
def Primitive.all : List Primitive :=
  [.scalar .string, .scalar .boolean, .scalar .integer, .scalar .date, .scalar .datetime,
    .scalar .binary, .object, .array]

/-- The built-in type with a given name. -/
def Primitive.ofKeyword? (name : String) : Option Primitive :=
  Primitive.all.find? (·.keyword == name)

/-- Whether a character is a capital ASCII letter. -/
def isCapital (c : Char) : Bool :=
  'A' ≤ c && c ≤ 'Z'

/-- Whether a text begins with a capital ASCII letter. -/
def startsCapital (cs : List Char) : Bool :=
  (cs.head?.map isCapital).getD false

/-- A reference to a named type or enum; without an owner it is to the own module. -/
structure TypeRef where
  owner : Option String
  name : String
deriving DecidableEq, Repr

/-- Reads `Name` or `module.Name`: the last dot divides, the module is not empty, and the name
begins with a capital letter. -/
def TypeRef.parse? (raw : String) : Option TypeRef :=
  match splitLast? '.' raw.toList with
  | some (owner, name) =>
    if owner ≠ [] ∧ startsCapital name then
      some ⟨some (String.ofList owner), String.ofList name⟩
    else none
  | none => if startsCapital raw.toList then some ⟨none, raw⟩ else none

/-- A reference as it is written. -/
def TypeRef.qualified (ref : TypeRef) : String :=
  match ref.owner with
  | some owner => owner ++ "." ++ ref.name
  | none => ref.name

/-- What a type name denotes. -/
inductive TypeKind where
  | primitive (p : Primitive)
  | reference (ref : TypeRef)
deriving DecidableEq, Repr

/-- What a type name denotes, if anything: built-in names come first. -/
def TypeKind.classify? (name : String) : Option TypeKind :=
  match Primitive.ofKeyword? name with
  | some p => some (.primitive p)
  | none => (TypeRef.parse? name).map .reference

/-- A datatype. -/
inductive Datatype where
  | scalar (s : Scalar) (nullable : Bool)
  | object (fields : List (String × Datatype)) (nullable : Bool)
  | array (element : Option Datatype) (nullable : Bool)
  | reference (ref : TypeRef) (nullable : Bool)
deriving Repr

namespace Datatype

/-- Whether `null` is a value of the datatype. -/
def nullable : Datatype → Bool
  | .scalar _ n | .object _ n | .array _ n | .reference _ n => n

/-- What the name of the datatype denotes. -/
def kind : Datatype → TypeKind
  | .scalar s _ => .primitive (.scalar s)
  | .object _ _ => .primitive .object
  | .array _ _ => .primitive .array
  | .reference ref _ => .reference ref

/-- The name of the datatype as written in documents. -/
def name (t : Datatype) : String :=
  match t.kind with
  | .primitive p => p.keyword
  | .reference ref => ref.qualified

/-- The reference that the datatype is. -/
def reference? : Datatype → Option TypeRef
  | .reference ref _ => some ref
  | _ => none

/-- The element of an array. -/
def element? : Datatype → Option Datatype
  | .array element _ => element
  | _ => none

/-- The fields of an object. -/
def fields : Datatype → List (String × Datatype)
  | .object fields _ => fields
  | _ => []

end Datatype

end Specloom
