import Specloom.Datatype.Basic
import Specloom.Name

/-!
# Datatypes in Go

The type expression of a datatype in Go and the declaration of a named type. Nullable types are
pointers; a field keeps its key in the tag that the JSON package reads.

## Main definitions

* `Datatype.go`: the type expression
* `goDeclaration`: the declaration of a named type
-/

namespace Specloom

/-- The Go type of a scalar. -/
def Scalar.go : Scalar → String
  | .string => "string"
  | .boolean => "bool"
  | .integer => "int64"
  | .date => "guts.Date"
  | .datetime => "time.Time"
  | .binary => "[]byte"

/-- A field of a Go struct with the type expression given. -/
def goField (key type : String) : String :=
  Name.upperFirst key ++ " " ++ type ++ " `json:\"" ++ key ++ "\"`"

/-- A type expression, as a pointer if nullable. -/
def goPointer (nullable : Bool) (base : String) : String :=
  if nullable then "*" ++ base else base

namespace Datatype

mutual

/-- The Go type expression of a datatype. -/
def go : Datatype → String
  | .scalar s n => goPointer n s.go
  | .object fields n =>
    goPointer n <|
      if fields.isEmpty then "struct\x7b\x7d"
      else "struct \x7b " ++ "; ".intercalate (goFields fields) ++ " \x7d"
  | .array element n => goPointer n ("[]" ++ goElement element)
  | .reference ref n => goPointer n ref.qualified

/-- The fields of a struct. -/
def goFields : List (String × Datatype) → List String
  | [] => []
  | (key, t) :: rest => goField key t.go :: goFields rest

/-- The element of a slice; without one, anything goes. -/
def goElement : Option Datatype → String
  | none => "interface\x7b\x7d"
  | some t => t.go

end

end Datatype

/-- The Go declaration of a named type: an object with fields is a struct of one line per field. -/
def goDeclaration (name : String) (t : Datatype) : String :=
  match t with
  | .object (field :: fields) false =>
    "type " ++ name ++ " struct \x7b\n" ++
      "".intercalate ((Datatype.goFields (field :: fields)).map fun f => "\t" ++ f ++ "\n") ++
      "\x7d"
  | t => "type " ++ name ++ " " ++ t.go

end Specloom
