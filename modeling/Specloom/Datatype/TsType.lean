import Specloom.Datatype.Basic

/-!
# Datatypes in TypeScript

The type expression of a datatype in TypeScript and the declaration of a named type. A nullable
type is a union with `null`, which needs parentheses as the element of an array.

## Main definitions

* `Datatype.ts`: the type expression
* `tsDeclaration`: the declaration of a named type
-/

namespace Specloom

/-- The TypeScript type of a scalar. -/
def Scalar.ts : Scalar → String
  | .string => "string"
  | .boolean => "boolean"
  | .integer => "number"
  | .date => "dateRFC3339"
  | .datetime => "datetimeRFC3339"
  | .binary => "binaryBase64"

/-- A type expression, as a union with `null` if nullable. -/
def tsUnion (nullable : Bool) (base : String) : String :=
  if nullable then base ++ " | null" else base

namespace Datatype

mutual

/-- The TypeScript type expression of a datatype. -/
def ts : Datatype → String
  | .scalar s n => tsUnion n s.ts
  | .object fields n =>
    tsUnion n <|
      if fields.isEmpty then "Record<string, never>"
      else "\x7b " ++ "; ".intercalate (tsFields fields) ++ " \x7d"
  | .array element n => tsUnion n (tsElement element ++ "[]")
  | .reference ref n => tsUnion n ref.qualified

/-- The fields of an object type. -/
def tsFields : List (String × Datatype) → List String
  | [] => []
  | (key, t) :: rest => (key ++ ": " ++ t.ts) :: tsFields rest

/-- The element of an array type; without one it is unknown. -/
def tsElement : Option Datatype → String
  | none => "unknown"
  | some t => if t.nullable then "(" ++ t.ts ++ ")" else t.ts

end

end Datatype

/-- The TypeScript declaration of a named type: an object with fields is an interface of one line
per field. -/
def tsDeclaration (name : String) (t : Datatype) : String :=
  match t with
  | .object (field :: fields) false =>
    "export interface " ++ name ++ " \x7b\n" ++
      "".intercalate ((Datatype.tsFields (field :: fields)).map fun f => "\t" ++ f ++ ";\n") ++
      "\x7d"
  | t => "export type " ++ name ++ " = " ++ t.ts ++ ";"

end Specloom
