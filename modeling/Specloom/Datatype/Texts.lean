import Specloom.Datatype.GoType
import Specloom.Datatype.TsType

/-!
# Types in both languages

## Main definitions

* `TypeTexts`: a type expression in Go and in TypeScript
* `Datatype.texts`: the expressions of a datatype
-/

namespace Specloom

/-- A type expression in both languages. -/
structure TypeTexts where
  go : String
  ts : String
deriving DecidableEq, Repr

/-- The type expressions of a datatype. -/
def Datatype.texts (t : Datatype) : TypeTexts :=
  ⟨t.go, t.ts⟩

end Specloom
