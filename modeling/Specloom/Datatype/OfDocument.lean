import Specloom.Document.Datatype
import Specloom.Datatype.Basic
import Specloom.Error

/-!
# Datatypes of documents

A datatype of a document becomes a datatype once every name in it is classified. An element counts
for arrays only, and fields count for objects only.

## Main definitions

* `Datatype.ofDoc`: the datatype that a document describes
-/

namespace Specloom.Datatype

open Document

mutual

/-- The datatype that a document describes, at a location of a module. -/
def ofDoc (module : String) (location : Location) : DatatypeDoc → Except Error Datatype
  | .name name =>
    match TypeKind.classify? name with
    | none => .error (.unknownType module location name)
    | some (.primitive (.scalar s)) => .ok (.scalar s false)
    | some (.primitive .object) => .ok (.object [] false)
    | some (.primitive .array) => .ok (.array none false)
    | some (.reference ref) => .ok (.reference ref false)
  | .node name nullable of fields =>
    match TypeKind.classify? name with
    | none => .error (.unknownType module location name)
    | some (.primitive (.scalar s)) => .ok (.scalar s nullable)
    | some (.primitive .object) =>
      (ofOptionalFields module location fields).map (.object · nullable)
    | some (.primitive .array) => (ofElement module location of).map (.array · nullable)
    | some (.reference ref) => .ok (.reference ref nullable)

/-- The element of an array, which stands at the location of the array. -/
def ofElement (module : String) (location : Location) :
    Option DatatypeDoc → Except Error (Option Datatype)
  | none => .ok none
  | some doc => (ofDoc module location doc).map some

/-- The fields of an object, if it has any. -/
def ofOptionalFields (module : String) (location : Location) :
    Option (List (String × DatatypeDoc)) → Except Error (List (String × Datatype))
  | none => .ok []
  | some fields => ofFields module location fields

/-- The fields of an object, each at a location of its own. -/
def ofFields (module : String) (location : Location) :
    List (String × DatatypeDoc) → Except Error (List (String × Datatype))
  | [] => .ok []
  | (key, doc) :: rest => do
    let t ← ofDoc module (.member location key) doc
    return (key, t) :: (← ofFields module location rest)

end

/-- The datatype of an optional document. -/
def ofOptionalDoc (module : String) (location : Location) (doc : Option DatatypeDoc) :
    Except Error (Option Datatype) :=
  match doc with
  | none => .ok none
  | some doc => (ofDoc module location doc).map some

end Specloom.Datatype
