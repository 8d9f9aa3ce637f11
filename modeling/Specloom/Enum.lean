import Specloom.Name
import Specloom.Text.Digest
import Specloom.Text.Utf8

/-!
# Enums

An enum is a list of texts, its members. Each member has an identifier made from its text, and the
whole list has a digest: generated code carries it in the name of a function, so that every place
that depends on the list is found again when the list changes.

## Main definitions

* `EnumDecl`, `Member`: an enum and a member with its identifiers
* `EnumDecl.digest`: the digest of the members
* `EnumDecl.parse`: the member with a given text
-/

namespace Specloom

/-- An enum as declared. -/
structure EnumDecl where
  name : String
  members : List String
deriving DecidableEq, Repr

/-- A member with its identifiers. -/
structure Member where
  key : String
  goConst : String
  value : String
deriving DecidableEq, Repr

/-- The octets that stand for members in the digest: identifiers and texts, each ended by a zero. -/
def digestInput (pairs : List (String × String)) : List UInt8 :=
  pairs.flatMap fun (key, value) =>
    Text.Utf8.encode key.toList ++ 0 :: (Text.Utf8.encode value.toList ++ [0])

/-- The digest of identifiers and texts. -/
def digestOfPairs (pairs : List (String × String)) : String :=
  String.ofList (Text.Digest.hex (digestInput pairs))

/-- A text that is no member of an enum. -/
structure NoMember where
  enum : String
  value : String
deriving DecidableEq, Repr

/-- The message for a text that is no member. -/
def NoMember.message (fault : NoMember) : String :=
  "invalid " ++ fault.enum ++ " member: " ++ fault.value

namespace EnumDecl

/-- The member with a given text. -/
def member (e : EnumDecl) (value : String) : Member where
  key := Name.pascal value
  goConst := e.name ++ Name.pascal value
  value := value

/-- The members in order. -/
def allMembers (e : EnumDecl) : List Member :=
  e.members.map e.member

/-- The digest of the members. -/
def digest (e : EnumDecl) : String :=
  digestOfPairs (e.allMembers.map fun m => (m.key, m.value))

/-- The name of the function that carries the digest. -/
def exhaustiveName (e : EnumDecl) : String :=
  e.name ++ "Exhaustive" ++ e.digest

/-- The first member with a given text. -/
def parse (e : EnumDecl) (value : String) : Except NoMember Member :=
  match e.allMembers.find? (·.value == value) with
  | some m => .ok m
  | none => .error ⟨e.name, value⟩

end EnumDecl

end Specloom
