import Specloom.Regex.Category
import Specloom.Regex.Fault
import Specloom.Regex.Folding
import Specloom.Regex.Property
import Specloom.Regex.Script
import Specloom.Regex.Syntax
import Specloom.Text.Blank

/-!
# Sets of characters

A class is a set of characters, built from runs of code points. A set is kept as it was built, and
only membership is decided.

## Main definitions

* `CharSet`: a set of characters
* `CharSet.contains`: membership
* `propertySet`: the characters with a named property
* `asciiSet`: the characters of an ASCII class
-/

namespace Specloom.Regex

open Text

/-- A set of characters. The caseless form of a set holds what differs from a member in case only;
for ASCII sets, only letters of ASCII have a case. -/
inductive CharSet where
  | runs (rs : List CodeRange)
  | compl (s : CharSet)
  | union (a b : CharSet)
  | inter (a b : CharSet)
  | caseless (s : CharSet)
  | asciiCaseless (s : CharSet)
deriving Repr

/-- A letter of ASCII with its case changed; other code points stay. -/
def swapAsciiCase (n : Nat) : Nat :=
  if 'A'.toNat ≤ n ∧ n ≤ 'Z'.toNat then n + 32
  else if 'a'.toNat ≤ n ∧ n ≤ 'z'.toNat then n - 32
  else n

namespace CharSet

/-- Whether a set holds a code point. -/
def contains : CharSet → Nat → Bool
  | .runs rs, n => CodeRange.anyContains rs n
  | .compl s, n => !s.contains n
  | .union a b, n => a.contains n || b.contains n
  | .inter a b, n => a.contains n && b.contains n
  | .caseless s, n => s.contains n || (foldClass n).any s.contains
  | .asciiCaseless s, n => s.contains n || s.contains (swapAsciiCase n)

/-- The set without members. -/
def empty : CharSet :=
  .runs []

/-- The set of all characters. -/
def all : CharSet :=
  .compl empty

/-- The characters from one to another. -/
def between (first last : Char) : CharSet :=
  .runs [⟨first.toNat, last.toNat⟩]

/-- The complement of a set, if asked for. -/
def negateIf (negated : Bool) (s : CharSet) : CharSet :=
  if negated then .compl s else s

/-- The result of an operation on two sets. -/
def combine (kind : ClassOp) (a b : CharSet) : CharSet :=
  match kind with
  | .intersection => .inter a b
  | .difference => .inter a (.compl b)
  | .symmetricDifference => .union (.inter a (.compl b)) (.inter b (.compl a))

theorem contains_compl (s : CharSet) (n : Nat) : (compl s).contains n = !s.contains n := rfl

end CharSet

/-! ### Properties -/

/-- The name of a property without case, blanks, underscores and hyphens, and without a leading
`is`. One category has a name that begins so. -/
def plainName (name : String) : String :=
  let fold (cs : List Char) : List Char :=
    (cs.filter fun c => c.toNat < 0x80 && c != ' ' && c != '_' && c != '-').map Char.toLower
  match name.toList with
  | i :: s :: rest =>
    if (i = 'i' ∨ i = 'I') ∧ (s = 's' ∨ s = 'S') then
      let folded := String.ofList (fold rest)
      if folded = "c" then "isc" else folded
    else String.ofList (fold name.toList)
  | cs => String.ofList (fold cs)

/-- The set of the row of a table that has a given name. -/
def rowSet? (table : List (List String × String)) (name : String) : Option CharSet :=
  (table.find? (·.1.contains name)).map fun row => .runs (CodeRange.listOfText row.2)

/-- The characters that belong to no category. -/
def unassigned : CharSet :=
  .compl (.runs (categories.flatMap fun row => CodeRange.listOfText row.2))

/-- The characters of a category or of a group of categories. -/
def categorySet? (name : String) : Option CharSet :=
  if name = "any" then some .all
  else if name = "assigned" then some (.compl unassigned)
  else if name = "ascii" then some (.runs [⟨0, 0x7f⟩])
  else if name = "cn" ∨ name = "unassigned" then some unassigned
  else if name = "c" ∨ name = "other" then
    some (.union unassigned (.runs (categoryRuns ["cc", "cf", "co"])))
  else
    match categoryGroups.find? (·.1.contains name) with
    | some group => some (.runs (categoryRuns group.2))
    | none => rowSet? categories name

/-- The characters of a script. -/
def scriptSet? (name : String) : Option CharSet :=
  rowSet? scripts name

/-- The characters that are used with a script: those that belong to several scripts are used with
these, the others with their own. -/
def scriptExtensionSet? (name : String) : Option CharSet := do
  let row ← scripts.find? (·.1.contains name)
  let code ← row.1.head?
  let usedWith := extendedScripts.filter fun e =>
    (splitOn ' ' e.1.toList).contains code.toList
  let ranges (rows : List (String × String)) : CharSet :=
    .runs (rows.flatMap fun e => CodeRange.listOfText e.2)
  return .union (ranges usedWith)
    (.inter (.runs (CodeRange.listOfText row.2)) (.compl (ranges extendedScripts)))

/-- The values of categories and scripts that no character has. -/
def emptyValues : List String :=
  ["cs", "surrogate", "zzzz", "unknown", "hrkt", "katakanaorhiragana"]

/-- Three categories, the names of which are also short for properties with values. -/
def categoriesFirst : List String :=
  ["cf", "sc", "lc"]

/-- The characters with a property that is named alone: a binary property, a category or a
script. -/
def singleSet (name : String) : Except Fault CharSet :=
  let binary := if categoriesFirst.contains name then none else rowSet? binaryProperties name
  match binary.or ((categorySet? name).or (scriptSet? name)) with
  | some s => .ok s
  | none => .error (if emptyValues.contains name then .propertyValueNotFound else .propertyNotFound)

/-- The properties that have values other than yes and no. -/
def valuedSet (property value : String) : Except Fault CharSet :=
  let found (s : Option CharSet) : Except Fault CharSet :=
    match s with
    | some s => .ok s
    | none => .error .propertyValueNotFound
  if property = "gc" ∨ property = "generalcategory" then found (categorySet? value)
  else if property = "sc" ∨ property = "script" then found (scriptSet? value)
  else if property = "scx" ∨ property = "scriptextensions" then found (scriptExtensionSet? value)
  else if binaryProperties.any (·.1.contains property) then .error .propertyValueNotFound
  else .error .propertyNotFound

/-- The characters with a property. -/
def propertySet : PropertyName → Except Fault CharSet
  | .single name => singleSet (plainName name)
  | .valued negated name value =>
    (valuedSet (plainName name) (plainName value)).map (CharSet.negateIf negated)

/-! ### Classes with names of their own -/

/-- The runs of an ASCII class. -/
def asciiRuns (name : String) : List CodeRange :=
  let digit : CodeRange := ⟨'0'.toNat, '9'.toNat⟩
  let capital : CodeRange := ⟨'A'.toNat, 'Z'.toNat⟩
  let small : CodeRange := ⟨'a'.toNat, 'z'.toNat⟩
  match name with
  | "alnum" => [digit, capital, small]
  | "alpha" => [capital, small]
  | "ascii" => [⟨0, 0x7f⟩]
  | "blank" => [⟨0x09, 0x09⟩, ⟨0x20, 0x20⟩]
  | "cntrl" => [⟨0, 0x1f⟩, ⟨0x7f, 0x7f⟩]
  | "digit" => [digit]
  | "graph" => [⟨0x21, 0x7e⟩]
  | "lower" => [small]
  | "print" => [⟨0x20, 0x7e⟩]
  | "punct" => [⟨0x21, 0x2f⟩, ⟨0x3a, 0x40⟩, ⟨0x5b, 0x60⟩, ⟨0x7b, 0x7e⟩]
  | "space" => [⟨0x09, 0x0d⟩, ⟨0x20, 0x20⟩]
  | "upper" => [capital]
  | "word" => [digit, capital, ⟨0x5f, 0x5f⟩, small]
  | "xdigit" => [digit, ⟨'A'.toNat, 'F'.toNat⟩, ⟨'a'.toNat, 'f'.toNat⟩]
  | _ => []

/-- The characters of an ASCII class. -/
def asciiSet (name : String) : CharSet :=
  .runs (asciiRuns name)

/-- The characters of `\d`, `\s` or `\w`, in all of Unicode or in ASCII. -/
def perlSet (unicode : Bool) : PerlClass → CharSet
  | .digit => if unicode then .runs digitRuns else asciiSet "digit"
  | .space => if unicode then .runs blankRuns else asciiSet "space"
  | .word => if unicode then .runs wordRuns else asciiSet "word"

end Specloom.Regex
