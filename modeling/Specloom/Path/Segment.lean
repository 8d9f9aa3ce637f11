/-!
# Segments of a path

A path is literal text with placeholders such as `{id}` in between. An opening brace begins a
placeholder only if an identifier and a closing brace follow it at once; any other brace is
literal.

## Main definitions

* `Segment`: a literal piece or a placeholder
* `segments`: the segments of a text
* `placeholders`: the names among them
* `Segment.written`: a segment as it stands in a path
-/

namespace Specloom.Path

/-- Whether a character may begin an identifier. -/
def isIdentStart (c : Char) : Bool :=
  ('a' ≤ c && c ≤ 'z') || ('A' ≤ c && c ≤ 'Z') || c == '_'

/-- Whether a character may continue an identifier. -/
def isIdentPart (c : Char) : Bool :=
  isIdentStart c || ('0' ≤ c && c ≤ '9')

/-- Whether a character may follow the part of an identifier read so far. -/
def extendsIdent (name : List Char) (c : Char) : Bool :=
  if name.isEmpty then isIdentStart c else isIdentPart c

/-- Whether a text is an identifier: an ASCII letter or an underscore, then letters, digits and
underscores. -/
def isIdent : List Char → Bool
  | [] => false
  | c :: rest => isIdentStart c && rest.all isIdentPart

/-- One piece of a path. -/
inductive Segment where
  | literal (text : List Char)
  | placeholder (name : List Char)
deriving DecidableEq, Repr

namespace Segment

/-- The piece as it stands in a path. -/
def written : Segment → List Char
  | .literal text => text
  | .placeholder name => '{' :: (name ++ ['}'])

/-- The name of a placeholder. -/
def name? : Segment → Option (List Char)
  | .literal _ => none
  | .placeholder name => some name

end Segment

/-- Puts a literal in front, unless it is empty. -/
def consLiteral (text : List Char) (rest : List Segment) : List Segment :=
  if text = [] then rest else .literal text :: rest

/-- Splits the rest of a text: `literal` is the literal text before it, and `name` what has been
read of an identifier after an opening brace. -/
def segmentsFrom (literal : List Char) : Option (List Char) → List Char → List Segment
  | none, [] => consLiteral literal []
  | some name, [] => consLiteral (literal ++ '{' :: name) []
  | none, c :: rest =>
    if c = '{' then segmentsFrom literal (some []) rest
    else segmentsFrom (literal ++ [c]) none rest
  | some name, c :: rest =>
    if c = '}' ∧ name ≠ [] then consLiteral literal (.placeholder name :: segmentsFrom [] none rest)
    else if extendsIdent name c then segmentsFrom literal (some (name ++ [c])) rest
    else if c = '{' then segmentsFrom (literal ++ '{' :: name) (some []) rest
    else segmentsFrom (literal ++ '{' :: name ++ [c]) none rest

/-- The segments of a text, in order. -/
def segments (text : List Char) : List Segment :=
  segmentsFrom [] none text

/-- The names of the placeholders of a text, in order. -/
def placeholders (text : List Char) : List (List Char) :=
  (segments text).filterMap Segment.name?

theorem written_consLiteral (text : List Char) (rest : List Segment) :
    (consLiteral text rest).flatMap Segment.written = text ++ rest.flatMap Segment.written := by
  by_cases h : text = [] <;> simp [consLiteral, h, Segment.written]

theorem written_segmentsFrom (literal : List Char) (name : Option (List Char)) (rest : List Char) :
    (segmentsFrom literal name rest).flatMap Segment.written =
      literal ++ (match name with | none => [] | some n => '{' :: n) ++ rest := by
  fun_induction segmentsFrom literal name rest <;>
    simp_all [written_consLiteral, Segment.written]

/-- The segments, as they stand one after the other, are the text. -/
theorem flatMap_written_segments (text : List Char) :
    (segments text).flatMap Segment.written = text := by
  simp [segments, written_segmentsFrom]

end Specloom.Path
