import Specloom.Text.CaseMap
import Specloom.Text.Grapheme

/-!
# Words of an identifier

An identifier such as `in_progress`, `inProgress` or `HTTPServer` is a sequence of words. Words
end at a separator, where the case or a digit begins or ends, and before the last capital of a run
of capitals that a small letter follows. Case is a property of a grapheme cluster.

## Main definitions

* `LetterKind`: what a cluster is to the splitter
* `words`: the words of a text
* `pascal`: the words joined, each with a capital first letter
-/

namespace Specloom.Text

/-- What a grapheme cluster is to the splitter. -/
inductive LetterKind where
  | upper | lower | digit | separator | other
deriving DecidableEq, Repr

/-- The kind of a cluster: it has a case if case mapping changes it, and then the case it keeps. -/
def letterKind (cluster : List Char) : LetterKind :=
  if cluster = ['_'] ∨ cluster = ['-'] ∨ cluster = [' '] then .separator
  else if cluster.all Char.isDigit then .digit
  else if upperAll cluster = lowerAll cluster then .other
  else if cluster = upperAll cluster then .upper
  else if cluster = lowerAll cluster then .lower
  else .other

/-- Whether a word ends between two neighbours, given what follows them. -/
def wordEnds (a b : LetterKind) (next : Option LetterKind) : Bool :=
  match a, b with
  | .lower, .upper | .lower, .digit | .upper, .digit | .digit, .lower | .digit, .upper => true
  | .upper, .upper => next == some .lower
  | _, _ => false

/-- The words of the clusters to come; `current` is the open word. -/
def wordsFrom (current : List Char) : List (LetterKind × List Char) → List (List Char)
  | [] => [current]
  | (kind, cluster) :: rest =>
    if kind = .separator then current :: wordsFrom [] rest
    else
      match rest with
      | [] => [current ++ cluster]
      | (next, _) :: after =>
        if wordEnds kind next (after.head?.map (·.1)) then
          (current ++ cluster) :: wordsFrom [] rest
        else wordsFrom (current ++ cluster) rest

/-- The words of a text, none of them empty. -/
def words (cs : List Char) : List (List Char) :=
  (wordsFrom [] ((clusters cs).map fun g => (letterKind g, g))).filter (· ≠ [])

/-- A word with its first character in upper case and the others in lower case. -/
def capitalized : List Char → List Char
  | [] => []
  | c :: rest => upper c ++ lowerAll rest

/-- The words of a text, each capitalized, without separators. -/
def pascal (cs : List Char) : List Char :=
  (words cs).flatMap capitalized

example : pascal "HTTPServer_v2-x".toList = "HttpServerV2X".toList := by decide +kernel

end Specloom.Text
