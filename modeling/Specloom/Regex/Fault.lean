/-!
# Faults of regular expressions

What can be wrong with the source of a regular expression, each with its message.

## Main definitions

* `Fault`: a fault of the source
* `Fault.message`: its message
-/

namespace Specloom.Regex

/-- A fault of the source of a regular expression. -/
inductive Fault where
  | classEscapeInvalid | classRangeInvalid | classRangeLiteral | classUnclosed
  | decimalInvalid
  | escapeHexEmpty | escapeHexInvalid | escapeHexInvalidDigit
  | escapeUnexpectedEnd | escapeUnrecognized
  | flagDanglingNegation | flagDuplicate | flagRepeatedNegation | flagUnexpectedEnd
  | flagUnrecognized
  | groupNameDuplicate | groupNameEmpty | groupNameInvalid | groupNameUnexpectedEnd
  | groupUnclosed | groupUnopened
  | nestedTooDeep
  | countInvalid | countMissing | countUnclosed
  | repetitionMissing
  | wordBoundaryUnclosed | wordBoundaryUnrecognized | wordBoundaryUnexpectedEnd
  | propertyInvalid | propertyNotFound | propertyValueNotFound
  | unicodeNotAllowed | invalidUtf8
  | backreference | lookAround
deriving DecidableEq, Repr

/-- The message for a fault. -/
def Fault.message : Fault → String
  | .classEscapeInvalid => "invalid escape sequence found in character class"
  | .classRangeInvalid => "invalid character class range, the start must be <= the end"
  | .classRangeLiteral => "invalid range boundary, must be a literal"
  | .classUnclosed => "unclosed character class"
  | .decimalInvalid => "decimal literal invalid"
  | .escapeHexEmpty => "hexadecimal literal empty"
  | .escapeHexInvalid => "hexadecimal literal is not a Unicode scalar value"
  | .escapeHexInvalidDigit => "invalid hexadecimal digit"
  | .escapeUnexpectedEnd => "incomplete escape sequence, reached end of pattern prematurely"
  | .escapeUnrecognized => "unrecognized escape sequence"
  | .flagDanglingNegation => "dangling flag negation operator"
  | .flagDuplicate => "duplicate flag"
  | .flagRepeatedNegation => "flag negation operator repeated"
  | .flagUnexpectedEnd => "expected flag but got end of regex"
  | .flagUnrecognized => "unrecognized flag"
  | .groupNameDuplicate => "duplicate capture group name"
  | .groupNameEmpty => "empty capture group name"
  | .groupNameInvalid => "invalid capture group character"
  | .groupNameUnexpectedEnd => "unclosed capture group name"
  | .groupUnclosed => "unclosed group"
  | .groupUnopened => "unopened group"
  | .nestedTooDeep => "exceed the maximum number of nested parentheses/brackets (250)"
  | .countInvalid => "invalid repetition count range, the start must be <= the end"
  | .countMissing => "repetition quantifier expects a valid decimal"
  | .countUnclosed => "unclosed counted repetition"
  | .repetitionMissing => "repetition operator missing expression"
  | .wordBoundaryUnclosed =>
    "special word boundary assertion is either unclosed or contains an invalid character"
  | .wordBoundaryUnrecognized =>
    "unrecognized special word boundary assertion, valid choices are: start, end, start-half " ++
      "or end-half"
  | .wordBoundaryUnexpectedEnd =>
    "found either the beginning of a special word boundary or a bounded repetition on a \\b " ++
      "with an opening brace, but no closing brace"
  | .propertyInvalid => "invalid Unicode character class"
  | .propertyNotFound => "Unicode property not found"
  | .propertyValueNotFound => "Unicode property value not found"
  | .unicodeNotAllowed => "Unicode not allowed here"
  | .invalidUtf8 => "pattern can match invalid UTF-8"
  | .backreference => "backreferences are not supported"
  | .lookAround => "look-around, including look-ahead and look-behind, is not supported"

end Specloom.Regex
