/-!
# Faults of JSON text

What can be wrong with a text that should be JSON, each with its message.

## Main definitions

* `Fault`: a fault of the text
* `Fault.message`: its message
-/

namespace Specloom.Json

/-- A fault of JSON text. -/
inductive Fault where
  | endInList | endInObject | endInString | endInValue
  | expectedColon | expectedListEnd | expectedObjectEnd | expectedIdent | expectedValue
  | invalidEscape | loneSurrogate | endOfEscape | controlCharacter
  | invalidNumber | numberOutOfRange
  | keyNotString | trailingComma | trailingCharacters | tooDeep
deriving DecidableEq, Repr

/-- The message for a fault. -/
def Fault.message : Fault → String
  | .endInList => "EOF while parsing a list"
  | .endInObject => "EOF while parsing an object"
  | .endInString => "EOF while parsing a string"
  | .endInValue => "EOF while parsing a value"
  | .expectedColon => "expected `:`"
  | .expectedListEnd => "expected `,` or `]`"
  | .expectedObjectEnd => "expected `,` or `\x7d`"
  | .expectedIdent => "expected ident"
  | .expectedValue => "expected value"
  | .invalidEscape => "invalid escape"
  | .loneSurrogate => "lone leading surrogate in hex escape"
  | .endOfEscape => "unexpected end of hex escape"
  | .controlCharacter => "control character (\\u0000-\\u001F) found while parsing a string"
  | .invalidNumber => "invalid number"
  | .numberOutOfRange => "number out of range"
  | .keyNotString => "key must be a string"
  | .trailingComma => "trailing comma"
  | .trailingCharacters => "trailing characters"
  | .tooDeep => "recursion limit exceeded"

end Specloom.Json
