/-!
# String literals

A string literal of a target language is the text between two quotes, with a backslash and a
letter in place of some characters. Which characters are replaced is a style; the styles of the
two target languages are values of one type.

## Main definitions

* `QuoteStyle`: a quote and the escaped characters
* `QuoteStyle.double`, `QuoteStyle.single`: the literals of Go and of TypeScript
* `QuoteStyle.encode`: the literal of a text
* `QuoteStyle.scan?`: the text of a literal, and what follows the literal
-/

namespace Specloom.Text

/-- A quote, and the escaped characters with the letter each is written as. -/
structure QuoteStyle where
  quote : Char
  escapes : List (Char × Char)

namespace QuoteStyle

/-- Go literals: quotes, backslashes, line ends and tabs are escaped. -/
def double : QuoteStyle :=
  ⟨'"', [('"', '"'), ('\\', '\\'), ('\n', 'n'), ('\r', 'r'), ('\t', 't')]⟩

/-- TypeScript literals: quotes, backslashes and line ends are escaped. -/
def single : QuoteStyle :=
  ⟨'\'', [('\\', '\\'), ('\'', '\''), ('\n', 'n'), ('\r', 'r')]⟩

/-- A character as it stands inside a literal. -/
def escape (style : QuoteStyle) (c : Char) : List Char :=
  match style.escapes.lookup c with
  | some letter => ['\\', letter]
  | none => [c]

/-- The literal of a text. -/
def encode (style : QuoteStyle) (cs : List Char) : List Char :=
  style.quote :: (cs.flatMap style.escape ++ [style.quote])

/-- The literal of a text, as text. -/
def literal (style : QuoteStyle) (s : String) : String :=
  String.ofList (style.encode s.toList)

/-- The character that a letter after a backslash stands for. -/
def unescape? (style : QuoteStyle) (letter : Char) : Option Char :=
  (style.escapes.find? (·.2 == letter)).map (·.1)

/-- Reads a literal after its first quote: its text and what follows the closing quote. A line
end inside the literal, or a backslash before a letter the style does not use, is refused. -/
def scanBody? (style : QuoteStyle) : List Char → Option (List Char × List Char)
  | [] => none
  | '\\' :: letter :: rest => do
    let c ← style.unescape? letter
    let (cs, after) ← scanBody? style rest
    return (c :: cs, after)
  | c :: rest =>
    if c = style.quote then some ([], rest)
    else if c = '\\' ∨ c = '\n' ∨ c = '\r' then none
    else do
      let (cs, after) ← scanBody? style rest
      return (c :: cs, after)

/-- Reads a literal: its text and what follows the closing quote. -/
def scan? (style : QuoteStyle) : List Char → Option (List Char × List Char)
  | [] => none
  | c :: rest => if c = style.quote then style.scanBody? rest else none

example : double.literal "a \"b\"\n" = "\"a \\\"b\\\"\\n\"" := by decide +kernel
example : single.scan? "'it\\'s' + x".toList = some ("it's".toList, " + x".toList) := by
  decide +kernel

end QuoteStyle

end Specloom.Text
