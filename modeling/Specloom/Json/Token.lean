import Specloom.Json.Number
import Specloom.Text.Hex
import Specloom.Text.Utf8

/-!
# Tokens of JSON text

A JSON text is a sequence of tokens. A fault inside a token ends the sequence and takes the place
of the token, so that reading tokens always succeeds.

## Main definitions

* `Token`: a token, or the fault that ends the text
* `scanString`: reads a string after its first quote
* `tokens`: the tokens of a text
-/

namespace Specloom.Json

open Text

/-- A token. A character that begins no token is `stray`; a fault says whether it is in a string,
since only a string can be a key. -/
inductive Token where
  | openList | closeList | openObject | closeObject | comma | colon
  | null | bool (b : Bool) | number (n : Number) | string (s : String)
  | broken (inString : Bool) (fault : Fault)
  | stray

/-- Whether a character is a blank between tokens. -/
def isSeparator (c : Char) : Bool :=
  c == ' ' || c == '\n' || c == '\t' || c == '\r'

/-- The 16-bit unit of four hexadecimal digits. A text of fewer than four octets is cut off. -/
def scanUnit (text : List Char) : Except Fault Nat :=
  if (Utf8.encode (text.take 4)).length < 4 then .error .endInString
  else
    match (text.take 4).mapM hexValue? with
    | some [a, b, c, d] => .ok (((a * 16 + b) * 16 + c) * 16 + d)
    | _ => .error .invalidEscape

/-- Reads what follows `\u`: one unit, or a leading surrogate and a second escape with a trailing
one. -/
def scanUnicode (text : List Char) : Except Fault (Char × Nat) := do
  let unit ← scanUnit text
  if 0xdc00 ≤ unit ∧ unit ≤ 0xdfff then .error .loneSurrogate
  else if unit < 0xd800 ∨ 0xdbff < unit then return (Char.ofNat unit, 4)
  else
    match text.drop 4 with
    | [] => .error .endInString
    | ['\\'] => .error .endInString
    | '\\' :: 'u' :: second =>
      let low ← scanUnit second
      if low < 0xdc00 ∨ 0xdfff < low then .error .loneSurrogate
      else return (Char.ofNat ((unit - 0xd800) * 0x400 + (low - 0xdc00) + 0x10000), 10)
    | _ => .error .endOfEscape

/-- Reads what follows a backslash. -/
def scanEscape : List Char → Except Fault (Char × Nat)
  | [] => .error .endInString
  | c :: rest =>
    match c with
    | '"' | '\\' | '/' => .ok (c, 1)
    | 'b' => .ok ('\x08', 1)
    | 'f' => .ok ('\x0c', 1)
    | 'n' => .ok ('\n', 1)
    | 'r' => .ok ('\r', 1)
    | 't' => .ok ('\t', 1)
    | 'u' => (scanUnicode rest).map fun (c, k) => (c, k + 1)
    | _ => .error .invalidEscape

/-- Reads a string after its first quote: its characters and how many characters of the text it
takes, the closing quote included. -/
def scanString (text : List Char) : Except Fault (List Char × Nat) :=
  match text with
  | [] => .error .endInString
  | c :: rest =>
    if c = '"' then .ok ([], 1)
    else if c = '\\' then do
      let (c, k) ← scanEscape rest
      let (cs, n) ← scanString (rest.drop k)
      return (c :: cs, k + n + 1)
    else if c.toNat < 0x20 then .error .controlCharacter
    else do
      let (cs, n) ← scanString rest
      return (c :: cs, n + 1)
termination_by text.length

/-- Reads one of the words `null`, `true` and `false` after its first letter. -/
def scanWord (word : List Char) (token : Token) (text : List Char) : Token × Nat :=
  if word.isPrefixOf text then (token, word.length)
  else if text.isPrefixOf word then (.broken false .endInValue, 0)
  else (.broken false .expectedIdent, 0)

/-- Reads the token that begins with a character, with the count of further characters. -/
def scanToken (c : Char) (rest : List Char) : Token × Nat :=
  match c with
  | '[' => (.openList, 0)
  | ']' => (.closeList, 0)
  | '\x7b' => (.openObject, 0)
  | '\x7d' => (.closeObject, 0)
  | ',' => (.comma, 0)
  | ':' => (.colon, 0)
  | 'n' => scanWord "ull".toList .null rest
  | 't' => scanWord "rue".toList (.bool true) rest
  | 'f' => scanWord "alse".toList (.bool false) rest
  | '"' =>
    match scanString rest with
    | .ok (cs, n) => (.string (String.ofList cs), n)
    | .error fault => (.broken true fault, 0)
  | c =>
    if c = '-' ∨ c.isDigit then
      match scanNumber (c :: rest) with
      | .ok (n, k) => (.number n, k - 1)
      | .error fault => (.broken false fault, 0)
    else (.stray, 0)

/-- The tokens of a text, up to the first fault inside a token. -/
def tokens (text : List Char) : List Token :=
  match text with
  | [] => []
  | c :: rest =>
    if isSeparator c then tokens rest
    else
      match scanToken c rest with
      | (.broken inString fault, _) => [.broken inString fault]
      | (token, k) => token :: tokens (rest.drop k)
termination_by text.length

end Specloom.Json
