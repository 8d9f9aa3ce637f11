import Specloom.Template.Basic
import Specloom.Text.Blank

/-!
# Tokens of templates

The text of a template is cut into pieces: plain text, expressions between double braces, and tags
between a brace and a percent sign. What stands in an expression or a tag is cut into tokens.

A tag that stands alone on its line leaves nothing of the line: blanks before a tag are dropped back
to the begin of the line, and so is one line end after it.

## Main definitions

* `Token`: a token of an expression or a tag
* `Piece`: a piece of a template
* `pieces?`: the pieces of a text
-/

namespace Specloom.Template

open Text

/-- A token of an expression or a tag. -/
inductive Token where
  | ident (name : String)
  | text (s : String)
  | number (n : Nat)
  | dot | bar | openParen | closeParen
deriving DecidableEq, Repr

/-- A piece of a template. Tokens come with the lines they stand on. -/
inductive Piece where
  | text (s : List Char)
  | print (tokens : List (Nat × Token))
  | tag (tokens : List (Nat × Token))
deriving Repr

/-- Whether a character may begin an identifier. -/
def isNameStart (c : Char) : Bool :=
  c.isAlpha || c == '_'

/-- Whether a character may continue an identifier. -/
def isNamePart (c : Char) : Bool :=
  c.isAlphanum || c == '_'

/-- The character that a letter after a backslash stands for in a quoted text. -/
def unescape? (c : Char) : Option Char :=
  match c with
  | 'n' => some '\n'
  | 'r' => some '\r'
  | 't' => some '\t'
  | 'b' => some '\x08'
  | 'f' => some '\x0c'
  | '\\' | '/' | '"' | '\'' => some c
  | _ => none

/-- Reads a quoted text after its first quote: its characters and what follows. -/
def scanQuoted? (quote : Char) : List Char → Option (List Char × List Char)
  | [] => none
  | ['\\'] => none
  | '\\' :: c :: rest => do
    let c ← unescape? c
    let (cs, rest) ← scanQuoted? quote rest
    return (c :: cs, rest)
  | c :: rest =>
    if c = quote then some ([], rest)
    else (scanQuoted? quote rest).map fun (cs, rest) => (c :: cs, rest)

/-- Reads tokens up to the closing mark, a given character and a brace: the tokens, the line of the
mark and what follows it. -/
def scanTokens? (close : Char) :
    Nat → Nat → List Char → Option (List (Nat × Token) × Nat × List Char)
  | 0, _, _ => none
  | _ + 1, _, [] => none
  | fuel + 1, line, c :: rest =>
    let go (token : Token) (lines : Nat) (rest : List Char) :
        Option (List (Nat × Token) × Nat × List Char) :=
      (scanTokens? close fuel (line + lines) rest).map fun (tokens, line', rest) =>
        ((line, token) :: tokens, line', rest)
    if c = close ∧ rest.head? = some '\x7d' then some ([], line, rest.tail)
    else if c = '\n' then scanTokens? close fuel (line + 1) rest
    else if isBlank c then scanTokens? close fuel line rest
    else if isNameStart c then
      go (.ident (String.ofList (c :: rest.takeWhile isNamePart))) 0 (rest.dropWhile isNamePart)
    else if c.isDigit then
      let digits := c :: rest.takeWhile Char.isDigit
      go (.number (digits.foldl (fun n c => 10 * n + (c.toNat - '0'.toNat)) 0)) 0
        (rest.dropWhile Char.isDigit)
    else if c = '"' ∨ c = '\'' then
      match scanQuoted? c rest with
      | some (cs, rest) => go (.text (String.ofList cs)) (cs.count '\n') rest
      | none => none
    else
      match c with
      | '.' => go .dot 0 rest
      | '|' => go .bar 0 rest
      | '(' => go .openParen 0 rest
      | ')' => go .closeParen 0 rest
      | _ => none

/-- The plain text before the next opening mark, with the mark and what follows it. -/
def splitMark : List Char → List Char × Option (Char × List Char)
  | [] => ([], none)
  | '\x7b' :: '\x7b' :: rest => ([], some ('\x7b', rest))
  | '\x7b' :: '%' :: rest => ([], some ('%', rest))
  | c :: rest => (c :: (splitMark rest).1, (splitMark rest).2)

/-- Drops the blanks of the last line of a text, if it holds nothing else. The line begins in the
text unless `occupied` says that something stands before the text on it. -/
def dropIndent (occupied : Bool) (text : List Char) : List Char :=
  let kept := (text.reverse.dropWhile fun c => isBlank c && !isLineEnd c).reverse
  match kept.getLast? with
  | some c => if isLineEnd c then kept else text
  | none => if occupied then text else kept

/-- Drops one line end from the front: what is left and the number of lines passed. -/
def dropLineEnd : List Char → List Char × Nat
  | '\r' :: '\n' :: rest => (rest, 1)
  | '\n' :: rest => (rest, 1)
  | '\r' :: rest => (rest, 0)
  | rest => (rest, 0)

/-- Puts a text in front, unless it is empty. -/
def consText (s : List Char) (rest : List Piece) : List Piece :=
  if s = [] then rest else .text s :: rest

/-- The pieces of a text from a line on; `occupied` says that something stands before the text on
that line. -/
def piecesFrom? : Nat → Nat → Bool → List Char → Option (List Piece)
  | 0, _, _, _ => none
  | fuel + 1, line, occupied, text =>
    match splitMark text with
    | (s, none) => some (consText s [])
    | (s, some ('%', rest)) => do
      let (tokens, line, rest) ← scanTokens? '%' (rest.length + 1) (line + s.count '\n') rest
      let (rest', lines) := dropLineEnd rest
      let after ← piecesFrom? fuel (line + lines) (rest'.length == rest.length) rest'
      return consText (dropIndent occupied s) (.tag tokens :: after)
    | (s, some (_, rest)) => do
      let (tokens, line, rest) ← scanTokens? '\x7d' (rest.length + 1) (line + s.count '\n') rest
      let after ← piecesFrom? fuel line true rest
      return consText s (.print tokens :: after)

/-- The pieces of a text. -/
def pieces? (text : String) : Option (List Piece) :=
  piecesFrom? (text.toList.length + 1) 1 false text.toList

end Specloom.Template
