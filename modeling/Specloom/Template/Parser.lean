import Specloom.Template.Render
import Specloom.Template.Token

/-!
# Reading templates

Expressions are read by descent, and the tags of conditions and loops with the open ones on a stack.

## Main definitions

* `parseExpr?`: the expression of some tokens
* `parse?`: the template of a text
* `renderText`: the text of a template that is given as text
-/

namespace Specloom.Template

/-- The rest of a list of tokens. -/
abbrev Tokens := List (Nat × Token)

/-- The expression that an identifier stands for: a name, or a value that has a name of its own. -/
def exprOfIdent (name : String) : Expr :=
  match name with
  | "true" | "True" => .literal (.bool true)
  | "false" | "False" => .literal (.bool false)
  | "none" | "None" => .literal .null
  | _ => .name name

/-- Reads the fields and filters behind an expression. -/
def parseSuffixes : Nat → Expr → Tokens → Option (Expr × Tokens)
  | 0, _, _ => none
  | fuel + 1, e, tokens =>
    match tokens with
    | (_, .dot) :: (_, .ident key) :: rest => parseSuffixes fuel (.field e key) rest
    | (_, .bar) :: (_, .ident name) :: rest => parseSuffixes fuel (.filter e name) rest
    | (_, .dot) :: _ | (_, .bar) :: _ => none
    | rest => some (e, rest)

/-- Reads an expression; `operand` says that no choice may follow it. -/
def parseFrom? : Nat → Bool → Tokens → Option (Expr × Tokens)
  | 0, _, _ => none
  | fuel + 1, true, tokens =>
    match tokens with
    | (_, .ident "not") :: rest => do
      let (e, rest) ← parseFrom? fuel true rest
      return (.not e, rest)
    | (_, .ident name) :: rest => parseSuffixes (rest.length + 1) (exprOfIdent name) rest
    | (_, .text s) :: rest => parseSuffixes (rest.length + 1) (.literal (.text s)) rest
    | (_, .number n) :: rest => parseSuffixes (rest.length + 1) (.literal (.number n)) rest
    | (_, .openParen) :: rest => do
      match ← parseFrom? fuel false rest with
      | (e, (_, .closeParen) :: rest) => parseSuffixes (rest.length + 1) e rest
      | _ => none
    | _ => none
  | fuel + 1, false, tokens => do
    let (e, rest) ← parseFrom? fuel true tokens
    match rest with
    | (_, .ident "if") :: rest =>
      let (c, rest) ← parseFrom? fuel true rest
      match rest with
      | (_, .ident "else") :: rest =>
        let (no, rest) ← parseFrom? fuel false rest
        return (.cond c e no, rest)
      | rest => return (.cond c e (.literal (.text "")), rest)
    | rest => return (e, rest)

/-- The expression that some tokens make up, with the line it begins on. -/
def parseExpr? (tokens : Tokens) : Option (Nat × Expr) := do
  let (line, _) ← tokens.head?
  match ← parseFrom? (2 * tokens.length + 2) false tokens with
  | (e, []) => return (line, e)
  | _ => none

/-- A condition or a loop that is still open, with the parts before it, last first. -/
inductive Frame where
  | condYes (before : List Node) (line : Nat) (c : Expr)
  | condNo (before : List Node) (line : Nat) (c : Expr) (yes : List Node)
  | loopBody (before : List Node) (line : Nat) (name : String) (e : Expr)
  | loopNone (before : List Node) (line : Nat) (name : String) (e : Expr) (body : List Node)

/-- The names that a loop cannot give to its items. -/
def reservedNames : List String :=
  ["true", "True", "false", "False", "none", "None", "loop", "self"]

/-- Reads a tag: the open parts, and the parts inside the innermost of them, last first. -/
def parseTag? (frames : List Frame) (nodes : List Node) (tokens : Tokens) :
    Option (List Frame × List Node) :=
  match tokens, frames with
  | (_, .ident "if") :: rest, frames => do
    let (line, c) ← parseExpr? rest
    return (.condYes nodes line c :: frames, [])
  | (_, .ident "for") :: (_, .ident name) :: (_, .ident "in") :: rest, frames => do
    let (line, e) ← parseExpr? rest
    if reservedNames.contains name then none
    else return (.loopBody nodes line name e :: frames, [])
  | [(_, .ident "else")], .condYes before line c :: frames =>
    some (.condNo before line c nodes.reverse :: frames, [])
  | [(_, .ident "else")], .loopBody before line name e :: frames =>
    some (.loopNone before line name e nodes.reverse :: frames, [])
  | [(_, .ident "endif")], .condYes before line c :: frames =>
    some (frames, .cond line c nodes.reverse [] :: before)
  | [(_, .ident "endif")], .condNo before line c yes :: frames =>
    some (frames, .cond line c yes nodes.reverse :: before)
  | [(_, .ident "endfor")], .loopBody before line name e :: frames =>
    some (frames, .loop line name e nodes.reverse [] :: before)
  | [(_, .ident "endfor")], .loopNone before line name e body :: frames =>
    some (frames, .loop line name e body nodes.reverse :: before)
  | _, _ => none

/-- Reads pieces with the open conditions and loops on a stack. -/
def parsePieces? (frames : List Frame) (nodes : List Node) : List Piece → Option Template
  | [] => if frames.isEmpty then some nodes.reverse else none
  | .text s :: rest => parsePieces? frames (.text (String.ofList s) :: nodes) rest
  | .print tokens :: rest => do
    let (line, e) ← parseExpr? tokens
    parsePieces? frames (.print line e :: nodes) rest
  | .tag tokens :: rest => do
    let (frames, nodes) ← parseTag? frames nodes tokens
    parsePieces? frames nodes rest

/-- The template of a text, if it is well-formed. -/
def parse? (text : String) : Option Template := do
  parsePieces? [] [] (← pieces? text)

/-- The text of a template that is given as text. -/
def renderText (h : Helpers) (fields : List (String × Value)) (text : String) :
    Except Fault String :=
  match parse? text with
  | some template => render h fields template
  | none => .error .malformed

end Specloom.Template
