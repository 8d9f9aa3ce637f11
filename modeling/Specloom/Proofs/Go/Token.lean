import Specloom.Path.Segment
import Specloom.Text.Quoted

/-!
# Tokens of Go

Go text is read into tokens character by character. A line end is a token of its own where a
statement may end, which is after a word, a text or a closing bracket; elsewhere it is a blank.

Only what statements of checks need is told apart: names, keywords and numbers are words, and every
other character is a symbol, so an operator of two characters is two symbols.

## Main definitions

* `Token`: a token
* `Place`, `Place.step`: where the reader of tokens stands, and what a character does
* `Reads`: what is read from a text
* `tokens?`: the tokens of a text

## Main results

* `Reads.append`: a text is read part by part
* `reads_word`, `reads_plain`, `reads_literal`: words, texts without escapes, and literals
-/

namespace Specloom.Go

open Specloom.Path Text

/-- A token. -/
inductive Token where
  | word (s : String)
  | text (s : String)
  | symbol (c : Char)
  /-- The end of a statement. -/
  | lineEnd
deriving DecidableEq, Repr

/-- Where the reader of tokens stands. What has been read of a token is kept last first. -/
inductive Place where
  /-- Between tokens; `ends` says whether a statement may end here. -/
  | between (ends : Bool)
  | word (read : List Char)
  | text (read : List Char)
  /-- In a text, after a backslash. -/
  | escape (read : List Char)
deriving DecidableEq, Repr

namespace Place

/-- What a character between tokens does: the tokens that it completes, and the next place. -/
def start (ends : Bool) (c : Char) : List Token × Place :=
  if c = '"' then ([], text [])
  else if isIdentPart c then ([], word [c])
  else if c = '\n' then (if ends then [.lineEnd] else [], between false)
  else if c = ' ' ∨ c = '\t' then ([], between ends)
  else ([.symbol c], between (c = ')' ∨ c = '}'))

/-- What a character does: the tokens that it completes, and the next place. -/
def step : Place → Char → Option (List Token × Place)
  | between ends, c => some (start ends c)
  | word read, c =>
    if isIdentPart c then some ([], word (c :: read))
    else some (.word (String.ofList read.reverse) :: (start true c).1, (start true c).2)
  | text read, c =>
    if c = '"' then some ([.text (String.ofList read.reverse)], between true)
    else if c = '\\' then some ([], escape read)
    else if c = '\n' then none
    else some ([], text (c :: read))
  | escape read, c => (QuoteStyle.double.unescape? c).map fun c => ([], text (c :: read))

/-- The token that a text ends with, if it may end here. -/
def finish : Place → Option (List Token)
  | between _ => some []
  | word read => some [.word (String.ofList read.reverse)]
  | text _ | escape _ => none

end Place

/-- What characters do: the tokens that they complete, and the place after them. -/
def readFrom : Place → List Char → Option (List Token × Place)
  | place, [] => some ([], place)
  | place, c :: rest => do
    let (tokens, next) ← place.step c
    let (more, last) ← readFrom next rest
    return (tokens ++ more, last)

/-- The tokens of a text. -/
def tokens? (text : String) : Option (List Token) := do
  let (tokens, place) ← readFrom (.between false) text.toList
  return tokens ++ (← place.finish)

/-- From one place to another, a text is read as some tokens. -/
def Reads (place : Place) (text : String) (tokens : List Token) (next : Place) : Prop :=
  readFrom place text.toList = some (tokens, next)

/-! ## Parts of a text -/

theorem readFrom_cons {place next : Place} {c : Char} {rest : List Char} {tokens : List Token}
    (h : place.step c = some (tokens, next)) : readFrom place (c :: rest) =
      (readFrom next rest).map fun (more, last) => (tokens ++ more, last) := by
  rw [readFrom, h]
  show (readFrom next rest).bind _ = _
  cases readFrom next rest <;> rfl

/-- **A text is read part by part.** -/
theorem Reads.append {place middle next : Place} {a b : String} {tokens more : List Token}
    (ha : Reads place a tokens middle) (hb : Reads middle b more next) :
    Reads place (a ++ b) (tokens ++ more) next := by
  unfold Reads at ha hb ⊢
  rw [String.toList_append]
  -- induction on the characters of the first part, from whatever place it is read
  generalize a.toList = cs at ha
  induction cs generalizing place tokens with
  | nil =>
    cases ha
    exact hb
  | cons c cs ih =>
    cases hstep : place.step c with
    | none => simp [readFrom, hstep] at ha
    | some result =>
      obtain ⟨first, after⟩ := result
      rw [readFrom_cons hstep] at ha
      obtain ⟨⟨rest, last⟩, hrest, heq⟩ := Option.map_eq_some_iff.mp ha
      cases heq
      rw [List.cons_append, readFrom_cons hstep, ih hrest, Option.map_some, List.append_assoc]

theorem tokens?_of_reads {text : String} {tokens : List Token} {ends : Bool}
    (h : Reads (.between false) text tokens (.between ends)) : tokens? text = some tokens := by
  unfold Reads at h
  rw [tokens?, h]
  exact congrArg some (List.append_nil tokens)

/-! ## Words and texts -/

/-- A word of Go: letters, digits and underscores, and at least one of them. -/
def IsWord (s : String) : Prop :=
  s.toList ≠ [] ∧ ∀ c ∈ s.toList, isIdentPart c = true

theorem readFrom_word {read cs : List Char} (h : ∀ c ∈ cs, isIdentPart c = true) :
    readFrom (.word read) cs = some ([], .word (cs.reverse ++ read)) := by
  induction cs generalizing read with
  | nil => rfl
  | cons c cs ih =>
    rw [List.forall_mem_cons] at h
    rw [readFrom_cons (by rw [Place.step, if_pos h.1]), ih h.2]
    simp

theorem start_of_isIdentPart {ends : Bool} {c : Char} (h : isIdentPart c = true) :
    Place.start ends c = ([], .word [c]) := by
  have hquote : c ≠ '"' := by
    rintro rfl
    cases h
  rw [Place.start, if_neg hquote, if_pos h]

theorem isIdentPart_of_isDigit {c : Char} (h : c.isDigit = true) : isIdentPart c = true := by
  simp only [Char.isDigit, Bool.and_eq_true, decide_eq_true_eq] at h
  have hdigit : '0' ≤ c ∧ c ≤ '9' := h
  simp [isIdentPart, hdigit]

/-- A number is written as a word. -/
theorem isWord_toString (n : Nat) : IsWord (toString n) := by
  rw [IsWord, Nat.toString_eq_ofList_toDigits, String.toList_ofList]
  exact ⟨Nat.toDigits_ne_nil, fun c hc =>
    isIdentPart_of_isDigit (Nat.isDigit_of_mem_toDigits (by decide) (by decide) hc)⟩

/-- A word is read up to where it may go on. -/
theorem reads_word {s : String} (h : IsWord s) (ends : Bool) :
    Reads (.between ends) s [] (.word s.toList.reverse) := by
  obtain ⟨hne, hall⟩ := h
  unfold Reads
  cases hs : s.toList with
  | nil => exact absurd hs hne
  | cons c cs =>
    rw [hs, List.forall_mem_cons] at hall
    rw [readFrom_cons (by rw [Place.step, start_of_isIdentPart hall.1]), readFrom_word hall.2]
    simp

theorem readFrom_plain {read cs : List Char} (h : ∀ c ∈ cs, c ≠ '"' ∧ c ≠ '\\' ∧ c ≠ '\n') :
    readFrom (.text read) cs = some ([], .text (cs.reverse ++ read)) := by
  induction cs generalizing read with
  | nil => rfl
  | cons c cs ih =>
    rw [List.forall_mem_cons] at h
    obtain ⟨⟨hquote, hslash, hline⟩, h⟩ := h
    have hstep : Place.step (.text read) c = some ([], .text (c :: read)) := by
      rw [Place.step, if_neg hquote, if_neg hslash, if_neg hline]
    rw [readFrom_cons hstep, ih h]
    simp

/-- Characters that stand for themselves are read up to where the text may go on. -/
theorem reads_plain {s : String} (h : ∀ c ∈ s.toList, c ≠ '"' ∧ c ≠ '\\' ∧ c ≠ '\n') :
    Reads (.text []) s [] (.text s.toList.reverse) := by
  rw [Reads, readFrom_plain h, List.append_nil]

/-- A word ends where what follows it ends words. -/
theorem Reads.append_word {place next : Place} {first last w : String} {tokens more : List Token}
    (hfirst : Reads place first tokens (.word w.toList.reverse))
    (hlast : ∀ read, Reads (.word read) last (.word (String.ofList read.reverse) :: more) next) :
    Reads place (first ++ last) (tokens ++ .word w :: more) next := by
  simpa using hfirst.append (hlast w.toList.reverse)

/-- A text ends where what follows it ends texts. -/
theorem Reads.append_text {place next : Place} {first last s : String} {tokens more : List Token}
    (hfirst : Reads place first tokens (.text s.toList.reverse))
    (hlast : ∀ read, Reads (.text read) last (.text (String.ofList read.reverse) :: more) next) :
    Reads place (first ++ last) (tokens ++ .text s :: more) next := by
  simpa using hfirst.append (hlast s.toList.reverse)

theorem finish_word (w : String) : (Place.word w.toList.reverse).finish = some [.word w] := by
  simp [Place.finish]

theorem map_nil_append (r : Option (List Token × Place)) :
    (r.map fun (more, last) => ([] ++ more, last)) = r := by
  rcases r with _ | ⟨more, last⟩ <;> rfl

/-- A character is read from what stands for it in a literal. -/
theorem readFrom_escape {read : List Char} {c : Char} {rest : List Char} :
    readFrom (.text read) (QuoteStyle.double.escape c ++ rest) =
      readFrom (.text (c :: read)) rest := by
  -- every escaped character is what its letter stands for
  have hletters : ∀ p ∈ QuoteStyle.double.escapes,
      QuoteStyle.double.unescape? p.2 = some p.1 := by decide
  rw [QuoteStyle.escape]
  cases hletter : QuoteStyle.double.escapes.lookup c with
  | none =>
    -- not escaped: it is none of the characters that end a text, begin an escape or are refused
    have hne : ∀ p ∈ QuoteStyle.double.escapes, c ≠ p.1 := by
      simpa [List.lookup_eq_none_iff] using hletter
    have hstep : Place.step (.text read) c = some ([], .text (c :: read)) := by
      rw [Place.step, if_neg (hne ('"', '"') (by decide)), if_neg (hne ('\\', '\\') (by decide)),
        if_neg (hne ('\n', 'n') (by decide))]
    show readFrom (.text read) (c :: rest) = _
    rw [readFrom_cons hstep, map_nil_append]
  | some letter =>
    -- escaped: the backslash waits for the letter, which gives the character back
    obtain ⟨before, after, hsplit, -⟩ := List.lookup_eq_some_iff.mp hletter
    have hmem : (c, letter) ∈ QuoteStyle.double.escapes := by simp [hsplit]
    have hslash : Place.step (.text read) '\\' = some ([], .escape read) := rfl
    have hstep : Place.step (.escape read) letter = some ([], .text (c :: read)) := by
      rw [Place.step, hletters _ hmem, Option.map_some]
    show readFrom (.text read) ('\\' :: letter :: rest) = _
    rw [readFrom_cons hslash, map_nil_append, readFrom_cons hstep, map_nil_append]

/-- **The literal of a text is read as that text.** -/
theorem reads_literal (s : String) (ends : Bool) :
    Reads (.between ends) (QuoteStyle.double.literal s) [.text s] (.between true) := by
  -- after the opening quote, with what was read of the text so far
  have hbody : ∀ cs read, readFrom (.text read) (cs.flatMap QuoteStyle.double.escape ++ ['"']) =
      some ([.text (String.ofList (read.reverse ++ cs))], .between true) := by
    intro cs
    induction cs with
    | nil =>
      intro read
      rw [List.append_nil]
      rfl
    | cons c cs ih =>
      intro read
      rw [List.flatMap_cons, List.append_assoc, readFrom_escape, ih]
      simp
  have hquote : Place.step (.between ends) '"' = some ([], .text []) := rfl
  unfold Reads
  rw [QuoteStyle.literal, String.toList_ofList]
  show readFrom (.between ends) ('"' :: (s.toList.flatMap QuoteStyle.double.escape ++ ['"'])) = _
  rw [readFrom_cons hquote, map_nil_append, hbody]
  simp

end Specloom.Go
