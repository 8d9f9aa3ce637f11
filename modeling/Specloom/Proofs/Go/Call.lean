import Mathlib.Data.List.Forall2
import Specloom.Proofs.Text.Names
import Specloom.Text.Quoted

/-!
# Calls in Go text

A function is called where its name stands before an opening bracket, outside of texts. That is told
without reading expressions or statements: Go text is scanned character by character, and the last
name is kept. What stands in a text does not count, whatever it says.

Brackets that group are taken for calls of what stands before them, of nothing or of a keyword.
Comments are not told apart from code.

## Main definitions

* `Scan`, `Scan.step`: where the scanner stands, and what a character does
* `callees`: what is called in a text
* `Scans`: a text is scanned from one place to another

## Main results

* `Scans.append`, `exists_scans_intercalate`: a text is scanned part by part
* `scans_path`, `scans_path_ended`: names
* `scans_text`, `scans_literal`: texts without escapes, and literals
-/

namespace Specloom.Go

open Specloom.Path Text

/-- Where the scanner stands. -/
inductive Scan where
  /-- In code, after a name, which is kept last character first; `ended` says that a blank stands
  behind it. -/
  | code (read : List Char) (ended : Bool)
  | text
  /-- In a text, after a backslash. -/
  | escape

namespace Scan

/-- What a character does: the function that it calls, if it does, and the next place. -/
def step : Scan → Char → List String × Scan
  | code read ended, c =>
    if c = '"' then ([], text)
    else if isPathPart c then ([], code (if ended then [c] else c :: read) false)
    else if c = '(' then ([String.ofList read.reverse], code [] false)
    else if c = ' ' ∨ c = '\t' ∨ c = '\n' then ([], code read true)
    else ([], code [] false)
  | text, c =>
    if c = '"' then ([], code [] false) else if c = '\\' then ([], escape) else ([], text)
  | escape, _ => ([], text)

/-- What characters do: the functions that they call, and the place after them. -/
def run : Scan → List Char → List String × Scan
  | s, [] => ([], s)
  | s, c :: rest =>
    let (called, next) := s.step c
    let (more, last) := next.run rest
    (called ++ more, last)

theorem run_cons {s next : Scan} {c : Char} {called : List String}
    (h : s.step c = (called, next)) (rest : List Char) :
    s.run (c :: rest) = (called ++ (next.run rest).1, (next.run rest).2) := by
  rw [run, h]

end Scan

/-- What is called in a text, in order. -/
def callees (text : String) : List String :=
  ((Scan.code [] false).run text.toList).1

/-- From one place to another, a text calls some functions. -/
def Scans (place : Scan) (text : String) (called : List String) (next : Scan) : Prop :=
  place.run text.toList = (called, next)

example : callees "x.Name != \"f(\" && !re.MatchString (x.Name)" = ["re.MatchString"] := by
  decide +kernel

/-! ## Parts of a text -/

/-- **A text is scanned part by part.** -/
theorem Scans.append {place middle next : Scan} {a b : String} {called more : List String}
    (ha : Scans place a called middle) (hb : Scans middle b more next) :
    Scans place (a ++ b) (called ++ more) next := by
  unfold Scans at ha hb ⊢
  rw [String.toList_append]
  -- induction on the characters of the first part, from whatever place it is scanned
  generalize a.toList = cs at ha
  induction cs generalizing place called with
  | nil =>
    cases ha
    exact hb
  | cons c cs ih =>
    rw [Scan.run_cons rfl, Prod.mk.injEq] at ha
    obtain ⟨rfl, hlast⟩ := ha
    rw [List.cons_append, Scan.run_cons rfl, ih (Prod.ext rfl hlast), List.append_assoc]

theorem Scans.callees_eq {text : String} {called : List String} {next : Scan}
    (h : Scans (.code [] false) text called next) : callees text = called :=
  congrArg Prod.fst h

/-- **Statements are scanned one by one**, with blanks between them. -/
theorem exists_scans_intercalate {sep : String} {texts : List String} {called : List (List String)}
    (hsep : Scans (.code [] false) sep [] (.code [] true))
    (h : List.Forall₂ (fun text called =>
      ∀ ended, Scans (.code [] ended) text called (.code [] false)) texts called) (ended : Bool) :
    ∃ next, Scans (.code [] ended) (sep.intercalate texts) called.flatten next := by
  induction h generalizing ended with
  | nil => exact ⟨_, rfl⟩
  | @cons text first texts called htext hrest ih =>
    rcases eq_or_ne texts [] with rfl | htexts
    · cases hrest
      exact ⟨_, by simpa using htext ended⟩
    · obtain ⟨next, hnext⟩ := ih true
      refine ⟨next, ?_⟩
      rw [String.intercalate_cons_of_ne_nil htexts]
      simpa using ((htext ended).append hsep).append hnext

/-! ## Names and texts -/

theorem scanRun_path {cs : List Char} (h : ∀ c ∈ cs, isPathPart c = true) (read : List Char) :
    (Scan.code read false).run cs = ([], .code (cs.reverse ++ read) false) := by
  induction cs generalizing read with
  | nil => rfl
  | cons c cs ih =>
    rw [List.forall_mem_cons] at h
    have hquote : c ≠ '"' := by
      rintro rfl
      exact absurd h.1 (by decide)
    have hstep : (Scan.code read false).step c = ([], .code (c :: read) false) := by
      rw [Scan.step, if_neg hquote, if_pos h.1]
      rfl
    rw [Scan.run_cons hstep, ih h.2]
    simp

/-- A name goes on where it stands. -/
theorem scans_path {s : String} (h : IsPathText s) (read : List Char) :
    Scans (.code read false) s [] (.code (s.toList.reverse ++ read) false) :=
  scanRun_path h read

/-- A name begins behind a blank. -/
theorem scans_path_ended {s : String} (h : IsPathText s) (hne : s ≠ "") (read : List Char) :
    Scans (.code read true) s [] (.code s.toList.reverse false) := by
  unfold Scans
  obtain ⟨c, cs, hcs⟩ := List.exists_cons_of_ne_nil (String.toList_eq_nil_iff.not.mpr hne)
  have hall := h
  rw [IsPathText, hcs, List.forall_mem_cons] at hall
  have hquote : c ≠ '"' := by
    rintro rfl
    exact absurd hall.1 (by decide)
  have hstep : (Scan.code read true).step c = ([], .code [c] false) := by
    rw [Scan.step, if_neg hquote, if_pos hall.1]
    rfl
  rw [hcs, Scan.run_cons hstep, scanRun_path hall.2]
  simp

theorem scanRun_text {cs : List Char} (h : ∀ c ∈ cs, c ≠ '"' ∧ c ≠ '\\') :
    Scan.text.run cs = ([], .text) := by
  induction cs with
  | nil => rfl
  | cons c cs ih =>
    rw [List.forall_mem_cons] at h
    have hstep : Scan.text.step c = ([], .text) := by
      rw [Scan.step, if_neg h.1.1, if_neg h.1.2]
    rw [Scan.run_cons hstep, ih h.2]
    rfl

/-- Characters that stand for themselves do not end a text. -/
theorem scans_text {s : String} (h : ∀ c ∈ s.toList, c ≠ '"' ∧ c ≠ '\\') :
    Scans .text s [] .text :=
  scanRun_text h

theorem scanRun_escape (c : Char) (rest : List Char) :
    Scan.text.run (QuoteStyle.double.escape c ++ rest) = Scan.text.run rest := by
  rw [QuoteStyle.escape]
  cases hletter : QuoteStyle.double.escapes.lookup c with
  | some letter =>
    -- the backslash takes the letter with it
    show (Scan.text.run ('\\' :: letter :: rest)) = _
    have hslash : Scan.text.step '\\' = ([], .escape) := rfl
    rw [Scan.run_cons hslash, Scan.run_cons rfl]
    rfl
  | none =>
    -- what is not escaped neither ends the text nor begins an escape
    have hne : ∀ p ∈ QuoteStyle.double.escapes, c ≠ p.1 := by
      simpa [List.lookup_eq_none_iff] using hletter
    have hstep : Scan.text.step c = ([], .text) := by
      rw [Scan.step, if_neg (hne ('"', '"') (by decide)), if_neg (hne ('\\', '\\') (by decide))]
    show (Scan.text.run (c :: rest)) = _
    rw [Scan.run_cons hstep]
    rfl

/-- **Nothing is called in a literal**, whatever its text is. -/
theorem scans_literal (s : String) (read : List Char) (ended : Bool) :
    Scans (.code read ended) (QuoteStyle.double.literal s) [] (.code [] false) := by
  have hbody : ∀ cs : List Char, Scan.text.run (cs.flatMap QuoteStyle.double.escape ++ ['"']) =
      ([], .code [] false) := by
    intro cs
    induction cs with
    | nil => rfl
    | cons c cs ih => rw [List.flatMap_cons, List.append_assoc, scanRun_escape, ih]
  unfold Scans
  rw [QuoteStyle.literal, String.toList_ofList]
  show (Scan.code read ended).run
    ('"' :: (s.toList.flatMap QuoteStyle.double.escape ++ ['"'])) = _
  have hquote : (Scan.code read ended).step '"' = ([], .text) := rfl
  rw [Scan.run_cons hquote, hbody]
  rfl

end Specloom.Go
