import Mathlib.Data.List.Basic
import Specloom.Template.Render
import Specloom.Text.Quoted

/-!
# Quoted text read back

A literal delimits itself: whatever text follows it, a reader that starts at its quote stops
exactly behind it and has read the text that was quoted. This is a matter of the escapes alone.
They have to cover the quote, the backslash and the line ends, and no two of them may share a
letter; the styles of both target languages have such escapes.

## Main definitions

* `QuoteStyle.Delimits`: the escapes of a style cover what would end a literal
* `QuoteStyle.Quotes`: a filter that writes literals of a style

## Main results

* `QuoteStyle.scan?_encode`: a literal in front of any text is read back
* `QuoteStyle.encode_append_inj`: no literal is the beginning of another
* `QuoteStyle.quotes_standard`: the stock filters write literals that are read back
-/

namespace Specloom.Text.QuoteStyle

open Template

/-- The escapes of a style cover the quote, the backslash and the line ends. Each letter stands
for one character; neither a letter nor the quote is a line end. -/
structure Delimits (style : QuoteStyle) : Prop where
  quote_ne : style.quote ∉ ['\\', '\n', '\r']
  covers : ∀ c ∈ [style.quote, '\\', '\n', '\r'], ∃ letter, style.escapes.lookup c = some letter
  unescape : ∀ escaped ∈ style.escapes, style.unescape? escaped.2 = some escaped.1
  letter_ne : ∀ escaped ∈ style.escapes, escaped.2 ≠ '\n' ∧ escaped.2 ≠ '\r'

theorem delimits_single : single.Delimits := by
  have hcovers : [single.quote, '\\', '\n', '\r'].all fun c =>
      (single.escapes.lookup c).isSome := by
    decide
  refine ⟨by decide, fun c hc => ?_, by decide, by decide⟩
  exact Option.isSome_iff_exists.mp (List.all_eq_true.mp hcovers c hc)

theorem delimits_double : double.Delimits := by
  have hcovers : [double.quote, '\\', '\n', '\r'].all fun c =>
      (double.escapes.lookup c).isSome := by
    decide
  refine ⟨by decide, fun c hc => ?_, by decide, by decide⟩
  exact Option.isSome_iff_exists.mp (List.all_eq_true.mp hcovers c hc)

variable {style : QuoteStyle}

theorem mem_of_lookup {c letter : Char} (h : style.escapes.lookup c = some letter) :
    (c, letter) ∈ style.escapes := by
  obtain ⟨before, after, hsplit, -⟩ := List.lookup_eq_some_iff.mp h
  simp [hsplit]

theorem escape_of_lookup {c letter : Char} (h : style.escapes.lookup c = some letter) :
    style.escape c = ['\\', letter] := by
  simp only [escape, h]

theorem escape_of_lookup_none {c : Char} (h : style.escapes.lookup c = none) :
    style.escape c = [c] := by
  simp only [escape, h]

namespace Delimits

/-- A character without an escape is none of those that the reader treats apart. -/
theorem ne_of_lookup_none (h : style.Delimits) {c : Char} (hc : style.escapes.lookup c = none) :
    c ≠ style.quote ∧ c ≠ '\\' ∧ c ≠ '\n' ∧ c ≠ '\r' := by
  have hcovers := h.covers
  simp only [List.mem_cons, List.not_mem_nil, or_false, forall_eq_or_imp, forall_eq] at hcovers
  obtain ⟨⟨_, hquote⟩, ⟨_, hslash⟩, ⟨_, hline⟩, ⟨_, hreturn⟩⟩ := hcovers
  refine ⟨?_, ?_, ?_, ?_⟩ <;> rintro rfl <;> simp_all

/-- The letters a reader takes are those of the escapes. -/
theorem unescape?_eq_some_iff (h : style.Delimits) {letter c : Char} :
    style.unescape? letter = some c ↔ (c, letter) ∈ style.escapes := by
  constructor
  · intro hread
    obtain ⟨⟨c', letter'⟩, hfind, rfl⟩ := Option.map_eq_some_iff.mp hread
    have hletter : letter' = letter := by simpa using List.find?_some hfind
    exact hletter ▸ List.mem_of_find?_eq_some hfind
  · exact h.unescape (c, letter)

/-- One written character is read back, and the reader goes on behind it. -/
theorem scanBody?_escape_append (h : style.Delimits) (c : Char) (rest : List Char) :
    style.scanBody? (style.escape c ++ rest)
      = (style.scanBody? rest).map fun read => (c :: read.1, read.2) := by
  cases hc : style.escapes.lookup c with
  | some letter =>
    have hread := h.unescape?_eq_some_iff.mpr (mem_of_lookup hc)
    rw [escape_of_lookup hc]
    cases hrest : style.scanBody? rest <;> simp [scanBody?, hread, hrest]
  | none =>
    obtain ⟨hquote, hslash, hline, hreturn⟩ := h.ne_of_lookup_none hc
    rw [escape_of_lookup_none hc]
    cases hrest : style.scanBody? rest <;>
      simp [scanBody?, hquote, hslash, hline, hreturn, hrest]

/-- Induction on the quoted text: the reader passes one escape after the other, and the first
quote that it meets outside of an escape is the closing one. -/
theorem scanBody?_flatMap_append (h : style.Delimits) (cs rest : List Char) :
    style.scanBody? (cs.flatMap style.escape ++ style.quote :: rest) = some (cs, rest) := by
  induction cs with
  | nil =>
    have hslash : style.quote ≠ '\\' := List.ne_of_not_mem_cons h.quote_ne
    simp [scanBody?, hslash]
  | cons c cs ih => simp [List.flatMap_cons, h.scanBody?_escape_append, ih]

theorem scan?_encode (h : style.Delimits) (cs rest : List Char) :
    style.scan? (style.encode cs ++ rest) = some (cs, rest) := by
  simp [scan?, encode, h.scanBody?_flatMap_append]

/-- A literal and what follows it are told apart by their text: no literal is the beginning of
another one. -/
theorem encode_append_inj (h : style.Delimits) {cs cs' rest rest' : List Char}
    (heq : style.encode cs ++ rest = style.encode cs' ++ rest') : cs = cs' ∧ rest = rest' := by
  have hread := h.scan?_encode cs rest
  rw [heq, h.scan?_encode] at hread
  simpa [eq_comm] using hread

theorem not_mem_escape (h : style.Delimits) {c lineEnd : Char} (hend : lineEnd ∈ ['\n', '\r']) :
    lineEnd ∉ style.escape c := by
  have hend' : lineEnd = '\n' ∨ lineEnd = '\r' := by simpa using hend
  cases hc : style.escapes.lookup c with
  | some letter =>
    have hletter := h.letter_ne _ (mem_of_lookup hc)
    rw [escape_of_lookup hc]
    rcases hend' with rfl | rfl <;> simp [hletter.1.symm, hletter.2.symm]
  | none =>
    obtain ⟨-, -, hline, hreturn⟩ := h.ne_of_lookup_none hc
    rw [escape_of_lookup_none hc]
    rcases hend' with rfl | rfl <;> simp [hline.symm, hreturn.symm]

/-- A literal stands on one line. -/
theorem not_mem_encode (h : style.Delimits) (cs : List Char) (lineEnd : Char)
    (hend : lineEnd ∈ ['\n', '\r']) : lineEnd ∉ style.encode cs := by
  have hquote : lineEnd ≠ style.quote := by
    rintro rfl
    exact h.quote_ne (List.mem_cons_of_mem _ hend)
  simp only [encode, List.mem_cons, List.mem_append, List.mem_flatMap, List.not_mem_nil, or_false]
  rintro (hc | ⟨c, -, hc⟩ | hc)
  · exact hquote hc
  · exact h.not_mem_escape hend hc
  · exact hquote hc

end Delimits

/-- A filter writes the literals of a style, and whatever text follows a literal, the reader takes
the quoted text and nothing else. A literal stands on one line. -/
def Quotes (style : QuoteStyle) (filter : String → Except String String) : Prop :=
  ∀ (s : String) (rest : List Char), filter s = .ok (style.literal s) ∧
    style.scan? ((style.literal s).toList ++ rest) = some (s.toList, rest) ∧
    '\n' ∉ (style.literal s).toList ∧ '\r' ∉ (style.literal s).toList

theorem Delimits.quotes (h : style.Delimits) : style.Quotes fun s => .ok (style.literal s) := by
  intro s rest
  refine ⟨rfl, ?_, ?_, ?_⟩
  · simpa [literal] using h.scan?_encode s.toList rest
  · simpa [literal] using h.not_mem_encode s.toList '\n' (by simp)
  · simpa [literal] using h.not_mem_encode s.toList '\r' (by simp)

/-- The stock filters write literals that end where their reader says. The reader of TypeScript
takes four escapes and the one of Go a fifth, the tab. -/
theorem quotes_standard :
    (single.Quotes Helpers.standard.jsQuote ∧ single.quote = '\'' ∧
      ∀ letter c, single.unescape? letter = some c ↔
        (c, letter) ∈ [('\\', '\\'), ('\'', '\''), ('\n', 'n'), ('\r', 'r')]) ∧
    (double.Quotes Helpers.standard.goQuote ∧ double.quote = '"' ∧
      ∀ letter c, double.unescape? letter = some c ↔
        (c, letter) ∈ [('"', '"'), ('\\', '\\'), ('\n', 'n'), ('\r', 'r'), ('\t', 't')]) :=
  ⟨⟨delimits_single.quotes, rfl, fun _ _ => delimits_single.unescape?_eq_some_iff⟩,
    ⟨delimits_double.quotes, rfl, fun _ _ => delimits_double.unescape?_eq_some_iff⟩⟩

end Specloom.Text.QuoteStyle
