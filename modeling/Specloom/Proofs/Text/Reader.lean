import Mathlib.Data.List.Forall2
import Specloom.Proofs.Path.Segment
import Specloom.Proofs.Text.Split

/-!
# Readers

A reader takes something from the front of a text. What is read depends on what follows as well: a
name ends where no character of names follows, so a reader is right about a text in front of some
of what may follow only.

## Main definitions

* `Reader`: a reader
* `ident?`, `dotted?`: readers of an identifier, and of identifiers with dots between them
* `items?`: a reader of items in braces
* `Reads`: a text is read before what may follow it
* `IsBody`, `oneLine`, `lines`: items up to a closing brace, on one line and on a line each

## Main results

* `reads_ident`, `reads_dotted`: names are read
* `isBody_oneLine`, `isBody_lines`: items on one line, and items on a line each
-/

namespace Specloom.Text

open Specloom.Path

/-- Reads something from the front of a text: it, and what follows. -/
abbrev Reader (α : Type) := List Char → Option (α × List Char)

/-- Drops spaces and tabs from the front. -/
def skipSpaces (cs : List Char) : List Char :=
  cs.dropWhile fun c => c = ' ' ∨ c = '\t'

/-- Drops spaces, tabs and line ends from the front. -/
def skipLines (cs : List Char) : List Char :=
  cs.dropWhile fun c => c = ' ' ∨ c = '\t' ∨ c = '\n'

/-- Reads an identifier. -/
def ident? : Reader String := fun cs =>
  let name := cs.takeWhile isIdentPart
  if isIdent name then some (String.ofList name, cs.dropWhile isIdentPart) else none

/-- Whether a character may stand in a dotted name. -/
def isDottedPart (c : Char) : Bool :=
  isIdentPart c || c == '.'

/-- Whether a text is a dotted name: identifiers with dots between them. -/
def isDotted (cs : List Char) : Bool :=
  (splitOn '.' cs).all isIdent

/-- Reads a dotted name. -/
def dotted? : Reader String := fun cs =>
  let name := cs.takeWhile isDottedPart
  if isDotted name then some (String.ofList name, cs.dropWhile isDottedPart) else none

/-- Reads items up to the closing brace. A semicolon or a line end stands after every item, but may
be left out after the last one. -/
def items? {α : Type} (item : Reader α) : Nat → Reader (List α)
  | 0, _ => none
  | budget + 1, cs =>
    match skipLines cs with
    | '}' :: rest => some ([], rest)
    | cs => do
      let (x, rest) ← item cs
      match skipSpaces rest with
      | '}' :: rest => return ([x], rest)
      | c :: rest =>
        if c = ';' ∨ c = '\n' then do
          let (xs, rest) ← items? item budget rest
          return (x :: xs, rest)
        else none
      | [] => none

/-- Before what may follow, a text is read. -/
def Reads {α : Type} (reader : Reader α) (follow : List Char → Prop) (text : String) (x : α) :
    Prop :=
  ∀ rest, follow rest → reader (text.toList ++ rest) = some (x, rest)

/-- No character of names follows. -/
def EndsName (rest : List Char) : Prop :=
  ∀ c ∈ rest.head?, isDottedPart c = false

/-! ## Names -/

theorem takeWhile_append_of_head? {p : Char → Bool} {cs rest : List Char}
    (hcs : ∀ c ∈ cs, p c = true) (hrest : ∀ c ∈ rest.head?, p c = false) :
    (cs ++ rest).takeWhile p = cs ∧ (cs ++ rest).dropWhile p = rest := by
  rw [List.takeWhile_append_of_pos hcs, List.dropWhile_append_of_pos hcs]
  cases rest with
  | nil => simp
  | cons c rest => simp [hrest c rfl]

/-- An identifier is read up to where it may not go on. -/
theorem reads_ident {name : String} (h : isIdent name.toList = true) {rest : List Char}
    (hrest : ∀ c ∈ rest.head?, isIdentPart c = false) :
    ident? (name.toList ++ rest) = some (name, rest) := by
  obtain ⟨htake, hdrop⟩ := takeWhile_append_of_head? (isIdentPart_of_isIdent h) hrest
  rw [ident?, htake, hdrop, if_pos h, String.ofList_toList]

/-- A dotted name begins with a character of identifiers. -/
theorem exists_cons_of_isDotted {cs : List Char} (h : isDotted cs = true) :
    ∃ c rest, cs = c :: rest ∧ isIdentPart c = true := by
  have hne : splitOn '.' cs ≠ [] := splitWhere_ne_nil _ cs
  obtain ⟨piece, pieces, hsplit⟩ := List.exists_cons_of_ne_nil hne
  have hpiece : isIdent piece = true :=
    List.all_eq_true.mp h piece (hsplit ▸ List.mem_cons_self)
  cases piece with
  | nil => cases hpiece
  | cons c rest =>
    -- the first piece stands at the front of the text
    have hjoin := intercalate_splitOn '.' cs
    rw [hsplit] at hjoin
    refine ⟨c, cs.tail, ?_, isIdentPart_of_isIdent hpiece c List.mem_cons_self⟩
    rw [← hjoin]
    cases pieces <;> simp [List.intercalate_cons_cons]

/-- A dotted name begins with no other character. -/
theorem append_ne_cons_of_isDotted {cs : List Char} (h : isDotted cs = true) {mark : Char}
    (hmark : isIdentPart mark = false) (rest rest' : List Char) : cs ++ rest ≠ mark :: rest' := by
  obtain ⟨c, cs, rfl, hpart⟩ := exists_cons_of_isDotted h
  rintro heq
  cases heq
  rw [hpart] at hmark
  cases hmark

theorem endsName_nil : EndsName [] := by
  rintro _ ⟨⟩

theorem endsName_cons {c : Char} (h : isDottedPart c = false) (rest : List Char) :
    EndsName (c :: rest) := by
  rintro _ ⟨⟩
  exact h

/-- A dotted name is read up to where it may not go on. -/
theorem reads_dotted {name : String} (h : isDotted name.toList = true) :
    Reads dotted? EndsName name name := by
  intro rest hrest
  have hparts : ∀ c ∈ name.toList, isDottedPart c = true := by
    intro c hc
    rw [isDottedPart, Bool.or_eq_true, beq_iff_eq]
    rcases mem_or_exists_mem_splitOn '.' hc with rfl | ⟨piece, hpiece, hc⟩
    · exact Or.inr rfl
    · exact Or.inl (isIdentPart_of_isIdent (List.all_eq_true.mp h piece hpiece) c hc)
  obtain ⟨htake, hdrop⟩ := takeWhile_append_of_head? hparts hrest
  rw [dotted?, htake, hdrop, if_pos h, String.ofList_toList]

/-! ## Items -/

/-- What may follow an item: a semicolon, a line end, or a space and the closing brace. -/
inductive EndsItem : List Char → Prop where
  | semicolon (rest : List Char) : EndsItem (';' :: rest)
  | line (rest : List Char) : EndsItem ('\n' :: rest)
  | brace (rest : List Char) : EndsItem (' ' :: '}' :: rest)

/-- A text is an item: it begins with a character of names and is read. -/
structure IsItem {α : Type} (item : Reader α) (text : String) (x : α) : Prop where
  head : ∃ c ∈ text.toList.head?, isIdentPart c = true
  reads : Reads item EndsItem text x

/-- An item may begin with an identifier. -/
theorem exists_head?_of_isIdent {name : String} (h : isIdent name.toList = true) (text : String) :
    ∃ c ∈ (name ++ text).toList.head?, isIdentPart c = true := by
  obtain ⟨c, cs, hcs⟩ : ∃ c cs, name.toList = c :: cs :=
    List.exists_cons_of_ne_nil fun hnil => by simp [hnil, isIdent] at h
  exact ⟨c, by simp [hcs], isIdentPart_of_isIdent h c (by simp [hcs])⟩

variable {α : Type} {item : Reader α}

theorem skipLines_append {lead : List Char} (hlead : ∀ c ∈ lead, c = ' ' ∨ c = '\t' ∨ c = '\n')
    (cs : List Char) : skipLines (lead ++ cs) = skipLines cs :=
  List.dropWhile_append_of_pos (by simpa using hlead)

theorem IsItem.skipLines_eq {text : String} {x : α} (h : IsItem item text x)
    (rest : List Char) : skipLines (text.toList ++ rest) = text.toList ++ rest ∧
      ∀ rest', text.toList ++ rest ≠ '}' :: rest' := by
  obtain ⟨c, hc, hpart⟩ := h.head
  obtain ⟨cs, hcs⟩ := List.head?_eq_some_iff.mp hc
  rw [hcs]
  constructor
  · have hblank : ¬ (c = ' ' ∨ c = '\t' ∨ c = '\n') := by
      rintro (rfl | rfl | rfl) <;> cases hpart
    simp [skipLines, hblank]
  · rintro rest' heq
    cases heq
    cases hpart

/-- An item with a separator after it. -/
theorem items?_cons {text : String} {x : α} (h : IsItem item text x) {lead tail rest : List Char}
    (hlead : ∀ c ∈ lead, c = ' ' ∨ c = '\t' ∨ c = '\n') {sep : Char} (hsep : sep = ';' ∨ sep = '\n')
    {budget : Nat} {xs : List α} (htail : items? item budget tail = some (xs, rest)) :
    items? item (budget + 1) (lead ++ (text.toList ++ sep :: tail)) = some (x :: xs, rest) := by
  obtain ⟨hskip, hbrace⟩ := h.skipLines_eq (sep :: tail)
  have hread : item (text.toList ++ sep :: tail) = some (x, sep :: tail) := by
    apply h.reads
    rcases hsep with rfl | rfl
    · exact .semicolon tail
    · exact .line tail
  rw [items?, skipLines_append hlead, hskip]
  split
  · exact absurd ‹_› (hbrace _)
  · rcases hsep with rfl | rfl <;> simp [hread, skipSpaces, htail]

/-- The last item of a line. -/
theorem items?_last {text : String} {x : α} (h : IsItem item text x) (budget : Nat)
    (rest : List Char) :
    items? item (budget + 1) (' ' :: (text.toList ++ ' ' :: '}' :: rest)) = some ([x], rest) := by
  obtain ⟨hskip, hbrace⟩ := h.skipLines_eq (' ' :: '}' :: rest)
  have hread := h.reads _ (.brace rest)
  rw [items?, ← List.singleton_append, skipLines_append (by simp), hskip]
  split
  · exact absurd ‹_› (hbrace _)
  · simp [hread, skipSpaces]

/-! ## Bodies -/

/-- A text is a body of items: it is read up to the closing brace, whatever follows. -/
def IsBody (item : Reader α) (body : String) (xs : List α) : Prop :=
  ∀ rest, items? item (body.toList ++ rest).length (body.toList ++ rest) = some (xs, rest)

/-- Texts on one line, with semicolons between them, and the closing brace. -/
def oneLine (texts : List String) : String :=
  " " ++ "; ".intercalate texts ++ " \x7d"

/-- Texts on a line each, with an ending after each of them, and the closing brace. -/
def lines (ending : String) (texts : List String) : String :=
  "\n" ++ String.join (texts.map fun text => "\t" ++ text ++ ending) ++ "\x7d"

theorem toList_oneLine (texts : List String) :
    (oneLine texts).toList = ' ' :: (("; ".intercalate texts).toList ++ [' ', '}']) := by
  simp [oneLine]

theorem toList_lines (ending : String) (texts : List String) : (lines ending texts).toList =
    '\n' :: (texts.flatMap fun text => '\t' :: (text.toList ++ ending.toList)) ++ ['}'] := by
  simp [lines, String.toList_join, List.flatMap_map]

theorem length_lt_oneLine {text : String} {texts : List String} (h : text ∈ texts) :
    text.toList.length < (oneLine texts).toList.length := by
  have hlength : _ ≤ ("; ".intercalate texts).toList.length := length_le_length_intercalate h
  rw [toList_oneLine, List.length_cons, List.length_append]
  omega

theorem length_lt_lines {text : String} {texts : List String} (h : text ∈ texts)
    (ending : String) : text.toList.length < (lines ending texts).toList.length := by
  have hinfix : '\t' :: (text.toList ++ ending.toList) <:+:
      texts.flatMap fun text => '\t' :: (text.toList ++ ending.toList) :=
    List.infix_of_mem_flatten (List.mem_map_of_mem h)
  have hlength := hinfix.length_le
  rw [List.length_cons, List.length_append] at hlength
  rw [toList_lines, List.length_append, List.length_cons]
  omega

theorem length_le_intercalate (texts : List String) :
    texts.length ≤ ("; ".intercalate texts).toList.length + 1 := by
  induction texts with
  | nil => exact Nat.zero_le _
  | cons text texts ih =>
    rcases eq_or_ne texts [] with rfl | htexts
    · exact Nat.succ_le_succ (Nat.zero_le _)
    · have hsep : "; ".toList.length = 2 := rfl
      rw [String.intercalate_cons_of_ne_nil htexts, List.length_cons, String.toList_append,
        String.toList_append, List.length_append, List.length_append, hsep]
      omega

theorem items?_oneLine {texts : List String} {xs : List α}
    (h : List.Forall₂ (IsItem item) texts xs) (hne : texts ≠ []) {budget : Nat}
    (hbudget : texts.length ≤ budget) (rest : List Char) :
    items? item budget ((oneLine texts).toList ++ rest) = some (xs, rest) := by
  induction h generalizing budget with
  | nil => exact absurd rfl hne
  | @cons text x texts xs hitem _ ih =>
    obtain ⟨budget, rfl⟩ := Nat.exists_eq_succ_of_ne_zero (Nat.ne_zero_of_lt hbudget)
    rw [toList_oneLine]
    rcases eq_or_ne texts [] with rfl | htexts
    · cases ‹List.Forall₂ _ [] xs›
      rw [String.intercalate_singleton]
      simpa using items?_last hitem budget rest
    · have htail := ih htexts (Nat.le_of_succ_le_succ hbudget)
      have hspace : ∀ c ∈ [' '], c = ' ' ∨ c = '\t' ∨ c = '\n' := by simp
      rw [toList_oneLine] at htail
      rw [String.intercalate_cons_of_ne_nil htexts]
      simpa using items?_cons hitem hspace (Or.inl rfl) htail

/-- **Items on one line** are a body. -/
theorem isBody_oneLine {texts : List String} {xs : List α}
    (h : List.Forall₂ (IsItem item) texts xs) (hne : texts ≠ []) :
    IsBody item (oneLine texts) xs := by
  refine fun rest => items?_oneLine h hne ?_ rest
  have hlength := length_le_intercalate texts
  rw [List.length_append, toList_oneLine, List.length_cons, List.length_append]
  omega

theorem length_le_flatMap_cons {β γ : Type} (c : γ) (f : β → List γ) (xs : List β) :
    xs.length ≤ (xs.flatMap fun x => c :: f x).length := by
  induction xs with
  | nil => exact Nat.le_refl 0
  | cons x xs ih =>
    rw [List.flatMap_cons, List.length_append, List.length_cons, List.length_cons]
    omega

theorem items?_lines {texts : List String} {xs : List α}
    (h : List.Forall₂ (IsItem item) texts xs) {lead after : List Char}
    (hlead : ∀ c ∈ lead, c = ' ' ∨ c = '\t' ∨ c = '\n')
    (hafter : ∀ c ∈ after, c = ' ' ∨ c = '\t' ∨ c = '\n') {sep : Char}
    (hsep : sep = ';' ∨ sep = '\n') {budget : Nat} (hbudget : texts.length < budget)
    (rest : List Char) :
    items? item budget (lead ++ (texts.flatMap fun text => '\t' :: (text.toList ++ sep :: after)) ++
      '}' :: rest) = some (xs, rest) := by
  induction h generalizing budget lead with
  | nil =>
    obtain ⟨budget, rfl⟩ := Nat.exists_eq_succ_of_ne_zero (Nat.ne_zero_of_lt hbudget)
    rw [items?, List.flatMap_nil, List.append_nil, skipLines_append hlead]
    rfl
  | @cons text x texts xs hitem _ ih =>
    obtain ⟨budget, rfl⟩ := Nat.exists_eq_succ_of_ne_zero (Nat.ne_zero_of_lt hbudget)
    have htail := ih hafter (Nat.lt_of_succ_lt_succ hbudget)
    have htab : ∀ c ∈ lead ++ ['\t'], c = ' ' ∨ c = '\t' ∨ c = '\n' := by
      simpa [or_imp, forall_and] using hlead
    simpa using items?_cons hitem htab hsep htail

/-- **Items on a line each** are a body, if a separator is after each of them, and nothing else but
blanks. -/
theorem isBody_lines {texts : List String} {xs : List α}
    (h : List.Forall₂ (IsItem item) texts xs) {ending : String} {sep : Char} {after : List Char}
    (hending : ending.toList = sep :: after) (hsep : sep = ';' ∨ sep = '\n')
    (hafter : ∀ c ∈ after, c = ' ' ∨ c = '\t' ∨ c = '\n') :
    IsBody item (lines ending texts) xs := by
  intro rest
  have hlength :=
    length_le_flatMap_cons '\t' (fun text : String => text.toList ++ ending.toList) texts
  have hbudget : texts.length < ((lines ending texts).toList ++ rest).length := by
    rw [List.length_append, toList_lines, List.length_append, List.length_cons]
    omega
  rw [hending] at hlength
  have hread := items?_lines h (by simp : ∀ c ∈ ['\n'], _) hafter hsep hbudget rest
  rw [toList_lines, hending] at hread ⊢
  simpa using hread

end Specloom.Text
