import Specloom.Proofs.Command.GoValidation
import Specloom.Proofs.Go.Call

/-!
# Calls in generated checks

The body of the method that checks a command is one statement a rule. Each kind of rule calls a
function of its own besides the one that makes the error, so which functions the body calls tells
which rules there are.

## Main definitions

* `Rule.callees`: what the statement of a rule calls
* `Command.HasNames`: what the checks of a command are made of has characters of names only

## Main results

* `Rule.scans_goCheck`: the text of a rule calls what the rule does
* `callees_goValidation`: the body of the method calls what the rules do
* `runeCount_mem_callees`, `containsAny_mem_callees`, `matchString_mem_callees`: the rule that a call
  tells
-/

namespace Specloom

open Go Text

/-- What the statement of a rule calls, in order. -/
def Rule.callees (regexp : String) : Rule → List String
  | .nonEmpty _ => ["fieldEmptyValidationError"]
  | .maxLength _ =>
    ["utf8.RuneCountInString", "fieldLengthValidationError", "utf8.RuneCountInString"]
  | .pattern _ => [regexp ++ ".MatchString", "fieldPatternValidationError"]
  | .singleLine => ["strings.ContainsAny", "noNewlinesValidationError"]

/-! ## Scanning a rule -/

section Scanning

variable {name key regexp : String}

theorem scans_goCheck {condition result : String} {called called' : List String}
    {last last' : List Char} {ended ended' : Bool}
    (hcondition : Scans (.code "if".toList.reverse true) condition called (.code last ended))
    (hresult : Scans (.code "return".toList.reverse true) result called' (.code last' ended'))
    (lead : Bool) :
    Scans (.code [] lead) (goCheck condition result) (called ++ called') (.code [] false) := by
  have hif : Scans (.code [] lead) "if " [] (.code "if".toList.reverse true) := by
    cases lead <;> rfl
  have hreturn : Scans (.code last ended) " \x7b\n\t\treturn " []
      (.code "return".toList.reverse true) := rfl
  have hend : Scans (.code last' ended') "\n\t\x7d" [] (.code [] false) := rfl
  simpa [goCheck] using (((hif.append hcondition).append hreturn).append hresult).append hend

/-- A member of the receiver. -/
theorem scans_member (h : IsNameText name) {place : Scan}
    (hx : Scans place "x." [] (.code "x.".toList.reverse false)) :
    Scans place ("x." ++ name) [] (.code (name.toList.reverse ++ "x.".toList.reverse) false) :=
  hx.append (scans_path h.isPathText _)

theorem scans_length (h : IsNameText name) (read : List Char) :
    Scans (.code read true) ("utf8.RuneCountInString(" ++ ("x." ++ name) ++ ")")
      ["utf8.RuneCountInString"] (.code [] false) := by
  have hopen : Scans (.code read true) "utf8.RuneCountInString(" ["utf8.RuneCountInString"]
      (.code [] false) := rfl
  have hclose : ∀ read, Scans (.code read false) ")" [] (.code [] false) := fun _ => rfl
  have hx : Scans (.code [] false) "x." [] (.code "x.".toList.reverse false) := rfl
  exact (hopen.append (scans_member h hx)).append (hclose _)

/-- A number is scanned as a name. -/
theorem scans_toString (n : Nat) (read : List Char) :
    Scans (.code read true) (toString n) [] (.code (toString n).toList.reverse false) := by
  obtain ⟨hne, hall⟩ := isWord_toString n
  refine scans_path_ended (fun c hc => ?_) (String.toList_eq_nil_iff.not.mp hne) read
  rw [isPathPart, isNamePart, hall c hc, Bool.true_or, Bool.true_or]

/-- **The text of a rule calls what the rule does**, whatever the names and the texts in it. -/
theorem Rule.scans_goCheck (hname : IsNameText name) (hregexp : IsNameText regexp)
    (hkey : IsNameText key) (r : Rule) (lead : Bool) :
    Scans (.code [] lead) (r.goCheck ("x." ++ name) key regexp) (r.callees regexp)
      (.code [] false) := by
  -- The fixed parts of the text are scanned by computation; what they stand between, by name.
  have hplain : ∀ c ∈ key.toList, c ≠ '"' ∧ c ≠ '\\' := fun c hc =>
    ⟨fun heq => by subst heq; exact absurd (hkey _ hc) (by decide),
      fun heq => by subst heq; exact absurd (hkey _ hc) (by decide)⟩
  have htext := scans_text hplain
  have hx : Scans (.code "if".toList.reverse true) "x." [] (.code "x.".toList.reverse false) := rfl
  have hx' : Scans (.code [] false) "x." [] (.code "x.".toList.reverse false) := rfl
  have hclose : ∀ read, Scans (.code read false) ")" [] (.code [] false) := fun _ => rfl
  have hcloseText : Scans .text "\")" [] (.code [] false) := rfl
  have hcomma : ∀ read, Scans (.code read false) ", " [] (.code [] true) := fun _ => rfl
  have hcommaText : Scans .text "\", " [] (.code [] true) := rfl
  cases r with
  | nonEmpty object =>
    have hequal : ∀ read, Scans (.code read false) " == " [] (.code [] true) := fun _ => rfl
    have hopen : Scans (.code "return".toList.reverse true) "fieldEmptyValidationError(\""
        ["fieldEmptyValidationError"] .text := rfl
    have hleft := (scans_member hname hx).append (hequal _)
    have hresult := (hopen.append htext).append hcloseText
    cases object with
    | true =>
      have hnil : Scans (.code [] true) "nil" [] (.code "nil".toList.reverse false) := rfl
      exact Specloom.scans_goCheck (hleft.append hnil) hresult lead
    | false =>
      have hempty : Scans (.code [] true) "\"\"" [] (.code [] false) := rfl
      exact Specloom.scans_goCheck (hleft.append hempty) hresult lead
  | maxLength limit =>
    have hgreater : Scans (.code [] false) " > " [] (.code [] true) := rfl
    have hopen : Scans (.code "return".toList.reverse true) "fieldLengthValidationError(\""
        ["fieldLengthValidationError"] .text := rfl
    have hlength := (scans_length hname "if".toList.reverse).append hgreater
    have hcond := hlength.append (scans_toString limit _)
    have hfault := ((hopen.append htext).append hcommaText).append (scans_toString limit _)
    have hresult := ((hfault.append (hcomma _)).append (scans_length hname _)).append (hclose _)
    exact Specloom.scans_goCheck hcond hresult lead
  | pattern source =>
    have hdiffers : ∀ read, Scans (.code read false) " != \"\" && !" [] (.code [] false) :=
      fun _ => rfl
    have hmatch : ∀ read, Scans (.code read false) ".MatchString("
        [String.ofList (".MatchString".toList.reverse ++ read).reverse] (.code [] false) :=
      fun _ => rfl
    have hvar : String.ofList (".MatchString".toList.reverse ++
        (regexp.toList.reverse ++ [])).reverse = regexp ++ ".MatchString" := by
      simp [String.ofList_append]
    have hopen : Scans (.code "return".toList.reverse true) "fieldPatternValidationError(\""
        ["fieldPatternValidationError"] .text := rfl
    have hleft := (scans_member hname hx).append (hdiffers _)
    have hcall := (hleft.append (scans_path hregexp.isPathText [])).append (hmatch _)
    have hcond := (hcall.append (scans_member hname hx')).append (hclose _)
    have hresult := (((hopen.append htext).append hcommaText).append
      (scans_literal source [] true)).append (hclose _)
    rw [hvar] at hcond
    exact Specloom.scans_goCheck hcond hresult lead
  | singleLine =>
    have hcall : Scans (.code "if".toList.reverse true) "strings.ContainsAny("
        ["strings.ContainsAny"] (.code [] false) := rfl
    have hends : ∀ read, Scans (.code read false) ", \"\\r\\n\")" [] (.code [] false) :=
      fun _ => rfl
    have hopen : Scans (.code "return".toList.reverse true) "noNewlinesValidationError(\""
        ["noNewlinesValidationError"] .text := rfl
    have hcond := (hcall.append (scans_member hname hx')).append (hends _)
    exact Specloom.scans_goCheck hcond ((hopen.append htext).append hcloseText) lead

end Scanning

/-! ## Scanning a method -/

/-- The names that the checks of a command are made of have characters of names only. -/
structure Command.HasNames (c : Command) : Prop where
  struct : IsNameText (Name.lowerFirst c.structName)
  key : ∀ f ∈ c.fields, IsNameText f.key
  goName : ∀ f ∈ c.fields, IsNameText f.goName

namespace CompiledCommand

variable {c : CompiledCommand}

theorem isNameText_regexpName (h : c.command.HasNames) {f : CommandField} (hf : f ∈ c.command.fields) :
    IsNameText (c.regexpName f) :=
  IsNameText.append (IsNameText.append h.struct (h.goName f hf)) (by decide +kernel)

/-- **The body of the method calls what the rules do**, field by field. -/
theorem callees_goValidation (h : c.command.HasNames)
    (hfields : c.fields.map (·.field) = c.command.fields) :
    Go.callees c.goValidation = c.fields.flatMap fun f =>
      f.field.rules.flatMap (Rule.callees (c.regexpName f.field)) := by
  have hsep : Scans (.code [] false) "\n\t" [] (.code [] true) := rfl
  -- texts and what they call are made field by field, and rule by rule, from the same rules
  have hsame : List.Forall₂ (fun f g => f = g ∧ f ∈ c.fields) c.fields c.fields :=
    List.forall₂_same.mpr fun f hf => ⟨rfl, hf⟩
  have hscans : List.Forall₂ (fun text called => ∀ ended,
        Scans (.code [] ended) text called (.code [] false))
      (c.fields.flatMap fun f => f.field.rules.map
        (Rule.goCheck ("x." ++ f.field.goName) f.field.key (c.regexpName f.field)))
      (c.fields.flatMap fun f => f.field.rules.map (Rule.callees (c.regexpName f.field))) := by
    refine List.rel_flatMap hsame ?_
    rintro f _ ⟨rfl, hf⟩
    rw [List.forall₂_map_left_iff, List.forall₂_map_right_iff, List.forall₂_same]
    have hmem : f.field ∈ c.command.fields := hfields ▸ List.mem_map_of_mem hf
    exact fun r _ => r.scans_goCheck (h.goName _ hmem) (isNameText_regexpName h hmem) (h.key _ hmem)
  obtain ⟨next, hnext⟩ := exists_scans_intercalate hsep hscans false
  rw [goValidation, hnext.callees_eq, ← List.flatMap_id, List.flatMap_assoc]
  simp only [List.flatMap_map, id_eq]

/-- What the body calls, and the field and the rule that call it. -/
theorem mem_callees_goValidation (h : c.command.HasNames)
    (hfields : c.fields.map (·.field) = c.command.fields) {callee : String} :
    callee ∈ Go.callees c.goValidation ↔ ∃ f ∈ c.command.fields, ∃ r ∈ f.rules,
      callee ∈ r.callees (c.regexpName f) := by
  rw [callees_goValidation h hfields, ← hfields]
  simp

end CompiledCommand

/-! ## Rules told by calls -/

/-- The call of a method of a regular expression is no other call. -/
theorem append_matchString_ne {var callee : String}
    (h : ¬ ".MatchString".toList <:+ callee.toList) : var ++ ".MatchString" ≠ callee := by
  rintro rfl
  rw [String.toList_append] at h
  exact h (List.suffix_append _ _)

namespace Rule

variable {var regexp : String} {r : Rule}

theorem runeCount_mem_callees :
    "utf8.RuneCountInString" ∈ r.callees regexp ↔ r.isMaxLength = true := by
  have hne : regexp ++ ".MatchString" ≠ "utf8.RuneCountInString" :=
    append_matchString_ne (by decide +kernel)
  cases r <;> simp [callees, isMaxLength, hne.symm]

theorem containsAny_mem_callees : "strings.ContainsAny" ∈ r.callees regexp ↔ r = .singleLine := by
  have hne : regexp ++ ".MatchString" ≠ "strings.ContainsAny" :=
    append_matchString_ne (by decide +kernel)
  cases r <;> simp [callees, hne.symm]

/-- A rule that matches a regular expression calls a method of its variable, and no other one. -/
theorem matchString_mem_callees :
    var ++ ".MatchString" ∈ r.callees regexp ↔ r.isPattern = true ∧ var = regexp := by
  have hne : ∀ callee ∈ ["fieldEmptyValidationError", "utf8.RuneCountInString",
      "fieldLengthValidationError", "fieldPatternValidationError", "strings.ContainsAny",
      "noNewlinesValidationError"], var ++ ".MatchString" ≠ callee := by
    have hsuffix : ∀ callee ∈ ["fieldEmptyValidationError", "utf8.RuneCountInString",
        "fieldLengthValidationError", "fieldPatternValidationError", "strings.ContainsAny",
        "noNewlinesValidationError"], ¬ ".MatchString".toList <:+ callee.toList := by
      decide +kernel
    exact fun callee hcallee => append_matchString_ne (hsuffix callee hcallee)
  simp only [List.forall_mem_cons] at hne
  obtain ⟨hempty, hcount, hlength, hpattern, hends, hlines, -⟩ := hne
  cases r <;> simp [callees, isPattern, *]

end Rule

end Specloom
