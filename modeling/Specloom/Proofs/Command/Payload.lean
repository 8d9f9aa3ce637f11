import Specloom.Proofs.Command.Compiled

/-!
# Payloads of commands

What a command asks of a payload, field by field and without a mention of rules: which values a field
admits, and in what ways a value that it does not admit fails. A compiled command accepts a payload
exactly if every field admits its value, and otherwise finds the first failure of the first field
that has one.

## Main definitions

* `CommandField.Admits`: the values that a field admits
* `CommandField.Fails`: the ways in which a value fails a field
* `CommandField.FirstFails`: the first of these ways

## Main results

* `CommandField.admits_iff`: a field admits the values that do not fail it
* `CompiledField.check_eq_ok_iff`, `CompiledField.check_eq_error_iff`: checking one value
* `Command.validate_of_compile`: checking a payload
-/

namespace Specloom

/-! ## What a field asks -/

namespace CommandField

/-- What a field for texts of any wording asks of a text. The empty text is not matched. -/
@[mk_iff]
structure AdmitsText (f : CommandField) (text : String) : Prop where
  nonEmpty : f.optional = true ∨ text ≠ ""
  length : text.length ≤ f.maxLength.getD f.type.defaultLength
  pattern : ∀ source, f.validationRegex = some source → text = "" ∨
    ∃ pattern, Regex.Pattern.compile source = .ok pattern ∧ pattern.isMatch text = true
  lines : f.type = .multiline ∨ '\r' ∉ text.toList ∧ '\n' ∉ text.toList

/-- What a field asks of the value at its key. Truth values, numbers and dates pass as they are. -/
def Admits (f : CommandField) (value : Option Json.Node) : Prop :=
  match f.type with
  | .text | .password | .multiline => f.AdmitsText (Json.Node.textOrEmpty value)
  | .custom .string | .custom (.enum _) =>
    f.optional = true ∨ Json.Node.textOrEmpty value ≠ ""
  | .custom (.struct _) => f.optional = true ∨ ∃ node, value = some node ∧ node ≠ .null
  | .custom .integer | .checkbox | .integer | .date | .datetime => True

/-- The ways in which the value at the key of a field fails the field. -/
inductive Fails (f : CommandField) (value : Option Json.Node) : FieldFault → Prop where
  | emptyText (htype : f.type.isTextual = true) (hrequired : f.optional = false)
      (hempty : Json.Node.textOrEmpty value = "") : Fails f value (.empty f.key)
  | absent (htype : f.type.isObject = true) (hrequired : f.optional = false)
      (habsent : value = none ∨ value = some .null) : Fails f value (.empty f.key)
  | tooLong (htype : f.type.isFreeText = true)
      (hlong : f.maxLength.getD f.type.defaultLength < (Json.Node.textOrEmpty value).length) :
      Fails f value (.tooLong f.key (f.maxLength.getD f.type.defaultLength)
        (Json.Node.textOrEmpty value).length)
  | patternMismatch {source : String} {pattern : Regex.Pattern}
      (htype : f.type.isFreeText = true) (hsource : f.validationRegex = some source)
      (hcompile : Regex.Pattern.compile source = .ok pattern)
      (hfull : Json.Node.textOrEmpty value ≠ "")
      (hmatch : pattern.isMatch (Json.Node.textOrEmpty value) = false) :
      Fails f value (.patternMismatch f.key source)
  | newlines (htype : f.type.isSingleLine = true)
      (hlines : '\r' ∈ (Json.Node.textOrEmpty value).toList ∨
        '\n' ∈ (Json.Node.textOrEmpty value).toList) : Fails f value (.newlines f.key)

end CommandField

/-- The place of a failure among the checks of a field. -/
def FieldFault.rank : FieldFault → Nat
  | .empty _ => 0
  | .tooLong .. => 1
  | .patternMismatch .. => 2
  | .newlines _ => 3

/-- The first way in which a value fails a field: empty, too long, without a match, on several
lines. -/
def CommandField.FirstFails (f : CommandField) (value : Option Json.Node) (fault : FieldFault) :
    Prop :=
  f.Fails value fault ∧ ∀ other, f.Fails value other → fault.rank ≤ other.rank

theorem Json.Node.not_absent_iff {value : Option Json.Node} :
    ¬ (value = none ∨ value = some .null) ↔ ∃ node, value = some node ∧ node ≠ .null := by
  cases value <;> simp

namespace CommandField

variable {f : CommandField} {value : Option Json.Node}

/-- What it means that a value does not fail a field, check by check. -/
theorem forall_not_fails_iff (hregex : ∀ source, f.validationRegex = some source →
      ∃ pattern, Regex.Pattern.compile source = .ok pattern) :
    (∀ fault, ¬ f.Fails value fault) ↔
      (f.type.isTextual = true → f.optional = true ∨ Json.Node.textOrEmpty value ≠ "") ∧
      (f.type.isObject = true → f.optional = true ∨ ∃ node, value = some node ∧ node ≠ .null) ∧
      (f.type.isFreeText = true →
        (Json.Node.textOrEmpty value).length ≤ f.maxLength.getD f.type.defaultLength) ∧
      (f.type.isFreeText = true → ∀ source, f.validationRegex = some source →
        Json.Node.textOrEmpty value = "" ∨ ∃ pattern, Regex.Pattern.compile source = .ok pattern ∧
          pattern.isMatch (Json.Node.textOrEmpty value) = true) ∧
      (f.type.isSingleLine = true → '\r' ∉ (Json.Node.textOrEmpty value).toList ∧
        '\n' ∉ (Json.Node.textOrEmpty value).toList) := by
  constructor
  · intro h
    -- a check that did not hold would be a failure
    refine ⟨?_, ?_, ?_, ?_, ?_⟩
    · intro htype
      by_contra hempty
      rw [not_or, Bool.not_eq_true, not_not] at hempty
      exact h _ (.emptyText htype hempty.1 hempty.2)
    · intro htype
      by_contra habsent
      rw [not_or, Bool.not_eq_true] at habsent
      refine h _ (.absent htype habsent.1 ?_)
      by_contra hpresent
      exact habsent.2 (Json.Node.not_absent_iff.mp hpresent)
    · intro htype
      by_contra hlong
      exact h _ (.tooLong htype (Nat.lt_of_not_le hlong))
    · intro htype source hsource
      obtain ⟨pattern, hcompile⟩ := hregex source hsource
      by_contra hmatch
      rw [not_or] at hmatch
      refine h _ (.patternMismatch htype hsource hcompile hmatch.1 (Bool.eq_false_iff.mpr ?_))
      intro hmatches
      exact hmatch.2 ⟨pattern, hcompile, hmatches⟩
    · intro htype
      by_contra hmem
      rw [not_and_or, not_not, not_not] at hmem
      exact h _ (.newlines htype hmem)
  · rintro ⟨hempty, habsent, hlength, hpattern, hlines⟩ fault hfails
    cases hfails with
    | emptyText htype hrequired htext =>
      exact (hempty htype).elim (Bool.eq_false_iff.mp hrequired) fun hfull => hfull htext
    | absent htype hrequired hvalue =>
      refine (habsent htype).elim (Bool.eq_false_iff.mp hrequired) fun hpresent => ?_
      exact Json.Node.not_absent_iff.mpr hpresent hvalue
    | tooLong htype hlong => exact Nat.not_lt_of_le (hlength htype) hlong
    | patternMismatch htype hsource hcompile hfull hmatch =>
      rcases hpattern htype _ hsource with htext | ⟨pattern, hcompile', hmatch'⟩
      · exact hfull htext
      · rw [hcompile] at hcompile'
        cases hcompile'
        rw [hmatch] at hmatch'
        cases hmatch'
    | newlines htype hmem => exact hmem.elim (hlines htype).1 (hlines htype).2

/-- **A field admits the values that do not fail it**, where its regular expression can be read. -/
theorem admits_iff (hregex : ∀ source, f.validationRegex = some source →
      ∃ pattern, Regex.Pattern.compile source = .ok pattern) :
    f.Admits value ↔ ∀ fault, ¬ f.Fails value fault := by
  rw [forall_not_fails_iff hregex, Admits]
  cases htype : f.type with
  | text | password | multiline =>
    simp [admitsText_iff, htype, FieldType.isTextual, FieldType.isFreeText, FieldType.isObject,
      FieldType.isSingleLine]
  | checkbox | integer | date | datetime =>
    simp [FieldType.isTextual, FieldType.isFreeText, FieldType.isObject, FieldType.isSingleLine]
  | custom type =>
    cases type <;>
      simp [FieldType.isTextual, FieldType.isFreeText, FieldType.isObject, FieldType.isSingleLine]

end CommandField

/-! ## The order of rules -/

/-- The place of a rule among the rules of a field. -/
def Rule.rank : Rule → Nat
  | .nonEmpty _ => 0
  | .maxLength _ => 1
  | .pattern _ => 2
  | .singleLine => 3

theorem Rule.rank_of_check {key : String} {isMatch : String → Bool} {value : Option Json.Node}
    {r : Rule} {fault : FieldFault} (h : r.check key isMatch value = .error fault) :
    fault.rank = r.rank := by
  rcases r with (_ | _) | limit | source | _ <;>
    obtain ⟨-, rfl⟩ := ite_eq_error_iff.mp h <;> rfl

theorem pairwise_textRules (f : CommandField) (length : Nat) :
    (f.textRules length).Pairwise fun r s => r.rank < s.rank := by
  unfold CommandField.textRules
  cases f.optional <;> cases f.validationRegex <;> cases f.type.isSingleLine <;> simp [Rule.rank]

/-- A field has its rules in the order of their ranks, and none twice. -/
theorem pairwise_rules (f : CommandField) : f.rules.Pairwise fun r s => r.rank < s.rank := by
  unfold CommandField.rules
  cases f.type with
  | text | password | multiline => exact pairwise_textRules f _
  | checkbox | integer | date | datetime => exact .nil
  | custom type => cases type <;> cases f.optional <;> simp

/-! ## Checking a value -/

theorem Json.Node.isAbsent_iff {value : Option Json.Node} :
    Json.Node.isAbsent value = true ↔ value = none ∨ value = some .null := by
  rcases value with _ | (_ | _ | _ | _ | _ | _ | _) <;> simp [Json.Node.isAbsent]

namespace CompiledField

variable {module : String} {c : Command} {f : CompiledField} {value : Option Json.Node}
  {fault : FieldFault}

/-- What a rule finds is a failure. -/
theorem fails_of_check (h : c.compileField module f.field = .ok f) {r : Rule}
    (hr : r ∈ f.field.rules) (hcheck : r.check f.field.key f.isMatch value = .error fault) :
    f.field.Fails value fault := by
  rw [mem_rules_iff] at hr
  rcases r with (_ | _) | limit | source | _ <;>
    obtain ⟨hbroken, rfl⟩ := ite_eq_error_iff.mp hcheck
  case nonEmpty.false => exact .emptyText hr.1 hr.2 hbroken
  case nonEmpty.true => exact .absent hr.1 hr.2 (Json.Node.isAbsent_iff.mp hbroken)
  case maxLength =>
    obtain ⟨htype, rfl⟩ := hr
    exact .tooLong htype hbroken
  case pattern =>
    obtain ⟨pattern, hcompile, hpattern⟩ := Command.exists_pattern_of_compileField h hr.2
    refine .patternMismatch hr.1 hr.2 hcompile hbroken.1 ?_
    simpa [isMatch, hpattern] using hbroken.2
  case singleLine => exact .newlines hr (by simpa using hbroken)

/-- A failure is what a rule finds. -/
theorem exists_check_of_fails (h : c.compileField module f.field = .ok f)
    (hfails : f.field.Fails value fault) :
    ∃ r ∈ f.field.rules, r.check f.field.key f.isMatch value = .error fault := by
  cases hfails with
  | emptyText htype hrequired hempty =>
    exact ⟨.nonEmpty false, mem_rules_iff.mpr ⟨htype, hrequired⟩, if_pos hempty⟩
  | absent htype hrequired habsent =>
    exact ⟨.nonEmpty true, mem_rules_iff.mpr ⟨htype, hrequired⟩,
      if_pos (Json.Node.isAbsent_iff.mpr habsent)⟩
  | tooLong htype hlong => exact ⟨.maxLength _, mem_rules_iff.mpr ⟨htype, rfl⟩, if_pos hlong⟩
  | patternMismatch htype hsource hcompile hfull hmatch =>
    refine ⟨.pattern _, mem_rules_iff.mpr ⟨htype, hsource⟩, if_pos ⟨hfull, ?_⟩⟩
    -- the pattern that the field was compiled with is that of its regular expression
    obtain ⟨pattern, hcompile', hpattern⟩ := Command.exists_pattern_of_compileField h hsource
    rw [hcompile] at hcompile'
    cases hcompile'
    simpa [isMatch, hpattern] using hmatch
  | newlines htype hlines =>
    exact ⟨.singleLine, mem_rules_iff.mpr htype, if_pos (by simpa using hlines)⟩

/-- **A check that is refused has found the first failure of the value.** -/
theorem check_eq_error_iff (h : c.compileField module f.field = .ok f) :
    f.check value = .error fault ↔ f.field.FirstFails value fault := by
  -- the rules come in the order of their ranks, so the first that is broken has the least
  rw [check, forM_eq_error_iff_of_pairwise (pairwise_rules f.field) fun _ _ _ => Rule.rank_of_check]
  constructor
  · rintro ⟨⟨r, hr, hcheck⟩, hleast⟩
    refine ⟨fails_of_check h hr hcheck, fun other hother => ?_⟩
    obtain ⟨s, hs, hcheck'⟩ := exists_check_of_fails h hother
    exact hleast s hs other hcheck'
  · rintro ⟨hfails, hleast⟩
    exact ⟨exists_check_of_fails h hfails, fun r hr other hother =>
      hleast other (fails_of_check h hr hother)⟩

/-- **A check that is passed has found a value that the field admits.** -/
theorem check_eq_ok_iff (h : c.compileField module f.field = .ok f) :
    f.check value = .ok () ↔ f.field.Admits value := by
  have hregex : ∀ source, f.field.validationRegex = some source →
      ∃ pattern, Regex.Pattern.compile source = .ok pattern := by
    intro source hsource
    obtain ⟨pattern, hcompile, -⟩ := Command.exists_pattern_of_compileField h hsource
    exact ⟨pattern, hcompile⟩
  rw [check, forM_eq_ok, CommandField.admits_iff hregex]
  constructor
  · intro hpass fault hfails
    obtain ⟨r, hr, hcheck⟩ := exists_check_of_fails h hfails
    rw [hpass r hr] at hcheck
    cases hcheck
  · intro hnone r hr
    cases hcheck : r.check f.field.key f.isMatch value with
    | ok u => rfl
    | error fault => exact absurd (fails_of_check h hr hcheck) (hnone fault)

end CompiledField

/-! ## Checking a payload -/

/-- **A compiled command checks a payload by what its fields ask**: it accepts the payload exactly if
every field admits the value at its key. Otherwise it finds the first failure of the first field, in
the order of declaration, that does not admit its value. -/
theorem Command.validate_of_compile {module : String} {c : Command} {compiled : CompiledCommand}
    (h : c.compile module = .ok compiled) (payload : Json.Node) :
    (compiled.validate payload = .ok () ↔ ∀ f ∈ c.fields, f.Admits (payload.member? f.key)) ∧
      ∀ fault, compiled.validate payload = .error fault ↔ ∃ before f after,
        c.fields = before ++ f :: after ∧ f.FirstFails (payload.member? f.key) fault ∧
          ∀ g ∈ before, g.Admits (payload.member? g.key) := by
  have hok : ∀ f ∈ compiled.fields, f.check (payload.member? f.field.key) = .ok () ↔
      f.field.Admits (payload.member? f.field.key) :=
    fun f hf => CompiledField.check_eq_ok_iff (compileField_of_mem h hf)
  have herror : ∀ fault, ∀ f ∈ compiled.fields,
      f.check (payload.member? f.field.key) = .error fault ↔
        f.field.FirstFails (payload.member? f.field.key) fault :=
    fun _ f hf => CompiledField.check_eq_error_iff (compileField_of_mem h hf)
  rw [← fields_of_compile h]
  constructor
  · rw [CompiledCommand.validate, forM_eq_ok, List.forall_mem_map]
    exact forall₂_congr hok
  · intro fault
    rw [CompiledCommand.validate, forM_eq_error_iff, exists_first_map]
    exact exists_first_congr (herror fault) hok

/-- A command with a name, a text of several lines that may be left out, and an object. -/
def Command.editProfile : Command where
  key := "profile.edit"
  title := ""
  nature := .update
  confirmation := none
  chain := ""
  args := []
  fields := [
    ⟨"name", "", .text, none, some "^[a-z]+$", some 5, false, false, "", ""⟩,
    ⟨"about", "", .multiline, none, none, none, true, false, "", ""⟩,
    ⟨"owner", "", .custom (.struct ⟨none, "Owner"⟩), none, none, none, false, false, "", ""⟩]
  info := []

/-- A name that is too long is found before its capital and before the owner that is not there. -/
theorem Command.validate_of_compile_editProfile :
    ∃ compiled, editProfile.compile "profiles" = .ok compiled ∧
      compiled.validate (.object [("name", .string "ann"), ("about", .string "a\nb"),
        ("owner", .object [] none)] none) = .ok () ∧
      compiled.validate (.object [("name", .string "Annabel"), ("owner", .null)] none) =
        .error (.tooLong "name" 5 7) := by
  have hok : (editProfile.compile "profiles").isOk = true := by decide +kernel
  cases hcompile : editProfile.compile "profiles" with
  | error e =>
    rw [hcompile] at hok
    cases hok
  | ok compiled =>
    refine ⟨compiled, rfl, (validate_of_compile hcompile _).1.mpr ?_,
      ((validate_of_compile hcompile _).2 _).mpr ⟨[], _, _, rfl, ⟨?_, ?_⟩, List.forall_mem_nil _⟩⟩
    · refine List.forall_mem_cons.mpr ⟨⟨.inr (by decide), by decide, ?_, .inr (by decide)⟩,
        List.forall_mem_cons.mpr ⟨⟨.inl rfl, by decide, by rintro _ ⟨⟩, .inl rfl⟩,
          List.forall_mem_singleton.mpr (.inr ⟨_, rfl, by rintro ⟨⟩⟩)⟩⟩
      rintro _ ⟨⟩
      exact .inr ⟨_, by rfl, by decide +kernel⟩
    · exact .tooLong rfl (by decide)
    · intro other hother
      cases hother with
      | emptyText _ _ hempty => exact absurd hempty (by decide)
      | absent htype => cases htype
      | tooLong => exact Nat.le_refl _
      | patternMismatch => exact Nat.le_succ 1
      | newlines => decide
end Specloom
