import Specloom.Context.Commands
import Specloom.Module.Valid
import Specloom.Proofs.Checked

/-!
# Accepted commands

A command that is accepted compiles field by field, and the templates see it.

## Main definitions

* `CommandView.Shows`: what a view shows of a compiled command
* `FieldType.isTextual`, `FieldType.isObject`: the types whose values are texts or objects
* `Rule.AppliesTo`: the fields that a rule is for

## Main results

* `Command.compile_eq_ok`: what compiling a command has done
* `Command.exists_view`: a command that is accepted has a view
* `mem_rules_iff`: the rules of a field
-/

namespace Specloom

/-- A view shows of a compiled command its struct, its checks and its regular expressions. -/
structure CommandView.Shows (view : CommandView) (compiled : CompiledCommand) : Prop where
  goFields : view.goFields =
    compiled.fields.map fun f => ⟨f.field.goName, f.types.go, f.field.key⟩
  goValidation : view.goValidation = compiled.goValidation
  regexps : view.regexps = compiled.regexps

/-! ## Compiling -/

namespace Command

variable {module : String} {c : Command} {f : CommandField}

theorem compileField_eq_ok {compiled : CompiledField} :
    c.compileField module f = .ok compiled ↔ compiled.field = f ∧
      c.fieldPattern module f = .ok compiled.pattern ∧
      c.fieldTexts module f = .ok compiled.types := by
  rw [compileField]
  simp only [bind_eq_ok, pure_eq_ok]
  constructor
  · rintro ⟨pattern, hpattern, types, htypes, rfl⟩
    exact ⟨rfl, hpattern, htypes⟩
  · rintro ⟨rfl, hpattern, htypes⟩
    exact ⟨_, hpattern, _, htypes, rfl⟩

/-- A field that compiles has the pattern that its regular expression compiles to. -/
theorem exists_pattern_of_compileField {compiled : CompiledField} {source : String}
    (h : c.compileField module f = .ok compiled) (hsource : f.validationRegex = some source) :
    ∃ pattern, Regex.Pattern.compile source = .ok pattern ∧ compiled.pattern = some pattern := by
  obtain ⟨-, hpattern, -⟩ := compileField_eq_ok.mp h
  rw [fieldPattern, hsource] at hpattern
  cases hcompile : Regex.Pattern.compile source with
  | error fault => simp [hcompile] at hpattern
  | ok pattern =>
    simp only [hcompile, Except.ok.injEq] at hpattern
    exact ⟨pattern, rfl, hpattern.symm⟩

theorem compile_eq_ok {compiled : CompiledCommand} :
    c.compile module = .ok compiled ↔ compiled.command = c ∧
      List.Forall₂ (fun f g => c.compileField module f = .ok g) c.fields compiled.fields := by
  rw [compile, bind_eq_ok]
  constructor
  · rintro ⟨fields, hfields, h⟩
    cases h
    exact ⟨rfl, mapM_eq_ok.mp hfields⟩
  · rintro ⟨rfl, h⟩
    exact ⟨_, mapM_eq_ok.mpr h, rfl⟩

theorem fields_of_compile {compiled : CompiledCommand} (h : c.compile module = .ok compiled) :
    compiled.fields.map (·.field) = c.fields := by
  obtain ⟨-, hfields⟩ := compile_eq_ok.mp h
  have hfield : List.Forall₂ (fun f (g : CompiledField) => f = g.field) c.fields compiled.fields :=
    hfields.imp fun _ _ hg => (compileField_eq_ok.mp hg).1.symm
  exact (List.forall₂_eq_eq_eq ▸ List.forall₂_map_right_iff.mpr hfield : _ = _).symm

/-- Every compiled field is what a field of the command compiles to. -/
theorem compileField_of_mem {compiled : CompiledCommand} (h : c.compile module = .ok compiled)
    {g : CompiledField} (hg : g ∈ compiled.fields) : c.compileField module g.field = .ok g := by
  obtain ⟨f, -, hf⟩ := exists_mem_of_mapM (mapM_eq_ok.mpr (compile_eq_ok.mp h).2) hg
  rwa [(compileField_eq_ok.mp hf).1]

/-- **A command that is accepted has a view**: it compiles, and every field has a widget. -/
theorem exists_view {m : Module} (h : m.checkCommand c = .ok ()) :
    ∃ compiled view, c.compile m.id = .ok compiled ∧ c.view m.id = .ok view ∧
      view.Shows compiled := by
  rw [Module.checkCommand] at h
  obtain ⟨compiled, hcompiled, hwidgets⟩ := bind_eq_ok.mp h
  rw [forM_eq_ok] at hwidgets
  have hwidget : ∀ f ∈ c.fields, ∃ widget, c.widget m.id f = .ok widget := by
    intro f hf
    obtain ⟨widget, hwidget, -⟩ := map_eq_ok.mp (hwidgets f hf)
    exact ⟨widget, hwidget⟩
  obtain ⟨widgets, hmap⟩ := exists_mapM_eq_ok hwidget
  exact ⟨compiled, _, hcompiled,
    bind_eq_ok.mpr ⟨compiled, hcompiled, bind_eq_ok.mpr ⟨widgets, hmap, rfl⟩⟩, ⟨rfl, rfl, rfl⟩⟩

end Command

/-! ## Rules -/

namespace FieldType

/-- Whether the values of a type are texts. -/
def isTextual : FieldType → Bool
  | .text | .multiline | .password | .custom .string | .custom (.enum _) => true
  | _ => false

/-- Whether the values of a type are texts of any wording. -/
def isFreeText : FieldType → Bool
  | .text | .multiline | .password => true
  | _ => false

/-- Whether the values of a type are objects. -/
def isObject : FieldType → Bool
  | .custom (.struct _) => true
  | _ => false

/-- The greatest length of a text, unless the field has its own. -/
def defaultLength : FieldType → Nat
  | .multiline => 4096
  | _ => 128

variable {type : FieldType}

theorem isTextual_of_isFreeText (h : type.isFreeText = true) : type.isTextual = true := by
  cases type with
  | text | multiline | password => rfl
  | checkbox | integer | date | datetime | custom _ => cases h

theorem isFreeText_of_isSingleLine (h : type.isSingleLine = true) : type.isFreeText = true := by
  cases type with
  | text | password => rfl
  | multiline | checkbox | integer | date | datetime | custom _ => cases h

end FieldType

/-- Whether a rule is for a field. -/
def Rule.AppliesTo (f : CommandField) : Rule → Prop
  | .nonEmpty true => f.type.isObject = true ∧ f.optional = false
  | .nonEmpty false => f.type.isTextual = true ∧ f.optional = false
  | .maxLength limit =>
    f.type.isFreeText = true ∧ limit = f.maxLength.getD f.type.defaultLength
  | .pattern source => f.type.isFreeText = true ∧ f.validationRegex = some source
  | .singleLine => f.type.isSingleLine = true

variable {f : CommandField} {r : Rule}

theorem mem_textRules_iff {length : Nat} :
    r ∈ f.textRules length ↔ f.optional = false ∧ r = .nonEmpty false ∨
      r = .maxLength (f.maxLength.getD length) ∨
      (∃ source, f.validationRegex = some source ∧ .pattern source = r) ∨
      f.type.isSingleLine = true ∧ r = .singleLine := by
  simp [CommandField.textRules]

/-- The rules of a field are those that are for it. -/
theorem mem_rules_iff : r ∈ f.rules ↔ r.AppliesTo f := by
  unfold CommandField.rules
  cases htype : f.type with
  | text | multiline | password =>
    simp only [mem_textRules_iff, htype]
    rcases r with (_ | _) | limit | source | _ <;>
      simp [Rule.AppliesTo, htype, FieldType.isTextual, FieldType.isFreeText, FieldType.isObject,
        FieldType.isSingleLine, FieldType.defaultLength, defaultMaxLength, defaultMultilineMaxLength]
  | checkbox | integer | date | datetime =>
    rcases r with (_ | _) | limit | source | _ <;>
      simp [Rule.AppliesTo, htype, FieldType.isTextual, FieldType.isFreeText, FieldType.isObject,
        FieldType.isSingleLine]
  | custom type =>
    cases type <;> rcases r with (_ | _) | limit | source | _ <;>
      simp [Rule.AppliesTo, htype, FieldType.isTextual, FieldType.isFreeText, FieldType.isObject,
        FieldType.isSingleLine]

/-- A rule of a field is for an object or for a text, and a pattern is that of the field. -/
theorem mem_rules (h : r ∈ f.rules) :
    r = .nonEmpty true ∧ f.type.isObject = true ∨
      r ≠ .nonEmpty true ∧ f.type.isTextual = true ∧
        ∀ source, r = .pattern source → f.validationRegex = some source := by
  rw [mem_rules_iff] at h
  rcases r with (_ | _) | limit | source | _
  case nonEmpty.true => exact .inl ⟨rfl, h.1⟩
  case nonEmpty.false => exact .inr ⟨by simp, h.1, by simp⟩
  case maxLength => exact .inr ⟨by simp, FieldType.isTextual_of_isFreeText h.1, by simp⟩
  case pattern =>
    refine .inr ⟨by simp, FieldType.isTextual_of_isFreeText h.1, ?_⟩
    rintro _ ⟨⟩
    exact h.2
  case singleLine =>
    have hfree := FieldType.isFreeText_of_isSingleLine h
    exact .inr ⟨by simp, FieldType.isTextual_of_isFreeText hfree, by simp⟩

theorem pattern_of_mem_rules {source : String} (h : .pattern source ∈ f.rules) :
    f.validationRegex = some source :=
  (mem_rules_iff.mp h).2

end Specloom
