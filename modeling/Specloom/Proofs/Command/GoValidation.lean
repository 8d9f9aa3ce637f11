import Mathlib.Data.List.Nodup
import Specloom.Proofs.Command.Compiled
import Specloom.Proofs.Command.GoCheck
import Specloom.Proofs.Command.Names

/-!
# Generated checks of commands

A command checks payloads twice: as it is compiled, and by the method that the generated code has.
Read as statements and run on the struct that a payload is decoded to, the body of the method finds
the same fault.

## Main definitions

* `CommandView.member?`: the struct that a payload is decoded to
* `CommandView.pattern?`: the regular expression that a variable is declared with
* `CommandView.runValidation?`: how the method ends

## Main results

* `CompiledCommand.statements?_goValidation`: the body of the method is one statement a rule
* `Command.runValidation?_eq_validate`: the method checks as the compiled command does
-/

namespace Specloom

open Go Specloom.Path Text

/-! ## What the method runs on -/

/-- The text that a value is decoded to: an absent one is empty, and what is no text is refused. -/
def Json.Node.decodeText? : Option Json.Node → Option String
  | none | some .null => some ""
  | some (.string s) => some s
  | _ => none

/-- The member that a field is decoded to. -/
def CommandField.decode? (f : CommandField) (value : Option Json.Node) : Option Go.Value :=
  if f.type.isTextual then (Json.Node.decodeText? value).map .text
  else if f.type.isObject then some (if Json.Node.isAbsent value then .nil else .pointer)
  else some .other

/-- A member of the struct that a payload is decoded to: the struct declares the key that the member
is read from, and the field with that key says what its values are. -/
def CommandView.member? (view : CommandView) (c : Command) (payload : Json.Node) (name : String) :
    Option Go.Value := do
  let member ← view.goFields.find? (·.name == name)
  let f ← c.fields.find? (·.key == member.key)
  f.decode? (payload.member? member.key)

/-- The regular expression that a literal is compiled to. -/
def patternOfLiteral? (literal : String) : Option Regex.Pattern := do
  let [.text source] ← tokens? literal | none
  (Regex.Pattern.compile source).toOption

/-- The regular expression that a variable is declared with. -/
def CommandView.pattern? (view : CommandView) (var : String) : Option Regex.Pattern := do
  let r ← view.regexps.find? (·.var == var)
  patternOfLiteral? r.pattern

/-- How the method of the generated code ends on a payload. -/
def CommandView.runValidation? (view : CommandView) (c : Command) (payload : Json.Node) :
    Option (Except FieldFault Unit) := do
  let statements ← statements? view.goValidation
  run? ⟨view.member? c payload, view.pattern?⟩ statements

/-! ## Reading the method -/

namespace CompiledCommand

variable {c : CompiledCommand}

/-- The rules of all fields as statements, in order. -/
def statements (c : CompiledCommand) : List Go.Statement :=
  c.fields.flatMap fun f =>
    f.field.rules.map (Rule.statement f.field.goName f.field.key (c.regexpName f.field))

/-- **The body of the method is read as one statement a rule**, field by field. -/
theorem statements?_goValidation
    (hkey : ∀ part ∈ splitOn '.' c.command.key.toList, isIdent part = true)
    (hfields : ∀ f ∈ c.fields, isIdent f.field.key.toList = true) :
    statements? c.goValidation = some c.statements := by
  apply statements?_intercalate
  -- texts and statements are made field by field, and rule by rule, from the same rules
  have hsame : List.Forall₂ (fun f g => f = g ∧ f ∈ c.fields) c.fields c.fields :=
    List.forall₂_same.mpr fun f hf => ⟨rfl, hf⟩
  refine List.rel_flatMap hsame ?_
  rintro f _ ⟨rfl, hf⟩
  rw [List.forall₂_map_left_iff, List.forall₂_map_right_iff, List.forall₂_same]
  intro r _
  -- no key needs an escape
  have hplain : ∀ d ∈ f.field.key.toList, d ≠ '"' ∧ d ≠ '\\' ∧ d ≠ '\n' := by
    intro d hd
    have hpart := isIdentPart_of_isIdent (hfields f hf) d hd
    refine ⟨?_, ?_, ?_⟩ <;>
    · rintro rfl
      cases hpart
  exact r.isStatement_goCheck (isWord_goName (hfields f hf))
    (isWord_regexpName hkey (hfields f hf)) hplain

end CompiledCommand

/-! ## Running the method -/

theorem find?_eq_some_of_unique {α : Type} {p : α → Bool} {xs : List α} {a : α} (ha : a ∈ xs)
    (hp : p a = true) (h : ∀ x ∈ xs, p x = true → x = a) : xs.find? p = some a := by
  cases hfind : xs.find? p with
  | none => exact absurd hp (List.find?_eq_none.mp hfind a ha)
  | some b => rw [h b (List.mem_of_find?_eq_some hfind) (List.find?_some hfind)]

/-- A member is decoded from the field that it is named after. -/
theorem CommandView.member?_goName {module : String} {c : Command} {compiled : CompiledCommand}
    {view : CommandView} (hcompile : c.compile module = .ok compiled) (hview : view.Shows compiled)
    (hnames : (compiled.fields.map (·.field.goName)).Nodup) {f : CompiledField}
    (hf : f ∈ compiled.fields) (payload : Json.Node) :
    view.member? c payload f.field.goName = f.field.decode? (payload.member? f.field.key) := by
  have hmember : view.goFields.find? (·.name == f.field.goName) =
      some ⟨f.field.goName, f.types.go, f.field.key⟩ := by
    rw [hview.goFields]
    refine find?_eq_some_of_unique (List.mem_map.mpr ⟨f, hf, rfl⟩) (beq_self_eq_true _) ?_
    intro member hmember hname
    obtain ⟨g, hg, rfl⟩ := List.mem_map.mp hmember
    rw [List.inj_on_of_nodup_map hnames hg hf (beq_iff_eq.mp hname)]
  have hfield : c.fields.find? (·.key == f.field.key) = some f.field := by
    rw [← Command.fields_of_compile hcompile]
    refine find?_eq_some_of_unique (List.mem_map_of_mem hf) (beq_self_eq_true _) ?_
    intro field hfield hkey
    obtain ⟨g, hg, rfl⟩ := List.mem_map.mp hfield
    -- fields with one key have one name, so they are the same
    have hname : g.field.goName = f.field.goName := congrArg Name.upperFirst (beq_iff_eq.mp hkey)
    rw [List.inj_on_of_nodup_map hnames hg hf hname]
  rw [member?, hmember, Option.bind_eq_bind, Option.bind_some, hfield]
  rfl

theorem patternOfLiteral?_literal (source : String) :
    patternOfLiteral? (QuoteStyle.double.literal source) =
      (Regex.Pattern.compile source).toOption := by
  rw [patternOfLiteral?, tokens?_of_reads (reads_literal source false)]
  rfl

theorem CompiledCommand.mem_regexps {c : CompiledCommand} {r : RegexpView} :
    r ∈ c.regexps ↔ ∃ f ∈ c.fields, ∃ source, .pattern source ∈ f.field.rules ∧
      r = ⟨c.regexpName f.field, QuoteStyle.double.literal source⟩ := by
  simp only [regexps, List.mem_flatMap, List.mem_filterMap]
  constructor
  · rintro ⟨f, hf, rule, hrule, heq⟩
    cases rule with
    | pattern source => exact ⟨f, hf, source, hrule, (Option.some.inj heq).symm⟩
    | nonEmpty object => cases heq
    | maxLength limit => cases heq
    | singleLine => cases heq
  · rintro ⟨f, hf, source, hsource, rfl⟩
    exact ⟨f, hf, _, hsource, rfl⟩

/-- A variable is declared with the regular expression of the field that it is named after. -/
theorem CommandView.pattern?_regexpName {c : CompiledCommand} {view : CommandView}
    (hview : view.Shows c) (hnames : (c.fields.map (·.field.goName)).Nodup)
    {f : CompiledField} (hf : f ∈ c.fields) {source : String}
    (hsource : .pattern source ∈ f.field.rules) :
    view.pattern? (c.regexpName f.field) = (Regex.Pattern.compile source).toOption := by
  have hfind : view.regexps.find? (·.var == c.regexpName f.field) =
      some ⟨c.regexpName f.field, QuoteStyle.double.literal source⟩ := by
    rw [hview.regexps]
    refine find?_eq_some_of_unique (CompiledCommand.mem_regexps.mpr ⟨f, hf, source, hsource, rfl⟩)
      (beq_self_eq_true _) fun r hr hvar => ?_
    -- a declaration of the same variable is of the same field, which has one regular expression
    obtain ⟨g, hg, source', hsource', rfl⟩ := CompiledCommand.mem_regexps.mp hr
    have hname := regexpName_inj.mp (beq_iff_eq.mp hvar)
    obtain rfl := List.inj_on_of_nodup_map hnames hg hf hname
    have hregex := (pattern_of_mem_rules hsource').symm.trans (pattern_of_mem_rules hsource)
    rw [Option.some.inj hregex]
  rw [pattern?, hfind, Option.bind_eq_bind, Option.bind_some, patternOfLiteral?_literal]

theorem Json.Node.decodeText?_eq {value : Option Json.Node} (h : (decodeText? value).isSome) :
    decodeText? value = some (textOrEmpty value) := by
  cases value with
  | none => rfl
  | some node =>
    cases node with
    | null | string s => rfl
    | bool | number | list | object | broken => cases h

theorem CommandField.decode?_textual {f : CommandField} {value : Option Json.Node}
    (htype : f.type.isTextual = true) (hvalue : (Json.Node.decodeText? value).isSome) :
    f.decode? value = some (.text (Json.Node.textOrEmpty value)) := by
  rw [decode?, if_pos htype, Json.Node.decodeText?_eq hvalue, Option.map_some]

theorem CommandField.decode?_object {f : CommandField} (htype : f.type.isObject = true)
    (value : Option Json.Node) :
    f.decode? value = some (if Json.Node.isAbsent value then .nil else .pointer) := by
  have htextual : ¬f.type.isTextual = true := by
    unfold FieldType.isObject at htype
    split at htype
    · next h => simp [h, FieldType.isTextual]
    · cases htype
  rw [decode?, if_neg htextual, if_pos htype]

/-- **The statements of a command check payloads as the command does.** -/
theorem Command.run?_statements {module : String} {c : Command} {compiled : CompiledCommand}
    {view : CommandView} {payload : Json.Node} (hcompile : c.compile module = .ok compiled)
    (hview : view.Shows compiled) (hnames : (c.fields.map CommandField.goName).Nodup)
    (htexts : ∀ f ∈ c.fields, f.type.isTextual = true →
      (Json.Node.decodeText? (payload.member? f.key)).isSome) :
    run? ⟨view.member? c payload, view.pattern?⟩ compiled.statements =
      some (compiled.validate payload) := by
  have hfields := fields_of_compile hcompile
  have hcompiledNames : (compiled.fields.map (·.field.goName)).Nodup := by
    rw [← hfields, List.map_map] at hnames
    exact hnames
  apply run?_flatMap
  intro f hf
  have hmem : f.field ∈ c.fields := hfields ▸ List.mem_map_of_mem hf
  -- the method reads the member of the field that the rule is for
  have hmember := CommandView.member?_goName hcompile hview hcompiledNames hf payload
  rw [List.map_eq_flatMap]
  apply run?_flatMap
  intro r hr
  apply run?_singleton
  rcases mem_rules hr with ⟨rfl, hobject⟩ | ⟨hne, htextual, hregex⟩
  · exact Rule.run?_object (hmember.trans (CommandField.decode?_object hobject _))
  · have htext := CommandField.decode?_textual htextual (htexts _ hmem htextual)
    refine Rule.run?_text (hmember.trans htext) hne fun source hsource => ?_
    subst hsource
    -- both sides match with what the source of the rule compiles to
    obtain ⟨pattern, hpattern, hsome⟩ := exists_pattern_of_compileField
      (compileField_of_mem hcompile hf) (hregex source rfl)
    refine ⟨pattern, ?_, ?_⟩
    · have hvar := CommandView.pattern?_regexpName hview hcompiledNames hf hr
      rw [hpattern] at hvar
      exact hvar
    · funext text
      rw [CompiledField.isMatch, hsome, Option.all_some]

/-- **The method of the generated code checks as the compiled command does**: where the keys of an
accepted command are identifiers and the names of its fields are distinct, both find the same fault
in a payload, or none. -/
theorem Command.runValidation?_eq_validate {m : Module} {c : Command} {payload : Json.Node}
    (haccepted : m.checkCommand c = .ok ())
    (hkey : ∀ part ∈ splitOn '.' c.key.toList, isIdent part = true)
    (hfields : ∀ f ∈ c.fields, isIdent f.key.toList = true)
    (hnames : (c.fields.map CommandField.goName).Nodup)
    (htexts : ∀ f ∈ c.fields, f.type.isTextual = true →
      (Json.Node.decodeText? (payload.member? f.key)).isSome) :
    ∃ compiled view, c.compile m.id = .ok compiled ∧ c.view m.id = .ok view ∧
      view.runValidation? c payload = some (compiled.validate payload) := by
  obtain ⟨compiled, view, hcompile, hview, hshows⟩ := exists_view haccepted
  refine ⟨compiled, view, hcompile, hview, ?_⟩
  have hcommand : compiled.command = c := (compile_eq_ok.mp hcompile).1
  have hcompiledFields : ∀ f ∈ compiled.fields, isIdent f.field.key.toList = true := by
    intro f hf
    refine hfields f.field ?_
    rw [← fields_of_compile hcompile]
    exact List.mem_map_of_mem hf
  have hstatements := CompiledCommand.statements?_goValidation (hcommand ▸ hkey) hcompiledFields
  rw [CommandView.runValidation?, hshows.goValidation, hstatements]
  exact run?_statements hcompile hshows hnames htexts

/-- A command with a text and an object. -/
def Command.createAccount : Command where
  key := "account.create"
  title := ""
  nature := .create
  confirmation := none
  chain := ""
  args := []
  fields := [
    ⟨"name", "", .text, none, some "^[a-z\"\\\\]+$", some 16, false, false, "", ""⟩,
    ⟨"owner", "", .custom (.struct ⟨none, "Owner"⟩), none, none, none, false, false, "", ""⟩]
  info := []

/-- Its checks of a name that has a quote, without an owner. -/
theorem Command.runValidation?_createAccount :
    ∃ compiled view, createAccount.compile "accounts" = .ok compiled ∧
      createAccount.view "accounts" = .ok view ∧
      view.runValidation? createAccount (.object [("name", .string "a\"b")] none) =
        some (compiled.validate (.object [("name", .string "a\"b")] none)) := by
  let m : Module := ⟨"accounts", "", ⟨false, false, true, false⟩, [], [], [], [], [], [], []⟩
  have hok : (m.checkCommand createAccount).isOk = true := by decide +kernel
  cases haccepted : m.checkCommand createAccount with
  | error e =>
    rw [haccepted] at hok
    cases hok
  | ok u =>
    exact runValidation?_eq_validate haccepted (by decide +kernel) (by decide +kernel)
      (by decide +kernel) (by decide +kernel)

end Specloom
