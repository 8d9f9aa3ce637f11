import Specloom.Proofs.Command.Builder
import Specloom.Proofs.Datatype.OfDocument
import Specloom.Proofs.Text.Names

/-!
# Types in the texts of a command

The type of a field is shown as a type of Go, in the struct of the command, and as a type of
TypeScript, in the signature of its function if the field is an argument. Read back, the texts name
what the field refers to, the date, or a built-in type.

## Main definitions

* `TypeRef.IsPlain`: a reference that is one name
* `CommandField.HasTexts`: what the types of a field name

## Main results

* `CommandField.hasTexts`: the types of a field name what the field refers to
* `mem_typeNames_iff`: the names in the signature of a command
-/

namespace Specloom

open Text

/-- The built-in types of the frontend. -/
def tsBuiltins : List String :=
  ["string", "number", "boolean", "null", "dateRFC3339"]

/-- A reference that can be written and is one name. -/
structure TypeRef.IsPlain (ref : TypeRef) : Prop where
  writable : ref.IsWritable
  isPathText : IsPathText ref.qualified

theorem TypeRef.qualified_of_owner (ref : TypeRef) (h : ref.owner = none) :
    ref.qualified = ref.name := by
  rw [qualified, h]

namespace TypeRef.IsPlain

variable {ref : TypeRef} (h : ref.IsPlain)

include h

/-- What stands before the last dot of a reference is its owner. -/
theorem qualifier?_eq : qualifier? ref.qualified = ref.owner := by
  have hdot := h.writable.not_mem_name
  obtain ⟨_ | owner, name⟩ := ref
  · have hsplit : splitLast? '.' name.toList = none := splitLast?_eq_none_iff.mpr hdot
    show qualifier? name = none
    rw [qualifier?, hsplit]
    rfl
  · have hsplit : splitLast? '.' (owner ++ "." ++ name).toList = some (owner.toList, name.toList) :=
      splitLast?_eq_some_iff.mpr ⟨by simp, hdot⟩
    show qualifier? (owner ++ "." ++ name) = some owner
    rw [qualifier?, hsplit]
    simp

/-- A reference has a dot in it exactly if it has an owner. -/
theorem mem_dot_iff : '.' ∈ ref.qualified.toList ↔ ref.owner.isSome = true := by
  rw [← h.qualifier?_eq, qualifier?, Option.isSome_map, ← Option.ne_none_iff_isSome, ne_eq,
    splitLast?_eq_none_iff, not_not]

theorem qualified_ne : ref.qualified ≠ "" := by
  intro hempty
  have howner := h.qualifier?_eq
  have hcapital := h.writable.startsCapital
  obtain ⟨_ | owner, name⟩ := ref
  · rw [show name = "" from hempty] at hcapital
    cases hcapital
  · rw [hempty] at howner
    cases howner

/-- Names of types begin with a capital letter, and built-in types do not. -/
theorem qualified_not_mem_tsBuiltins (howner : ref.owner = none) : ref.qualified ∉ tsBuiltins := by
  obtain ⟨_ | owner, name⟩ := ref
  · have hsmall : ∀ s ∈ tsBuiltins, startsCapital s.toList = false := by decide +kernel
    intro hmem
    have hcapital := h.writable.startsCapital
    rw [hsmall name hmem] at hcapital
    cases hcapital
  · cases howner

theorem namesIn_qualified : namesIn ref.qualified.toList = [ref.qualified] :=
  namesIn_of_isPathText h.isPathText h.qualified_ne

theorem namesIn_orNull : namesIn (ref.qualified ++ " | null").toList = [ref.qualified, "null"] := by
  rw [String.toList_append]
  show namesIn (ref.qualified.toList ++ ' ' :: "| null".toList) = _
  rw [namesIn_append_cons h.isPathText h.qualified_ne (by decide)]
  exact congrArg (ref.qualified :: ·) (by decide +kernel)

end TypeRef.IsPlain

/-- What the types of a field name in their texts: a built-in type, the date, or what the field
refers to. -/
inductive CommandField.HasTexts (f : CommandField) (t : TypeTexts) : Prop where
  | builtin (htype : f.type ≠ .date) (href : f.type.reference? = none)
      (ht : t ∈ [(⟨"string", "string"⟩ : TypeTexts), ⟨"bool", "boolean"⟩, ⟨"int", "number"⟩])
  | date (htype : f.type = .date) (ht : t = ⟨"guts.Date", "dateRFC3339"⟩)
  | reference (ref : TypeRef) (href : f.type.reference? = some ref) (hplain : ref.IsPlain)
      (hgo : namesIn t.go.toList = [ref.qualified])
      (hts : ',' ∉ t.ts.toList ∧ (namesIn t.ts.toList = [ref.qualified] ∨
        namesIn t.ts.toList = [ref.qualified, "null"]))

/-- **The types of a field name what the field refers to**, if that is one name. -/
theorem CommandField.hasTexts {f : CommandField} {t : TypeTexts} (h : f.texts? = some t)
    (hplain : ∀ ref ∈ f.type.reference?, ref.IsPlain) : f.HasTexts t := by
  rw [texts?] at h
  cases htype : f.type with
  | text | multiline | password | checkbox | integer =>
    rw [htype] at h
    cases h
    exact .builtin (by simp [htype]) (by rw [htype]; rfl) (by simp)
  | date =>
    rw [htype] at h
    cases h
    exact .date htype rfl
  | datetime =>
    rw [htype] at h
    cases h
  | custom type =>
    rw [htype] at h
    cases type with
    | string | integer =>
      cases h
      exact .builtin (by simp [htype]) (by rw [htype]; rfl) (by simp)
    | enum ref =>
      have href : f.type.reference? = some ref := by rw [htype]; rfl
      have hplain := hplain ref href
      have hcomma : ',' ∉ ref.qualified.toList := hplain.isPathText.not_mem (by decide)
      cases h
      refine .reference ref href hplain hplain.namesIn_qualified ?_
      cases f.optional with
      | false => exact ⟨hcomma, .inl hplain.namesIn_qualified⟩
      | true => exact ⟨by simp [hcomma], .inr hplain.namesIn_orNull⟩
    | struct ref =>
      have href : f.type.reference? = some ref := by rw [htype]; rfl
      have hplain := hplain ref href
      cases h
      have hstar : namesIn ("*" ++ ref.qualified).toList = [ref.qualified] := by
        rw [String.toList_append]
        exact (namesIn_cons (by decide) _).trans hplain.namesIn_qualified
      exact .reference ref href hplain hstar
        ⟨hplain.isPathText.not_mem (by decide), .inl hplain.namesIn_qualified⟩

namespace CommandField.HasTexts

variable {f : CommandField} {t : TypeTexts} {id name : String}

/-- What the texts of a built-in type name: one type of each language, none of a module. -/
theorem namesIn_builtin
    (ht : t ∈ [(⟨"string", "string"⟩ : TypeTexts), ⟨"bool", "boolean"⟩, ⟨"int", "number"⟩]) :
    t.go ≠ "guts.Date" ∧ t.ts ≠ "dateRFC3339" ∧ ',' ∉ t.ts.toList ∧ namesIn t.ts.toList = [t.ts] ∧
      t.ts ∈ tsBuiltins ∧ ∀ text ∈ [t.go, t.ts], ∀ name ∈ namesIn text.toList,
        qualifier? name = none := by
  revert t
  decide +kernel

theorem reference?_of_date (htype : f.type = .date) : f.type.reference? = none := by
  rw [htype]
  rfl

section

variable (h : f.HasTexts t)

include h

/-- The type of a field is the date exactly if its Go type is shown as such and is no reference to a
type of a module of that name. -/
theorem goType_eq_date_iff : t.go = "guts.Date" ∧ f.type.reference? = none ↔ f.type = .date := by
  cases h with
  | builtin htype href ht => simp [(namesIn_builtin ht).1, htype]
  | date htype ht => simp [htype, ht, FieldType.reference?]
  | reference ref href =>
    refine iff_of_false (fun h => ?_) fun htype => ?_
    · rw [href] at h
      cases h.2
    · rw [reference?_of_date htype] at href
      cases href

/-- A module qualifies the Go type of a field exactly if the field refers to it. -/
theorem exists_qualifier?_go_iff :
    f.type ≠ .date ∧ (∃ name ∈ namesIn t.go.toList, qualifier? name = some id) ↔
      ∃ ref, f.type.reference? = some ref ∧ ref.owner = some id := by
  cases h with
  | builtin htype href ht =>
    have hnone := (namesIn_builtin ht).2.2.2.2.2 t.go (by simp)
    simp only [href, reduceCtorEq, false_and, exists_false, iff_false, not_and, not_exists]
    intro _ name hname hsome
    rw [hnone name hname] at hsome
    cases hsome
  | date htype ht => simp [htype, FieldType.reference?]
  | reference ref href hplain hgo =>
    have htype : f.type ≠ .date := fun htype => by
      rw [reference?_of_date htype] at href
      cases href
    simp [htype, hgo, hplain.qualifier?_eq, href]

/-- The TypeScript type of a field names the date exactly if the field is one. -/
theorem date_mem_namesIn_ts_iff : "dateRFC3339" ∈ namesIn t.ts.toList ↔ f.type = .date := by
  cases h with
  | builtin htype href ht =>
    obtain ⟨-, hne, -, hts, -⟩ := namesIn_builtin ht
    simp [hts, hne.symm, htype]
  | date htype ht =>
    rw [ht]
    exact iff_of_true (by decide +kernel) htype
  | reference ref href hplain hgo hts =>
    have hne : "dateRFC3339" ≠ ref.qualified := fun heq => by
      have howner := hplain.qualifier?_eq
      rw [← heq] at howner
      have hnone : qualifier? "dateRFC3339" = none := by decide +kernel
      exact hplain.qualified_not_mem_tsBuiltins (howner.symm.trans hnone) (heq ▸ by decide +kernel)
    refine iff_of_false (fun hmem => ?_) fun htype => ?_
    · rcases hts.2 with hts | hts <;> simp [hts, hne] at hmem
    · rw [reference?_of_date htype] at href
      cases href

/-- A name in the TypeScript type of a field is a built-in type or what the field refers to. -/
theorem eq_of_mem_namesIn_ts (hname : name ∈ namesIn t.ts.toList) :
    name ∈ tsBuiltins ∨
      ∃ ref, f.type.reference? = some ref ∧ ref.IsPlain ∧ name = ref.qualified := by
  cases h with
  | builtin htype href ht =>
    obtain ⟨-, -, -, hts, hbuiltin, -⟩ := namesIn_builtin ht
    rw [hts, List.mem_singleton] at hname
    exact .inl (hname ▸ hbuiltin)
  | date htype ht =>
    have hdate : ∀ name ∈ namesIn "dateRFC3339".toList, name ∈ tsBuiltins := by decide +kernel
    rw [ht] at hname
    exact .inl (hdate name hname)
  | reference ref href hplain hgo hts =>
    rcases hts.2 with hts | hts
    · rw [hts, List.mem_singleton] at hname
      exact .inr ⟨ref, href, hplain, hname⟩
    · rw [hts, List.mem_pair] at hname
      rcases hname with rfl | rfl
      · exact .inr ⟨ref, href, hplain, rfl⟩
      · exact .inl (by decide +kernel)

/-- What a field refers to is named in its TypeScript type. -/
theorem mem_namesIn_ts {ref : TypeRef} (href : f.type.reference? = some ref) :
    ref.IsPlain ∧ ref.qualified ∈ namesIn t.ts.toList := by
  cases h with
  | builtin htype hnone ht =>
    rw [href] at hnone
    cases hnone
  | date htype ht =>
    rw [reference?_of_date htype] at href
    cases href
  | reference ref' href' hplain hgo hts =>
    obtain rfl : ref = ref' := Option.some.inj (href.symm.trans href')
    refine ⟨hplain, ?_⟩
    rcases hts.2 with hts | hts <;> simp [hts]

/-- The names without dots in the TypeScript type of a field, but for built-in types, are those of
the own module that the field refers to. -/
theorem mem_namesIn_ts_iff :
    name ∈ namesIn t.ts.toList ∧ '.' ∉ name.toList ∧ name ∉ tsBuiltins ↔
      ∃ ref, f.type.reference? = some ref ∧ ref.owner = none ∧ ref.name = name := by
  constructor
  · rintro ⟨hname, hdot, hbuiltin⟩
    obtain ⟨ref, href, hplain, rfl⟩ := (h.eq_of_mem_namesIn_ts hname).resolve_left hbuiltin
    have howner : ref.owner = none := by simpa using hplain.mem_dot_iff.not.mp hdot
    exact ⟨ref, href, howner, (ref.qualified_of_owner howner).symm⟩
  · rintro ⟨ref, href, howner, rfl⟩
    obtain ⟨hplain, hmem⟩ := h.mem_namesIn_ts href
    have hdot : '.' ∉ ref.qualified.toList := by simp [hplain.mem_dot_iff, howner]
    have hbuiltin := hplain.qualified_not_mem_tsBuiltins howner
    rw [ref.qualified_of_owner howner] at hmem hdot hbuiltin
    exact ⟨hmem, hdot, hbuiltin⟩

/-- A module qualifies a name in the TypeScript type of a field exactly if the field refers to the
module. -/
theorem exists_qualifier?_ts_iff :
    (∃ name ∈ namesIn t.ts.toList, qualifier? name = some id) ↔
      ∃ ref, f.type.reference? = some ref ∧ ref.owner = some id := by
  constructor
  · rintro ⟨name, hname, hid⟩
    rcases h.eq_of_mem_namesIn_ts hname with hbuiltin | ⟨ref, href, hplain, rfl⟩
    · have hnone : ∀ name ∈ tsBuiltins, qualifier? name = none := by decide +kernel
      rw [hnone name hbuiltin] at hid
      cases hid
    · exact ⟨ref, href, hplain.qualifier?_eq ▸ hid⟩
  · rintro ⟨ref, href, howner⟩
    obtain ⟨hplain, hmem⟩ := h.mem_namesIn_ts href
    exact ⟨ref.qualified, hmem, hplain.qualifier?_eq.trans howner⟩

/-- A type can stand in a signature. -/
theorem not_mem_ts : ',' ∉ t.ts.toList := by
  cases h with
  | builtin htype href ht => exact (namesIn_builtin ht).2.2.1
  | date htype ht =>
    rw [ht]
    decide +kernel
  | reference ref href hplain hgo hts => exact hts.1

end

end CommandField.HasTexts

/-! ## Signatures -/

/-- A field that compiles has the types that it is shown with. -/
theorem Command.texts?_of_mem {module : String} {c : Command} {compiled : CompiledCommand}
    (h : c.compile module = .ok compiled) {g : CompiledField} (hg : g ∈ compiled.fields) :
    g.field ∈ c.fields ∧ g.field.texts? = some g.types := by
  obtain ⟨-, -, htexts⟩ := compileField_eq_ok.mp (compileField_of_mem h hg)
  refine ⟨fields_of_compile h ▸ List.mem_map_of_mem hg, ?_⟩
  rw [fieldTexts] at htexts
  split at htexts
  · rename_i texts hsome
    rw [hsome, Except.ok.inj htexts]
  · cases htexts

/-- **The names in the signature of a command** are those in the types of its arguments. -/
theorem CommandView.Builds.mem_typeNames_iff {view : CommandView} {module : String} {c : Command}
    {compiled : CompiledCommand} {params : List CompiledField} {widgets : List Widget}
    (h : view.Builds c compiled.fields params widgets)
    (hcompiled : c.compile module = .ok compiled) (hkeys : ∀ f ∈ c.fields, IsNameText f.key)
    (hplain : ∀ f ∈ c.fields, ∀ ref ∈ f.type.reference?, ref.IsPlain) {name : String} :
    name ∈ typeNames view.tsCtorArgs.toList ↔
      ∃ f ∈ c.fields, c.isArg f.key = true ∧
        ∃ t, f.texts? = some t ∧ name ∈ namesIn t.ts.toList := by
  have hparams : ∀ param ∈ params.map fun p => (p.field.key, p.types.ts), IsParam param := by
    rw [List.forall_mem_map]
    intro p hp
    obtain ⟨hf, htexts⟩ := Command.texts?_of_mem hcompiled (h.param p hp).1
    have hkey := (hkeys _ hf).isPathText
    exact ⟨⟨hkey.not_mem (by decide), hkey.not_mem (by decide)⟩,
      (CommandField.hasTexts htexts (hplain _ hf)).not_mem_ts⟩
  have hnames : typeNames view.tsCtorArgs.toList =
      (params.map fun p => (p.field.key, p.types.ts)).flatMap fun p => namesIn p.2.toList := by
    rw [← typeNames_intercalate hparams, h.tsCtorArgs, List.map_map]
    rfl
  rw [hnames, List.flatMap_map, List.mem_flatMap]
  constructor
  · rintro ⟨p, hp, hname⟩
    obtain ⟨hf, htexts⟩ := Command.texts?_of_mem hcompiled (h.param p hp).1
    have harg : p.field.key ∈ c.args := h.args.1 ▸ List.mem_map_of_mem hp
    exact ⟨p.field, hf, by simpa [Command.isArg] using harg, p.types, htexts, hname⟩
  · rintro ⟨f, hf, harg, t, htexts, hname⟩
    obtain ⟨g, hg, rfl⟩ := List.mem_map.mp (Command.fields_of_compile hcompiled ▸ hf)
    have hkey : g.field.key ∈ params.map (·.field.key) := by
      rw [h.args.1]
      simpa [Command.isArg] using harg
    -- the argument is the parameter of the one field with its key
    obtain ⟨p, hp, heq⟩ := List.mem_map.mp hkey
    obtain rfl := (h.param p hp).2 g hg heq.symm
    rw [(Command.texts?_of_mem hcompiled hg).2] at htexts
    exact ⟨g, hp, Option.some.inj htexts ▸ hname⟩

end Specloom
