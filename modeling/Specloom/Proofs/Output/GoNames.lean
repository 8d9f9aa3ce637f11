import Mathlib.Data.List.Nodup
import Specloom.Proofs.Module.References
import Specloom.Proofs.Output.GoDeclared

/-!
# Names of a Go package

The Go files of a module are one package, so all names that they declare should be distinct. The
names of types and enums are, and so are the names that come with enums, the constants of one enum
and the constants for texts. But the names of structs are made from keys after these were compared,
and no name is compared with one of another document. So names can repeat.

## Main results

* `nodup_goFunctions`: what comes with enums has distinct names
* `exists_repeated_goName`: an event and a command that are the same struct
* `nodup_goNames_iff_of_load`: what is left to be distinct in a loaded module
-/

namespace Specloom

open Text

/-! ## Names that come with enums -/

/-- What a name that comes with an enum tells: the name of the enum and how long the rest is. -/
def enumOf (name : List Char) : List Char × Nat :=
  let rest :=
    if "Members".toList <:+ name then 7
    else if "Validate".toList <:+ name then 8
    else 26
  (name.take (name.length - rest), rest)

theorem isHexDigit_of_mem_hexDigits {c : Char} {count n : Nat} (h : c ∈ hexDigits 'a' count n) :
    isHexDigit c := by
  induction count generalizing n with
  | zero => cases h
  | succ count ih =>
    rw [hexDigits, List.mem_append, List.mem_singleton] at h
    rcases h with h | rfl
    · exact ih h
    · have key : ∀ k < 16, isHexDigit (hexDigit 'a' k) := by decide
      exact key _ (Nat.mod_lt n (by decide))

theorem enumOf_members (name : List Char) : enumOf (name ++ "Members".toList) = (name, 7) := by
  rw [enumOf, if_pos (List.suffix_append name _), List.length_append]
  exact congrArg (·, 7) (List.take_left' (Nat.add_sub_cancel name.length 7).symm)

theorem enumOf_validate (name : List Char) : enumOf (name ++ "Validate".toList) = (name, 8) := by
  have hmembers : ¬ "Members".toList <:+ name ++ "Validate".toList := by
    intro h
    have hsuffix := List.suffix_of_suffix_length_le h (List.suffix_append name _) (by decide)
    exact absurd hsuffix (by decide)
  rw [enumOf, if_neg hmembers, if_pos (List.suffix_append name _), List.length_append]
  exact congrArg (·, 8) (List.take_left' (Nat.add_sub_cancel name.length 8).symm)

/-- A digest holds hexadecimal digits only, so none of the other endings is in it. -/
theorem enumOf_digest (name : List Char) (input : List UInt8) :
    enumOf (name ++ "Exhaustive".toList ++ Digest.hex input) = (name, 26) := by
  have hlength : (Digest.hex input).length = 16 := length_hexDigits 'a' 16 _
  have hnot (ending : List Char) (c : Char) (hc : c ∈ ending) (hhex : isHexDigit c = false)
      (hle : ending.length ≤ 16) :
      ¬ ending <:+ name ++ "Exhaustive".toList ++ Digest.hex input := by
    intro h
    have hsuffix := List.suffix_of_suffix_length_le h (List.suffix_append _ _) (by omega)
    rw [isHexDigit_of_mem_hexDigits (hsuffix.mem hc)] at hhex
    cases hhex
  have hmembers := hnot "Members".toList 'M' (by decide) (by decide) (by decide)
  have hvalidate := hnot "Validate".toList 'V' (by decide) (by decide) (by decide)
  rw [enumOf, if_neg hmembers, if_neg hvalidate, List.append_assoc]
  refine congrArg (·, 26) (List.take_left' ?_)
  rw [List.length_append, List.length_append, hlength]
  exact (Nat.add_sub_cancel name.length 26).symm

/-- **The names that come with enums are distinct** if the names of the enums are. -/
theorem nodup_goFunctions {enums : List EnumDecl} (h : (enums.map (·.name)).Nodup) :
    (enums.flatMap EnumDecl.goFunctions).Nodup := by
  have hone (e : EnumDecl) : e.goFunctions.map (fun name => enumOf name.toList) =
      [7, 8, 26].map fun rest => (e.name.toList, rest) := by
    simp only [EnumDecl.goFunctions, EnumDecl.exhaustiveName, EnumDecl.digest, digestOfPairs,
      List.map_cons, List.map_nil, String.toList_append, String.toList_ofList, enumOf_members,
      enumOf_validate, enumOf_digest]
  refine List.Nodup.of_map (fun name => enumOf name.toList) ?_
  rw [List.map_flatMap]
  simp only [hone]
  have hnames : (enums.map fun e => e.name.toList).Nodup := by
    have hlists := h.map (f := String.toList) fun _ _ => String.toList_inj.mp
    rwa [List.map_map] at hlists
  have hproduct := hnames.product (show [7, 8, 26].Nodup by decide)
  change ((enums.map fun e => e.name.toList).flatMap fun name =>
    [7, 8, 26].map fun rest => (name, rest)).Nodup at hproduct
  rwa [List.flatMap_map] at hproduct

/-! ## Names of a package -/

/-- The constants of an enum are distinct if the identifiers of its members are. -/
theorem EnumDecl.nodup_goConst {module : String} {e : EnumDecl} (h : e.check module = .ok ()) :
    (e.allMembers.map (·.goConst)).Nodup := by
  have hkeys : (e.members.map Name.pascal).Nodup :=
    (checkDistinct_eq_ok_iff ..).mp (check_bind_eq_ok.mp h).2
  have hconsts := hkeys.map (f := (e.name ++ ·)) fun _ _ => String.append_right_inj _ |>.mp
  rw [EnumDecl.allMembers, List.map_map]
  rwa [List.map_map] at hconsts

/-- A struct that a command and an event share is declared twice. -/
theorem Context.not_nodup_goNames {c : Context} {name : String}
    (hcommand : name ∈ c.commands.commands.map (·.structName))
    (hevent : name ∈ c.events.events.map (·.structName)) : ¬ c.goNames.flatten.Nodup := by
  intro h
  have hdisjoint := (List.nodup_flatten.mp h).2
  simp only [goNames, List.cons_append, List.pairwise_cons, List.forall_mem_cons] at hdisjoint
  obtain ⟨-, -, -, ⟨hstructs, -⟩, -⟩ := hdisjoint
  exact hstructs hcommand hevent

/-- An event and a command of the same key: the struct that both become is declared in two files of
the package. -/
theorem exists_repeated_goName : ∃ run m c files,
    load (fun path => .ok (if path = "events" then "[[[\"user.create\",[],[]]]]"
        else "[[\"user.create\",\"\",\"create\",\"\",\"\",[],[],[]]]"))
      [⟨"users", none, some "events", some "commands", none⟩] = .ok run ∧ m ∈ run ∧
    m.context run .default = .ok c ∧ ¬ c.goNames.flatten.Nodup ∧
    m.generate run .default .standard = .ok files ∧
    m.DeclaresIn files "events" "UserCreate" ∧ m.DeclaresIn files "commands" "UserCreate" := by
  generalize hload : load _ _ = loaded
  have hstructs : loaded.toOption.map (fun run => run.map fun m =>
      (m.commands.map (·.structName), m.events.map fun e => Name.ofKey e.key)) =
      some [(["UserCreate"], ["UserCreate"])] := by
    rw [← hload]
    decide +kernel
  cases loaded with
  | error e => cases hstructs
  | ok run =>
    have hrun : (run.map fun m => (m.commands.map (·.structName),
        m.events.map fun e => Name.ofKey e.key)) = [(["UserCreate"], ["UserCreate"])] :=
      Option.some.inj hstructs
    obtain ⟨m, hm, hnames⟩ := List.mem_map.mp (hrun ▸ List.mem_singleton_self _)
    obtain ⟨hcommands, hevents⟩ := Prod.mk.inj hnames
    obtain ⟨docs, declared, -, hloaded⟩ := load_eq_ok.mp hload
    obtain ⟨c, hc⟩ := m.exists_context (Module.check_eq_ok.mp (hloaded.check m hm)).2.2 run .default
    obtain ⟨files, hfiles⟩ := hloaded.exists_generate hm .default
    have hshows := Module.showsNames_of_context hc
    obtain ⟨-, hpresent, hpresent'⟩ := hshows.present (hloaded.hasDocuments hm)
    have hevent : "UserCreate" ∈ c.events.events.map (·.structName) := by
      rw [hshows.events, hevents]
      exact List.mem_singleton_self _
    have hcommand : "UserCreate" ∈ c.commands.commands.map (·.structName) := by
      rw [hshows.commands, hcommands]
      exact List.mem_singleton_self _
    refine ⟨run, m, c, files, rfl, hm, hc, Context.not_nodup_goNames hcommand hevent, hfiles,
      ?_, ?_⟩
    · obtain ⟨v, hv, hname⟩ := List.mem_map.mp hevent
      exact hname ▸ m.declaresIn_of_mem_plan hc hfiles
        (by simp [Module.plan, filesIf, hpresent (List.ne_nil_of_mem hv)])
        (showsDeclaration_event hv)
    · obtain ⟨v, hv, hname⟩ := List.mem_map.mp hcommand
      exact hname ▸ m.declaresIn_of_mem_plan hc hfiles
        (by simp [Module.plan, filesIf, hpresent' (List.ne_nil_of_mem hv)])
        (showsDeclaration_command hv)

/-- **The names of a package are distinct exactly if** the structs of commands are, the structs of
events, the variables for regular expressions, and no name is of two families: that is what loading
a module leaves open. The names within the other families are distinct. All names are declared in
files of the module. -/
theorem nodup_goNames_iff_of_load {source : Source} {configs : List ModuleConfig}
    {run : List Module} (h : load source configs = .ok run) {m : Module} (hm : m ∈ run)
    (config : Config) :
    ∃ c files, m.context run config = .ok c ∧ m.generate run config .standard = .ok files ∧
      (∀ name ∈ c.goNames.flatten, ∃ file, m.DeclaresIn files file name) ∧
      (c.goNames.flatten.Nodup ↔ (m.commands.map (·.structName)).Nodup ∧
        (m.events.map fun e => Name.ofKey e.key).Nodup ∧
        (c.commands.commands.flatMap fun v => v.regexps.map (·.var)).Nodup ∧
        c.goNames.Pairwise List.Disjoint) := by
  obtain ⟨docs, declared, -, hloaded⟩ := load_eq_ok.mp h
  have hnamed := hloaded.wellNamed hm
  obtain ⟨c, hc⟩ := m.exists_context (Module.check_eq_ok.mp (hloaded.check m hm)).2.2 run config
  obtain ⟨files, hfiles⟩ := hloaded.exists_generate hm config
  have hshows := Module.showsNames_of_context hc
  have hdeclared : (c.types.declarations.map (·.name) ++ c.types.enums.map (·.name)).Nodup := by
    rw [hshows.types, hshows.enums, List.map_map]
    exact hnamed.declared
  have hfunctions : (c.types.enums.flatMap EnumDecl.goFunctions).Nodup := by
    rw [hshows.enums]
    exact nodup_goFunctions (List.nodup_append.mp hnamed.declared).2.1
  have hconsts : (c.types.stringConsts.map (·.key)).Nodup := by
    rw [hshows.stringConsts]
    exact hnamed.stringConsts
  have hmembers : ∀ e ∈ c.types.enums, (e.allMembers.map (·.goConst)).Nodup := by
    rw [hshows.enums]
    exact fun e he => EnumDecl.nodup_goConst (hnamed.enum e he)
  have hconstructors : (c.events.events.map ("New" ++ ·.structName)).Nodup ↔
      (c.events.events.map (·.structName)).Nodup := by
    have hmap := List.nodup_map_iff (l := c.events.events.map (·.structName))
      (f := ("New" ++ ·)) fun _ _ => (String.append_right_inj _).mp
    rwa [List.map_map] at hmap
  refine ⟨c, files, hc, hfiles, fun name => hloaded.exists_declaresIn hm hc hfiles, ?_⟩
  rw [List.nodup_flatten, ← hshows.commands, ← hshows.events]
  simp only [Context.goNames, List.forall_mem_append, List.forall_mem_cons, List.forall_mem_map]
  constructor
  · rintro ⟨⟨⟨-, -, -, hcommands, hevents, -, hregexps, -⟩, -⟩, hdisjoint⟩
    exact ⟨hcommands, hevents, hregexps, hdisjoint⟩
  · rintro ⟨hcommands, hevents, hregexps, hdisjoint⟩
    exact ⟨⟨⟨hdeclared, hfunctions, hconsts, hcommands, hevents, hconstructors.mpr hevents,
      hregexps, List.forall_mem_nil _⟩, hmembers⟩, hdisjoint⟩

/-- An event and a command with names of their own, and an enum. -/
theorem nodup_goNames_iff_of_load_enum : ∃ run,
    load (fun path => .ok (
        if path = "types" then "[[],[[\"Status\",[\"on\",\"off\"]]],[],[]]"
        else if path = "events" then "[[[\"user.created\",[],[]]]]"
        else "[[\"user.create\",\"\",\"create\",\"\",\"\",[],[],[]]]"))
      [⟨"users", some "types", some "events", some "commands", none⟩] = .ok run ∧
    ∀ m ∈ run, ∃ c files, m.context run .default = .ok c ∧
      m.generate run .default .standard = .ok files ∧
      (∀ name ∈ c.goNames.flatten, ∃ file, m.DeclaresIn files file name) ∧
      c.goNames.flatten.Nodup ∧ c.goNames.Pairwise List.Disjoint := by
  generalize hload : load _ _ = loaded
  have hdistinct : loaded.toOption.any (fun run => run.all fun m =>
      (m.context run .default).toOption.all fun c => decide c.goNames.flatten.Nodup) = true := by
    rw [← hload]
    decide +kernel
  cases loaded with
  | error e => cases hdistinct
  | ok run =>
    refine ⟨run, rfl, fun m hm => ?_⟩
    obtain ⟨c, files, hc, hfiles, hdeclares, hiff⟩ := nodup_goNames_iff_of_load hload hm .default
    have hmodule := List.all_eq_true.mp hdistinct m hm
    rw [hc] at hmodule
    have hnodup : c.goNames.flatten.Nodup := of_decide_eq_true hmodule
    exact ⟨c, files, hc, hfiles, hdeclares, hnodup, (hiff.mp hnodup).2.2.2⟩

end Specloom
