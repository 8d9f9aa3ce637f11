import Specloom.Module.Load
import Specloom.Proofs.Checked

/-!
# Loaded modules

A run is loaded in three passes: every module is declared, commands are added to one module after
the other, and every module is checked against the finished run. The second pass changes nothing but
commands, so a reference stands for the same in the declarations, in every state of the pass and in
the run. Hence all commands are as if they were added against the declarations, and what the third
pass accepts also holds of the modules that the second pass looked at.

## Main definitions

* `Loaded`: the three passes of a run
* `Module.SameDeclarations`: two modules that differ in their commands only
* `Module.WellNamed`: the names of a module are distinct where they must be

## Main results

* `addAllCommands_eq_mapM`: adding commands in place is adding them against the declarations
* `loadAll_eq_ok`: documents load exactly when the three passes succeed
* `Loaded.sameDeclarations`: the second pass keeps all declarations
* `Loaded.resolve?_eq`: references stand for the same before and after it
* `Module.check_eq_ok`, `Module.checkStructure_eq_ok`: what the third pass accepts
-/

namespace Specloom

/-! ## Checked modules -/

/-- The names that a module declares, of its types and of its enums. -/
def Module.declaredNames (m : Module) : List String :=
  m.types.map (·.name) ++ m.enums.map (·.name)

/-- The names of a module are distinct where they must be, and its enums, events, commands and
routes pass their own checks. -/
structure Module.WellNamed (m : Module) : Prop where
  declared : m.declaredNames.Nodup
  stringConsts : (m.stringConsts.map (·.key)).Nodup
  endpoints : (m.endpoints.map (·.name)).Nodup
  enum : ∀ e ∈ m.enums, e.check m.id = .ok ()
  events : (m.events.map (·.key)).Nodup
  event : ∀ e ∈ m.events, e.check m.id = .ok ()
  commands : (m.commands.map (·.key)).Nodup
  command : ∀ c ∈ m.commands, c.check m.id = .ok ()
  routes : (m.uiRoutes.map (·.id)).Nodup
  route : ∀ r ∈ m.uiRoutes, checkRoute m.id r = .ok ()

theorem Module.checkStructure_eq_ok {m : Module} : m.checkStructure = .ok () ↔ m.WellNamed := by
  simp only [checkStructure, check_bind_eq_ok, checkDistinct_eq_ok_iff, forM_eq_ok]
  constructor
  · rintro ⟨h₁, h₂, h₃, h₄, h₅, h₆, h₇, h₈, h₉, h₁₀⟩
    exact ⟨h₁, h₂, h₃, h₄, h₅, h₆, h₇, h₈, h₉, h₁₀⟩
  · rintro ⟨h₁, h₂, h₃, h₄, h₅, h₆, h₇, h₈, h₉, h₁₀⟩
    exact ⟨h₁, h₂, h₃, h₄, h₅, h₆, h₇, h₈, h₉, h₁₀⟩

/-- A module is valid exactly when its names are, every reference of a datatype stands for something
and every command is accepted. -/
theorem Module.check_eq_ok {m : Module} {run : List Module} :
    m.check run = .ok () ↔ m.WellNamed ∧
      (∀ p ∈ m.locatedTypes, m.checkDatatype run p.1 p.2 = .ok ()) ∧
        ∀ c ∈ m.commands, m.checkCommand c = .ok () := by
  simp only [check, check_bind_eq_ok, checkStructure_eq_ok, checkReferences, checkCommands,
    forM_eq_ok]

/-! ## Distinct ids -/

theorem idClash?_eq_none_iff {seen modules : List Module} :
    idClash? seen modules = none ↔
      (modules.map (·.id)).Nodup ∧ ∀ m ∈ modules, m.id ∉ seen.map (·.id) := by
  induction modules generalizing seen with
  | nil => simp [idClash?]
  | cons m modules ih =>
    rw [idClash?]
    cases hfind : seen.find? (·.id == m.id) with
    | some first =>
      have hfirst : first.id = m.id := by simpa using List.find?_some hfind
      -- an id that was seen before is a clash, and it is not new either
      refine iff_of_false nofun fun ⟨_, hseen⟩ => hseen m List.mem_cons_self ?_
      exact List.mem_map.mpr ⟨first, List.mem_of_find?_eq_some hfind, hfirst⟩
    | none =>
      have hm : m.id ∉ seen.map (·.id) := by simpa using hfind
      have hcons : ∀ id, id ∉ m.id :: seen.map (·.id) ↔
          id ≠ m.id ∧ id ∉ seen.map (·.id) := by simp
      -- a new id: it must not come again, which is what the longer list of seen ids says
      simp only [ih, hcons, List.map_cons, List.nodup_cons, List.forall_mem_cons]
      constructor
      · rintro ⟨hnodup, hrest⟩
        refine ⟨⟨fun hmem => ?_, hnodup⟩, hm, fun m' hm' => (hrest m' hm').2⟩
        obtain ⟨m', hm', hid⟩ := List.mem_map.mp hmem
        exact (hrest m' hm').1 hid
      · rintro ⟨⟨hnot, hnodup⟩, -, hrest⟩
        refine ⟨hnodup, fun m' hm' => ⟨fun hid => hnot ?_, hrest m' hm'⟩⟩
        exact hid ▸ List.mem_map_of_mem hm'

theorem checkIds_eq_ok {run : List Module} :
    checkIds run = .ok () ↔ (run.map (·.id)).Nodup := by
  rw [checkIds]
  cases h : idClash? [] run with
  | none => simpa using (idClash?_eq_none_iff.mp h).1
  | some clash =>
    refine ⟨fun h => (by cases h), fun hnodup => ?_⟩
    rw [idClash?_eq_none_iff.mpr ⟨hnodup, by simp⟩] at h
    cases h

/-! ## What adding commands keeps -/

/-- The second module is the first one with other commands. -/
def Module.SameDeclarations (m m' : Module) : Prop :=
  m' = { m with commands := m'.commands }

theorem Module.SameDeclarations.refl (m : Module) : m.SameDeclarations m :=
  rfl

/-- Adding commands keeps the declarations, and each command is one of the document. -/
theorem Documents.addCommands_eq_ok {run : List Module} {d : Documents} {m m' : Module}
    (h : d.addCommands run m = .ok m') : m.SameDeclarations m' ∧
      ∀ c ∈ m'.commands, c ∈ m.commands ∨ ∃ path doc, Command.ofDoc path m run doc = .ok c := by
  rw [addCommands] at h
  split at h
  · cases h
    exact ⟨rfl, fun c hc => Or.inl hc⟩
  · rename_i source _
    simp only [bind_eq_ok, pure_eq_ok] at h
    obtain ⟨commands, hcommands, rfl⟩ := h
    refine ⟨rfl, fun c hc => Or.inr ?_⟩
    obtain ⟨doc, -, hdoc⟩ := exists_mem_of_mapM hcommands hc
    exact ⟨source.path, doc, hdoc⟩

/-- What a name stands for does not depend on commands. -/
theorem Module.SameDeclarations.target?_eq {m m' : Module} (h : m.SameDeclarations m')
    (name : String) : m'.target? name = m.target? name := by
  rw [h]
  rfl

theorem Module.SameDeclarations.id_eq {m m' : Module} (h : m.SameDeclarations m') :
    m'.id = m.id := by
  rw [h]

/-- What a reference stands for does not depend on commands, in the own module or in others. -/
theorem Module.SameDeclarations.resolve?_eq {m m' : Module} {run run' : List Module}
    (h : m.SameDeclarations m') (hrun : List.Forall₂ SameDeclarations run run') (ref : TypeRef) :
    m'.resolve? run' ref = m.resolve? run ref := by
  rw [resolve?, resolve?]
  cases ref.owner with
  | none => exact h.target?_eq ref.name
  | some owner =>
    show (run'.find? _).bind _ = (run.find? _).bind _
    induction hrun with
    | nil => rfl
    | cons hhead _ ih =>
      rw [List.find?_cons, List.find?_cons, hhead.id_eq]
      split
      · exact hhead.target?_eq ref.name
      · exact ih

/-- Declaring adds no commands. -/
theorem Documents.commands_of_declare {d : Documents} {m : Module} (h : d.declare = .ok m) :
    m.commands = [] := by
  rw [declare] at h
  simp only [bind_eq_ok, pure_eq_ok] at h
  obtain ⟨_, -, _, -, _, -, _, -, rfl⟩ := h
  rfl

/-- Declaring keeps the path, the id that comes from it, and which documents there are. -/
theorem Documents.header_of_declare {d : Documents} {m : Module} (h : d.declare = .ok m) :
    m.id = d.id ∧ m.path = d.path ∧ m.present = d.present := by
  rw [declare] at h
  simp only [bind_eq_ok, pure_eq_ok] at h
  obtain ⟨_, -, _, -, _, -, _, -, rfl⟩ := h
  exact ⟨rfl, rfl, rfl⟩

/-! ## Adding commands in place -/

/-- What commands are added depends on the modules of the run by what references stand for. -/
theorem Documents.addCommands_congr {run run' : List Module} {m : Module}
    (h : ∀ ref, m.resolve? run' ref = m.resolve? run ref) (d : Documents) :
    d.addCommands run' m = d.addCommands run m := by
  have htype : FieldType.ofDoc m run' = FieldType.ofDoc m run := by
    funext command doc
    simp only [FieldType.ofDoc, h]
  have hfield : CommandField.ofDoc m run' = CommandField.ofDoc m run := by
    funext command doc
    rw [CommandField.ofDoc, htype, CommandField.ofDoc]
  have hcommand : ∀ path, Command.ofDoc path m run' = Command.ofDoc path m run := by
    intro path
    funext doc
    simp only [Command.ofDoc, hfield]
  simp only [addCommands, hcommand]

/-- A module gets the same commands behind modules that have theirs as behind the declarations of
these. -/
theorem Documents.addCommands_of_done {before done : List Module}
    (hdone : List.Forall₂ Module.SameDeclarations before done) (d : Documents) (m : Module)
    (modules : List Module) :
    d.addCommands (done ++ m :: modules) m = d.addCommands (before ++ m :: modules) m := by
  have hrun : List.Forall₂ Module.SameDeclarations (before ++ m :: modules)
      (done ++ m :: modules) :=
    List.rel_append hdone (List.forall₂_same.mpr fun m _ => .refl m)
  exact addCommands_congr ((Module.SameDeclarations.refl m).resolve?_eq hrun) d

/-- The modules behind those that have their commands get theirs as against the declarations. -/
theorem addAllCommands_of_done {before done modules : List Module} {docs : List Documents}
    (hdone : List.Forall₂ Module.SameDeclarations before done)
    (hlength : docs.length = modules.length) : addAllCommands done docs modules =
      (done ++ ·) <$> (docs.zip modules).mapM fun p =>
        p.1.addCommands (before ++ modules) p.2 := by
  induction docs generalizing before done modules with
  | nil =>
    cases List.eq_nil_of_length_eq_zero hlength.symm
    rfl
  | cons d docs ih =>
    cases modules with
    | nil => cases hlength
    | cons m modules =>
      rw [addAllCommands, Documents.addCommands_of_done hdone, List.zip_cons_cons, List.mapM_cons]
      cases hm : d.addCommands (before ++ m :: modules) m with
      | error e => rfl
      | ok m' =>
        -- the next module is done, and has the declarations that it had before
        have hsame : m.SameDeclarations m' := (Documents.addCommands_eq_ok hm).1
        have hrest := ih (List.rel_append hdone (.cons hsame .nil)) (Nat.succ.inj hlength)
        rw [List.append_assoc, List.singleton_append] at hrest
        change addAllCommands (done ++ [m']) docs modules =
          (done ++ ·) <$> (_ >>= fun lowered => pure (m' :: lowered))
        rw [hrest]
        simp only [bind_pure_comp, Functor.map_map, List.append_assoc, List.singleton_append]

/-- **Adding commands in place is adding them against the declarations**: it does not matter which
modules have their commands already. -/
theorem addAllCommands_eq_mapM {docs : List Documents} {declared : List Module}
    (hlength : docs.length = declared.length) : addAllCommands [] docs declared =
      (docs.zip declared).mapM fun p => p.1.addCommands declared p.2 := by
  rw [addAllCommands_of_done .nil hlength]
  exact id_map _

/-! ## The passes -/

/-- The three passes of loading some documents: `declared` are the modules without commands. -/
structure Loaded (docs : List Documents) (declared run : List Module) : Prop where
  declare : docs.mapM Documents.declare = .ok declared
  ids : (declared.map (·.id)).Nodup
  commands : (docs.zip declared).mapM (fun p => p.1.addCommands declared p.2) = .ok run
  check : ∀ m ∈ run, m.check run = .ok ()

/-- **Documents load exactly when the three passes succeed.** -/
theorem loadAll_eq_ok {docs : List Documents} {run : List Module} :
    loadAll docs = .ok run ↔ ∃ declared, Loaded docs declared run := by
  unfold loadAll
  rw [bind_eq_ok]
  simp only [check_bind_eq_ok, checkIds_eq_ok]
  refine exists_congr fun declared => ⟨?_, fun h => ?_⟩
  · rintro ⟨hdeclared, hids, h⟩
    rw [addAllCommands_eq_mapM (mapM_eq_ok.mp hdeclared).length_eq] at h
    obtain ⟨run', hrun, h⟩ := bind_eq_ok.mp h
    obtain ⟨hcheck, h⟩ := check_bind_eq_ok.mp h
    cases pure_eq_ok.mp h
    exact ⟨hdeclared, hids, hrun, forM_eq_ok.mp hcheck⟩
  · refine ⟨h.declare, h.ids, ?_⟩
    rw [addAllCommands_eq_mapM (mapM_eq_ok.mp h.declare).length_eq]
    exact bind_eq_ok.mpr ⟨run, h.commands,
      check_bind_eq_ok.mpr ⟨forM_eq_ok.mpr h.check, rfl⟩⟩

theorem load_eq_ok {source : Source} {configs : List ModuleConfig} {run : List Module} :
    load source configs = .ok run ↔ ∃ docs declared,
      configs.mapM (Documents.read source) = .ok docs ∧ Loaded docs declared run := by
  simp only [load, bind_eq_ok, loadAll_eq_ok, exists_and_left]

namespace Loaded

variable {docs : List Documents} {declared run : List Module}

theorem forall₂_declare (h : Loaded docs declared run) :
    List.Forall₂ (fun d m => d.declare = .ok m) docs declared :=
  mapM_eq_ok.mp h.declare

/-- Each module of the run is declared by some documents, which then add its commands. -/
theorem exists_documents (h : Loaded docs declared run) {m' : Module} (hm' : m' ∈ run) :
    ∃ d ∈ docs, ∃ m ∈ declared, d.declare = .ok m ∧ d.addCommands declared m = .ok m' := by
  obtain ⟨⟨d, m⟩, hmem, hcommands⟩ := exists_mem_of_mapM h.commands hm'
  exact ⟨d, (List.of_mem_zip hmem).1, m, (List.of_mem_zip hmem).2,
    List.forall₂_zip h.forall₂_declare hmem, hcommands⟩

/-- **Adding commands keeps all declarations**, module by module. -/
theorem sameDeclarations (h : Loaded docs declared run) :
    List.Forall₂ Module.SameDeclarations declared run := by
  have hlength : docs.length = declared.length := h.forall₂_declare.length_eq
  have hsnd : (docs.zip declared).map Prod.snd = declared :=
    List.map_snd_zip (Nat.le_of_eq hlength.symm)
  rw [← hsnd, List.forall₂_map_left_iff]
  exact (mapM_eq_ok.mp h.commands).imp fun p m' hp => (Documents.addCommands_eq_ok hp).1

/-- The modules of the run have distinct ids. -/
theorem nodup_ids (h : Loaded docs declared run) : (run.map (·.id)).Nodup := by
  have hids : run.map (·.id) = declared.map (·.id) := by
    -- adding commands keeps each id, module by module
    have hsame := h.sameDeclarations
    clear h
    induction hsame with
    | nil => rfl
    | cons hhead _ ih => rw [List.map_cons, List.map_cons, hhead.id_eq, ih]
  rw [hids]
  exact h.ids

/-- **References stand for the same before and after commands are added.** -/
theorem resolve?_eq (h : Loaded docs declared run) {m m' : Module} (hm : m.SameDeclarations m')
    (ref : TypeRef) : m.resolve? declared ref = m'.resolve? run ref :=
  (hm.resolve?_eq h.sameDeclarations ref).symm

end Loaded

end Specloom
