import Specloom.Proofs.Context.FieldNames
import Specloom.Proofs.Module.Names
import Specloom.Proofs.Output.GoDeclared
import Specloom.Proofs.Text.Case

/-!
# The parameters of constructors

The constructor of an event has a parameter for each field, its key with a small first letter, and
the meta data last. An underscore behind a keyword keeps parameters off keywords, and no field has
the parameter `meta`, since its struct field would hide a method. But a key that has the underscore
already, or another letter with the same small form, has the parameter of another field.

## Main definitions

* `KeywordClash`, `SameParam`: two keys with one parameter
* `EventView.params`: the names of the parameters of a constructor
* `EventView.HasParams`: what loading makes sure of for them

## Main results

* `goParam_eq_iff`: keys with one parameter
* `Name.upperFirst_lowerFirst`: the small form of a key tells its name, in ASCII
* `exists_repeated_param`: a constructor that has a parameter twice
* `eventParams_of_load`: the parameters of the constructors of a loaded module
-/

namespace Specloom

open Name Text Template

/-- A key begins with an ASCII character, if it is not empty. -/
def Name.BeginsInAscii (key : String) : Prop :=
  ∀ c ∈ key.toList.head?, c.toNat < 0x80

/-- A key is a keyword as a parameter, and the other one has an underscore behind the keyword. -/
def KeywordClash (key other : String) : Prop :=
  lowerFirst key ∈ goKeywords ∧ lowerFirst other = lowerFirst key ++ "_"

/-- Two keys have one parameter: with a small first letter they are the same, or they clash because
of the underscore behind a keyword. -/
def SameParam (key other : String) : Prop :=
  lowerFirst key = lowerFirst other ∨ KeywordClash key other ∨ KeywordClash other key

namespace EventView

/-- The names of the parameters of the constructor. -/
def params (v : EventView) : List String :=
  v.fields.map (·.goParam) ++ ["meta"]

/-- How the constructor of an event begins. -/
def constructor (v : EventView) : String :=
  "func New" ++ v.structName ++ "(" ++ v.ctorArgs ++ ") *"

/-- The parameters of a constructor are no keywords and have the types of the fields. They are
distinct exactly if no two fields have one parameter. Fields with distinct names, whose keys begin
with ASCII, have one parameter only if they clash because of a keyword. -/
structure HasParams (v : EventView) : Prop where
  args : v.ctorArgs = ", ".intercalate
    (List.zipWith (fun name type => name ++ " " ++ type) v.params
      (v.fields.map (·.goType) ++ ["event.EventMeta"]))
  keyword : ∀ name ∈ v.params, name ∉ goKeywords
  metaData : ∀ f ∈ v.fields, f.goParam ≠ "meta"
  distinct : v.params.Nodup ↔
    ∀ f ∈ v.fields, ∀ g ∈ v.fields, f.key ≠ g.key → ¬ SameParam f.key g.key
  names : (v.fields.map (·.goName)).Nodup → (∀ f ∈ v.fields, BeginsInAscii f.key) →
    (v.params.Nodup ↔ ∀ f ∈ v.fields, ∀ g ∈ v.fields, ¬ KeywordClash f.key g.key)

end EventView

/-! ## Keywords -/

/-- No keyword ends in an underscore. -/
theorem ne_append_underscore {word : String} (h : word ∈ "meta" :: goKeywords) (name : String) :
    word ≠ name ++ "_" := by
  have hlast : ∀ word ∈ "meta" :: goKeywords, word.toList.getLast? ≠ some '_' := by decide +kernel
  rintro rfl
  exact hlast _ h (by simp [String.toList_append])

theorem not_mem_append_underscore (name : String) : name ++ "_" ∉ goKeywords :=
  fun h => ne_append_underscore (List.mem_cons_of_mem _ h) name rfl

variable {key other : String}

theorem goParam_of_mem (h : lowerFirst key ∈ goKeywords) : goParam key = lowerFirst key ++ "_" := by
  simp [goParam, h]

theorem goParam_of_not_mem (hmeta : lowerFirst key ≠ "meta") (h : lowerFirst key ∉ goKeywords) :
    goParam key = lowerFirst key := by
  simp [goParam, hmeta, h]

/-- **No parameter is a keyword.** -/
theorem goParam_not_mem_goKeywords (key : String) : goParam key ∉ goKeywords := by
  simp only [goParam]
  split
  · exact not_mem_append_underscore _
  · rename_i h
    simpa using (not_or.mp h).2

theorem goParam_ne_meta (hmeta : lowerFirst key ≠ "meta") : goParam key ≠ "meta" := by
  by_cases h : lowerFirst key ∈ goKeywords
  · rw [goParam_of_mem h]
    exact (ne_append_underscore List.mem_cons_self _).symm
  · rwa [goParam_of_not_mem hmeta h]

/-- **Which keys have one parameter.** -/
theorem goParam_eq_iff (hkey : lowerFirst key ≠ "meta") (hother : lowerFirst other ≠ "meta") :
    goParam key = goParam other ↔ SameParam key other := by
  -- a keyword and the same word with an underscore are never both keywords
  have hclash {key other : String} (h : lowerFirst other ∈ goKeywords) :
      ¬ KeywordClash key other := fun hclash =>
    not_mem_append_underscore _ (hclash.2 ▸ h)
  by_cases hmem : lowerFirst key ∈ goKeywords <;> by_cases hmem' : lowerFirst other ∈ goKeywords
  · rw [goParam_of_mem hmem, goParam_of_mem hmem', SameParam,
      or_iff_left (not_or.mpr ⟨hclash hmem', hclash hmem⟩), ← String.toList_inj]
    simp [String.toList_append, String.toList_inj]
  · have hne : lowerFirst key ≠ lowerFirst other := fun h => hmem' (h ▸ hmem)
    rw [goParam_of_mem hmem, goParam_of_not_mem hother hmem', SameParam, or_iff_right hne,
      or_iff_left (hclash hmem), KeywordClash, and_iff_right hmem, eq_comm]
  · have hne : lowerFirst key ≠ lowerFirst other := fun h => hmem (h ▸ hmem')
    rw [goParam_of_not_mem hkey hmem, goParam_of_mem hmem', SameParam, or_iff_right hne,
      or_iff_right (hclash hmem'), KeywordClash, and_iff_right hmem']
  · rw [goParam_of_not_mem hkey hmem, goParam_of_not_mem hother hmem', SameParam, KeywordClash,
      KeywordClash]
    simp [hmem, hmem']

/-! ## First letters -/

namespace Name

theorem toList_lowerFirst_cons {c : Char} {rest : List Char} (h : key.toList = c :: rest) :
    (lowerFirst key).toList = lower c ++ rest := by
  simp [lowerFirst, h]

/-- **The name of a key is that of its small form**, if it begins with ASCII. -/
theorem upperFirst_lowerFirst (h : BeginsInAscii key) :
    upperFirst (lowerFirst key) = upperFirst key := by
  cases hkey : key.toList with
  | nil => simp [upperFirst, lowerFirst, hkey]
  | cons c rest =>
    obtain ⟨d, hd, -, hupper⟩ := exists_lower_eq (h c (by rw [hkey]; rfl))
    have hlower : (lowerFirst key).toList = d :: rest := by
      rw [toList_lowerFirst_cons hkey, hd, List.singleton_append]
    rw [← String.toList_inj, toList_upperFirst_cons hlower, toList_upperFirst_cons hkey, hupper]

/-- Only of an ASCII character the small form begins with an `m`. -/
theorem beginsInAscii_of_lowerFirst_eq_meta (h : lowerFirst key = "meta") : BeginsInAscii key := by
  intro c hc
  obtain ⟨rest, hkey⟩ := List.head?_eq_some_iff.mp hc
  have hlower : lower c ++ rest = ['m', 'e', 't', 'a'] := by
    rw [← toList_lowerFirst_cons hkey, h]
    decide
  by_contra hle
  cases hcs : lower c with
  | nil => exact lower_ne_nil c hcs
  | cons d ds =>
    rw [hcs, List.cons_append] at hlower
    obtain ⟨rfl, -⟩ := List.cons.inj hlower
    have hm := eq_or_le_of_mem_lower (Nat.not_lt.mp hle) (hcs ▸ List.mem_cons_self)
    revert hm
    decide

/-- A key that is `meta` with a small first letter has the name of a method of events. -/
theorem upperFirst_of_lowerFirst_eq_meta (h : lowerFirst key = "meta") :
    upperFirst key = "Meta" := by
  rw [← upperFirst_lowerFirst (beginsInAscii_of_lowerFirst_eq_meta h), h]
  decide +kernel

end Name

/-! ## Constructors -/

namespace Event

variable {e : Event}

theorem view_params : e.view.params = (e.fields.map fun f => goParam f.key) ++ ["meta"] := by
  simp [EventView.params, view, EventField.view]

theorem view_ctorArgs : e.view.ctorArgs = ", ".intercalate
    (List.zipWith (fun name type => name ++ " " ++ type) e.view.params
      (e.view.fields.map (·.goType) ++ ["event.EventMeta"])) := by
  have htypes : e.view.fields.map (·.goType) = e.fields.map fun f => f.type.go := by
    simp [view, EventField.view]
  rw [view_params, htypes, List.zipWith_append (by simp), List.zipWith_map, List.zipWith_self]
  rfl

/-- Fields with distinct keys: their parameters are distinct if no two are the same. -/
theorem nodup_params_iff (hkeys : (e.fields.map (·.key)).Nodup)
    (hmeta : ∀ f ∈ e.fields, lowerFirst f.key ≠ "meta") : e.view.params.Nodup ↔
      ∀ f ∈ e.fields, ∀ g ∈ e.fields, f.key ≠ g.key → ¬ SameParam f.key g.key := by
  have hlast : "meta" ∉ e.fields.map fun f => goParam f.key := by
    intro h
    obtain ⟨f, hf, heq⟩ := List.mem_map.mp h
    exact goParam_ne_meta (hmeta f hf) heq
  rw [view_params, List.nodup_append_comm, List.singleton_append, List.nodup_cons,
    and_iff_right hlast, List.nodup_map_iff_inj_on hkeys.of_map]
  refine forall₂_congr fun f hf => forall₂_congr fun g hg => ?_
  rw [goParam_eq_iff (hmeta f hf) (hmeta g hg), not_imp_not]
  exact imp_congr_right fun _ =>
    ⟨congrArg _, fun heq => List.inj_on_of_nodup_map hkeys hf hg heq⟩

/-- **The parameters of an event** whose fields have distinct keys, none of which hides a method. -/
theorem hasParams_view (hkeys : (e.fields.map (·.key)).Nodup)
    (hmethods : ∀ f ∈ e.fields, upperFirst f.key ∉ ["Meta", "MetaType"]) : e.view.HasParams := by
  have hmeta : ∀ f ∈ e.fields, lowerFirst f.key ≠ "meta" := fun f hf h =>
    hmethods f hf (upperFirst_of_lowerFirst_eq_meta h ▸ List.mem_cons_self)
  have hdistinct := nodup_params_iff hkeys hmeta
  have hfields {p : EventFieldView → Prop} :
      (∀ v ∈ e.view.fields, p v) ↔ ∀ f ∈ e.fields, p f.view :=
    List.forall_mem_map
  constructor
  case args => exact view_ctorArgs
  case keyword =>
    rw [view_params, List.forall_mem_append, List.forall_mem_map, List.forall_mem_singleton]
    exact ⟨fun f _ => goParam_not_mem_goKeywords f.key, by decide⟩
  case metaData => exact hfields.mpr fun f hf => goParam_ne_meta (hmeta f hf)
  case distinct =>
    simp only [hfields]
    exact hdistinct
  case names =>
    intro hnames hascii
    simp only [hfields] at hascii ⊢
    have hnames : (e.fields.map fun f => upperFirst f.key).Nodup := by
      rw [view, List.map_map] at hnames
      exact hnames
    rw [hdistinct]
    constructor
    · intro hparams f hf g hg hclash
      refine hparams f hf g hg (fun heq => ?_) (.inr (.inl hclash))
      -- a word is not the same with an underscore behind it
      have hself : lowerFirst f.key = lowerFirst f.key ++ "_" :=
        (congrArg lowerFirst heq).trans hclash.2
      exact ne_append_underscore (List.mem_cons_of_mem _ hclash.1) _ hself
    · rintro hclash f hf g hg hne (hsame | h | h)
      · have hname : upperFirst f.key = upperFirst g.key := calc
          _ = upperFirst (lowerFirst f.key) := (upperFirst_lowerFirst (hascii f hf)).symm
          _ = upperFirst (lowerFirst g.key) := congrArg upperFirst hsame
          _ = upperFirst g.key := upperFirst_lowerFirst (hascii g hg)
        exact hne (congrArg _ (List.inj_on_of_nodup_map hnames hf hg hname))
      · exact hclash f hf g hg h
      · exact hclash g hg f hf h

end Event

/-- The file of events shows the constructor of each of them. -/
theorem shows_constructor {h : Helpers} {c : Context} {v : EventView} (hv : v ∈ c.events.events) :
    Shows h c.fields Output.Go.events v.constructor :=
  .item 13 rfl rfl (List.mem_map_of_mem hv) fun _ => .parts 10 5 (renderNodes_between₂ rfl rfl _ _ _)

/-- **The parameters of the constructors of a loaded module.** Each event has a constructor in a
generated file. Its parameters are no keywords, and they are distinct exactly if no two fields have
one parameter: the same key with a small first letter, or a keyword and the keyword with an
underscore. -/
theorem eventParams_of_load {source : Source} {configs : List ModuleConfig} {run : List Module}
    (h : load source configs = .ok run) {m : Module} (hm : m ∈ run) (config : Config) :
    ∃ c files, m.context run config = .ok c ∧ m.generate run config .standard = .ok files ∧
      ∀ v ∈ c.events.events, v.HasParams ∧
        ∃ body, ⟨(m.goFile "events" Output.Go.events).path, OutputKind.go.marker ++ body⟩ ∈ files ∧
          StandsIn v.constructor body := by
  obtain ⟨docs, declared, -, hloaded⟩ := load_eq_ok.mp h
  obtain ⟨files, hfiles⟩ := hloaded.exists_generate hm config
  obtain ⟨c, hc, -⟩ := bind_eq_ok.mp hfiles
  have hnames : m.ProperNames :=
    Module.checkStructure_eq_ok_iff.mp (check_bind_eq_ok.mp (hloaded.check m hm)).1
  refine ⟨c, files, hc, hfiles, fun v hv => ⟨?_, ?_⟩⟩
  · rw [Module.events_of_context hc] at hv
    obtain ⟨e, he, rfl⟩ := List.mem_map.mp hv
    obtain ⟨hkeys, hmethods⟩ := hnames.event e he
    exact Event.hasParams_view hkeys hmethods
  · have hevents : m.present.events = true :=
      ((Module.showsNames_of_context hc).present (hloaded.hasDocuments hm)).2.1
        (List.ne_nil_of_mem hv)
    exact Module.exists_output_of_shows hc hfiles (by simp [Module.plan, filesIf, hevents])
      (shows_constructor hv)

/-- An event with a field that is a keyword, and one whose key begins with a capital letter. -/
theorem eventParams_of_load_keyword : ∃ run m c files v body, load
      (fun _ => .ok
        "[[[\"user.created\",[],[[\"type\",\"string\",\"\"],[\"Name\",\"string\",\"\"]]]]]")
      [⟨"users", none, some "events", none, none⟩] = .ok run ∧ m ∈ run ∧
    m.context run .default = .ok c ∧ m.generate run .default .standard = .ok files ∧
    v ∈ c.events.events ∧ v.HasParams ∧ v.params = ["type_", "name", "meta"] ∧
    v.params.Nodup ∧ ⟨"backend/users/events.gen.go", OutputKind.go.marker ++ body⟩ ∈ files ∧
    StandsIn "func NewUserCreated(type_ string, name string, meta event.EventMeta) *" body := by
  generalize hload : load _ _ = loaded
  have hdata : loaded.toOption.map (fun run => run.map fun m =>
      (m.path, m.events.map fun e => (e.view.params, e.view.constructor))) =
      some [("users", [(["type_", "name", "meta"],
        "func NewUserCreated(type_ string, name string, meta event.EventMeta) *")])] := by
    rw [← hload]
    decide +kernel
  obtain ⟨run, rfl, hrun⟩ := map_toOption_eq_some.mp hdata
  obtain ⟨m, rfl, hmodule⟩ := List.map_eq_singleton_iff.mp hrun
  obtain ⟨hpath, hevents⟩ := Prod.mk.inj hmodule
  obtain ⟨e, he, hevent⟩ := List.map_eq_singleton_iff.mp hevents
  obtain ⟨hparams, hconstructor⟩ := Prod.mk.inj hevent
  obtain ⟨c, files, hc, hfiles, hviews⟩ :=
    eventParams_of_load hload (List.mem_singleton_self m) .default
  have hv : e.view ∈ c.events.events := by
    rw [Module.events_of_context hc, he]
    exact List.mem_singleton_self _
  obtain ⟨hv', body, hbody, hstands⟩ := hviews _ hv
  rw [Module.goFile, hpath] at hbody
  exact ⟨_, m, c, files, e.view, body, rfl, List.mem_singleton_self m, hc, hfiles, hv, hv', hparams,
    hparams ▸ by decide, hbody, hconstructor ▸ hstands⟩

/-- Two fields with one parameter: the key of one is a keyword, and that of the other has the
underscore already. The names of the fields are distinct. -/
theorem exists_repeated_param : ∃ run m c v, load
      (fun _ => .ok
        "[[[\"user.created\",[],[[\"type\",\"string\",\"\"],[\"type_\",\"string\",\"\"]]]]]")
      [⟨"users", none, some "events", none, none⟩] = .ok run ∧ m ∈ run ∧
    m.context run .default = .ok c ∧ v ∈ c.events.events ∧
    (v.fields.map (·.goName)).Nodup ∧ ¬ v.params.Nodup ∧
    v.ctorArgs = "type_ string, type_ string, meta event.EventMeta" := by
  generalize hload : load _ _ = loaded
  have hdata : loaded.toOption.map (fun run => run.map fun m => m.events.map fun e =>
      (e.view.fields.map (·.goName), e.view.params, e.view.ctorArgs)) =
      some [[(["Type", "Type_"], ["type_", "type_", "meta"],
        "type_ string, type_ string, meta event.EventMeta")]] := by
    rw [← hload]
    decide +kernel
  obtain ⟨run, rfl, hrun⟩ := map_toOption_eq_some.mp hdata
  obtain ⟨m, rfl, hevents⟩ := List.map_eq_singleton_iff.mp hrun
  obtain ⟨e, he, hevent⟩ := List.map_eq_singleton_iff.mp hevents
  obtain ⟨-, c, hc⟩ := exists_context_of_load hload (List.mem_singleton_self m) .default
  simp only [Prod.mk.injEq] at hevent
  obtain ⟨hnames, hparams, hargs⟩ := hevent
  refine ⟨_, m, c, e.view, rfl, List.mem_singleton_self m, hc, ?_, hnames ▸ by decide,
    hparams ▸ by decide, hargs⟩
  rw [Module.events_of_context hc, he]
  exact List.mem_singleton_self _

end Specloom
