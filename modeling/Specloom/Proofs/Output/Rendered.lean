import Specloom.Output.Files
import Specloom.Proofs.Command.Compiled
import Specloom.Proofs.Context.Shape
import Specloom.Proofs.Template.Shows

/-!
# Files are rendered

Every template of a planned file is well shaped for the contexts of modules, so a file is rendered
as soon as its module has a context. A module has one if its commands are accepted: what a command
shows is built from what the check of the command has computed before.

## Main definitions

* `templates`: the templates of all kinds of files

## Main results

* `areWellShaped_of_mem_templates`: the templates are well shaped
* `Module.exists_context`: a module whose commands are accepted has a context
* `Module.exists_generate`: its files are rendered
* `Module.exists_output_of_shows`: what a template shows stands in the generated file
-/

namespace Specloom

open Template

/-! ## Templates -/

/-- The templates of all kinds of files. -/
def templates : List Template :=
  [Output.Go.commands, Output.Go.events, Output.Go.endpoints, Output.Go.types, Output.Go.uiRoutes,
    Output.TypeScript.commands, Output.TypeScript.endpoints, Output.TypeScript.types,
    Output.TypeScript.uiRoutes, Output.Markdown.commands, Output.Markdown.events,
    Output.Markdown.endpoints, Output.Markdown.types]

/-- **The templates are well shaped** for all modules. -/
theorem areWellShaped_of_mem_templates {template : Template} (h : template ∈ templates) :
    areWellShaped contextShapes template = true := by
  have hall : templates.all (areWellShaped contextShapes) = true := by decide +kernel
  exact List.all_eq_true.mp hall template h

theorem mem_filesIf {present : Bool} {files : List PlannedFile} {file : PlannedFile}
    (h : file ∈ filesIf present files) : file ∈ files := by
  cases present with
  | true => exact h
  | false => cases h

theorem Module.template_of_mem_docFile {m : Module} {config : Config} {name : String}
    {template : Template} {file : PlannedFile} (h : file ∈ m.docFile config name template) :
    file.template = template := by
  rw [docFile] at h
  split at h
  · rw [List.mem_singleton.mp h]
  · cases h

/-- Every planned file has one of the templates. -/
theorem Module.template_mem_of_mem_plan {m : Module} {config : Config} {file : PlannedFile}
    (h : file ∈ m.plan config) : file.template ∈ templates := by
  have hfile : ∀ {files : List PlannedFile} {present : Bool}, file ∈ filesIf present files →
      (∀ f ∈ files, f.template ∈ templates) → file.template ∈ templates :=
    fun h hall => hall file (mem_filesIf h)
  have hdoc : ∀ {name : String} {template : Template}, template ∈ templates →
      ∀ f ∈ m.docFile config name template, f.template ∈ templates :=
    fun h f hf => template_of_mem_docFile hf ▸ h
  simp only [plan, List.mem_append] at h
  rcases h with (((h | h) | h) | h) | h <;> refine hfile h ?_ <;>
    simp only [List.forall_mem_append, List.forall_mem_cons, List.not_mem_nil, false_implies,
      implies_true, and_true]
  · exact ⟨⟨by simp [templates, goFile], by simp [templates, tsFile]⟩, hdoc (by simp [templates])⟩
  · exact ⟨by simp [templates, goFile], hdoc (by simp [templates])⟩
  · exact ⟨⟨by simp [templates, goFile], by simp [templates, tsFile]⟩, hdoc (by simp [templates])⟩
  · exact ⟨⟨by simp [templates, goFile], by simp [templates, tsFile]⟩, hdoc (by simp [templates])⟩
  · exact ⟨by simp [templates, goFile], by simp [templates, tsFile]⟩

/-! ## Contexts -/

/-- A module whose commands are accepted has a context. -/
theorem Module.exists_context {m : Module}
    (h : ∀ c ∈ m.commands, m.checkCommand c = .ok ()) (run : List Module) (config : Config) :
    ∃ context, m.context run config = .ok context := by
  have hview : ∀ c ∈ m.commands, ∃ view, c.view m.id = .ok view := by
    intro c hc
    obtain ⟨-, view, -, hview, -⟩ := Command.exists_view (h c hc)
    exact ⟨view, hview⟩
  obtain ⟨views, hviews⟩ := exists_mapM_eq_ok hview
  exact ⟨_, bind_eq_ok.mpr ⟨_, bind_eq_ok.mpr ⟨views, hviews, rfl⟩, rfl⟩⟩

/-! ## Files -/

theorem PlannedFile.exists_render {m : Module} {config : Config} {file : PlannedFile}
    (h : file ∈ m.plan config) (context : Context) :
    ∃ output, file.render .standard context = .ok output := by
  obtain ⟨text, htext⟩ := render_of_areWellShaped context.admits_fields file.template
    (areWellShaped_of_mem_templates (Module.template_mem_of_mem_plan h))
  exact ⟨⟨file.path, file.kind.marker ++ text⟩, by rw [PlannedFile.render, Template.render, htext]⟩

/-- **The files of a module whose commands are accepted are rendered.** -/
theorem Module.exists_generate {m : Module}
    (h : ∀ c ∈ m.commands, m.checkCommand c = .ok ()) (run : List Module) (config : Config) :
    ∃ files, m.generate run config .standard = .ok files := by
  obtain ⟨context, hcontext⟩ := m.exists_context h run config
  obtain ⟨files, hfiles⟩ := exists_mapM_eq_ok fun file (hfile : file ∈ m.plan config) =>
    PlannedFile.exists_render hfile context
  exact ⟨files, bind_eq_ok.mpr ⟨context, hcontext, hfiles⟩⟩

/-- **What the template of a planned file shows stands in a generated file**, behind the marker. -/
theorem Module.exists_output_of_shows {m : Module} {run : List Module} {config : Config}
    {h : Helpers} {context : Context} (hcontext : m.context run config = .ok context)
    {files : List OutputFile} (hfiles : m.generate run config h = .ok files) {file : PlannedFile}
    (hfile : file ∈ m.plan config) {text : String}
    (hshows : Shows h context.fields file.template text) :
    ∃ body, ⟨file.path, file.kind.marker ++ body⟩ ∈ files ∧ StandsIn text body := by
  obtain ⟨_, hcontext', hrendered⟩ := bind_eq_ok.mp hfiles
  cases hcontext.symm.trans hcontext'
  obtain ⟨output, houtput, hrender⟩ := exists_mem_of_mem_mapM hrendered hfile
  rw [PlannedFile.render] at hrender
  split at hrender
  · rename_i body hbody
    cases hrender
    exact ⟨body, houtput, hshows.standsIn hbody⟩
  · cases hrender

end Specloom
