import Mathlib.Data.List.Chain
import Specloom.Proofs.Output.Imports
import Specloom.Proofs.Path.UrlForms

/-!
# The parameters of the functions of endpoints

The placeholders of an endpoint are parameters of three functions as they are: the method that
builds its URL in Go, and the two functions of the frontend. Reading a path compares placeholders
with each other only, so a placeholder can be a keyword of Go, the receiver of the method or the
package that escapes, and in the frontend the body of a request.

## Main definitions

* `Go.ProperParams`: parameters that fit the method that they belong to
* `Endpoint.fetchParams`: the parameters of the function that fetches
* `Endpoint.HasParams`: what loading makes sure of for the parameters

## Main results

* `PathTemplate.eq_url_of_calls`: the only package that a URL calls
* `PathTemplate.properParams_iff`: which placeholders fit the method in Go
* `exists_improper_params`: placeholders that do not fit
* `endpointParams_of_load`: the parameters of the endpoints of a loaded module
-/

namespace Specloom

/-- The parameters of a method of Go fit it: they and the receiver are distinct, no keyword is among
them, and none hides a package of which the body calls a function. -/
structure Go.ProperParams (receiver : String) (params : List String) (body : String) : Prop where
  distinct : (receiver :: params).Nodup
  keyword : ∀ param ∈ params, param ∉ goKeywords
  package : ∀ param ∈ params, ∀ function, ¬ Go.Calls body param function

/-! ## Packages of a URL -/

namespace Path

open Go Text

/-- Before a dot stands the package that escapes. -/
def BeforeDot (before token : Token) : Prop :=
  token = .symbol '.' → before = .word "url"

theorem UrlPart.isChain_goTokens (part : UrlPart) : part.goTokens.IsChain BeforeDot := by
  cases part <;> simp [goTokens, BeforeDot]

theorem UrlPart.exists_cons_goTokens (part : UrlPart) :
    ∃ token tokens, part.goTokens = token :: tokens ∧ token ≠ .symbol '.' := by
  cases part <;> exact ⟨_, _, rfl, by simp⟩

/-- In a sum a dot follows the package only. -/
theorem isChain_sum (parts : List UrlPart) :
    (List.intercalate [.symbol '+'] (parts.map UrlPart.goTokens)).IsChain BeforeDot := by
  induction parts with
  | nil => simp
  | cons part parts ih =>
    cases parts with
    | nil => simpa using part.isChain_goTokens
    | cons part' parts =>
      obtain ⟨token, tokens, hpart', hdot⟩ := part'.exists_cons_goTokens
      obtain ⟨more, hmore⟩ : ∃ more, List.intercalate [.symbol '+']
          ((part' :: parts).map UrlPart.goTokens) = token :: more := by
        rw [List.map_cons, hpart']
        cases parts <;> simp [List.intercalate_cons_cons]
      rw [List.map_cons, List.map_cons, List.intercalate_cons_cons, ← List.map_cons,
        List.append_assoc, List.isChain_append]
      rw [hmore] at ih ⊢
      refine ⟨part.isChain_goTokens, ?_, ?_⟩
      · exact List.isChain_cons_cons.mpr ⟨fun h => absurd h hdot, ih⟩
      · simp [BeforeDot]

namespace PathTemplate

variable {raw : String} {t : PathTemplate}

/-- **A URL calls functions of one package only.** -/
theorem eq_url_of_calls (h : parse raw = .ok t) {package function : String}
    (hcalls : Calls (goUrl t) package function) : package = "url" := by
  obtain ⟨tokens, htokens, before, after, hcall⟩ := hcalls
  cases htokens.symm.trans (tokens?_goUrl h)
  have hchain := hcall ▸ isChain_sum t.summands
  have hdot := hchain.left_of_append.right_of_append
  exact Token.word.inj ((List.isChain_cons_cons.mp hdot).1 rfl)

/-- **Which placeholders fit the method that builds a URL**: those that are none of its own words
and no keywords. -/
theorem properParams_iff (h : parse raw = .ok t) :
    ProperParams "b" t.allPlaceholders (goUrl t) ↔
      ∀ name ∈ t.allPlaceholders, name ∉ "b" :: "url" :: goKeywords := by
  obtain ⟨query, -, -, -, hnodup⟩ := exists_of_parse h
  constructor
  · rintro ⟨hdistinct, hkeyword, hpackage⟩ name hname hmem
    rcases List.mem_cons.mp hmem with rfl | hmem
    · exact (List.nodup_cons.mp hdistinct).1 hname
    · rcases List.mem_cons.mp hmem with rfl | hmem
      · -- a placeholder is escaped, so the package is called
        rcases (calls_goUrl_iff h).mpr (List.ne_nil_of_mem hname) with hcalls | hcalls
        · exact hpackage _ hname _ hcalls
        · exact hpackage _ hname _ hcalls
      · exact hkeyword _ hname hmem
  · intro hnames
    simp only [List.mem_cons, not_or] at hnames
    exact {
      distinct := List.nodup_cons.mpr ⟨fun hb => (hnames _ hb).1 rfl, hnodup⟩
      keyword := fun name hname => (hnames name hname).2.2
      package := fun name hname _ hcalls => (hnames name hname).2.1 (eq_url_of_calls h hcalls) }

end PathTemplate

end Path

/-! ## Endpoints -/

namespace Endpoint

open Specloom.Path

/-- The parameters of the function that fetches: the placeholders, and the body last. -/
def fetchParams (e : Endpoint) : List String :=
  e.path.allPlaceholders ++ (e.consumes.map fun _ => "body").toList

/-- How the function that fetches begins. -/
def fetchFunction (e : Endpoint) : String :=
  "export function " ++ e.name ++ "(" ++ e.view.tsArgs ++ "): Promise<"

/-- The method that builds the URL. -/
def urlMethod (e : Endpoint) : String :=
  "func (b *RestClientUrlBuilder) " ++ Name.upperFirst e.name ++ "(" ++ e.view.goArgs ++
    ") string \x7b\n" ++ ("\treturn b.baseUrl + " ++ e.view.goUrl ++ "\n")

/-- The parameters of an endpoint are its placeholders, which are distinct, and the body where a type
is consumed. Those of the function that fetches are distinct unless a placeholder is the body, and
those of the method in Go fit it unless a placeholder is a word of the method or a keyword. -/
structure HasParams (e : Endpoint) : Prop where
  placeholders : e.path.allPlaceholders.Nodup
  fetchArgs : e.view.tsArgs = ", ".intercalate
    (List.zipWith (fun name type => name ++ ": " ++ type) e.fetchParams
      (e.path.allPlaceholders.map (fun _ => "string") ++ (e.consumes.map Datatype.ts).toList))
  urlArgs : params? " string" e.view.goArgs = some e.path.allPlaceholders
  fetch : e.fetchParams.Nodup ↔ e.consumes = none ∨ "body" ∉ e.path.allPlaceholders
  url : Go.ProperParams "b" e.path.allPlaceholders e.view.goUrl ↔
    ∀ name ∈ e.path.allPlaceholders, name ∉ "b" :: "url" :: goKeywords

variable {e : Endpoint}

theorem view_tsArgs (e : Endpoint) : e.view.tsArgs = ", ".intercalate
    (List.zipWith (fun name type => name ++ ": " ++ type) e.fetchParams
      (e.path.allPlaceholders.map (fun _ => "string") ++ (e.consumes.map Datatype.ts).toList)) := by
  have hplaceholders : List.zipWith (fun name type => name ++ ": " ++ type)
      e.path.allPlaceholders (e.path.allPlaceholders.map fun _ => "string") = e.tsUrlArgs := by
    rw [List.zipWith_map_right, List.zipWith_self, tsUrlArgs]
    exact List.map_congr_left fun name _ => String.append_assoc ..
  rw [fetchParams, List.zipWith_append (by simp), hplaceholders]
  cases h : e.consumes <;> simp [view, tsArgs, h]

theorem nodup_fetchParams_iff (h : e.path.allPlaceholders.Nodup) :
    e.fetchParams.Nodup ↔ e.consumes = none ∨ "body" ∉ e.path.allPlaceholders := by
  cases hconsumes : e.consumes with
  | none => simpa [fetchParams, hconsumes] using h
  | some t =>
    rw [fetchParams, hconsumes, List.nodup_append_comm]
    simp [h]

/-- **The parameters of an endpoint** whose path was read. -/
theorem hasParams_of_parse {raw : String} (h : PathTemplate.parse raw = .ok e.path) :
    e.HasParams := by
  obtain ⟨query, -, -, -, hnodup⟩ := PathTemplate.exists_of_parse h
  exact {
    placeholders := hnodup
    fetchArgs := e.view_tsArgs
    urlArgs := by
      refine params?_intercalate (fun c hc => ?_) (by decide) fun _ =>
        PathTemplate.isIdent_of_mem_allPlaceholders h
      obtain rfl : ' ' = c := Option.some.inj hc
      rfl
    fetch := nodup_fetchParams_iff hnodup
    url := PathTemplate.properParams_iff h }

end Endpoint

/-! ## Files -/

open Template

theorem Module.endpoints_of_context {m : Module} {run : List Module} {config : Config}
    {c : Context} (h : m.context run config = .ok c) :
    c.endpoints.endpoints = m.endpoints.map Endpoint.view := by
  obtain ⟨commands, -, h⟩ := bind_eq_ok.mp h
  cases pure_eq_ok.mp h
  rfl

variable {h : Helpers} {c : Context}

theorem shows_fetchFunction {e : Endpoint} (he : e.view ∈ c.endpoints.endpoints) :
    Shows h c.fields Output.TypeScript.endpoints e.fetchFunction :=
  .item 9 rfl rfl (List.mem_map_of_mem he) fun _ => .parts 7 5 (renderNodes_between₂ rfl rfl _ _ _)

theorem shows_urlMethod {e : Endpoint} (he : e.view ∈ c.endpoints.endpoints) :
    Shows h c.fields Output.Go.endpoints e.urlMethod :=
  .item 17 rfl rfl (List.mem_map_of_mem he) fun _ => .parts 6 8
    (renderNodes_append (renderNodes_between₂ rfl rfl _ _ _) (renderNodes_between rfl _ _))

/-- **The parameters of the endpoints of a loaded module.** Each endpoint has a function that
fetches and a method that builds its URL, in two generated files. The parameters of the function are
distinct exactly if no body comes with a placeholder of that name; those of the method fit it exactly
if no placeholder is the receiver, the package that escapes or a keyword. -/
theorem endpointParams_of_load {source : Source} {configs : List ModuleConfig} {run : List Module}
    (h : load source configs = .ok run) {m : Module} (hm : m ∈ run) (config : Config) :
    ∃ files, m.generate run config .standard = .ok files ∧ ∀ e ∈ m.endpoints, e.HasParams ∧
      (∃ body, ⟨(m.tsFile "endpoints" Output.TypeScript.endpoints).path,
        OutputKind.typescript.marker ++ body⟩ ∈ files ∧ StandsIn e.fetchFunction body) ∧
      ∃ body, ⟨(m.goFile "restendpoints" Output.Go.endpoints).path,
        OutputKind.go.marker ++ body⟩ ∈ files ∧ StandsIn e.urlMethod body := by
  obtain ⟨docs, declared, -, hloaded⟩ := load_eq_ok.mp h
  obtain ⟨files, hfiles⟩ := hloaded.exists_generate hm config
  obtain ⟨c, hc, -⟩ := bind_eq_ok.mp hfiles
  refine ⟨files, hfiles, fun e he => ?_⟩
  obtain ⟨raw, hraw⟩ := hloaded.exists_parse_path hm he
  have hview : e.view ∈ c.endpoints.endpoints := by
    rw [Module.endpoints_of_context hc]
    exact List.mem_map_of_mem he
  have hpresent : (!m.endpoints.isEmpty) = true := by simpa using List.ne_nil_of_mem he
  exact ⟨Endpoint.hasParams_of_parse hraw,
    Module.exists_output_of_shows hc hfiles (by simp [Module.plan, filesIf, hpresent])
      (shows_fetchFunction hview),
    Module.exists_output_of_shows hc hfiles (by simp [Module.plan, filesIf, hpresent])
      (shows_urlMethod hview)⟩

/-- An endpoint with placeholders in its path and in its query, which consumes a type. -/
theorem endpointParams_of_load_user : ∃ run m files e, load
      (fun _ => .ok ("[[[\"User\",[\"object\",false,null,\x7b\"name\":\"string\"\x7d]]],[],[]," ++
        "[[\"saveUser\",\"PUT\",\"/users/\x7bid\x7d?mode=\x7bmode\x7d\",\"public\",\"User\",null]]]"))
      [⟨"users", some "types", none, none, none⟩] = .ok run ∧ m ∈ run ∧
    m.generate run .default .standard = .ok files ∧ e ∈ m.endpoints ∧ e.HasParams ∧
    e.fetchParams = ["id", "mode", "body"] ∧ e.fetchParams.Nodup ∧
    e.view.goArgs = "id string, mode string" ∧
    Go.ProperParams "b" ["id", "mode"] e.view.goUrl ∧
    ∃ body, ⟨"backend/users/restendpoints.gen.go", OutputKind.go.marker ++ body⟩ ∈ files ∧
      StandsIn e.urlMethod body := by
  generalize hload : load _ _ = loaded
  have hdata : loaded.toOption.map (fun run => run.map fun m => (m.path, m.endpoints.map fun e =>
      (e.path.allPlaceholders, e.fetchParams, e.view.goArgs))) =
      some [("users", [(["id", "mode"], ["id", "mode", "body"], "id string, mode string")])] := by
    rw [← hload]
    decide +kernel
  obtain ⟨run, rfl, hrun⟩ := map_toOption_eq_some.mp hdata
  obtain ⟨m, rfl, hmodule⟩ := List.map_eq_singleton_iff.mp hrun
  obtain ⟨hpath, hendpoints⟩ := Prod.mk.inj hmodule
  obtain ⟨e, he, hendpoint⟩ := List.map_eq_singleton_iff.mp hendpoints
  simp only [Prod.mk.injEq] at hendpoint
  obtain ⟨hplaceholders, hfetch, hargs⟩ := hendpoint
  have hmem : e ∈ m.endpoints := he ▸ List.mem_singleton_self e
  obtain ⟨files, hfiles, hparams⟩ :=
    endpointParams_of_load hload (List.mem_singleton_self m) .default
  obtain ⟨hparams, -, body, hbody, hstands⟩ := hparams e hmem
  rw [Module.goFile, hpath] at hbody
  have hproper := hparams.url.mpr (by rw [hplaceholders]; decide +kernel)
  rw [hplaceholders] at hproper
  exact ⟨_, m, files, e, rfl, List.mem_singleton_self m, hfiles, hmem, hparams, hfetch,
    hfetch ▸ by decide, hargs, hproper, body, hbody, hstands⟩

/-- Placeholders that do not fit: a keyword as a parameter in Go, and the body of a request as a
parameter in the frontend. -/
theorem exists_improper_params : ∃ run m e e', load
      (fun _ => .ok ("[[[\"User\",[\"object\",false,null,\x7b\"name\":\"string\"\x7d]]],[],[]," ++
        "[[\"listUsers\",\"GET\",\"/api/users/\x7btype\x7d\",\"public\",null,null]," ++
        "[\"saveUser\",\"PUT\",\"/api/users/\x7bbody\x7d\",\"public\",\"User\",null]]]"))
      [⟨"users", some "types", none, none, none⟩] = .ok run ∧ m ∈ run ∧ m.endpoints = [e, e'] ∧
    e.view.goArgs = "type string" ∧
    ¬ Go.ProperParams "b" e.path.allPlaceholders e.view.goUrl ∧
    e'.view.tsArgs = "body: string, body: User" ∧ ¬ e'.fetchParams.Nodup := by
  generalize hload : load _ _ = loaded
  have hdata : loaded.toOption.map (fun run => run.map fun m => m.endpoints.map fun e =>
      (e.path.allPlaceholders, e.fetchParams, e.view.goArgs, e.view.tsArgs)) =
      some [[(["type"], ["type"], "type string", "type: string"),
        (["body"], ["body", "body"], "body string", "body: string, body: User")]] := by
    rw [← hload]
    decide +kernel
  obtain ⟨run, rfl, hrun⟩ := map_toOption_eq_some.mp hdata
  obtain ⟨m, rfl, hendpoints⟩ := List.map_eq_singleton_iff.mp hrun
  obtain ⟨e, _, hendpoints, he, hrest⟩ := List.map_eq_cons_iff.mp hendpoints
  obtain ⟨e', rfl, he'⟩ := List.map_eq_singleton_iff.mp hrest
  simp only [Prod.mk.injEq] at he he'
  refine ⟨_, m, e, e', rfl, List.mem_singleton_self m, hendpoints, he.2.2.1, fun hproper => ?_,
    he'.2.2.2, ?_⟩
  · rw [he.1] at hproper
    exact hproper.keyword "type" (by decide) (by decide)
  · rw [he'.2.1]
    decide

end Specloom
