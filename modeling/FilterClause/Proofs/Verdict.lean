import FilterClause.Command.Run
import FilterClause.Proofs.RequestOutline

/-!
The verdict of a check. Whether a request compiles, and why not, depends neither on the way in which
values are filled in nor on the dialect of placeholders. So a check, which takes both from the settings,
tells what compiling comes to with any others.
-/
namespace FilterClause

open Checked

/-- Compilers that read equality filters alike refuse the same requests for the same reasons. -/
theorem Compiler.compile_eq_error_iff {c c' : Compiler} (hform : c.form = .standard)
    (hform' : c'.form = .standard) (htype : c.options.filterType = c'.options.filterType) (r : Request)
    (failure : Failure) : c.compile r = .error failure ↔ c'.compile r = .error failure := by
  rw [c.compile_eq hform, c'.compile_eq hform', htype, map_eq_error_iff, map_eq_error_iff]

namespace Command

/-- A source that is loaded is refused just where its request is. -/
theorem compileSource_eq_error_iff {s : Surroundings} {source : Source} {settings : Settings}
    {request : Request} (hload : load s source = .ok (settings, request))
    (adjust : Options → Options) (error : Error) :
    compileSource s source adjust = .error error ↔
      ∃ failure, ({ options := adjust settings.options } : Compiler).compile request =
        .error failure ∧ error = .refused failure := by
  have hcompile : compileSource s source adjust = do
      let compiled ← (({ options := adjust settings.options } : Compiler).compile request).mapError
        .refused
      return (adjust settings.options, compiled) := by
    rw [compileSource, hload]
    rfl
  rw [hcompile]
  cases ({ options := adjust settings.options } : Compiler).compile request with
  | error failure =>
    constructor
    · intro h
      cases h
      exact ⟨failure, rfl, rfl⟩
    · rintro ⟨_, hfailure, rfl⟩
      cases hfailure
      rfl
  | ok compiled =>
    constructor
    · exact nofun
    · rintro ⟨_, hfailure, _⟩
      exact nomatch hfailure

/-- Only the adjustment of how equality filters are read can change why a source is refused. -/
theorem compileSource_error_congr (s : Surroundings) (source : Source) {adjust adjust' : Options → Options}
    (h : ∀ options, (adjust options).filterType = (adjust' options).filterType) (error : Error) :
    compileSource s source adjust = .error error ↔ compileSource s source adjust' = .error error := by
  cases hload : load s source with
  | error found => rw [compileSource, compileSource, hload]; rfl
  | ok loaded =>
    obtain ⟨settings, request⟩ := loaded
    rw [compileSource_eq_error_iff hload, compileSource_eq_error_iff hload]
    have hsame : ∀ failure,
        ({ options := adjust settings.options } : Compiler).compile request = .error failure ↔
          ({ options := adjust' settings.options } : Compiler).compile request = .error failure :=
      Compiler.compile_eq_error_iff rfl rfl (h settings.options) request
    simp only [hsame]

/-- A command that succeeds has the status 0, and one that is refused has the status 1, its error, and no
output but the text that it prints first. -/
theorem outcome_error {α : Type} (before : String) (log : Logged) {result : Except Error α}
    (shown : α → String) {error : Error} (h : result = .error error) :
    outcome before log result shown =
      { status := 1, output := before, log, error := some error } := by
  rw [h, outcome]

theorem status_outcome_eq_zero_iff {α : Type} (before : String) (log : Logged)
    (result : Except Error α) (shown : α → String) :
    (outcome before log result shown).status = 0 ↔ ∀ error, result ≠ .error error := by
  cases result with
  | ok a => simp [outcome]
  | error error => simp [outcome]

/-- What becomes of a check becomes of compiling the same source in any rendering: both succeed, or both
end with the status 1 and the same error, and then nothing compiled is printed. -/
theorem check_agrees_with_compile (s : Surroundings) (checkArgs compileArgs : List String)
    (source : Source) (rendering : Rendering)
    (hcheck : Invocation.read s.vars checkArgs = some (.check source))
    (hcompile : Invocation.read s.vars compileArgs = some (.compile source rendering)) :
    ((run s checkArgs).status = 0 ↔ (run s compileArgs).status = 0) ∧
    ((run s checkArgs).status ≠ 0 →
      (run s checkArgs).status = 1 ∧ (run s compileArgs).status = 1 ∧
      (run s compileArgs).output = "" ∧
      ∃ error, (run s checkArgs).error = some error ∧ (run s compileArgs).error = some error) := by
  have hcheckRun : run s checkArgs = runCheck s source := by rw [run, hcheck]
  have hcompileRun : run s compileArgs = runCompile s source rendering := by rw [run, hcompile]
  have hsame : ∀ error, compileSource s source id = .error error ↔
      compileSource s source rendering.options = .error error :=
    compileSource_error_congr s source fun _ => rfl
  rw [hcheckRun, hcompileRun, runCheck, runCompile]
  constructor
  · rw [status_outcome_eq_zero_iff, status_outcome_eq_zero_iff]
    simp only [ne_eq, hsame]
  · intro hfails
    rw [ne_eq, status_outcome_eq_zero_iff] at hfails
    push Not at hfails
    obtain ⟨error, herror⟩ := hfails
    rw [outcome_error _ _ _ herror, outcome_error _ _ _ ((hsame error).mp herror)]
    exact ⟨rfl, rfl, rfl, error, rfl, rfl⟩

/-- A list without values is refused as it is checked, and as it is compiled for another database. -/
def emptyList : Surroundings where
  vars _ := none
  directory := "/"
  file _ := .error .missing
  input := "\x7b\"in\": \x7b\"llave\": \"t.a\", \"values\": []\x7d\x7d"

theorem check_agrees_with_compile_of_empty_list :
    (run emptyList ["check"]).status = 1 ∧
      (run emptyList ["compile", "-p", "--format=sql", "--dialect", "mysql", "-"]).status = 1 ∧
      (run emptyList ["compile", "-p", "--format=sql", "--dialect", "mysql", "-"]).output = "" ∧
      ∃ error, (run emptyList ["check"]).error = some error ∧
        (run emptyList ["compile", "-p", "--format=sql", "--dialect", "mysql", "-"]).error =
          some error := by
  have h := check_agrees_with_compile emptyList ["check"]
    ["compile", "-p", "--format=sql", "--dialect", "mysql", "-"] {}
    { output := .sql, placeholders := true, dialect := some .mysql } (by decide) (by decide)
  exact h.2 (by decide +kernel)

/-- The same list with one value, which is accepted. -/
def oneValue : Surroundings :=
  { emptyList with input := "\x7b\"in\": \x7b\"llave\": \"t.a\", \"values\": [1]\x7d\x7d" }

example :
    (run oneValue ["check"]).status = 0 ∧
      (run oneValue ["compile", "-p", "--format=sql", "--dialect", "mysql", "-"]).output =
        "t.a IN (?)\n-- param 1: 1\n" := by
  decide +kernel

end Command

end FilterClause
