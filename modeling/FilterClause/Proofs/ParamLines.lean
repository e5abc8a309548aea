import FilterClause.Command.Run
import FilterClause.Proofs.TwoFillings

/-!
The comment lines under a condition that is printed as SQL, one for each value to bind. A comment ends
with its line, so the values stay within the comments just when no line ends within a value. A line ends
at a newline. A server that reads the text may end one at a carriage return too, so the characters that end
lines are given.
-/
namespace FilterClause

variable {ends : List Char}

namespace Text

/-! ### Lines and comments -/

/-- Holds of characters that end lines. These are newlines, with or without carriage returns. -/
structure LineEnds (ends : List Char) : Prop where
  newline : '\n' ∈ ends
  subset : ends ⊆ ['\n', '\r']

/-- The lines of a text, each without the character that ends it. -/
def lines (ends : List Char) : List Char → List (List Char)
  | [] => []
  | c :: cs =>
    if c ∈ ends then [] :: lines ends cs
    else
      match lines ends cs with
      | [] => [[c]]
      | line :: more => (c :: line) :: more

/-- What is left of a text without its comments, the first of which may be open already. A comment goes
from two dashes to the end of the line. -/
def withoutComments (ends : List Char) : Bool → List Char → List Char
  | _, [] => []
  | true, c :: cs => withoutComments ends (c ∉ ends) cs
  | false, '-' :: '-' :: cs => withoutComments ends true cs
  | false, c :: cs => c :: withoutComments ends false cs

/-- A text up to a newline adds a line for each end of a line that it goes over. -/
theorem length_lines_append (hends : LineEnds ends) (cs rest : List Char) :
    (lines ends (cs ++ '\n' :: rest)).length =
      cs.countP (· ∈ ends) + 1 + (lines ends rest).length := by
  induction cs with
  | nil => simp [lines, hends.newline, Nat.add_comm]
  | cons c cs ih =>
    rw [List.cons_append, lines]
    by_cases hc : c ∈ ends
    · rw [if_pos hc, List.length_cons, ih, List.countP_cons_of_pos (by simpa using hc)]
      omega
    · rw [if_neg hc, List.countP_cons_of_neg (by simpa using hc), ← ih]
      cases hlines : lines ends (cs ++ '\n' :: rest) with
      | nil =>
        rw [hlines] at ih
        simp only [List.length_nil] at ih
        omega
      | cons line more => rfl

theorem lines_append (hends : LineEnds ends) {cs : List Char} (h : ∀ c ∈ cs, c ∉ ends)
    (rest : List Char) : lines ends (cs ++ '\n' :: rest) = cs :: lines ends rest := by
  induction cs with
  | nil => simp [lines, hends.newline]
  | cons c cs ih =>
    obtain ⟨hc, hcs⟩ := List.forall_mem_cons.mp h
    rw [List.cons_append, lines, if_neg hc, ih hcs]

/-- The comment that is open ends at the newline. -/
theorem withoutComments_append (hends : LineEnds ends) {cs : List Char} (h : ∀ c ∈ cs, c ∉ ends)
    (rest : List Char) :
    withoutComments ends true (cs ++ '\n' :: rest) = withoutComments ends false rest := by
  induction cs with
  | nil => simp [withoutComments, hends.newline]
  | cons c cs ih =>
    obtain ⟨hc, hcs⟩ := List.forall_mem_cons.mp h
    rw [List.cons_append, withoutComments, decide_eq_true hc, ih hcs]

end Text

namespace Command

/-! ### Values in comments -/

/-- How the comment for the value with a number begins. -/
def paramLabel (number : Nat) : String :=
  "-- param " ++ toString number ++ ": "

/-- Holds of a text that is one line for each value, a comment that begins with the number of the value
and has all of its text, and nothing else. -/
structure Commented (ends : List Char) (offset : Nat) (params : List Scalar) (text : List Char) :
    Prop where
  length_lines : (Text.lines ends text).length = params.length
  shown : ∀ i param line, params[i]? = some param → (Text.lines ends text)[i]? = some line →
    (paramLabel (offset + i + 1)).toList <+: line ∧ param.asText.toList <:+: line
  withoutComments : Text.withoutComments ends false text = []

theorem notMem_ends_of_mem_paramLabel (hends : Text.LineEnds ends) (number : Nat) :
    ∀ c ∈ (paramLabel number).toList, c ∉ ends := by
  intro c hmem hc
  have hblank : c = '\n' ∨ c = '\r' := by simpa using hends.subset hc
  have hdigits : c ∉ Nat.toDigits 10 number := by
    intro hdigit
    have hdigit := Nat.isDigit_of_mem_toDigits (by omega) (by omega) hdigit
    rcases hblank with rfl | rfl
    all_goals exact absurd hdigit (by decide)
  rcases hblank with rfl | rfl
  all_goals simp [paramLabel, hdigits] at hmem

theorem toList_paramLines_cons (offset : Nat) (param : Scalar) (params : List Scalar) :
    (paramLines offset (param :: params)).toList =
      ((paramLabel (offset + 1)).toList ++ param.asText.toList) ++
        '\n' :: (paramLines (offset + 1) params).toList := by
  simp [paramLines, paramLabel]

/-- There is a line for each value, and one more for each end of a line in a value. -/
theorem length_lines_paramLines (hends : Text.LineEnds ends) (offset : Nat) (params : List Scalar) :
    (Text.lines ends (paramLines offset params).toList).length =
      params.length + (params.flatMap (·.asText.toList)).countP (· ∈ ends) := by
  induction params generalizing offset with
  | nil => rfl
  | cons param params ih =>
    have hlabel : (paramLabel (offset + 1)).toList.countP (· ∈ ends) = 0 := by
      simpa using notMem_ends_of_mem_paramLabel hends (offset + 1)
    rw [toList_paramLines_cons, Text.length_lines_append hends, List.countP_append, hlabel, ih,
      List.flatMap_cons, List.countP_append, List.length_cons]
    omega

theorem notMem_ends_of_mem_line (hends : Text.LineEnds ends) (number : Nat) {param : Scalar}
    (h : ∀ c ∈ param.asText.toList, c ∉ ends) :
    ∀ c ∈ (paramLabel number).toList ++ param.asText.toList, c ∉ ends :=
  List.forall_mem_append.mpr ⟨notMem_ends_of_mem_paramLabel hends number, h⟩

theorem lines_paramLines (hends : Text.LineEnds ends) {params : List Scalar}
    (h : ∀ param ∈ params, ∀ c ∈ param.asText.toList, c ∉ ends) (offset : Nat) :
    Text.lines ends (paramLines offset params).toList =
      params.mapIdx fun i param => (paramLabel (offset + i + 1)).toList ++ param.asText.toList := by
  induction params generalizing offset with
  | nil => rfl
  | cons param params ih =>
    obtain ⟨hparam, hparams⟩ := List.forall_mem_cons.mp h
    have hline := notMem_ends_of_mem_line hends (offset + 1) hparam
    rw [toList_paramLines_cons, Text.lines_append hends hline, ih hparams (offset + 1),
      List.mapIdx_cons]
    simp only [Nat.add_zero, Nat.add_assoc, Nat.add_comm 1]

theorem withoutComments_paramLines (hends : Text.LineEnds ends) {params : List Scalar}
    (h : ∀ param ∈ params, ∀ c ∈ param.asText.toList, c ∉ ends) (offset : Nat) :
    Text.withoutComments ends false (paramLines offset params).toList = [] := by
  induction params generalizing offset with
  | nil => rfl
  | cons param params ih =>
    obtain ⟨hparam, hparams⟩ := List.forall_mem_cons.mp h
    have hline := notMem_ends_of_mem_line hends (offset + 1) hparam
    rw [toList_paramLines_cons]
    obtain ⟨line, htext⟩ : ∃ line, (paramLabel (offset + 1)).toList ++ param.asText.toList =
        '-' :: '-' :: line := by
      simp [paramLabel]
    rw [htext] at hline ⊢
    have hrest : ∀ c ∈ line, c ∉ ends :=
      (List.forall_mem_cons.mp (List.forall_mem_cons.mp hline).2).2
    rw [List.cons_append, List.cons_append, Text.withoutComments,
      Text.withoutComments_append hends hrest, ih hparams (offset + 1)]

/-- The values stay in their comments just when no line ends in one of them. -/
theorem commented_paramLines_iff (hends : Text.LineEnds ends) (offset : Nat) (params : List Scalar) :
    Commented ends offset params (paramLines offset params).toList ↔
      ∀ param ∈ params, ∀ c ∈ ends, c ∉ param.asText.toList := by
  constructor
  · intro hcommented param hparam c hc hmem
    have hlength := hcommented.length_lines
    rw [length_lines_paramLines hends] at hlength
    have hcount : 0 < (params.flatMap (·.asText.toList)).countP (· ∈ ends) :=
      List.countP_pos_iff.mpr ⟨c, List.mem_flatMap.mpr ⟨param, hparam, hmem⟩, decide_eq_true hc⟩
    omega
  · intro h
    have hplain : ∀ param ∈ params, ∀ c ∈ param.asText.toList, c ∉ ends :=
      fun param hparam c hmem hc => h param hparam c hc hmem
    refine ⟨?_, ?_, withoutComments_paramLines hends hplain offset⟩
    · rw [lines_paramLines hends hplain, List.length_mapIdx]
    · intro i param line hparam hline
      rw [lines_paramLines hends hplain, List.getElem?_mapIdx, hparam, Option.map_some,
        Option.some.injEq] at hline
      rw [← hline]
      exact ⟨List.prefix_append _ _, List.infix_append_right⟩

example : paramLines 0 [.text "x\ry"] = "-- param 1: x\ry\n" ∧
    Text.withoutComments ['\n'] false "-- param 1: x\ry\n".toList = [] ∧
    Text.withoutComments ['\n', '\r'] false "-- param 1: x\ry\n".toList = "y\n".toList := by
  decide

/-! ### Compiling to SQL -/

/-- What is compiled from a source is what its request compiles to, with the options of its settings. -/
theorem compileSource_eq_ok_iff {s : Surroundings} {source : Source} {adjust : Options → Options}
    {options : Options} {compiled : Compiled} :
    compileSource s source adjust = .ok (options, compiled) ↔
      ∃ settings request, load s source = .ok (settings, request) ∧
        options = adjust settings.options ∧
        ({ options } : Compiler).compile request = .ok compiled := by
  constructor
  · intro h
    obtain ⟨⟨settings, request⟩, hload, h⟩ := bind_eq_ok_iff.mp h
    obtain ⟨found, hfound, h⟩ := bind_eq_ok_iff.mp h
    cases h
    cases hcompile : ({ options := adjust settings.options } : Compiler).compile request with
    | error failure =>
      rw [hcompile] at hfound
      exact nomatch hfound
    | ok compiled =>
      rw [hcompile] at hfound
      cases hfound
      exact ⟨settings, request, hload, rfl, hcompile⟩
  · rintro ⟨settings, request, hload, rfl, hcompile⟩
    rw [compileSource, hload]
    refine bind_eq_ok_iff.mpr ⟨(settings, request), rfl, ?_⟩
    exact bind_eq_ok_iff.mpr ⟨compiled, congrArg (Except.mapError Error.refused) hcompile, rfl⟩

end Command

/-- The condition of a request is one clause with its holes filled, whose values are bound if any are. -/
theorem Compiler.exists_clause {c : Compiler} (hform : c.form = .standard) {r : Request}
    {compiled : Compiled} (h : c.compile r = .ok compiled) :
    ∃ clause : Outline, compiled.params = c.options.mode.kept clause.holes ∧
      compiled.bundle.whereClause =
        clause.text (c.options.mode.filling c.options.dialect) c.options.offset := by
  rw [c.compile_eq hform] at h
  obtain ⟨pieces, _, rfl⟩ := Checked.map_eq_ok_iff.mp h
  refine ⟨pieces.clause, ?_, Bundle.whereClause_fill (Mode.firm_filling _ _) _ _⟩
  rw [pieces.holes_clause]

namespace Command

/-- Compiling to SQL prints the condition and then the lines of the values to bind, which are numbered as
their placeholders are. All values stay in the comments of their lines just when no line ends within one
of them, where newlines end the lines and where carriage returns do so too. -/
theorem run_compile_sql {s : Surroundings} {args : List String} {source : Source} {rendering : Rendering}
    (hread : Invocation.read s.vars args = some (.compile source rendering))
    (hformat : rendering.output = .sql) (hstatus : (run s args).status = 0) :
    ∃ options compiled rest,
      compileSource s source rendering.options = .ok (options, compiled) ∧
      (run s args).output = compiled.bundle.whereClause ++ "\n" ++ rest ∧
      (∀ ends ∈ [['\n'], ['\n', '\r']],
        (Commented ends options.offset compiled.params rest.toList ↔
          ∀ param ∈ compiled.params, ∀ c ∈ ends, c ∉ param.asText.toList)) ∧
      (options.mode = .literal → compiled.params = []) ∧
      (options.mode = .placeholder → ∃ clause : Outline, clause.holes = compiled.params ∧
        compiled.bundle.whereClause =
          clause.text (fun number _ => options.dialect.placeholder number) options.offset) := by
  have hrun : run s args = runCompile s source rendering := by rw [run, hread]
  rw [hrun, runCompile] at hstatus ⊢
  cases hcompile : compileSource s source rendering.options with
  | error error =>
    rw [hcompile] at hstatus
    exact nomatch hstatus
  | ok found =>
    obtain ⟨options, compiled⟩ := found
    obtain ⟨_, request, _, _, hrequest⟩ := compileSource_eq_ok_iff.mp hcompile
    obtain ⟨clause, hparams, hclause⟩ := Compiler.exists_clause rfl hrequest
    refine ⟨options, compiled, paramLines options.offset compiled.params, rfl, ?_, ?_,
      fun hmode => ?_, fun hmode => ?_⟩
    · rw [outcome, hformat]
      exact String.empty_append
    · intro ends hmem
      have hends : Text.LineEnds ends := by
        rcases List.mem_pair.mp hmem with rfl | rfl
        · exact ⟨by simp, by simp⟩
        · exact ⟨by simp, by simp⟩
      exact commented_paramLines_iff hends options.offset compiled.params
    · rw [hparams, hmode, Mode.kept]
    · rw [hmode] at hparams hclause
      exact ⟨clause, hparams.symm, hclause⟩

/-- Settings behind three values that are bound already, and a request with one filter. -/
def behindThree (value : String) : Surroundings where
  vars _ := none
  directory := "/"
  file path := if path = "/criba.toml" then .ok "[compiler]\nparam_offset = 3\n" else .error .missing
  input := "\x7b\"filtro\": \x7b\"t.a\": \"" ++ value ++ "\"\x7d\x7d"

theorem run_compile_sql_of_plain :
    (run (behindThree "x") ["compile", "-p", "-f", "sql"]).output = "t.a = $4\n-- param 4: x\n" ∧
    ∃ options compiled rest,
      compileSource (behindThree "x") {} ({ output := .sql, placeholders := true } : Rendering).options =
        .ok (options, compiled) ∧
      (run (behindThree "x") ["compile", "-p", "-f", "sql"]).output =
        compiled.bundle.whereClause ++ "\n" ++ rest ∧
      ∀ ends ∈ [['\n'], ['\n', '\r']],
        Commented ends options.offset compiled.params rest.toList := by
  refine ⟨by decide +kernel, ?_⟩
  have hread : Invocation.read (behindThree "x").vars ["compile", "-p", "-f", "sql"] =
      some (.compile {} { output := .sql, placeholders := true }) := by decide
  obtain ⟨options, compiled, rest, hcompile, houtput, hcommented, _⟩ :=
    run_compile_sql hread rfl (by decide +kernel)
  refine ⟨options, compiled, rest, hcompile, houtput, fun ends hends => ?_⟩
  refine (hcommented ends hends).mpr ?_
  have hall : (match compileSource (behindThree "x") {}
      ({ output := .sql, placeholders := true } : Rendering).options with
    | .ok (_, compiled) => compiled.params.all fun param =>
        ['\n', '\r'].all fun c => !param.asText.toList.contains c
    | .error _ => false) = true := by decide +kernel
  rw [hcompile] at hall
  have hplain : ∀ param ∈ compiled.params,
      '\n' ∉ param.asText.toList ∧ '\r' ∉ param.asText.toList := by
    simpa using hall
  rcases List.mem_pair.mp hends with rfl | rfl
  · simpa using fun param hparam => (hplain param hparam).1
  · simpa using hplain

/-- The text behind a newline in a value is printed as if it were part of the condition. -/
theorem run_compile_sql_breaks_comment :
    (compileSource (behindThree "x\\ny") {}
      ({ output := .sql, placeholders := true } : Rendering).options).toOption.map
        (fun (options, compiled) => (options.offset, compiled.params)) = some (3, [.text "x\ny"]) ∧
    (run (behindThree "x\\ny") ["compile", "-p", "-f", "sql"]).status = 0 ∧
    (run (behindThree "x\\ny") ["compile", "-p", "-f", "sql"]).output =
      "t.a = $4" ++ "\n" ++ "-- param 4: x\ny\n" ∧
    Text.withoutComments ['\n'] false "-- param 4: x\ny\n".toList = "y\n".toList ∧
    ¬ Commented ['\n'] 3 [.text "x\ny"] "-- param 4: x\ny\n".toList := by
  refine ⟨by decide +kernel, by decide +kernel, by decide +kernel, by decide +kernel, ?_⟩
  intro h
  exact absurd h.length_lines (by decide +kernel)

end Command

end FilterClause
