import Mathlib.Data.List.Nodup
import FilterClause.Proofs.ClauseGroups
import FilterClause.Proofs.Conservation
import FilterClause.Proofs.Junction
import FilterClause.Proofs.ParamLines
import FilterClause.Proofs.Verdict

/-!
When there is no condition. A bundle counts its conditions by whether their texts are empty, while the
condition of the whole query leaves out those that are blank. The two agree where no text is blank without
being empty. No category writes such a text, so only what is passed on as it is can be one.
-/
namespace FilterClause

open Checked

/-- Holds of texts that are empty if they are blank. -/
def Text.Shows (s : String) : Prop :=
  isBlank s = true → s = ""

instance (s : String) : Decidable (Text.Shows s) :=
  inferInstanceAs (Decidable (_ → _))

theorem Text.Shows.ne_empty_iff {s : String} (h : Shows s) : s ≠ "" ↔ isBlank s = false := by
  rw [← Bool.not_eq_true, ne_eq]
  refine not_congr ⟨fun hempty => ?_, h⟩
  rw [hempty]
  rfl

/-! ### Bundles of any texts -/

namespace Bundle

/-- All ways to tell that a condition is absent agree, of the whole bundle and of each category: a
category is listed just when it has a part in the condition of the query. -/
structure AbsenceAgrees (b : Bundle String) : Prop where
  whole : b.isEmpty = true ↔ b.whereClause = ""
  category : ∀ name ∈ names.toList, name ∈ b.populated ↔ name ∈ b.parts.map Prod.fst

theorem startsFirm_of_parts {b : Bundle String} {part : String × String} (h : part ∈ b.parts) :
    Text.StartsFirm part.2.toList := by
  obtain ⟨hmem, hkept⟩ := List.mem_filter.mp h
  obtain ⟨⟨name, sql⟩, _, rfl⟩ := List.mem_map.mp hmem
  have hne : Text.trim sql ≠ "" := by simpa using hkept
  have hlist : Text.strip sql.toList ≠ [] := by
    intro hnil
    rw [Text.trim, hnil] at hne
    exact hne rfl
  have hfirm := (Text.strip_eq_nil_or_firm sql.toList).resolve_left hlist
  show Text.StartsFirm (Text.trim sql).toList
  rw [Text.trim, String.toList_ofList]
  exact hfirm.1

theorem startsFirm_enclosed (name : String) {sql : String} (h : Text.StartsFirm sql.toList) :
    Text.StartsFirm (enclosed name sql).toList := by
  unfold enclosed
  split
  · exact h
  · rw [String.toList_append, String.toList_append]
    exact ⟨'(', _, rfl, by decide⟩

/-- The condition of a query with any parts starts with no white space. -/
theorem startsFirm_whereClause {b : Bundle String} (h : b.parts ≠ []) :
    Text.StartsFirm b.whereClause.toList := by
  have hparts : ∀ part ∈ b.parts, Text.StartsFirm part.2.toList := fun _ => startsFirm_of_parts
  unfold whereClause
  match b.parts, h, hparts with
  | [(name, only)], _, hparts => exact hparts (name, only) List.mem_cons_self
  | (name, sql) :: next :: rest, _, hparts =>
    have hfirst := startsFirm_enclosed name (hparts (name, sql) List.mem_cons_self)
    simp only [List.map_cons, String.intercalate_cons_cons, String.toList_append, List.append_assoc]
    exact hfirst.append _

theorem whereClause_eq_empty_iff (b : Bundle String) : b.whereClause = "" ↔ b.parts = [] := by
  constructor
  · intro hempty
    by_contra hparts
    obtain ⟨c, rest, hstart, _⟩ := startsFirm_whereClause hparts
    rw [hempty] at hstart
    exact nomatch hstart
  · intro hparts
    rw [whereClause, hparts]
    rfl

/-! What the names and the texts of the entries are is seen from the entries alone. -/

theorem map_fst_entries (b : Bundle String) : b.entries.map Prod.fst = names.toList := rfl

theorem map_snd_entries (b : Bundle String) : b.entries.map Prod.snd = b.toList := rfl

theorem forall_mem_toList_iff {b : Bundle String} {P : String → Prop} :
    (∀ sql ∈ b.toList, P sql) ↔ ∀ entry ∈ b.entries, P entry.2 := by
  rw [← map_snd_entries, List.forall_mem_map]

theorem isEmpty_iff (b : Bundle String) : b.isEmpty = true ↔ ∀ sql ∈ b.toList, sql = "" := by
  simp [isEmpty]

/-- What is listed is what is not empty. -/
theorem mem_populated_iff {b : Bundle String} {name : String} :
    name ∈ b.populated ↔ ∃ sql, (name, sql) ∈ b.entries ∧ sql ≠ "" := by
  simp [populated]

/-- What has a part in the condition of the query is what is not blank. -/
theorem mem_map_fst_parts_iff {b : Bundle String} {name : String} :
    name ∈ b.parts.map Prod.fst ↔ ∃ sql, (name, sql) ∈ b.entries ∧ Text.isBlank sql = false := by
  simp [parts_eq, filled]

theorem populated_eq_nil_iff (b : Bundle String) : b.populated = [] ↔ b.isEmpty = true := by
  rw [isEmpty_iff, forall_mem_toList_iff, populated, List.map_eq_nil_iff, List.filter_eq_nil_iff]
  simp

theorem parts_eq_nil_iff (b : Bundle String) :
    b.parts = [] ↔ ∀ sql ∈ b.toList, Text.isBlank sql = true := by
  rw [parts_eq, List.map_eq_nil_iff, filled, List.filter_eq_nil_iff, forall_mem_toList_iff]
  simp

/-- There is one text under each name. -/
theorem eq_of_mem_entries {b : Bundle String} {name sql sql' : String}
    (h : (name, sql) ∈ b.entries) (h' : (name, sql') ∈ b.entries) : sql = sql' := by
  have hnodup : (b.entries.map Prod.fst).Nodup := by
    rw [map_fst_entries]
    decide
  exact (Prod.ext_iff.mp (List.inj_on_of_nodup_map hnodup h h' rfl)).2

/-- The bundle is empty just when its condition is, unless it has a text that is blank but not empty. -/
theorem isEmpty_iff_whereClause (b : Bundle String) :
    b.isEmpty = true ↔ b.whereClause = "" ∧ ∀ sql ∈ b.toList, Text.Shows sql := by
  rw [isEmpty_iff, whereClause_eq_empty_iff, parts_eq_nil_iff]
  constructor
  · intro hempty
    refine ⟨fun sql hsql => ?_, fun sql hsql _ => hempty sql hsql⟩
    rw [hempty sql hsql]
    rfl
  · rintro ⟨hblank, hshows⟩ sql hsql
    exact hshows sql hsql (hblank sql hsql)

/-- The ways to tell that a condition is absent agree just when no text is blank but not empty. -/
theorem absenceAgrees_iff (b : Bundle String) :
    b.AbsenceAgrees ↔ ∀ sql ∈ b.toList, Text.Shows sql := by
  constructor
  · intro hagrees
    rw [forall_mem_toList_iff]
    rintro ⟨name, sql⟩ hentry hblank
    by_contra hne
    have hname : name ∈ names.toList := List.mem_map_of_mem (f := Prod.fst) hentry
    have hpart := (hagrees.category name hname).mp (mem_populated_iff.mpr ⟨sql, hentry, hne⟩)
    obtain ⟨other, hother, hink⟩ := mem_map_fst_parts_iff.mp hpart
    obtain rfl := eq_of_mem_entries hentry hother
    exact absurd hblank (by simp [hink])
  · intro hshows
    refine ⟨by rw [isEmpty_iff_whereClause, and_iff_left hshows], fun name _ => ?_⟩
    rw [forall_mem_toList_iff] at hshows
    rw [mem_populated_iff, mem_map_fst_parts_iff]
    exact exists_congr fun sql => and_congr_right fun hentry =>
      (hshows (name, sql) hentry).ne_empty_iff

end Bundle

/-! ### What categories write -/

namespace Outline

/-- Holds of outlines that have more than white space if they have anything. -/
def Shows (o : Outline) : Prop :=
  o.strip = [] → o = []

/-- A mark that is not white space is not trimmed away. -/
theorem strip_ne_nil {o : Outline} (mark : Mark) (hmark : mark ∈ o) (hink : isBlankMark mark = false) :
    o.strip ≠ [] := by
  intro hnil
  obtain ⟨front, back, hsplit, hfront, hback⟩ := o.exists_strip
  rw [hsplit, hnil, List.nil_append, List.mem_append] at hmark
  obtain hmark | hmark := hmark
  · exact absurd (hfront mark hmark) (by simp [hink])
  · exact absurd (hback mark hmark) (by simp [hink])

theorem shows_nil : Shows [] := fun _ => rfl

theorem shows_of_mem {o : Outline} (mark : Mark) (hmark : mark ∈ o)
    (hink : isBlankMark mark = false) : o.Shows :=
  fun hnil => absurd hnil (strip_ne_nil mark hmark hink)

/-- A chain of conditions with values has a value, unless it is empty. -/
theorem shows_chain {ls : List Link} (h : ∀ l ∈ ls, l.HasHole) : (chain ls).Shows := by
  intro hnil
  cases ls with
  | nil => rfl
  | cons l ls =>
    have hholes : (chain (l :: ls)).holes = [] := by
      rw [← holes_strip, hnil]
      rfl
    rw [holes_chain, List.flatMap_cons, List.append_eq_nil_iff] at hholes
    exact absurd hholes.1 (h l List.mem_cons_self)

/-- An outline that shows is filled with a text that does. -/
theorem Shows.text {o : Outline} (h : o.Shows) {filling : Filling} (hfirm : filling.Firm)
    (index : Nat) : Text.Shows (o.text filling index) := by
  intro hblank
  rw [← Text.trim_eq_empty_iff, trim_text hfirm, text_eq_empty_iff hfirm] at hblank
  rw [h hblank]
  rfl

end Outline

/-- Chains of links that all have values show. -/
theorem shows_links {α : Type} {link : Bool → α → Checked Link}
    (hhole : ∀ first a l, link first a = .ok l → l.HasHole) {as : List α} {o : Outline}
    (h : Outline.chain <$> links link true as = .ok o) : o.Shows := by
  obtain ⟨ls, hls, rfl⟩ := map_eq_ok_iff.mp h
  refine Outline.shows_chain fun l hl => ?_
  obtain ⟨first, a, _, hlink⟩ := of_mem_links hls hl
  exact hhole first a l hlink

theorem Period.shows_outline {periods : List Period} {o : Outline} (h : outline periods = .ok o) :
    o.Shows := by
  obtain ⟨ls, hls, rfl⟩ := map_eq_ok_iff.mp h
  unfold enclose
  split
  · exact Outline.shows_nil
  · exact Outline.shows_of_mem (.char '(') (by simp [Outline.ofText]) rfl

theorem Membership.shows_optionalOutline {negated : Bool} {filter : Option Membership} {o : Outline}
    (h : optionalOutline negated filter = .ok o) : o.Shows := by
  cases filter with
  | none =>
    cases h
    exact Outline.shows_nil
  | some filter =>
    obtain ⟨_, rfl⟩ | ⟨_, list, _, rfl⟩ := of_outline h
    · exact Outline.shows_nil
    · exact Outline.shows_of_mem (.char ')') (by simp [enclose, Outline.ofText]) rfl

namespace Compiler

variable {c : Compiler} {fragment : Fragment}

theorem Gives.shows {α : Type} {filters : Checked α} {render : α → Writing String}
    {outline : α → Checked Outline} (h : c.Gives filters render fragment)
    (hw : ∀ a, Writes (render a) (outline a)) (hshows : ∀ a o, outline a = .ok o → o.Shows) :
    Text.Shows fragment.sql := by
  obtain ⟨a, offset, _, hrun⟩ := h
  obtain ⟨o, ho, rfl⟩ := (c.run_eq_ok_iff offset (hw a)).mp hrun
  exact (hshows a o ho).text (Mode.firm_filling _ _) offset

/-- The text of each category that is written from filters in one form only shows. -/
theorem Composed.shows {r : Request} {filterType : FilterType} {b : Bundle Fragment}
    (h : c.Composed r filterType b) :
    ∀ fragment ∈ [b.equality, b.special, b.range, b.extra, b.notEqual, b.period],
      Text.Shows fragment.sql := by
  have hequality := h.equality.shows (Conjunction.render_writes filterType r.columns)
    fun _ _ => shows_links fun _ _ _ => Conjunction.hasHole_of_link
  have hspecial := h.special.shows (Special.render_writes r.columns)
    fun _ _ => shows_links fun _ _ _ => Special.hasHole_of_link
  have hrange := h.range.shows Range.render_writes
    fun _ _ => shows_links fun _ _ _ hlink => (Range.of_link hlink).1
  have hextra := h.extra.shows Extra.render_writes
    fun _ _ => shows_links fun _ _ _ => Extra.hasHole_of_link
  have hnotEqual := h.notEqual.shows NotEqual.render_writes
    fun _ _ => shows_links fun _ _ _ => NotEqual.hasHole_of_link
  have hperiod := h.period.shows Period.render_writes fun _ _ => Period.shows_outline
  simp [hequality, hspecial, hrange, hextra, hnotEqual, hperiod]

/-- Only a condition on membership, and the condition that is passed on, may be blank but not empty. -/
theorem absenceAgrees_of_compile {r : Request} {out : Compiled} (h : c.compile r = .ok out) :
    out.bundle.AbsenceAgrees ↔ Text.Shows out.bundle.within ∧ Text.Shows out.bundle.without ∧
      Text.Shows (r.rawSql.getD "") := by
  obtain ⟨filterType, b, _, hcomposed, _, hsql⟩ := composed_of_compile h
  have hshows := hcomposed.shows
  rw [Bundle.absenceAgrees_iff, hsql]
  simp only [Bundle.toList, List.map_cons, List.map_nil, List.cons.injEq, and_true] at hsql
  obtain ⟨_, _, _, _, hwithin, hwithout, _, _, _⟩ := hsql
  rw [hwithin, hwithout]
  simp only [List.forall_mem_cons, List.not_mem_nil, false_implies, implies_true, and_true] at hshows
  obtain ⟨hequality, hspecial, hrange, hextra, hnotEqual, hperiod⟩ := hshows
  simp [Bundle.toList, hcomposed.rawSql, *]

/-- In the standard form conditions on membership show too. -/
theorem membership_shows {r : Request} {out : Compiled} (h : c.compile r = .ok out)
    (hform : c.form = .standard) :
    Text.Shows out.bundle.within ∧ Text.Shows out.bundle.without := by
  obtain ⟨filterType, b, _, hcomposed, _, hsql⟩ := composed_of_compile h
  simp only [Bundle.toList, List.map_cons, List.map_nil, List.cons.injEq, and_true] at hsql
  obtain ⟨_, _, _, _, hwithin, hwithout, _, _, _⟩ := hsql
  have hin := hcomposed.within
  have hout := hcomposed.without
  rw [hform] at hin hout
  rw [hwithin, hwithout]
  exact ⟨hin.shows (Membership.renderOptional_writes false) fun _ _ => Membership.shows_optionalOutline,
    hout.shows (Membership.renderOptional_writes true) fun _ _ => Membership.shows_optionalOutline⟩

/-- Whether a request has a condition depends neither on how values are filled in nor on the dialect. -/
theorem exists_compile_of_options {r : Request} {out : Compiled} (h : c.compile r = .ok out)
    (c' : Compiler) (hform : c.form = .standard) (hform' : c'.form = .standard)
    (htype : c.options.filterType = c'.options.filterType) :
    ∃ out', c'.compile r = .ok out' ∧
      (out.bundle.whereClause = "" ↔ out'.bundle.whereClause = "") := by
  rw [c.compile_eq hform] at h
  obtain ⟨pieces, hpieces, rfl⟩ := map_eq_ok_iff.mp h
  rw [htype] at hpieces
  rw [c'.compile_eq hform', hpieces, map_ok]
  refine ⟨_, rfl, ?_⟩
  dsimp only
  have hfirm := Mode.firm_filling c.options.mode c.options.dialect
  have hfirm' := Mode.firm_filling c'.options.mode c'.options.dialect
  rw [Bundle.whereClause_fill hfirm, Bundle.whereClause_fill hfirm',
    Outline.text_eq_empty_iff hfirm, Outline.text_eq_empty_iff hfirm']

end Compiler

/-! ### What commands print -/

namespace Command

/-- What a check prints of a request that compiles to no conditions, if it says so. -/
def noConditions (source : Source) : String :=
  "\n" ++ (Terminal.remark "Request compiles to no conditions" ++
    Terminal.success (source.shown ++ " is valid"))

theorem checkReport_eq_noConditions_iff (source : Source) (compiled : Compiled) :
    checkReport source compiled = noConditions source ↔ compiled.bundle.isEmpty = true := by
  rw [← Bundle.populated_eq_nil_iff, checkReport, noConditions]
  cases compiled.bundle.populated with
  | nil => simp [String.append_assoc]
  | cons name names =>
    refine iff_of_false (fun hsame => ?_) (List.cons_ne_nil name names)
    -- A remark is bold from its start, where a heading has its colour first.
    have hthird := congrArg (fun text : String => text.toList[3]?) hsame
    simp [Terminal.heading, Terminal.remark, Terminal.white, Terminal.bold, Terminal.coloured,
      Terminal.mark] at hthird

/-- Where a request has no condition, SQL is an empty line. -/
theorem shownCompiled_eq_newline_iff {options : Options} {request : Request} {compiled : Compiled}
    (h : ({ options } : Compiler).compile request = .ok compiled) :
    shownCompiled .sql options compiled = "\n" ↔ compiled.bundle.whereClause = "" := by
  obtain ⟨clause, hparams, hclause⟩ := Compiler.exists_clause rfl h
  constructor
  · intro hline
    have hlength := congrArg String.length hline
    rw [shownCompiled, String.length_append, String.length_append] at hlength
    have hnewline : "\n".length = 1 := rfl
    exact String.length_eq_zero_iff.mp (by omega)
  · intro hempty
    rw [hclause, Outline.text_eq_empty_iff (Mode.firm_filling _ _)] at hempty
    rw [shownCompiled, hclause, hparams, hempty]
    cases options.mode <;> rfl

/-- A check prints the categories of what it compiles. It says that there are none just when compiling
the same source to SQL prints an empty line, unless what is passed on is blank but not empty. -/
theorem check_says_noConditions_iff {s : Surroundings} {checkArgs compileArgs : List String}
    {source : Source} {rendering : Rendering} {settings : Settings} {request : Request}
    {compiled : Compiled} (hcheck : Invocation.read s.vars checkArgs = some (.check source))
    (hcompile : Invocation.read s.vars compileArgs = some (.compile source rendering))
    (hformat : rendering.output = .sql) (hload : load s source = .ok (settings, request))
    (hrequest : ({ options := settings.options } : Compiler).compile request = .ok compiled) :
    (run s checkArgs).output = checkHeader source ++ checkReport source compiled ∧
    ((run s checkArgs).output = checkHeader source ++ noConditions source ↔
      (run s compileArgs).output = "\n" ∧ Text.Shows (request.rawSql.getD "")) := by
  obtain ⟨compiled', hrequest', hwhere⟩ := Compiler.exists_compile_of_options hrequest
    { options := rendering.options settings.options } rfl rfl rfl
  have hchecked : compileSource s source id = .ok (settings.options, compiled) :=
    compileSource_eq_ok_iff.mpr ⟨settings, request, hload, rfl, hrequest⟩
  have hcompiled : compileSource s source rendering.options =
      .ok (rendering.options settings.options, compiled') :=
    compileSource_eq_ok_iff.mpr ⟨settings, request, hload, rfl, hrequest'⟩
  have hcheckRun : (run s checkArgs).output = checkHeader source ++ checkReport source compiled := by
    rw [run, hcheck]
    dsimp only
    rw [runCheck, hchecked, outcome]
  have hcompileRun : (run s compileArgs).output =
      shownCompiled .sql (rendering.options settings.options) compiled' := by
    rw [run, hcompile]
    dsimp only
    rw [runCompile, hcompiled, outcome, hformat]
    exact String.empty_append
  have hpassed : (∀ sql ∈ compiled.bundle.toList, Text.Shows sql) ↔
      Text.Shows (request.rawSql.getD "") := by
    have hmembership := Compiler.membership_shows hrequest rfl
    rw [← Bundle.absenceAgrees_iff, Compiler.absenceAgrees_of_compile hrequest]
    simp [hmembership]
  refine ⟨hcheckRun, ?_⟩
  rw [hcheckRun, hcompileRun, String.append_right_inj, checkReport_eq_noConditions_iff,
    Bundle.isEmpty_iff_whereClause, hpassed, shownCompiled_eq_newline_iff hrequest', hwhere]

/-- All ways to tell that a condition is absent agree on an accepted request just when no condition on
membership, and no condition that is passed on, is blank but not empty; in the standard form membership
has no such condition. Where commands compile the request, a check prints its categories, and says that
there are none just when compiling to SQL prints an empty line and what is passed on is not blank unless
it is empty. -/
theorem absence_agrees_iff {c : Compiler} {r : Request} {out : Compiled} (h : c.compile r = .ok out) :
    (out.bundle.AbsenceAgrees ↔ Text.Shows out.bundle.within ∧ Text.Shows out.bundle.without ∧
      Text.Shows (r.rawSql.getD "")) ∧
    (c.form = .standard → (out.bundle.AbsenceAgrees ↔ Text.Shows (r.rawSql.getD ""))) ∧
    (∀ (s : Surroundings) (checkArgs compileArgs : List String) (source : Source)
      (rendering : Rendering) (settings : Settings),
      Invocation.read s.vars checkArgs = some (.check source) →
      Invocation.read s.vars compileArgs = some (.compile source rendering) →
      rendering.output = .sql → load s source = .ok (settings, r) →
      c = { options := settings.options } →
      (run s checkArgs).output = checkHeader source ++ checkReport source out ∧
      ((run s checkArgs).output = checkHeader source ++ noConditions source ↔
        (run s compileArgs).output = "\n" ∧ Text.Shows (r.rawSql.getD ""))) := by
  have hagrees := Compiler.absenceAgrees_of_compile h
  refine ⟨hagrees, fun hform => ?_, ?_⟩
  · obtain ⟨hwithin, hwithout⟩ := Compiler.membership_shows h hform
    rw [hagrees, and_iff_right hwithin, and_iff_right hwithout]
  · intro s checkArgs compileArgs source rendering settings hcheck hcompile hformat hload hc
    subst hc
    exact check_says_noConditions_iff hcheck hcompile hformat hload h

/-- A request with only a condition that is passed on. -/
def passingOn (rawSql : String) : Surroundings where
  vars _ := none
  directory := "/"
  file _ := .error .missing
  input := "\x7b\"sql_extra\": \"" ++ rawSql ++ "\"\x7d"

/-- What such a request compiles to. -/
def passedOn (rawSql : String) : Compiled where
  bundle := { Bundle.replicate "" with rawSql }
  params := []

theorem absence_agrees_of_empty :
    ({} : Compiler).compile { rawSql := some "" } = .ok (passedOn "") ∧
    (passedOn "").bundle.AbsenceAgrees ∧
    (run (passingOn "") ["compile", "-f", "sql"]).output = "\n" ∧
    (run (passingOn "") ["check"]).output = checkHeader {} ++ noConditions {} := by
  have hcompile : ({} : Compiler).compile { rawSql := some "" } = .ok (passedOn "") := rfl
  obtain ⟨_, hagrees, hcommands⟩ := absence_agrees_iff hcompile
  have hsays := (hcommands (passingOn "") ["check"] ["compile", "-f", "sql"] {} { output := .sql } {}
    (by decide) (by decide) rfl rfl rfl).2
  have hline : (run (passingOn "") ["compile", "-f", "sql"]).output = "\n" := by decide +kernel
  exact ⟨hcompile, (hagrees rfl).mpr (by decide), hline, hsays.mpr ⟨hline, by decide⟩⟩

/-- A space that is passed on counts as a condition, though the query has none. -/
theorem absence_disagrees :
    ({} : Compiler).compile { rawSql := some " " } = .ok (passedOn " ") ∧
    (passedOn " ").bundle.isEmpty = false ∧ (passedOn " ").bundle.whereClause = "" ∧
    (passedOn " ").bundle.populated = ["sql_extra"] ∧ (passedOn " ").bundle.parts = [] ∧
    ¬ (passedOn " ").bundle.AbsenceAgrees ∧
    (run (passingOn " ") ["compile", "-f", "sql"]).output = "\n" ∧
    (run (passingOn " ") ["check"]).status = 0 ∧
    (run (passingOn " ") ["check"]).output ≠ checkHeader {} ++ noConditions {} := by
  have hwhere : (passedOn " ").bundle.whereClause = "" := by decide
  have hagainst : ¬ (passedOn " ").bundle.AbsenceAgrees := fun hagrees =>
    absurd (hagrees.whole.mpr hwhere) (by decide)
  exact ⟨rfl, by decide, hwhere, by decide, by decide, hagainst, by decide +kernel,
    by decide +kernel, by decide +kernel⟩

end Command

end FilterClause
