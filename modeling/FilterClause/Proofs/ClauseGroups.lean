import FilterClause.Proofs.LiteralSafety

/-!
The one condition of a query keeps its categories apart. When several fragments are not blank it is a
sequence of parenthesized groups, one for each of them, and from outside nothing is seen but the
parentheses and what joins them, whatever the values in the literals are.
-/
namespace FilterClause

open Scanner

namespace Bundle

/-- The fragments that are not blank, under their names. -/
def filled (b : Bundle String) : List (String × String) :=
  b.entries.filter fun (_, sql) => !Text.isBlank sql

/-- A fragment among others: without white space at its ends in parentheses, or as it is if it is the
one of the periods. -/
def group : String × String → String
  | (name, sql) => if name = names.period then sql else "(" ++ Text.trim sql ++ ")"

theorem parts_eq (b : Bundle String) :
    b.parts = b.filled.map fun (name, sql) => (name, Text.trim sql) := by
  have hblank : ∀ sql : String, (Text.trim sql != "") = !Text.isBlank sql := by
    intro sql
    rw [Bool.eq_iff_iff]
    simp [Text.trim_eq_empty_iff]
  simp only [parts, filled, List.filter_map, Function.comp_def, hblank]

/-- Only the fragment of the periods has their name. -/
theorem period_of_mem {α : Type} {b : Bundle α} {a : α} (h : (names.period, a) ∈ b.entries) :
    a = b.period := by
  simpa [entries, names, toList] using h

/-- Where the periods have no white space at their ends, a group is an enclosed part. -/
theorem map_group {b : Bundle String} (hperiod : Text.trim b.period = b.period) :
    b.filled.map group = b.parts.map fun (name, sql) => enclosed name sql := by
  rw [parts_eq, List.map_map]
  refine List.map_congr_left fun part hpart => ?_
  obtain ⟨name, sql⟩ := part
  simp only [group, Function.comp_apply, enclosed]
  split
  · rename_i hname
    have hmem : (names.period, sql) ∈ b.entries := hname ▸ (List.mem_filter.mp hpart).1
    rw [period_of_mem hmem, hperiod]
  · rfl

theorem whereClause_of_many {b : Bundle String} (h : 2 ≤ b.parts.length) :
    b.whereClause = " AND ".intercalate (b.parts.map fun (name, sql) => enclosed name sql) := by
  unfold whereClause
  match hs : b.parts with
  | [] => rfl
  | [(name, only)] =>
    rw [hs, List.length_singleton] at h
    omega
  | first :: second :: rest => rfl

theorem combined_of_many {parts : List (String × Outline)} (h : 2 ≤ parts.length) :
    combined parts = joined parts := by
  match parts with
  | [] => rfl
  | [(name, only)] =>
    rw [List.length_singleton] at h
    omega
  | first :: second :: rest => rfl

theorem length_fillEntries (filling : Filling) (index : Nat) (entries : List (String × Outline)) :
    (fillEntries filling index entries).length = entries.length := by
  induction entries generalizing index with
  | nil => rfl
  | cons entry entries ih => rw [fillEntries, List.length_cons, ih, List.length_cons]

/-- What the groups are read as. -/
def groupTokens (parts : List (String × Outline)) : List (List Token) :=
  parts.map fun (name, o) => (enclosedOutline name o).tokens

theorem tokens_enclosed (dialect : Dialect) {parts : List (String × Outline)}
    (h : ∀ part ∈ parts, part.2.QuoteFree) (index : Nat) :
    ((fillEntries (Mode.literal.filling dialect) index parts).map
        fun (name, sql) => enclosed name sql).map tokens = (groupTokens parts).map some := by
  have henclosed : ∀ part ∈ parts.map fun (name, o) => (name, enclosedOutline name o),
      part.2.QuoteFree := by
    intro part hpart
    obtain ⟨⟨name, o⟩, hmem, rfl⟩ := List.mem_map.mp hpart
    exact Outline.law_quoteFree.enclosedOutline name (h (name, o) hmem)
  have hgroups : groupTokens parts =
      (parts.map fun (name, o) => (name, enclosedOutline name o)).map fun part => part.2.tokens := by
    rw [groupTokens, List.map_map]
    rfl
  rw [map_enclosed_fillEntries, List.map_map, hgroups]
  exact tokens_fillEntries dialect henclosed index

/-- A joined condition is read as its groups with `AND` between them. -/
theorem tokens_joined (parts : List (String × Outline)) :
    (joined parts).tokens = (" AND ".toList.map Token.char).intercalate (groupTokens parts) := by
  induction parts with
  | nil => rfl
  | cons part rest ih =>
    obtain ⟨name, o⟩ := part
    cases rest with
    | nil => simp [joined, groupTokens]
    | cons next rest =>
      rw [joined_cons_cons, Outline.tokens_append, Outline.tokens_append, Outline.tokens_ofText, ih]
      simp only [groupTokens, List.map_cons, List.intercalate_cons_cons]

end Bundle

namespace Filters.Outlined

variable {f : Filters} {b : Bundle Outline}

/-- The periods are in parentheses already, so they have no white space at their ends. -/
theorem strip_period (h : f.Outlined b) : b.period.strip = b.period := by
  obtain ⟨ls, _, hperiod⟩ := Checked.map_eq_ok_iff.mp h.period
  rw [← hperiod]
  apply Outline.Firm.strip_eq
  unfold Period.enclose
  split
  · exact ⟨nofun, nofun⟩
  · have hopen : (Outline.ofText "(" ++ Outline.chain ls ++ .ofText ")").head? = some (.char '(') :=
      rfl
    have hclose : (Outline.ofText "(" ++ Outline.chain ls ++ .ofText ")").getLast? =
        some (.char ')') := by
      rw [List.getLast?_append]
      rfl
    constructor <;> intro mark hmark
    · rw [hopen] at hmark
      cases hmark
      rfl
    · rw [hclose] at hmark
      cases hmark
      rfl

/-- Each part makes a parenthesized group when all raw texts are balanced. -/
theorem parenthesized (h : f.Outlined b) (hraw : ∀ s ∈ f.rawTexts, Text.Balanced s) :
    ∀ ts ∈ Bundle.groupTokens b.outlineParts, Parenthesized ts := by
  have hraw' : ∀ s ∈ f.rawTexts, Outline.Balanced (.ofText s) :=
    fun s hs => Outline.balanced_ofText (hraw s hs)
  have hbalanced : ∀ part ∈ b.outlineParts, Outline.Balanced part.2 :=
    Outline.law_balanced.outlineParts (h.law Outline.law_balanced hraw')
  intro ts hts
  obtain ⟨⟨name, o⟩, hpart, rfl⟩ := List.mem_map.mp hts
  dsimp only
  unfold Bundle.enclosedOutline
  split
  · rename_i hname
    obtain ⟨hentry, hne⟩ := List.mem_filter.mp hpart
    obtain ⟨⟨name', o'⟩, hmem, hstrip⟩ := List.mem_map.mp hentry
    obtain ⟨rfl, rfl⟩ := Prod.mk.inj hstrip
    have hperiod : o' = b.period := Bundle.period_of_mem (hname ▸ hmem)
    have hperiods : ∀ s ∈ f.period.flatMap Period.rawTexts, Outline.Balanced (.ofText s) := by
      intro s hs
      exact hraw' s (by simp [rawTexts, List.mem_flatMap.mp hs])
    rcases Period.law_inner Outline.law_balanced hperiods h.period with hnone | ⟨inner, ho, hinner⟩
    · rw [hperiod, hnone] at hne
      cases hne
    · rw [hperiod, h.strip_period, ho]
      exact Outline.parenthesized_enclosed hinner
  · exact Outline.parenthesized_enclosed (hbalanced (name, o) hpart)

end Filters.Outlined

/-- Several fragments that are not blank make a condition of parenthesized groups, one for each, with
`AND` between them outside of all parentheses. A single one makes the condition by itself. -/
theorem Compiler.whereClause_groups {r : Request} {usual : FilterType} {f : Filters}
    {dialect : Dialect} {offset : Nat} {out : Compiled} (hf : r.filters usual = .ok f)
    (hraw : ∀ s ∈ f.rawTexts, Text.Plain s ∧ Text.Balanced s)
    (h : (standard .literal dialect offset usual).compile r = .ok out) :
    (out.bundle.filled = [] → out.bundle.whereClause = "") ∧
    (∀ name sql, out.bundle.filled = [(name, sql)] → out.bundle.whereClause = Text.trim sql) ∧
    (2 ≤ out.bundle.filled.length →
      out.bundle.whereClause = " AND ".intercalate (out.bundle.filled.map Bundle.group) ∧
      ∃ groups : List (List Token),
        (out.bundle.filled.map Bundle.group).map tokens = groups.map some ∧
        tokens out.bundle.whereClause =
          some ((" AND ".toList.map Token.char).intercalate groups) ∧
        (∀ ts ∈ groups, Parenthesized ts ∧ ∀ front, front <+: ts → front ≠ [] → front ≠ ts →
          ∃ n, depthAfter 0 front = some (n + 1)) ∧
        outermost 0 ((" AND ".toList.map Token.char).intercalate groups) =
          (" AND ".toList.map Token.char).intercalate
            (groups.map fun _ => [.char '(', .char ')'])) := by
  obtain ⟨b, hb, rfl, _⟩ := outlines_of_compile h
  obtain ⟨g, hg, houtlined⟩ := Request.filters_of_outlines hb
  cases Except.ok.inj (hf.symm.trans hg)
  have hfirm := Mode.firm_filling .literal dialect
  have hquote : ∀ o ∈ b.toList, o.QuoteFree :=
    houtlined.law Outline.law_quoteFree fun s hs => Outline.quoteFree_ofText (hraw s hs).1
  have hparts : ∀ part ∈ b.outlineParts, part.2.QuoteFree :=
    Outline.law_quoteFree.outlineParts hquote
  have hgroups := houtlined.parenthesized fun s hs => (hraw s hs).2
  generalize hbundle : b.fill (Mode.literal.filling dialect) offset = bundle
  have hfill : bundle.parts = Bundle.fillEntries (Mode.literal.filling dialect) offset
      b.outlineParts := by
    rw [← hbundle, Bundle.parts_fill hfirm]
  have hperiod : Text.trim bundle.period = bundle.period := by
    rw [← hbundle]
    simp only [Bundle.fill, Outline.trim_text hfirm, houtlined.strip_period]
  have htokens : tokens bundle.whereClause = some b.clause.tokens := by
    rw [← hbundle]
    exact (Bundle.reads_fill hquote dialect offset).clause
  dsimp only
  refine ⟨fun hnone => ?_, fun name sql hone => ?_, fun hmany => ?_⟩
  · rw [Bundle.whereClause, Bundle.parts_eq, hnone]
    rfl
  · rw [Bundle.whereClause, Bundle.parts_eq, hone]
    rfl
  · have hlength : bundle.parts.length = bundle.filled.length := by
      rw [Bundle.parts_eq, List.length_map]
    have houtlines : b.outlineParts.length = bundle.parts.length := by
      rw [hfill, Bundle.length_fillEntries]
    have hclause : b.clause.tokens =
        (" AND ".toList.map Token.char).intercalate (Bundle.groupTokens b.outlineParts) := by
      rw [Bundle.clause, Bundle.combined_of_many (by omega), Bundle.tokens_joined]
    have hand : Flat (" AND ".toList.map Token.char) := by
      rw [← Outline.tokens_ofText]
      exact Outline.flat_word (by simp)
    refine ⟨?_, Bundle.groupTokens b.outlineParts, ?_, ?_, ?_, outermost_intercalate hand hgroups⟩
    · rw [Bundle.map_group hperiod, Bundle.whereClause_of_many (by omega)]
    · rw [Bundle.map_group hperiod, hfill]
      exact Bundle.tokens_enclosed dialect hparts offset
    · rw [htokens, hclause]
    · intro ts hts
      exact ⟨hgroups ts hts, fun front => (hgroups ts hts).depthAfter_pos⟩

/-- Values with parentheses and connectives in them change no group. -/
theorem Compiler.whereClause_groups_of_parentheses :
    ∃ (f : Filters) (out : Compiled),
      (sampleRequest ") OR ('").filters .numbers = .ok f ∧
      (∀ s ∈ f.rawTexts, Text.Plain s ∧ Text.Balanced s) ∧
      (standard .literal .postgresql 0 .numbers).compile (sampleRequest ") OR ('") = .ok out ∧
      2 ≤ out.bundle.filled.length ∧
      out.bundle.whereClause = " AND ".intercalate (out.bundle.filled.map Bundle.group) ∧
      ∃ groups : List (List Token),
        (out.bundle.filled.map Bundle.group).map tokens = groups.map some ∧
        outermost 0 ((" AND ".toList.map Token.char).intercalate groups) =
          (" AND ".toList.map Token.char).intercalate
            (groups.map fun _ => [.char '(', .char ')']) := by
  have hread : (sampleRequest ") OR ('").filters .numbers = .ok _ := rfl
  have hraw := sampleRequest_rawTexts hread
  have hout : (standard .literal .postgresql 0 .numbers).compile (sampleRequest ") OR ('") =
      .ok _ := rfl
  obtain ⟨_, _, hmany⟩ := whereClause_groups hread hraw hout
  obtain ⟨hclause, groups, hgroups, _, _, houtermost⟩ := hmany (by decide +kernel)
  exact ⟨_, _, hread, hraw, hout, by decide +kernel, hclause, groups, hgroups, houtermost⟩

end FilterClause
