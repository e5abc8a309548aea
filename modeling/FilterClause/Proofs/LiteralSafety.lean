import FilterClause.Proofs.Masking
import FilterClause.Proofs.PlainText
import FilterClause.Proofs.TwoFillings

/-!
No value leaves its literal. When the raw texts of a request have no quotes, the literals that are read
in its conditions are the values that placeholders would bind, each with its whole text, and nothing
outside of the literals depends on the values.
-/
namespace FilterClause

open Scanner

/-! ### Clauses of outlines with a property -/

namespace Law

variable {P : Outline → Prop}

theorem enclosedOutline (law : Law P) (name : String) {o : Outline} (ho : P o) :
    P (Bundle.enclosedOutline name o) := by
  unfold Bundle.enclosedOutline
  split
  · exact ho
  · exact law.enclose ho

theorem joined (law : Law P) {parts : List (String × Outline)} (h : ∀ part ∈ parts, P part.2) :
    P (Bundle.joined parts) := by
  induction parts with
  | nil => exact law.nil
  | cons part rest ih =>
    obtain ⟨name, o⟩ := part
    have hfirst := law.enclosedOutline name (h (name, o) List.mem_cons_self)
    cases rest with
    | nil => simpa [Bundle.joined] using hfirst
    | cons next rest =>
      rw [Bundle.joined_cons_cons]
      have hrest := ih fun part hpart => h part (List.mem_cons_of_mem _ hpart)
      exact law.append (law.append hfirst (law.word " AND " (by simp))) hrest

theorem outlineParts (law : Law P) {b : Bundle Outline} (h : ∀ o ∈ b.toList, P o) :
    ∀ part ∈ b.outlineParts, P part.2 := by
  intro part hpart
  obtain ⟨⟨name, o⟩, hentry, rfl⟩ := List.mem_map.mp (List.mem_filter.mp hpart).1
  exact law.strip (h o (List.of_mem_zip hentry).2)

/-- The clause has what all outlines have. -/
theorem clause (law : Law P) {b : Bundle Outline} (h : ∀ o ∈ b.toList, P o) : P b.clause := by
  have hparts := law.outlineParts h
  unfold Bundle.clause Bundle.combined
  match hs : b.outlineParts with
  | [] => exact law.nil
  | [(name, only)] => exact hparts (name, only) (by simp [hs])
  | first :: second :: rest => exact law.joined (hs ▸ hparts)

end Law

/-! ### Reading what is compiled -/

/-- The tokens that are read in the fragments and in the condition that they make together. No text
ends within a literal. -/
structure Compiled.Reads (out : Compiled) (fragments : List (List Token)) (clause : List Token) :
    Prop where
  fragments : out.bundle.toList.map tokens = fragments.map some
  clause : tokens out.bundle.whereClause = some clause

/-- The values that placeholders bind for a request, in every dialect and behind any others. -/
def Request.Binds (r : Request) (usual : FilterType) (params : List Scalar) : Prop :=
  ∀ dialect offset, ∃ out, (Compiler.standard .placeholder dialect offset usual).compile r = .ok out ∧
    out.params = params

theorem Bundle.tokens_fillEntries (dialect : Dialect) {entries : List (String × Outline)}
    (h : ∀ entry ∈ entries, entry.2.QuoteFree) (index : Nat) :
    (fillEntries (Mode.literal.filling dialect) index entries).map (fun entry => tokens entry.2) =
      (entries.map fun entry => entry.2.tokens).map some := by
  induction entries generalizing index with
  | nil => rfl
  | cons entry entries ih =>
    obtain ⟨name, o⟩ := entry
    have ho : o.QuoteFree := h (name, o) List.mem_cons_self
    have hmore := ih (fun e he => h e (List.mem_cons_of_mem _ he)) (index + o.holes.length)
    rw [fillEntries, List.map_cons, hmore, Outline.tokens_text ho]
    rfl

/-- Outlines that open no literal are read as their tokens when they are filled with literals. -/
theorem Bundle.reads_fill {b : Bundle Outline} (h : ∀ o ∈ b.toList, o.QuoteFree) (dialect : Dialect)
    (index : Nat) :
    Compiled.Reads { bundle := b.fill (Mode.literal.filling dialect) index, params := [] }
      (b.toList.map Outline.tokens) b.clause.tokens := by
  constructor
  · have hentries : ∀ entry ∈ b.entries, entry.2.QuoteFree :=
      fun entry hentry => h entry.2 (List.of_mem_zip hentry).2
    exact tokens_fillEntries dialect hentries index
  · dsimp only
    rw [whereClause_fill (Mode.firm_filling _ _)]
    exact Outline.tokens_text (Outline.law_quoteFree.clause h) dialect index

/-- A request that is compiled with literals has outlines, which placeholders bind the values of. -/
theorem Compiler.outlines_of_compile {r : Request} {usual : FilterType} {dialect : Dialect}
    {offset : Nat} {out : Compiled}
    (h : (standard .literal dialect offset usual).compile r = .ok out) :
    ∃ b, r.outlines usual = .ok b ∧
      out = { bundle := b.fill (Mode.literal.filling dialect) offset, params := [] } ∧
      r.Binds usual b.holes := by
  rw [compile_standard] at h
  obtain ⟨b, hb, rfl⟩ := Checked.map_eq_ok_iff.mp h
  refine ⟨b, hb, rfl, fun dialect offset => ?_⟩
  rw [compile_standard, hb]
  exact ⟨_, rfl, rfl⟩

/-- What stands outside of literals is still there when the values are hidden. -/
theorem Outline.outside_hidden (o : Outline) : outside o.hidden.tokens = outside o.tokens := by
  simp only [outside, tokens, hidden, List.map_map]
  refine List.map_congr_left fun mark _ => ?_
  cases mark <;> rfl

theorem Outline.map_outside {os os' : List Outline} (h : os.map hidden = os'.map hidden) :
    (os.map tokens).map outside = (os'.map tokens).map outside := by
  have hseen : ∀ os : List Outline,
      (os.map tokens).map outside = (os.map hidden).map fun o => outside o.tokens := by
    intro os
    rw [List.map_map, List.map_map]
    exact List.map_congr_left fun o _ => (outside_hidden o).symm
  rw [hseen, h, ← hseen]

theorem Outline.quoteFree_of_hidden {a b : Outline} (h : a.hidden = b.hidden) (ha : a.QuoteFree) :
    b.QuoteFree := by
  intro hmem
  have hhidden : Mark.char '\'' ∈ b.hidden := List.mem_map_of_mem hmem
  rw [← h] at hhidden
  obtain ⟨mark, hmark, hquote⟩ := List.mem_map.mp hhidden
  cases mark with
  | char c =>
    rw [Mark.hidden] at hquote
    exact ha (hquote ▸ hmark)
  | hole v => cases hquote

/-- Two requests that differ only in values of literals read alike outside of them, and all of their
literals are what placeholders bind. -/
theorem Compiler.literals_are_params {r r' : Request} {usual : FilterType} {f f' : Filters}
    {dialect : Dialect} {offset : Nat} {out out' : Compiled}
    (hf : r.filters usual = .ok f) (hf' : r'.filters usual = .ok f') (hmask : f.masked = f'.masked)
    (hplain : ∀ s ∈ f.rawTexts, Text.Plain s)
    (h : (standard .literal dialect offset usual).compile r = .ok out)
    (h' : (standard .literal dialect offset usual).compile r' = .ok out') :
    ∃ (fragments fragments' : List (List Token)) (clause clause' : List Token)
      (params params' : List Scalar),
      out.Reads fragments clause ∧ out'.Reads fragments' clause' ∧
      fragments.map outside = fragments'.map outside ∧ outside clause = outside clause' ∧
      r.Binds usual params ∧ r'.Binds usual params' ∧
      fragments.flatMap literals = params.map Scalar.asText ∧
      fragments'.flatMap literals = params'.map Scalar.asText ∧
      literals clause = params.map Scalar.asText ∧ literals clause' = params'.map Scalar.asText := by
  obtain ⟨b, hb, rfl, hbinds⟩ := outlines_of_compile h
  obtain ⟨c, hc, rfl, hbinds'⟩ := outlines_of_compile h'
  obtain ⟨g, hg, hgOutlined⟩ := Request.filters_of_outlines hb
  obtain ⟨g', hg', hgOutlined'⟩ := Request.filters_of_outlines hc
  cases Except.ok.inj (hf.symm.trans hg)
  cases Except.ok.inj (hf'.symm.trans hg')
  have hhidden := hgOutlined.hidden_eq hgOutlined' hmask
  have hquote : ∀ o ∈ b.toList, o.QuoteFree :=
    hgOutlined.law Outline.law_quoteFree fun s hs => Outline.quoteFree_ofText (hplain s hs)
  have hquote' : ∀ o ∈ c.toList, o.QuoteFree := by
    intro o ho
    have hmem : o.hidden ∈ b.toList.map Outline.hidden := hhidden ▸ List.mem_map_of_mem ho
    obtain ⟨o', ho', hsame⟩ := List.mem_map.mp hmem
    exact Outline.quoteFree_of_hidden hsame (hquote o' ho')
  have hliterals : ∀ b : Bundle Outline,
      (b.toList.map Outline.tokens).flatMap literals = b.holes.map Scalar.asText := by
    intro b
    simp only [List.flatMap_map, Outline.literals_tokens, Bundle.holes, List.map_flatMap]
  have hclause : ∀ b : Bundle Outline, literals b.clause.tokens = b.holes.map Scalar.asText := by
    intro b
    rw [Outline.literals_tokens, b.holes_clause]
  refine ⟨_, _, _, _, b.holes, c.holes, Bundle.reads_fill hquote dialect offset,
    Bundle.reads_fill hquote' dialect offset, ?_, ?_, hbinds, hbinds', hliterals b, hliterals c,
    hclause b, hclause c⟩
  · exact Outline.map_outside hhidden
  · rw [← Outline.outside_hidden, Bundle.clause_hidden hhidden, Outline.outside_hidden]

/-- A request that writes one text of the caller into several literals. -/
def sampleRequest (value : String) : Request :=
  { equality := some (.object [("t.name", .text value)])
    range := some (.object [("t.age", .object [("valor1", .integer 1), ("valor2", .text value)])])
    within := some (.object [("llave", .text "t.kind"), ("values", .array [.text value, .text "b"])])
    period := some (.array [.object [("campo_1", .text "t.start"), ("campo_2", .text "now()"),
      ("fecha", .text "2024-01-31")]])
    rawSql := some "(t.a = 1) OR t.b = 2" }

/-- The text goes into literals only, so the raw texts are the same for every text. -/
theorem sampleRequest_rawTexts {value : String} {f : Filters}
    (h : (sampleRequest value).filters .numbers = .ok f) :
    ∀ s ∈ f.rawTexts, Text.Plain s ∧ Text.Balanced s := by
  have hraw : f.rawTexts =
      ["t.name", "t.age", "t.kind", "t.start", "now()", "(t.a = 1) OR t.b = 2"] := by
    cases h
    rfl
  rw [hraw]
  simp [Text.Plain, Text.Balanced, Scanner.Balanced, depthAfter, Token.after]

/-- A text that would end its literal, and one that would not. -/
theorem Compiler.literals_are_params_of_quotes :
    ∃ (f f' : Filters) (out out' : Compiled) (clause clause' : List Token)
      (params params' : List Scalar),
      (sampleRequest "x' OR '1'='1").filters .numbers = .ok f ∧
      (sampleRequest "y").filters .numbers = .ok f' ∧ f.masked = f'.masked ∧
      (∀ s ∈ f.rawTexts, Text.Plain s) ∧
      (standard .literal .postgresql 0 .numbers).compile (sampleRequest "x' OR '1'='1") = .ok out ∧
      (standard .literal .postgresql 0 .numbers).compile (sampleRequest "y") = .ok out' ∧
      tokens out.bundle.whereClause = some clause ∧ tokens out'.bundle.whereClause = some clause' ∧
      outside clause = outside clause' ∧
      (sampleRequest "x' OR '1'='1").Binds .numbers params ∧
      (sampleRequest "y").Binds .numbers params' ∧
      literals clause = params.map Scalar.asText ∧ literals clause' = params'.map Scalar.asText := by
  have hread : (sampleRequest "x' OR '1'='1").filters .numbers = .ok _ := rfl
  have hread' : (sampleRequest "y").filters .numbers = .ok _ := rfl
  have hplain := fun s hs => (sampleRequest_rawTexts hread s hs).1
  have hout : (standard .literal .postgresql 0 .numbers).compile (sampleRequest "x' OR '1'='1") =
      .ok _ := rfl
  have hout' : (standard .literal .postgresql 0 .numbers).compile (sampleRequest "y") = .ok _ := rfl
  obtain ⟨_, _, clause, clause', params, params', hreads, hreads', _, houtside, hbinds, hbinds', _, _,
    hliterals, hliterals'⟩ :=
    literals_are_params hread hread' rfl hplain hout hout'
  exact ⟨_, _, _, _, clause, clause', params, params', hread, hread', rfl, hplain, hout, hout',
    hreads.clause, hreads'.clause, houtside, hbinds, hbinds', hliterals, hliterals'⟩

example :
    ((Compiler.standard .literal .postgresql 0 .numbers).compile (sampleRequest "o'k")).toOption.map
      (·.bundle.whereClause) =
    some
      ("(t.name = 'o\\'k') AND (t.age BETWEEN '1' AND 'o\\'k') AND (t.kind IN ('o\\'k','b'))" ++
        " AND ('2024-01-31' >= t.start AND '2024-01-31' <= now()) AND ((t.a = 1) OR t.b = 2)") := by
  decide +kernel

end FilterClause
