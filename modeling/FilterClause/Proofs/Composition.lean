import FilterClause.Compiler
import FilterClause.Proofs.Checked

/-!
Compiling a whole request as a sequence of compilers of single categories. Each of them starts behind
the values that the ones before it have bound, and gives the condition in its own place.
-/
namespace FilterClause.Compiler

open Checked

/-- The compiler with more values bound before its first placeholder. -/
def behind (c : Compiler) (bound : List Scalar) : Compiler :=
  { c with options := { c.options with offset := c.options.offset + bound.length } }

/-- Nothing is written for a membership filter that is not there. -/
def whenPresent (method : Membership → Checked Fragment) : Option Membership → Checked Fragment
  | none => .ok { sql := "", params := [] }
  | some filter => method filter

theorem run_renderOptional (c : Compiler) (negated : Bool) (filter : Option Membership) :
    c.run c.options.offset (Membership.renderOptional c.form negated filter) =
      whenPresent (fun m => c.run c.options.offset (Membership.render c.form negated m.field m.values))
        filter := by
  cases filter <;> rfl

/-- A category that is followed by more succeeds when its filters are read and its own compiler
succeeds behind what is bound. -/
theorem stage_bind_eq_ok_iff {α β : Type} {c : Compiler} {category : String} {bound : List Scalar}
    {filters : Checked α} {render : α → Writing String} {next : String × List Scalar → Checked β}
    {out : β} :
    c.stage category bound filters render >>= next = .ok out ↔
      ∃ fragment : Fragment,
        (∃ a, filters = .ok a ∧
          (c.behind bound).run (c.behind bound).options.offset (render a) = .ok fragment) ∧
        next (fragment.sql, bound ++ fragment.params) = .ok out := by
  unfold stage
  constructor
  · intro h
    obtain ⟨result, hstage, hnext⟩ := bind_eq_ok_iff.mp h
    obtain ⟨fragment, hcompiled, hresult⟩ := bind_eq_ok_iff.mp hstage
    obtain ⟨a, ha, hrun⟩ :=
      bind_eq_ok_iff.mp (wrap_eq_ok_iff.mp (withOperation_eq_ok_iff.mp hcompiled))
    cases hresult
    exact ⟨fragment, ⟨a, ha, hrun⟩, hnext⟩
  · rintro ⟨fragment, ⟨a, ha, hrun⟩, hnext⟩
    have hcompiled : (do c.run (c.options.offset + bound.length) (render (← filters))) =
        .ok fragment := bind_eq_ok_iff.mpr ⟨a, ha, hrun⟩
    rw [hcompiled]
    dsimp only
    rw [wrap_ok, withOperation_ok, ok_bind]
    exact hnext

/-- A request is compiled exactly when each of its categories is, one behind the other. Each condition
is the one that the compiler of its category gives, and all that they bind is bound in their order. -/
theorem compile_eq_ok_iff (c : Compiler) (r : Request) (out : Compiled) :
    c.compile r = .ok out ↔
      ∃ (filterType : FilterType)
        (equality special range extra within without notEqual period : Fragment),
        r.chosenFilterType c.options.filterType = .ok filterType ∧
        (∃ filters, Intake.equalities r.equality = .ok filters ∧
          c.conjunction filters filterType r.columns = .ok equality) ∧
        (∃ groups, Intake.specials r.special = .ok groups ∧
          (c.behind equality.params).special groups r.columns = .ok special) ∧
        (∃ filters, Intake.ranges r.range = .ok filters ∧
          (c.behind (equality.params ++ special.params)).ranges filters = .ok range) ∧
        (∃ groups, Intake.extras r.extra = .ok groups ∧
          (c.behind (equality.params ++ special.params ++ range.params)).extra groups = .ok extra) ∧
        (∃ filter, Intake.membership r.within = .ok filter ∧
          whenPresent (c.behind (equality.params ++ special.params ++ range.params ++
            extra.params)).within filter = .ok within) ∧
        (∃ filter, Intake.membership r.without = .ok filter ∧
          whenPresent (c.behind (equality.params ++ special.params ++ range.params ++
            extra.params ++ within.params)).without filter = .ok without) ∧
        (∃ filters, Intake.notEquals r.notEqual = .ok filters ∧
          (c.behind (equality.params ++ special.params ++ range.params ++ extra.params ++
            within.params ++ without.params)).notEqual filters = .ok notEqual) ∧
        (∃ filters, Intake.periods r.period = .ok filters ∧
          (c.behind (equality.params ++ special.params ++ range.params ++ extra.params ++
            within.params ++ without.params ++ notEqual.params)).periods filters = .ok period) ∧
        out.bundle =
          { equality := equality.sql, special := special.sql, range := range.sql, extra := extra.sql
            within := within.sql, without := without.sql, notEqual := notEqual.sql
            period := period.sql, rawSql := r.rawSql.getD "" } ∧
        out.params = equality.params ++ special.params ++ range.params ++ extra.params ++
          within.params ++ without.params ++ notEqual.params ++ period.params := by
  constructor
  · intro h
    obtain ⟨filterType, htype, h⟩ := bind_eq_ok_iff.mp h
    obtain ⟨equality, hequality, h⟩ := stage_bind_eq_ok_iff.mp h
    obtain ⟨special, hspecial, h⟩ := stage_bind_eq_ok_iff.mp h
    obtain ⟨range, hrange, h⟩ := stage_bind_eq_ok_iff.mp h
    obtain ⟨extra, hextra, h⟩ := stage_bind_eq_ok_iff.mp h
    obtain ⟨within, ⟨inside, hinside, hwithin⟩, h⟩ := stage_bind_eq_ok_iff.mp h
    obtain ⟨without, ⟨outside, houtside, hwithout⟩, h⟩ := stage_bind_eq_ok_iff.mp h
    obtain ⟨notEqual, hnotEqual, h⟩ := stage_bind_eq_ok_iff.mp h
    obtain ⟨period, hperiod, h⟩ := stage_bind_eq_ok_iff.mp h
    have hpresent := run_renderOptional (c.behind (equality.params ++ special.params ++
      range.params ++ extra.params)) false inside
    have hexcluded := run_renderOptional (c.behind (equality.params ++ special.params ++
      range.params ++ extra.params ++ within.params)) true outside
    cases h
    exact ⟨filterType, equality, special, range, extra, within, without, notEqual, period, htype,
      hequality, hspecial, hrange, hextra, ⟨inside, hinside, hpresent ▸ hwithin⟩,
      ⟨outside, houtside, hexcluded ▸ hwithout⟩, hnotEqual, hperiod, rfl, rfl⟩
  · rintro ⟨filterType, equality, special, range, extra, within, without, notEqual, period, htype,
      hequality, hspecial, hrange, hextra, ⟨inside, hinside, hwithin⟩,
      ⟨outside, houtside, hwithout⟩, hnotEqual, hperiod, hbundle, hparams⟩
    refine bind_eq_ok_iff.mpr ⟨filterType, htype, ?_⟩
    refine stage_bind_eq_ok_iff.mpr ⟨equality, hequality, ?_⟩
    refine stage_bind_eq_ok_iff.mpr ⟨special, hspecial, ?_⟩
    refine stage_bind_eq_ok_iff.mpr ⟨range, hrange, ?_⟩
    refine stage_bind_eq_ok_iff.mpr ⟨extra, hextra, ?_⟩
    refine stage_bind_eq_ok_iff.mpr ⟨within, ⟨inside, hinside, ?_⟩, ?_⟩
    · exact (run_renderOptional _ false inside).trans hwithin
    refine stage_bind_eq_ok_iff.mpr ⟨without, ⟨outside, houtside, ?_⟩, ?_⟩
    · exact (run_renderOptional _ true outside).trans hwithout
    refine stage_bind_eq_ok_iff.mpr ⟨notEqual, hnotEqual, ?_⟩
    refine stage_bind_eq_ok_iff.mpr ⟨period, hperiod, ?_⟩
    obtain ⟨bundle, params⟩ := out
    cases hbundle
    cases hparams
    rfl

/-- The placeholders of each category go on from those of the categories before it. -/
example :
    (Compiler.compile { options := { mode := .placeholder, offset := 6 } }
      { equality := some (.object [("t.a", .integer 1)])
        range := some (.object [("t.b", .object [("valor1", .integer 2), ("valor2", .integer 3)])])
        without := some (.object [("llave", .text "t.c"), ("values", .array [.integer 4])])
        notEqual := some (.object [("t.d", .text "x")])
        rawSql := some "t.e IS NULL" }).toOption =
    some
      { bundle :=
          { Bundle.replicate "" with
            equality := "t.a = $7", range := "t.b BETWEEN $8 AND $9", without := "t.c NOT IN ($10)"
            notEqual := "t.d <> $11", rawSql := "t.e IS NULL" }
        params := [.integer 1, .integer 2, .integer 3, .integer 4, .text "x"] } := by
  decide +kernel

end FilterClause.Compiler
