import FilterClause.Compiler
import FilterClause.Proofs.CategoryOutlines

/-!
The outlines of a whole request, one for each fragment. Compiling a request fills them one after
another, so that the number of a hole goes on from one category to the next, and binds the values of
their holes if the mode binds any. It is refused just where there are no outlines.
-/
namespace FilterClause

open Checked

namespace Bundle

/-- The values of all holes, in the order of the fragments. -/
def holes (b : Bundle Outline) : List Scalar :=
  b.toList.flatMap Outline.holes

/-- The outlines filled one after another. The first hole of all is numbered `index + 1`. -/
def fill (filling : Filling) (index : Nat) (b : Bundle Outline) : Bundle String :=
  let special := index + b.equality.holes.length
  let range := special + b.special.holes.length
  let extra := range + b.range.holes.length
  let within := extra + b.extra.holes.length
  let without := within + b.within.holes.length
  let notEqual := without + b.without.holes.length
  let period := notEqual + b.notEqual.holes.length
  let rawSql := period + b.period.holes.length
  { equality := b.equality.text filling index
    special := b.special.text filling special
    range := b.range.text filling range
    extra := b.extra.text filling extra
    within := b.within.text filling within
    without := b.without.text filling without
    notEqual := b.notEqual.text filling notEqual
    period := b.period.text filling period
    rawSql := b.rawSql.text filling rawSql }

end Bundle

/-- The outline of one category. A failure is marked with the category that it came from. -/
def Request.staged {α : Type} (category : String) (filters : Checked α)
    (outline : α → Checked Outline) : Checked Outline :=
  ((filters >>= outline).wrap ("failed to compile " ++ category)).withOperation category

/-- The outline of a membership filter, which there may not be. -/
def Membership.optionalOutline (negated : Bool) (filter : Option Membership) : Checked Outline :=
  match filter with
  | none => .ok []
  | some filter => outline negated filter.field filter.values

/-- The outlines of all fragments. -/
def Request.outlines (r : Request) (usual : FilterType) : Checked (Bundle Outline) := do
  let filterType ← r.chosenFilterType usual
  let equality ← staged "filtro" (Intake.equalities r.equality)
    (Conjunction.outline filterType r.columns)
  let special ← staged "filtro_especial" (Intake.specials r.special) (Special.outline r.columns)
  let range ← staged "filtro_rango" (Intake.ranges r.range) Range.outline
  let extra ← staged "filtro_extra" (Intake.extras r.extra) Extra.outline
  let within ← staged "in" (Intake.membership r.within) (Membership.optionalOutline false)
  let without ← staged "not_in" (Intake.membership r.without) (Membership.optionalOutline true)
  let notEqual ← staged "diferente_de" (Intake.notEquals r.notEqual) NotEqual.outline
  let period ← staged "filtro_fecha" (Intake.periods r.period) Period.outline
  let rawSql := .ofText (r.rawSql.getD "")
  return { equality, special, range, extra, within, without, notEqual, period, rawSql }

theorem Membership.renderOptional_writes (negated : Bool) (filter : Option Membership) :
    Writes (renderOptional .standard negated filter) (optionalOutline negated filter) := by
  cases filter with
  | none =>
    intro w
    rw [renderOptional, optionalOutline, Writing.run_pure, map_ok, Writer.text_nil, Writer.after_nil]
  | some filter => exact render_writes negated filter.field filter.values

/-- Only the number of a placeholder depends on what is bound already. -/
theorem Writer.text_eq (mode : Mode) (dialect : Dialect) (offset : Nat) (values : List Scalar)
    (o : Outline) :
    Writer.text { mode, dialect, offset := offset + (mode.kept values).length } o =
      o.text (mode.filling dialect) (offset + values.length) := by
  cases mode with
  | literal => exact congrArg String.ofList (Outline.fill_congr fun _ _ _ => rfl)
  | placeholder => rfl

namespace Compiler

variable {α : Type}

/-- A category fills its outline behind the values of the ones before it. -/
theorem stage_eq (c : Compiler) (category : String) (values : List Scalar) (filters : Checked α)
    {render : α → Writing String} {outline : α → Checked Outline}
    (h : ∀ a, Writes (render a) (outline a)) :
    c.stage category (c.options.mode.kept values) filters render =
      (fun o => (o.text (c.options.mode.filling c.options.dialect)
          (c.options.offset + values.length), c.options.mode.kept (values ++ o.holes))) <$>
        Request.staged category filters outline := by
  unfold stage Request.staged
  cases filters with
  | error failure => rfl
  | ok a =>
    rw [ok_bind, ok_bind, run, h a]
    cases outline a with
    | error failure => rfl
    | ok o =>
      rw [map_ok, ok_bind]
      dsimp only
      rw [Writer.text_eq, wrap_ok, withOperation_ok, map_ok, Mode.kept_append]
      rfl

/-- Compiling fills the outlines of the request, and leaves the values that the mode binds. -/
theorem compile_eq (c : Compiler) (hform : c.form = .standard) (r : Request) :
    c.compile r =
      (fun b => { bundle := b.fill (c.options.mode.filling c.options.dialect) c.options.offset
                  params := c.options.mode.kept b.holes }) <$>
        r.outlines c.options.filterType := by
  unfold compile Request.outlines
  rw [hform]
  cases r.chosenFilterType c.options.filterType with
  | error failure => rfl
  | ok filterType =>
    rw [ok_bind, ok_bind]
    have hnothing : ([] : List Scalar) = c.options.mode.kept [] := by
      cases c.options.mode <;> rfl
    rw [hnothing, c.stage_eq "filtro" [] _ (Conjunction.render_writes filterType r.columns)]
    refine bind_eq_map_bind fun equality => ?_
    dsimp only
    rw [c.stage_eq "filtro_especial" _ _ (Special.render_writes r.columns)]
    refine bind_eq_map_bind fun special => ?_
    dsimp only
    rw [c.stage_eq "filtro_rango" _ _ Range.render_writes]
    refine bind_eq_map_bind fun range => ?_
    dsimp only
    rw [c.stage_eq "filtro_extra" _ _ Extra.render_writes]
    refine bind_eq_map_bind fun extra => ?_
    dsimp only
    rw [c.stage_eq "in" _ _ (Membership.renderOptional_writes false)]
    refine bind_eq_map_bind fun within => ?_
    dsimp only
    rw [c.stage_eq "not_in" _ _ (Membership.renderOptional_writes true)]
    refine bind_eq_map_bind fun without => ?_
    dsimp only
    rw [c.stage_eq "diferente_de" _ _ NotEqual.render_writes]
    refine bind_eq_map_bind fun notEqual => ?_
    dsimp only
    rw [c.stage_eq "filtro_fecha" _ _ Period.render_writes]
    refine bind_eq_map_bind fun period => ?_
    refine congrArg Except.ok ?_
    simp [Bundle.fill, Bundle.holes, Bundle.toList, Outline.text, Nat.add_assoc]

end Compiler

end FilterClause
