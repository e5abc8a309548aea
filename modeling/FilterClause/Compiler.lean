import FilterClause.Bundle
import FilterClause.Condition.Conjunction
import FilterClause.Condition.Groups
import FilterClause.Condition.Membership
import FilterClause.Condition.NotEqual
import FilterClause.Condition.Period
import FilterClause.Condition.Range
import FilterClause.Intake
import FilterClause.Request

/-!
Compiling a whole request, and each category on its own. The categories of a request are compiled in
order, and the placeholders of each are numbered on from the ones before it.
-/
namespace FilterClause

structure Options where
  mode : Mode := .literal
  dialect : Dialect := .postgresql
  /-- The number of values bound before the first placeholder, with room in a machine word for the values
  of a request behind it. -/
  offset : Nat := 0
  /-- How equality filters compare when a request does not say so. -/
  filterType : FilterType := .numbers
deriving DecidableEq, Repr

/-- Options, and the form of conditions on membership. -/
structure Compiler where
  options : Options := {}
  form : Membership.Form := .standard

/-- How the equality filters of a request compare. -/
def Request.chosenFilterType (r : Request) (usual : FilterType) : Checked FilterType :=
  match r.filterType with
  | none => .ok usual
  | some name => (FilterType.read name).withOperation "tipo_filtro"

/-- Writes the condition of a membership filter, which there may not be. -/
def Membership.renderOptional (form : Form) (negated : Bool) (filter : Option Membership) :
    Writing String :=
  match filter with
  | none => return ""
  | some filter => render form negated filter.field filter.values

namespace Compiler

/-- What a step writes behind the given number of bound values. -/
def run (c : Compiler) (offset : Nat) (writing : Writing String) : Checked Fragment := do
  let (sql, w) ← writing { mode := c.options.mode, dialect := c.options.dialect, offset }
  return ⟨sql, w.params⟩

def conjunction (c : Compiler) (filters : Entries Equality) (filterType : FilterType)
    (columns : Columns) : Checked Fragment :=
  c.run c.options.offset (Conjunction.render filterType columns filters)

def ranges (c : Compiler) (filters : Entries Range) : Checked Fragment :=
  c.run c.options.offset (Range.render filters)

def within (c : Compiler) (filter : Membership) : Checked Fragment :=
  c.run c.options.offset (Membership.render c.form false filter.field filter.values)

def without (c : Compiler) (filter : Membership) : Checked Fragment :=
  c.run c.options.offset (Membership.render c.form true filter.field filter.values)

def periods (c : Compiler) (filters : List Period) : Checked Fragment :=
  c.run c.options.offset (Period.render filters)

def special (c : Compiler) (groups : List (Group Special)) (columns : Columns) : Checked Fragment :=
  c.run c.options.offset (Special.render columns groups)

def extra (c : Compiler) (groups : List (Group Extra)) : Checked Fragment :=
  c.run c.options.offset (Extra.render groups)

def notEqual (c : Compiler) (filters : Entries Scalar) : Checked Fragment :=
  c.run c.options.offset (NotEqual.render filters)

/-- Compiles one category of a request behind the values that are bound already: its condition, and
all values bound by then. A failure is marked with the category that it came from. -/
def stage {α : Type} (c : Compiler) (category : String) (bound : List Scalar)
    (filters : Checked α) (render : α → Writing String) : Checked (String × List Scalar) := do
  let compiled := do c.run (c.options.offset + bound.length) (render (← filters))
  let fragment ← (compiled.wrap ("failed to compile " ++ category)).withOperation category
  return (fragment.sql, bound ++ fragment.params)

/-- Compiles every category of a request. The first one that fails ends it. -/
def compile (c : Compiler) (r : Request) : Checked Compiled := do
  let filterType ← r.chosenFilterType c.options.filterType
  let (equality, bound) ← c.stage "filtro" [] (Intake.equalities r.equality)
    (Conjunction.render filterType r.columns)
  let (special, bound) ← c.stage "filtro_especial" bound (Intake.specials r.special)
    (Special.render r.columns)
  let (range, bound) ← c.stage "filtro_rango" bound (Intake.ranges r.range) Range.render
  let (extra, bound) ← c.stage "filtro_extra" bound (Intake.extras r.extra) Extra.render
  let (within, bound) ← c.stage "in" bound (Intake.membership r.within)
    (Membership.renderOptional c.form false)
  let (without, bound) ← c.stage "not_in" bound (Intake.membership r.without)
    (Membership.renderOptional c.form true)
  let (notEqual, bound) ← c.stage "diferente_de" bound (Intake.notEquals r.notEqual) NotEqual.render
  let (period, bound) ← c.stage "filtro_fecha" bound (Intake.periods r.period) Period.render
  let rawSql := r.rawSql.getD ""
  let bundle := { equality, special, range, extra, within, without, notEqual, period, rawSql }
  return { bundle, params := bound }

end Compiler

end FilterClause
