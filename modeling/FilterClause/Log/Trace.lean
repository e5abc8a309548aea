import FilterClause.Compiler
import FilterClause.Log.Event

/-!
The events of compiling a request: one for each condition in the order in which the conditions are
compiled, and one for the outcome. A category that fails still has the events of the conditions
before the one that failed.
-/
namespace FilterClause.Log.Trace

/-- The elements that a step takes before it is first refused, each with what the step leaves. -/
def progress {σ α : Type} (step : σ → α → Writing σ) (w : Writer) (acc : σ) : List α → List (α × σ)
  | [] => []
  | a :: rest =>
    match step acc a w with
    | .ok (acc, w) => (a, acc) :: progress step w acc rest
    | .error _ => []

/-- An event about one condition. -/
def condition (category message : String) (values : List (String × Json)) : Event :=
  { level := .trace, target := "criba_query::compiler::" ++ category, message, values }

def equality (filterType : FilterType) (columns : Columns) (w : Writer)
    (filters : Entries Equality) : List Event :=
  (progress (Conjunction.step filterType columns) w "" filters).map fun ((key, _), _) =>
    condition "conjunction" "conjunction term"
      [("key", .text key), ("mode", .text filterType.name)]

def special (columns : Columns) (w : Writer) (groups : List (Group Special)) : List Event :=
  (progress (Special.step columns) w "" groups).map fun (group, sql) =>
    condition "special" "special filter"
      [("field", .text (Text.trim group.field)), ("sql", .text sql)]

def extra (w : Writer) (groups : List (Group Extra)) : List Event :=
  (progress Extra.step w "" groups).map fun (group, sql) =>
    condition "special" "extra filter"
      [("field", .text (Text.trim group.field)), ("sql", .text sql)]

/-- A range is shown by itself. -/
def range (w : Writer) (filters : Entries Range) : List Event :=
  let step (_ : String) (entry : String × Range) : Writing String := do
    Writer.write (← Range.keyed entry.1 entry.2)
  (progress step w "" filters).map fun ((key, _), text) =>
    condition "range" "range condition"
      [("field", .text (Text.trim key)), ("condition", .text text)]

def membership (form : Membership.Form) (negated : Bool) (w : Writer)
    (filter : Option Membership) : List Event :=
  match filter with
  | none => []
  | some filter =>
    if negated && filter.values.isEmpty then []
    else
      match Membership.render form negated filter.field filter.values w with
      | .ok (sql, _) =>
        [ condition "set" "set condition"
            [ ("field", .text (Text.trim filter.field)), ("negated", .boolean negated),
              ("sql", .text sql) ] ]
      | .error _ => []

def notEqual (w : Writer) (filters : Entries Scalar) : List Event :=
  (progress NotEqual.step w "" filters).map fun ((key, _), _) =>
    condition "not_equal" "not-equal condition" [("field", .text (Text.trim key))]

/-- A period is shown by itself. -/
def period (w : Writer) (filters : List Period) : List Event :=
  let step (_ : String) (period : Period) : Writing String := do
    Writer.write (← Period.condition period)
  (progress step w "" filters).map fun (period, text) =>
    condition "date" "date condition"
      [("date", .text (Text.trim period.date)), ("condition", .text text)]

/-- The event of a failure, at the place where it started. -/
def failure (f : Failure) : Event :=
  { level := .debug
    target := "criba_query::error"
    message := f.root.message
    values := [("code", .text f.root.code.label), ("data", .text (f.root.context.data.getD ""))] }

/-- The event of a compiled request. -/
def success (mode : Mode) (compiled : Compiled) : Event :=
  let shown :=
    match mode with
    | .literal => "Literal"
    | .placeholder => "Placeholder"
  { level := .debug
    target := "criba_query::compiler"
    message := "compiled filter request"
    values :=
      [ ("render", .text shown), ("params", .integer compiled.params.length),
        ("fragments", .integer compiled.bundle.populated.length) ] }

/-- A category: the events of writing its condition, and the writing itself. -/
structure Stage where
  events : Writer → List Event
  render : Writing String

/-- A stage whose filters may be refused before any of them is looked at. -/
def Stage.make {α : Type} (filters : Checked α) (events : Writer → α → List Event)
    (render : α → Writing String) : Stage where
  events w := (filters.toOption.map (events w)).getD []
  render := do render (← filters)

def stages (form : Membership.Form) (filterType : FilterType) (r : Request) : List Stage :=
  [ .make (Intake.equalities r.equality) (equality filterType r.columns)
      (Conjunction.render filterType r.columns),
    .make (Intake.specials r.special) (special r.columns) (Special.render r.columns),
    .make (Intake.ranges r.range) range Range.render,
    .make (Intake.extras r.extra) extra Extra.render,
    .make (Intake.membership r.within) (membership form false)
      (Membership.renderOptional form false),
    .make (Intake.membership r.without) (membership form true)
      (Membership.renderOptional form true),
    .make (Intake.notEquals r.notEqual) notEqual NotEqual.render,
    .make (Intake.periods r.period) period Period.render ]

/-- The events of the stages up to the first one that fails, the placeholders numbered through. -/
def conditions (w : Writer) : List Stage → List Event
  | [] => []
  | stage :: rest =>
    stage.events w ++
      match stage.render w with
      | .ok (_, w) => conditions w rest
      | .error _ => []

/-- All events of compiling a request. -/
def compilation (c : Compiler) (r : Request) : List Event :=
  let w : Writer :=
    { mode := c.options.mode, dialect := c.options.dialect, offset := c.options.offset }
  let steps :=
    match r.chosenFilterType c.options.filterType with
    | .ok filterType => conditions w (stages c.form filterType r)
    | .error _ => []
  let outcome :=
    match c.compile r with
    | .ok compiled => success c.options.mode compiled
    | .error f => failure f
  steps ++ [outcome]

end FilterClause.Log.Trace
