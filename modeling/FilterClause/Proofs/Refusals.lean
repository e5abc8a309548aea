import FilterClause.Proofs.RequestOutline

/-!
What the failures of a category look like. A failure starts with one layer that holds the offending
input. On its way out it may be described anew, which changes neither its code nor its field, and no
layer names an operation before the category is known.
-/
namespace FilterClause

/-! ### Failures -/

namespace Failure

/-- A failure that is described by one layer only. -/
structure Bare (f : Failure) : Prop where
  inner : f.inner = []
  operation : f.outer.context.operation = none
  data : f.outer.context.data.isSome = true

/-- A failure whose layers agree with the one where it started. -/
structure Coherent (f : Failure) : Prop where
  code : ∀ layer ∈ f.layers, layer.code = f.root.code
  field : f.outer.context.field = f.root.context.field
  operation : ∀ layer ∈ f.layers, layer.context.operation = none
  data : f.root.context.data.isSome = true

theorem bare_report (code : Code) (message data : String) : (report code message data).Bare :=
  ⟨rfl, rfl, rfl⟩

theorem Bare.withField {f : Failure} (h : f.Bare) (field : String) : (f.withField field).Bare :=
  ⟨h.inner, h.operation, h.data⟩

theorem Bare.withHelp {f : Failure} (h : f.Bare) (help : String) : (f.withHelp help).Bare :=
  ⟨h.inner, h.operation, h.data⟩

theorem bare_missing (name data : String) : (missing name data).Bare :=
  (bare_report _ _ _).withHelp _

theorem Bare.coherent {f : Failure} (h : f.Bare) : f.Coherent := by
  have hroot : f.root = f.outer := by rw [root, h.inner]; rfl
  have hlayers : ∀ layer ∈ f.layers, layer = f.outer := by simp [layers, h.inner]
  constructor
  · intro layer hlayer
    rw [hlayers layer hlayer, hroot]
  · rw [hroot]
  · intro layer hlayer
    rw [hlayers layer hlayer, h.operation]
  · rw [hroot, h.data]

/-- A new description does not change where a failure started. -/
theorem root_wrap (f : Failure) (message : String) : (f.wrap message).root = f.root := by
  simp [root, wrap, List.getLast?_cons]

theorem Coherent.wrap {f : Failure} (h : f.Coherent) (message : String) :
    (f.wrap message).Coherent := by
  have hlayers : ∀ layer ∈ (f.wrap message).layers,
      layer = (f.wrap message).outer ∨ layer ∈ f.layers := by
    intro layer hlayer
    exact List.mem_cons.mp hlayer
  constructor
  · rw [root_wrap]
    intro layer hlayer
    rcases hlayers layer hlayer with rfl | hlayer
    · exact h.code f.outer List.mem_cons_self
    · exact h.code layer hlayer
  · rw [root_wrap]
    exact h.field
  · intro layer hlayer
    rcases hlayers layer hlayer with rfl | hlayer
    · exact h.operation f.outer List.mem_cons_self
    · exact h.operation layer hlayer
  · rw [root_wrap]
    exact h.data

end Failure

open Failure

/-! ### Steps that are refused in one way -/

/-- Holds of steps whose failures all have a property. -/
def Checked.Refuses {α : Type} (P : Failure → Prop) (x : Checked α) : Prop :=
  ∀ f, x = .error f → P f

namespace Checked

variable {α β : Type} {P : Failure → Prop} {x : Checked α}

theorem refuses_ok (a : α) : Refuses P (.ok a : Checked α) := by
  intro f h
  exact nomatch h

theorem refuses_error {f : Failure} (h : P f) : Refuses P (.error f : Checked α) := by
  intro _ heq
  cases heq
  exact h

theorem Refuses.bind (hx : x.Refuses P) {next : α → Checked β} (hnext : ∀ a, (next a).Refuses P) :
    (x >>= next).Refuses P := by
  cases x with
  | error f => exact refuses_error (hx f rfl)
  | ok a => exact hnext a

theorem Refuses.map (hx : x.Refuses P) (f : α → β) : (f <$> x).Refuses P := by
  cases x with
  | error failure => exact refuses_error (hx failure rfl)
  | ok a => exact refuses_ok (f a)

theorem Refuses.withField (hx : x.Refuses Bare) (field : String) :
    (x.withField field).Refuses Bare := by
  cases x with
  | error f => exact refuses_error ((hx f rfl).withField field)
  | ok a => exact refuses_ok a

theorem Refuses.wrap (hx : x.Refuses Coherent) (message : String) :
    (x.wrap message).Refuses Coherent := by
  cases x with
  | error f => exact refuses_error ((hx f rfl).wrap message)
  | ok a => exact refuses_ok a

theorem Refuses.coherent (hx : x.Refuses Bare) : x.Refuses Coherent :=
  fun f hf => (hx f hf).coherent

theorem refuses_mapM {f : α → Checked β} (h : ∀ a, (f a).Refuses P) (as : List α) :
    (as.mapM f).Refuses P := by
  induction as with
  | nil => exact refuses_ok []
  | cons a as ih =>
    rw [List.mapM_cons]
    exact (h a).bind fun b => ih.bind fun bs => refuses_ok (b :: bs)

theorem refuses_links {link : Bool → α → Checked Link} (h : ∀ first a, (link first a).Refuses P)
    (first : Bool) (as : List α) : (links link first as).Refuses P := by
  induction as generalizing first with
  | nil => exact refuses_ok []
  | cons a as ih => exact (h first a).bind fun l => (ih false).bind fun ls => refuses_ok (l :: ls)

theorem refuses_chain {link : Bool → α → Checked Link} (h : ∀ first a, (link first a).Refuses P)
    (as : List α) : (Outline.chain <$> links link true as).Refuses P :=
  (refuses_links h true as).map Outline.chain

end Checked

open Checked

/-! ### Readers of categories -/

namespace Intake

theorem refuses_keyed (value : Json) (name : String) : (keyed value name).Refuses Bare := by
  unfold keyed
  split
  · exact refuses_ok _
  · exact refuses_ok _
  · exact refuses_error ((bare_report _ _ _).withHelp _)
  · exact refuses_error (bare_report _ _ _)

theorem refuses_listed (value : Json) (name : String) : (listed value name).Refuses Bare := by
  unfold listed
  split
  · exact refuses_ok _
  · exact refuses_ok _
  · exact refuses_error (bare_report _ _ _)

theorem refuses_record (value : Json) (what : String) : (record value what).Refuses Bare := by
  unfold record
  split
  · exact refuses_ok _
  · exact refuses_error (bare_report _ _ _)

theorem refuses_scalar (value : Json) (what : String) : (scalar value what).Refuses Bare := by
  unfold scalar
  split
  · exact refuses_ok _
  · exact refuses_error (bare_report _ _ _)

theorem refuses_text (value : Json) (what : String) : (text value what).Refuses Bare :=
  (refuses_scalar value what).bind fun _ => refuses_ok _

theorem refuses_optionalText (members : Members) (name : String) :
    (optionalText members name).Refuses Bare := by
  unfold optionalText
  split
  · exact refuses_ok _
  · exact refuses_ok _
  · exact (refuses_text _ name).bind fun _ => refuses_ok _

theorem refuses_optionalScalar (members : Members) (name : String) :
    (optionalScalar members name).Refuses Bare := by
  unfold optionalScalar
  split
  · exact refuses_ok _
  · exact (refuses_scalar _ name).bind fun _ => refuses_ok _

theorem refuses_required (members : Members) (name : String) :
    (required members name).Refuses Bare := by
  unfold required
  split
  · exact refuses_error (bare_missing _ _)
  · exact refuses_error (bare_missing _ _)
  · exact refuses_ok _

theorem refuses_requireAll (members : Members) (names : List String) :
    (requireAll members names).Refuses Bare := by
  unfold requireAll
  induction names with
  | nil => exact refuses_ok ()
  | cons name names ih =>
    exact ((refuses_required members name).bind fun _ => refuses_ok ()).bind fun _ => ih

theorem refuses_singleEntry (group : Json) (name : String) :
    (singleEntry group name).Refuses Bare := by
  refine (refuses_record group _).bind fun members => ?_
  split
  · exact refuses_ok _
  · exact refuses_error (bare_report _ _ _)

theorem refuses_category {α : Type} {value : Option Json} {absent : α} {read : Json → Checked α}
    (h : ∀ value, (read value).Refuses Bare) : (category value absent read).Refuses Bare := by
  unfold category
  split
  · exact refuses_ok _
  · exact refuses_ok _
  · exact h _

theorem refuses_equality (key : String) (entry : Json) : (equality key entry).Refuses Bare := by
  unfold equality
  split
  · exact refuses_error ((bare_report _ _ _).withField key)
  · rename_i attributes _
    refine ((refuses_required attributes "value").withField key).bind fun given => ?_
    refine (refuses_scalar given "value").bind fun _ => ?_
    refine (refuses_optionalText attributes "campo").bind fun _ => ?_
    refine (refuses_optionalText attributes "comparacion").bind fun _ => ?_
    exact (refuses_optionalText attributes "operador").bind fun _ => refuses_ok _
  · exact refuses_error ((bare_report _ _ _).withField key)
  · exact (refuses_scalar entry "value").bind fun _ => refuses_ok _

theorem refuses_range (key : String) (entry : Json) : (range key entry).Refuses Bare := by
  refine (refuses_record entry _).bind fun attributes => ?_
  refine ((refuses_requireAll attributes _).withField key).bind fun _ => ?_
  refine (refuses_required attributes "valor1").bind fun lower => ?_
  refine (refuses_scalar lower "valor1").bind fun _ => ?_
  refine (refuses_required attributes "valor2").bind fun upper => ?_
  exact (refuses_scalar upper "valor2").bind fun _ => refuses_ok _

theorem refuses_period (entry : Json) : (period entry).Refuses Bare := by
  refine (refuses_record entry _).bind fun attributes => ?_
  refine (refuses_requireAll attributes _).bind fun _ => ?_
  refine (refuses_required attributes "campo_1").bind fun start => ?_
  refine (refuses_text start "campo_1").bind fun _ => ?_
  refine (refuses_required attributes "campo_2").bind fun finish => ?_
  refine (refuses_text finish "campo_2").bind fun _ => ?_
  refine (refuses_required attributes "fecha").bind fun date => ?_
  exact (refuses_text date "fecha").bind fun _ => refuses_ok _

theorem refuses_special (group : Json) : (special group).Refuses Bare := by
  refine (refuses_singleEntry group _).bind fun (_, entry) => ?_
  refine (refuses_record entry _).bind fun attributes => ?_
  refine (refuses_optionalText attributes "operador").bind fun _ => ?_
  refine (refuses_optionalScalar attributes "valor").bind fun _ => ?_
  exact (refuses_optionalText attributes "comparacion").bind fun _ => refuses_ok _

theorem refuses_extra (group : Json) : (extra group).Refuses Bare := by
  refine (refuses_singleEntry group _).bind fun (_, entry) => ?_
  refine (refuses_record entry _).bind fun attributes => ?_
  refine (refuses_optionalText attributes "operador").bind fun _ => ?_
  refine (refuses_optionalScalar attributes "valor").bind fun _ => ?_
  exact (refuses_optionalText attributes "comparacion").bind fun _ => refuses_ok _

theorem refuses_notEqual (key : String) (entry : Json) : (notEqual key entry).Refuses Bare := by
  unfold notEqual
  split
  · exact refuses_error (bare_report _ _ _)
  · exact refuses_scalar entry _

theorem refuses_membership (value : Option Json) : (membership value).Refuses Bare := by
  refine refuses_category fun value => ?_
  split
  · exact refuses_ok none
  · exact refuses_ok none
  · refine (refuses_record _ _).bind fun attributes => ?_
    refine (refuses_requireAll attributes _).bind fun _ => ?_
    refine (refuses_required attributes "llave").bind fun key => ?_
    refine (refuses_text key "llave").bind fun _ => ?_
    refine (refuses_required attributes "values").bind fun given => ?_
    split
    · exact (refuses_mapM (fun item => refuses_scalar item _) _).bind fun _ => refuses_ok _
    · exact refuses_error ((bare_report _ _ _).withField _)

/-- The entries of a category with keys are refused where one of them is. -/
theorem refuses_mapM_keyed {β : Type} {read : String → Json → Checked β}
    (h : ∀ key entry, (read key entry).Refuses Bare) (value : Option Json) (name : String) :
    (category value [] fun value => do
      (← keyed value name).mapM fun (key, entry) => do
        return (key, ← read key entry)).Refuses Bare :=
  refuses_category fun value => (refuses_keyed value name).bind fun members =>
    refuses_mapM (fun (key, entry) => (h key entry).bind fun _ => refuses_ok _) members

theorem refuses_mapM_listed {β : Type} {read : Json → Checked β} (h : ∀ entry, (read entry).Refuses Bare)
    (value : Option Json) (name : String) :
    (category value [] fun value => do (← listed value name).mapM read).Refuses Bare :=
  refuses_category fun value => (refuses_listed value name).bind fun items => refuses_mapM h items

end Intake

/-! ### Outlines of categories -/

theorem Connective.refuses_read (s : String) : (read s).Refuses Bare := by
  unfold read
  split
  · exact refuses_ok _
  · split
    · exact refuses_ok _
    · exact refuses_error (bare_report _ _ _)

theorem Connective.refuses_readOptional (s : Option String) : (readOptional s).Refuses Bare := by
  unfold readOptional
  split
  · exact refuses_ok _
  · exact refuses_read _

theorem Comparison.refuses_isSubstituted (field : String) (columns : Columns) :
    (isSubstituted field columns).Refuses Bare := by
  unfold isSubstituted
  dsimp only
  split
  · exact refuses_error (bare_report _ _ _)
  · exact refuses_ok _

theorem Comparison.refuses_resolve (key : String) (filter : Equality) (columns : Columns) :
    (resolve key filter columns).Refuses Bare := by
  unfold resolve
  split
  · exact refuses_error (bare_report _ _ _)
  · dsimp only
    split <;> exact refuses_ok _

theorem Conjunction.refuses_condition (filterType : FilterType) (columns : Columns) (key : String)
    (filter : Equality) : (condition filterType columns key filter).Refuses Coherent := by
  unfold condition
  dsimp only
  split
  · exact refuses_error ((bare_report _ _ _).withHelp _).coherent
  · refine ((Comparison.refuses_resolve key filter columns).coherent.wrap _).bind fun _ => ?_
    cases filterType with
    | numbers => exact (Connective.refuses_readOptional _).coherent.bind fun _ => refuses_ok _
    | texts =>
      dsimp only
      split
      · exact refuses_ok _
      · exact (Connective.refuses_read _).coherent.bind fun _ => refuses_ok _

theorem Conjunction.refuses_outline (filterType : FilterType) (columns : Columns)
    (filters : Entries Equality) : (outline filterType columns filters).Refuses Coherent := by
  refine refuses_chain (fun _ entry => ?_) filters
  exact (refuses_condition filterType columns entry.1 entry.2).map _

namespace Group

theorem refuses_readField (key : String) : (readField key).Refuses Bare := by
  unfold readField
  dsimp only
  split
  · exact refuses_error (bare_report _ _ _)
  · split
    · exact refuses_error (bare_report _ _ _)
    · exact refuses_ok _

theorem refuses_readOperator (operator : Option String) (field : String) :
    (readOperator operator field).Refuses Bare := by
  unfold readOperator
  split
  · exact refuses_error ((bare_missing _ _).withField field)
  · split
    · exact refuses_error ((bare_report _ _ _).withField field)
    · exact refuses_ok _

theorem refuses_readValue (value : Option Scalar) (field : String) :
    (readValue value field).Refuses Bare := by
  unfold readValue
  split
  · exact refuses_error ((bare_missing _ _).withField field)
  · split
    · exact refuses_error ((bare_missing _ _).withField field)
    · split
      · exact refuses_error ((bare_report _ _ _).withField field)
      · exact refuses_ok _

theorem refuses_readConnective (connective : Option String) (field : String) :
    (readConnective connective field).Refuses Bare := by
  unfold readConnective
  split
  · exact refuses_error ((bare_missing _ _).withField field)
  · exact (Connective.refuses_read _).withField field

end Group

namespace Special

theorem refuses_substitute (field : String) (columns : Columns) :
    (substitute field columns).Refuses Coherent := by
  unfold substitute
  dsimp only
  split
  · exact refuses_error (bare_report _ _ _).coherent
  · exact ((Comparison.refuses_isSubstituted _ columns).coherent.wrap _).bind fun _ => refuses_ok _

theorem refuses_compare (field : String) (filter : Special) :
    (compare field filter).Refuses Bare := by
  refine (Group.refuses_readOperator filter.operator field).bind fun _ => ?_
  refine (Group.refuses_readValue filter.value field).bind fun _ => ?_
  cases filter.bound <;> exact refuses_ok _

theorem refuses_condition (columns : Columns) (group : Group Special) :
    (condition columns group).Refuses Coherent := by
  refine ((Group.refuses_readField group.field).coherent.wrap _).bind fun key => ?_
  refine (refuses_substitute key columns).bind fun field => ?_
  exact ((refuses_compare field group.filter).coherent.wrap _).bind fun _ => refuses_ok _

theorem refuses_outline (columns : Columns) (groups : List (Group Special)) :
    (outline columns groups).Refuses Coherent := by
  refine refuses_chain (fun first group => ?_) groups
  refine (refuses_condition columns group).bind fun (key, _) => ?_
  cases first with
  | true => exact refuses_ok _
  | false =>
    exact (Group.refuses_readConnective group.filter.connective key).coherent.bind fun _ =>
      refuses_ok _

end Special

namespace Extra

theorem refuses_condition (group : Group Extra) : (condition group).Refuses Coherent := by
  refine ((Group.refuses_readField group.field).coherent.wrap _).bind fun field => ?_
  refine (Group.refuses_readValue group.filter.value field).coherent.bind fun _ => ?_
  refine (Group.refuses_readOperator group.filter.operator field).coherent.bind fun _ => ?_
  exact (Group.refuses_readConnective group.filter.connective field).coherent.bind fun _ =>
    refuses_ok _

theorem refuses_outline (groups : List (Group Extra)) : (outline groups).Refuses Coherent := by
  refine refuses_chain (fun _ group => ?_) groups
  exact (refuses_condition group).map _

end Extra

namespace Range

theorem refuses_readBound (value : Scalar) (name field : String) :
    (readBound value name field).Refuses Bare := by
  unfold readBound
  split
  · exact refuses_error ((bare_missing _ _).withField field)
  · split
    · exact refuses_error ((bare_report _ _ _).withField field)
    · exact refuses_ok _

theorem refuses_condition (field : String) (range : Range) : (condition field range).Refuses Bare := by
  unfold condition
  dsimp only
  split
  · exact refuses_error (bare_report _ _ _)
  · refine (refuses_readBound range.lower "valor1" _).bind fun _ => ?_
    refine (refuses_readBound range.upper "valor2" _).bind fun _ => ?_
    cases range.bound <;> exact refuses_ok _

theorem refuses_keyed (key : String) (range : Range) : (keyed key range).Refuses Coherent := by
  unfold keyed
  dsimp only
  split
  · exact refuses_error (bare_report _ _ _).coherent
  · exact (refuses_condition _ range).coherent.wrap _

theorem refuses_outline (ranges : Entries Range) : (outline ranges).Refuses Coherent := by
  refine refuses_chain (fun _ entry => ?_) ranges
  exact (refuses_keyed entry.1 entry.2).map _

end Range

namespace NotEqual

theorem refuses_condition (key : String) (value : Scalar) : (condition key value).Refuses Bare := by
  unfold condition
  dsimp only
  split
  · exact refuses_error (bare_report _ _ _)
  · split
    · exact refuses_error (bare_report _ _ _)
    · exact refuses_ok _

theorem refuses_outline (filters : Entries Scalar) : (outline filters).Refuses Coherent := by
  refine refuses_chain (fun _ entry => ?_) filters
  exact (refuses_condition entry.1 entry.2).coherent.map _

end NotEqual

namespace Period

theorem refuses_readText (value name : String) : (readText value name).Refuses Bare := by
  unfold readText
  dsimp only
  split
  · exact refuses_error (bare_report _ _ _)
  · exact refuses_ok _

theorem refuses_readDate (s : String) : (readDate s).Refuses Bare := by
  unfold readDate
  split
  · exact refuses_ok _
  · exact refuses_error ((bare_report _ _ _).withHelp _)

theorem refuses_condition (period : Period) : (condition period).Refuses Bare := by
  refine (refuses_readText period.start "campo_1").bind fun _ => ?_
  refine (refuses_readText period.finish "campo_2").bind fun _ => ?_
  refine (refuses_readText period.date "fecha").bind fun date => ?_
  exact (refuses_readDate date).bind fun _ => refuses_ok _

theorem refuses_outline (periods : List Period) : (outline periods).Refuses Coherent :=
  (refuses_links (fun _ period => ((refuses_condition period).coherent.wrap _).map _) true periods).map
    _

end Period

namespace Membership

theorem refuses_checkShape (field list : String) : (checkShape field list).Refuses Bare := by
  unfold checkShape
  split
  · exact refuses_error (bare_report _ _ _)
  · split
    · exact refuses_error ((bare_report _ _ _).withField field)
    · exact refuses_ok ()

theorem refuses_listOutline (values : List Scalar) : (listOutline values).Refuses Bare := by
  refine refuses_chain (fun _ v => ?_) values
  unfold link
  split
  · exact refuses_error (bare_report _ _ _)
  · exact refuses_ok _

theorem refuses_outline (negated : Bool) (field : String) (values : List Scalar) :
    (outline negated field values).Refuses Coherent := by
  unfold outline
  split
  · exact refuses_ok []
  · split
    · exact refuses_error (bare_report _ _ _).coherent
    · refine ((refuses_listOutline values).coherent.wrap _).bind fun list => ?_
      split
      · exact ((refuses_checkShape _ _).coherent.wrap _).bind fun _ => refuses_ok _
      · exact refuses_ok _

theorem refuses_optionalOutline (negated : Bool) (filter : Option Membership) :
    (optionalOutline negated filter).Refuses Coherent := by
  cases filter with
  | none => exact refuses_ok []
  | some filter => exact refuses_outline negated filter.field filter.values

end Membership

end FilterClause
