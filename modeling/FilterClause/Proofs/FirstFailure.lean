import FilterClause.Proofs.Composition
import FilterClause.Proofs.Refusals
import FilterClause.Proofs.TwoFillings

/-!
The failure of a request is the one of its first category that fails, marked with that category. So it
is the failure of the request that has no other category, and it is the same in both modes, all dialects
and behind any number of bound values.
-/
namespace FilterClause

open Checked Failure

/-- A category that is compiled, which may fail. -/
inductive Category
  | equality
  | special
  | range
  | extra
  | within
  | without
  | notEqual
  | period
deriving DecidableEq, Repr

namespace Category

def name : Category → String
  | equality => "filtro"
  | special => "filtro_especial"
  | range => "filtro_rango"
  | extra => "filtro_extra"
  | within => "in"
  | without => "not_in"
  | notEqual => "diferente_de"
  | period => "filtro_fecha"

/-- The categories in the order in which they are compiled. -/
def all : List Category :=
  [equality, special, range, extra, within, without, notEqual, period]

/-- Reads a category of a request and compiles it on its own. -/
def compile (category : Category) (c : Compiler) (filterType : FilterType) (r : Request) :
    Checked Fragment :=
  match category with
  | equality => do c.conjunction (← Intake.equalities r.equality) filterType r.columns
  | special => do c.special (← Intake.specials r.special) r.columns
  | range => do c.ranges (← Intake.ranges r.range)
  | extra => do c.extra (← Intake.extras r.extra)
  | within => do Compiler.whenPresent c.within (← Intake.membership r.within)
  | without => do Compiler.whenPresent c.without (← Intake.membership r.without)
  | notEqual => do c.notEqual (← Intake.notEquals r.notEqual)
  | period => do c.periods (← Intake.periods r.period)

/-- The outline of a category. -/
def outline (category : Category) (filterType : FilterType) (r : Request) : Checked Outline :=
  match category with
  | equality => Intake.equalities r.equality >>= Conjunction.outline filterType r.columns
  | special => Intake.specials r.special >>= Special.outline r.columns
  | range => Intake.ranges r.range >>= Range.outline
  | extra => Intake.extras r.extra >>= Extra.outline
  | within => Intake.membership r.within >>= Membership.optionalOutline false
  | without => Intake.membership r.without >>= Membership.optionalOutline true
  | notEqual => Intake.notEquals r.notEqual >>= NotEqual.outline
  | period => Intake.periods r.period >>= Period.outline

/-- How the failure of a category is marked with it. -/
def mark (category : Category) (failure : Failure) : Failure :=
  (failure.wrap ("failed to compile " ++ category.name)).withOperation category.name

end Category

/-- The request without its other categories. -/
def Request.only (r : Request) (category : Category) : Request :=
  let bare : Request := { filterType := r.filterType, columns := r.columns }
  match category with
  | .equality => { bare with equality := r.equality }
  | .special => { bare with special := r.special }
  | .range => { bare with range := r.range }
  | .extra => { bare with extra := r.extra }
  | .within => { bare with within := r.within }
  | .without => { bare with without := r.without }
  | .notEqual => { bare with notEqual := r.notEqual }
  | .period => { bare with period := r.period }

/-! ### Categories -/

/-- Reading and compiling a category leaves its outline filled. -/
theorem Compiler.read_run {α : Type} (c : Compiler) (offset : Nat) (filters : Checked α)
    {render : α → Writing String} {outline : α → Checked Outline}
    (h : ∀ a, Writes (render a) (outline a)) :
    ∃ fragment : Outline → Fragment,
      (filters >>= fun a => c.run offset (render a)) = fragment <$> (filters >>= outline) := by
  let w : Writer := { mode := c.options.mode, dialect := c.options.dialect, offset }
  refine ⟨fun o => ⟨w.text o, (w.after o).params⟩, ?_⟩
  cases filters with
  | error failure => rfl
  | ok a =>
    rw [ok_bind, ok_bind, run, h a]
    cases outline a <;> rfl

namespace Category

theorem compile_eq (category : Category) (c : Compiler) (hform : c.form = .standard)
    (filterType : FilterType) (r : Request) :
    ∃ fragment : Outline → Fragment,
      category.compile c filterType r = fragment <$> category.outline filterType r := by
  cases category with
  | equality => exact c.read_run _ _ (Conjunction.render_writes filterType r.columns)
  | special => exact c.read_run _ _ (Special.render_writes r.columns)
  | range => exact c.read_run _ _ Range.render_writes
  | extra => exact c.read_run _ _ Extra.render_writes
  | within =>
    have hrun := fun filter => c.run_renderOptional false filter
    rw [hform] at hrun
    obtain ⟨fragment, h⟩ := c.read_run c.options.offset (Intake.membership r.within)
      (Membership.renderOptional_writes false)
    refine ⟨fragment, ?_⟩
    rw [outline, ← h, compile, funext hrun]
    unfold Compiler.within
    rw [hform]
  | without =>
    have hrun := fun filter => c.run_renderOptional true filter
    rw [hform] at hrun
    obtain ⟨fragment, h⟩ := c.read_run c.options.offset (Intake.membership r.without)
      (Membership.renderOptional_writes true)
    refine ⟨fragment, ?_⟩
    rw [outline, ← h, compile, funext hrun]
    unfold Compiler.without
    rw [hform]
  | notEqual => exact c.read_run _ _ NotEqual.render_writes
  | period => exact c.read_run _ _ Period.render_writes

/-- The failures of categories are coherent. -/
theorem refuses_outline (category : Category) (filterType : FilterType) (r : Request) :
    (category.outline filterType r).Refuses Coherent := by
  cases category with
  | equality =>
    exact (Intake.refuses_mapM_keyed Intake.refuses_equality r.equality _).coherent.bind
      (Conjunction.refuses_outline filterType r.columns)
  | special =>
    exact (Intake.refuses_mapM_listed Intake.refuses_special r.special _).coherent.bind
      (Special.refuses_outline r.columns)
  | range =>
    exact (Intake.refuses_mapM_keyed Intake.refuses_range r.range _).coherent.bind
      Range.refuses_outline
  | extra =>
    exact (Intake.refuses_mapM_listed Intake.refuses_extra r.extra _).coherent.bind
      Extra.refuses_outline
  | within =>
    exact (Intake.refuses_membership r.within).coherent.bind
      (Membership.refuses_optionalOutline false)
  | without =>
    exact (Intake.refuses_membership r.without).coherent.bind
      (Membership.refuses_optionalOutline true)
  | notEqual =>
    exact (Intake.refuses_mapM_keyed Intake.refuses_notEqual r.notEqual _).coherent.bind
      NotEqual.refuses_outline
  | period =>
    exact (Intake.refuses_mapM_listed Intake.refuses_period r.period _).coherent.bind
      Period.refuses_outline

theorem outline_only (category : Category) (filterType : FilterType) (r : Request) :
    category.outline filterType (r.only category) = category.outline filterType r := by
  cases category <;> rfl

/-- A category that is not there has nothing to fail. -/
theorem outline_only_of_ne {category other : Category} (hne : other ≠ category)
    (filterType : FilterType) (r : Request) :
    other.outline filterType (r.only category) = .ok [] := by
  cases category <;> cases other <;> first | rfl | exact absurd rfl hne

end Category

/-- The outlines of a request are refused where the first of its categories is. -/
theorem Request.discard_outlines (r : Request) (usual : FilterType) :
    (fun _ => ()) <$> r.outlines usual =
      r.chosenFilterType usual >>= fun filterType =>
        Category.all.forM fun category =>
          (fun _ => ()) <$> ((category.outline filterType r).wrap
            ("failed to compile " ++ category.name)).withOperation category.name := by
  unfold outlines
  cases r.chosenFilterType usual with
  | error failure => rfl
  | ok filterType =>
    rw [ok_bind, ok_bind]
    -- No category looks at the outlines of the ones before it.
    refine discard_bind fun equality => ?_
    refine discard_bind fun special => ?_
    refine discard_bind fun range => ?_
    refine discard_bind fun extra => ?_
    refine discard_bind fun within => ?_
    refine discard_bind fun without => ?_
    refine discard_bind fun notEqual => ?_
    refine discard_bind fun period => ?_
    rfl

/-! ### Requests -/

/-- What is said of the category that a failure came from. The layers below say nothing of it. -/
structure Failure.Names (f : Failure) (category : Category) : Prop where
  message : f.outer.message = "failed to compile " ++ category.name
  operation : f.outer.context.operation = some category.name
  inner : ∀ layer ∈ f.inner, layer.context.operation = none
  code : ∀ layer ∈ f.layers, layer.code = f.root.code
  field : f.outer.context.field = f.root.context.field
  data : f.root.context.data.isSome = true

theorem Category.names_mark (category : Category) {cause : Failure} (h : cause.Coherent) :
    (category.mark cause).Names category := by
  have hroot : (category.mark cause).root = cause.root :=
    root_wrap cause ("failed to compile " ++ category.name)
  constructor
  · rfl
  · rfl
  · exact h.operation
  · rw [hroot]
    intro layer hlayer
    rcases List.mem_cons.mp hlayer with rfl | hlayer
    · exact h.code cause.outer List.mem_cons_self
    · exact h.code layer hlayer
  · rw [hroot]
    exact h.field
  · rw [hroot]
    exact h.data

/-- Holds of the first category of a request that fails on its own, and of its failure. -/
def Request.FailsFirst (r : Request) (c : Compiler) (filterType : FilterType) (category : Category)
    (cause : Failure) : Prop :=
  ∃ front back, Category.all = front ++ category :: back ∧
    (∀ earlier ∈ front, ∃ fragment, earlier.compile c filterType r = .ok fragment) ∧
    category.compile c filterType r = .error cause

namespace Request

variable {r : Request} {usual filterType : FilterType}

theorem outlines_eq_error_iff (htype : r.chosenFilterType usual = .ok filterType)
    {failure : Failure} :
    r.outlines usual = .error failure ↔
      ∃ front category back cause, Category.all = front ++ category :: back ∧
        (∀ earlier ∈ front, ∃ o, earlier.outline filterType r = .ok o) ∧
        category.outline filterType r = .error cause ∧ failure = category.mark cause := by
  rw [← map_eq_error_iff (f := fun _ => ()), discard_outlines, htype, ok_bind, forM_eq_error_iff]
  simp only [map_eq_error_iff, map_eq_ok_iff, and_true, withOperation_eq_ok_iff, wrap_eq_ok_iff]
  constructor
  · rintro ⟨front, category, back, hsplit, hfront, hfailure⟩
    obtain ⟨wrapped, hwrapped, rfl⟩ := mapError_eq_error_iff.mp hfailure
    obtain ⟨cause, hcause, rfl⟩ := mapError_eq_error_iff.mp hwrapped
    exact ⟨front, category, back, cause, hsplit, hfront, hcause, rfl⟩
  · rintro ⟨front, category, back, cause, hsplit, hfront, hcause, rfl⟩
    refine ⟨front, category, back, hsplit, hfront, ?_⟩
    exact mapError_eq_error_iff.mpr ⟨_, mapError_eq_error_iff.mpr ⟨cause, hcause, rfl⟩, rfl⟩

/-- The first category that fails is the same for all compilers, and so is its failure. -/
theorem failsFirst_iff {c : Compiler} (hform : c.form = .standard) {category : Category}
    {cause : Failure} :
    r.FailsFirst c filterType category cause ↔
      ∃ front back, Category.all = front ++ category :: back ∧
        (∀ earlier ∈ front, ∃ o, earlier.outline filterType r = .ok o) ∧
        category.outline filterType r = .error cause := by
  have hok : ∀ category : Category, (∃ fragment, category.compile c filterType r = .ok fragment) ↔
      ∃ o, category.outline filterType r = .ok o := by
    intro category
    obtain ⟨fragment, hfragment⟩ := category.compile_eq c hform filterType r
    simp only [hfragment, map_eq_ok_iff]
    constructor
    · rintro ⟨_, o, ho, _⟩
      exact ⟨o, ho⟩
    · rintro ⟨o, ho⟩
      exact ⟨fragment o, o, ho, rfl⟩
  obtain ⟨fragment, hfragment⟩ := category.compile_eq c hform filterType r
  simp only [FailsFirst, hok, hfragment, map_eq_error_iff]

end Request

theorem Request.chosenFilterType_only (r : Request) (usual : FilterType) (category : Category) :
    (r.only category).chosenFilterType usual = r.chosenFilterType usual := by
  cases category <;> rfl

/-- In a request with one category, that category is the first one to fail. -/
theorem Request.outlines_only {r : Request} {usual filterType : FilterType} {category : Category}
    {cause : Failure} (htype : r.chosenFilterType usual = .ok filterType)
    (hcause : category.outline filterType r = .error cause) :
    (r.only category).outlines usual = .error (category.mark cause) := by
  have htype' := (r.chosenFilterType_only usual category).trans htype
  obtain ⟨front, back, hsplit⟩ : ∃ front back, Category.all = front ++ category :: back :=
    List.append_of_mem (by cases category <;> decide)
  have hnodup : Category.all.Nodup := by decide
  refine (outlines_eq_error_iff htype').mpr ⟨front, category, back, cause, hsplit, ?_, ?_, rfl⟩
  · intro earlier hearlier
    -- The category stands in the order only once, so the ones before it are not in the request.
    have hne : earlier ≠ category := by
      rintro rfl
      rw [hsplit, List.nodup_append] at hnodup
      exact hnodup.2.2 earlier hearlier earlier List.mem_cons_self rfl
    exact ⟨[], Category.outline_only_of_ne hne filterType r⟩
  · rw [Category.outline_only, hcause]

theorem FilterType.read_eq_error {name : String} (hnumbers : name ≠ "numeros")
    (htexts : name ≠ "textos") : read name = .error (.invalidFilterType name) := by
  rw [read, if_neg hnumbers, if_neg htexts]

/-- A filter type that is none is refused whatever else there is. Otherwise a failure is that of the
first category that fails, and names this category. Neither the other categories nor the mode, the
dialect and the offset have a part in it. -/
theorem Compiler.failure_of_first_category (mode : Mode) (dialect : Dialect) (offset : Nat)
    (usual : FilterType) (r : Request) :
    (∀ name, r.filterType = some name → name ≠ "numeros" → name ≠ "textos" →
      (standard mode dialect offset usual).compile r =
        .error {
          outer := {
            code := .invalidFilterType
            message := "filter type must be `numeros` or `textos`"
            context := { operation := some "tipo_filtro", data := some name } }
          inner := []
          cause := none }) ∧
    (∀ failure, (∀ name, r.filterType = some name → name = "numeros" ∨ name = "textos") →
      (standard mode dialect offset usual).compile r = .error failure →
      ∃ filterType category cause, r.chosenFilterType usual = .ok filterType ∧
        r.FailsFirst (standard mode dialect offset usual) filterType category cause ∧
        failure = category.mark cause ∧ failure.Names category ∧
        ∀ (mode' : Mode) (dialect' : Dialect) (offset' : Nat),
          (standard mode' dialect' offset' usual).compile (r.only category) = .error failure) := by
  constructor
  · intro name hname hnumbers htexts
    have htype : r.chosenFilterType usual =
        .error ((Failure.invalidFilterType name).withOperation "tipo_filtro") := by
      rw [Request.chosenFilterType, hname]
      dsimp only
      rw [FilterType.read_eq_error hnumbers htexts]
      rfl
    rw [compile_standard, map_eq_error_iff, Request.outlines, htype]
    rfl
  · intro failure hnames h
    obtain ⟨filterType, htype⟩ : ∃ filterType, r.chosenFilterType usual = .ok filterType := by
      cases hname : r.filterType with
      | none => exact ⟨usual, by rw [Request.chosenFilterType, hname]⟩
      | some name =>
        rcases hnames name hname with rfl | rfl
        · exact ⟨.numbers, by rw [Request.chosenFilterType, hname]; rfl⟩
        · exact ⟨.texts, by rw [Request.chosenFilterType, hname]; rfl⟩
    rw [compile_standard, map_eq_error_iff, Request.outlines_eq_error_iff htype] at h
    obtain ⟨front, category, back, cause, hsplit, hfront, hcause, rfl⟩ := h
    have hcoherent := category.refuses_outline filterType r cause hcause
    refine ⟨filterType, category, cause, htype, ?_, rfl, category.names_mark hcoherent, ?_⟩
    · exact (Request.failsFirst_iff rfl).mpr ⟨front, back, hsplit, hfront, hcause⟩
    · intro mode' dialect' offset'
      rw [compile_standard, map_eq_error_iff]
      exact Request.outlines_only htype hcause

/-- Two categories of the request fail, and one before them does not. -/
def Request.lackingValue (filterType : String) : Request :=
  { equality := some (.object [("t.a", .integer 1)])
    filterType := some filterType
    special := some (.array [.object [("t.b", .object [("operador", .text "=")])]])
    period := some (.text "2024-01-31") }

theorem Compiler.failure_of_special :
    ((standard .literal .postgresql 0 .numbers).compile (Request.lackingValue "fechas")).toBool =
        false ∧
      ∃ failure,
        (standard .literal .postgresql 0 .numbers).compile (Request.lackingValue "textos") =
          .error failure ∧
        failure.outer.code = .missingAttribute ∧ failure.Names .special ∧
        (standard .placeholder .mysql 7 .numbers).compile
          ((Request.lackingValue "textos").only .special) = .error failure := by
  have hrefused := (failure_of_first_category .literal .postgresql 0 .numbers
    (Request.lackingValue "fechas")).1 "fechas" rfl (by decide) (by decide)
  refine ⟨by rw [hrefused]; rfl, ?_⟩
  have h : (standard .literal .postgresql 0 .numbers).compile (Request.lackingValue "textos") =
      .error _ := rfl
  obtain ⟨_, category, _, _, _, _, hcategory, honly⟩ := (failure_of_first_category .literal
    .postgresql 0 .numbers (Request.lackingValue "textos")).2 _
    (fun name hname => .inr (Option.some.inj hname).symm) h
  have hspecial : category.name = "filtro_especial" := Option.some.inj hcategory.operation.symm
  obtain rfl : category = .special := by
    cases category <;> first | rfl | exact absurd hspecial (by decide)
  exact ⟨_, h, rfl, hcategory, honly .placeholder .mysql 7⟩

end FilterClause
