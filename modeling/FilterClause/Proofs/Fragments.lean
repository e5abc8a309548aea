import FilterClause.Proofs.Composition
import FilterClause.Proofs.RequestOutline

/-!
The fragments that a request is compiled to, whatever the form of conditions on membership. Each of
them comes from filters that were read and from an outline that was filled, behind some number of
bound values.
-/
namespace FilterClause

open Checked

/-- The fragment of a category: its filters are read, and their condition is written. -/
def Compiler.Gives {α : Type} (c : Compiler) (filters : Checked α) (render : α → Writing String)
    (fragment : Fragment) : Prop :=
  ∃ a offset, filters = .ok a ∧ c.run offset (render a) = .ok fragment

/-- The fragments of a request. -/
structure Compiler.Composed (c : Compiler) (r : Request) (filterType : FilterType)
    (b : Bundle Fragment) : Prop where
  equality :
    c.Gives (Intake.equalities r.equality) (Conjunction.render filterType r.columns) b.equality
  special : c.Gives (Intake.specials r.special) (Special.render r.columns) b.special
  range : c.Gives (Intake.ranges r.range) Range.render b.range
  extra : c.Gives (Intake.extras r.extra) Extra.render b.extra
  within : c.Gives (Intake.membership r.within) (Membership.renderOptional c.form false) b.within
  without : c.Gives (Intake.membership r.without) (Membership.renderOptional c.form true) b.without
  notEqual : c.Gives (Intake.notEquals r.notEqual) NotEqual.render b.notEqual
  period : c.Gives (Intake.periods r.period) Period.render b.period
  rawSql : b.rawSql = { sql := r.rawSql.getD "", params := [] }

/-- Every form of membership binds the values of the list and nothing else. -/
theorem Membership.of_render {form : Form} {negated : Bool} {field : String} {values : List Scalar}
    {w w' : Writer} {sql : String} (h : render form negated field values w = .ok (sql, w')) :
    ∃ list, listOutline values = .ok list ∧ w' = w.after list ∧
      ((negated && values.isEmpty) = false → Text.trim field ≠ "") := by
  unfold render at h
  split at h
  · rename_i hnone
    cases h
    have hvalues : values = [] := by simpa using (Bool.and_eq_true_iff.mp hnone).2
    exact ⟨[], by rw [hvalues]; rfl, w.after_nil.symm, fun hsome => absurd hnone (by simp [hsome])⟩
  · dsimp only at h
    split at h
    · exact nomatch h
    · rename_i hfield
      rw [Writing.run_bind, Writing.run_wrap, renderList_writes values] at h
      obtain ⟨⟨text, written⟩, hlist, h⟩ := bind_eq_ok_iff.mp h
      obtain ⟨list, houtline, hwritten⟩ := map_eq_ok_iff.mp (wrap_eq_ok_iff.mp hlist)
      cases hwritten
      rw [Writing.run_bind, Writing.run_check] at h
      obtain ⟨⟨_, checked⟩, hcheck, h⟩ := bind_eq_ok_iff.mp h
      obtain ⟨_, _, hchecked⟩ := map_eq_ok_iff.mp hcheck
      cases hchecked
      cases h
      exact ⟨list, houtline, rfl, fun _ => hfield⟩

namespace Compiler

variable {c : Compiler} {fragment : Fragment}

/-- A compiled request has a fragment for each category. It binds what these bind, and its conditions are
theirs. -/
theorem composed_of_compile {r : Request} {out : Compiled} (h : c.compile r = .ok out) :
    ∃ filterType b, r.chosenFilterType c.options.filterType = .ok filterType ∧
      c.Composed r filterType b ∧ out.params = b.toList.flatMap Fragment.params ∧
      out.bundle.toList = b.toList.map Fragment.sql := by
  obtain ⟨filterType, htype, h⟩ := bind_eq_ok_iff.mp h
  obtain ⟨equality, ⟨equalities, hequalities, hequality⟩, h⟩ := stage_bind_eq_ok_iff.mp h
  obtain ⟨special, ⟨specials, hspecials, hspecial⟩, h⟩ := stage_bind_eq_ok_iff.mp h
  obtain ⟨range, ⟨ranges, hranges, hrange⟩, h⟩ := stage_bind_eq_ok_iff.mp h
  obtain ⟨extra, ⟨extras, hextras, hextra⟩, h⟩ := stage_bind_eq_ok_iff.mp h
  obtain ⟨within, ⟨inside, hinside, hwithin⟩, h⟩ := stage_bind_eq_ok_iff.mp h
  obtain ⟨without, ⟨outside, houtside, hwithout⟩, h⟩ := stage_bind_eq_ok_iff.mp h
  obtain ⟨notEqual, ⟨notEquals, hnotEquals, hnotEqual⟩, h⟩ := stage_bind_eq_ok_iff.mp h
  obtain ⟨period, ⟨periods, hperiods, hperiod⟩, h⟩ := stage_bind_eq_ok_iff.mp h
  cases h
  let rawSql : Fragment := { sql := r.rawSql.getD "", params := [] }
  refine ⟨filterType,
    { equality, special, range, extra, within, without, notEqual, period, rawSql }, htype, ?_, ?_,
    rfl⟩
  · exact {
      equality := ⟨equalities, _, hequalities, hequality⟩
      special := ⟨specials, _, hspecials, hspecial⟩
      range := ⟨ranges, _, hranges, hrange⟩
      extra := ⟨extras, _, hextras, hextra⟩
      within := ⟨inside, _, hinside, hwithin⟩
      without := ⟨outside, _, houtside, hwithout⟩
      notEqual := ⟨notEquals, _, hnotEquals, hnotEqual⟩
      period := ⟨periods, _, hperiods, hperiod⟩
      rawSql := rfl }
  · simp [Bundle.toList, rawSql]

/-- A fragment binds what was left with the writer. -/
theorem of_run {offset : Nat} {writing : Writing String} (h : c.run offset writing = .ok fragment) :
    ∃ w, writing { mode := c.options.mode, dialect := c.options.dialect, offset } =
      .ok (fragment.sql, w) ∧ fragment.params = w.params := by
  obtain ⟨⟨sql, w⟩, hwriting, h⟩ := bind_eq_ok_iff.mp h
  cases h
  exact ⟨w, hwriting, rfl⟩

/-- A fragment binds the values of the holes of its outline. -/
theorem Gives.outlined {α : Type} {filters : Checked α} {render : α → Writing String}
    {outline : α → Checked Outline} (h : c.Gives filters render fragment)
    (hw : ∀ a, Writes (render a) (outline a)) :
    ∃ a o, filters = .ok a ∧ outline a = .ok o ∧
      fragment.params = c.options.mode.kept o.holes := by
  obtain ⟨a, offset, ha, hrun⟩ := h
  obtain ⟨w, hwriting, hparams⟩ := of_run hrun
  rw [hw a] at hwriting
  obtain ⟨o, ho, hwritten⟩ := map_eq_ok_iff.mp hwriting
  obtain ⟨_, rfl⟩ := Prod.ext_iff.mp hwritten
  exact ⟨a, o, ha, ho, hparams⟩

/-- There is no membership filter, or its fragment binds its values. -/
theorem Gives.membership {negated : Bool} {filters : Checked (Option Membership)}
    (h : c.Gives filters (Membership.renderOptional c.form negated) fragment) :
    (filters = .ok none ∧ fragment.params = c.options.mode.kept []) ∨
      ∃ filter list, filters = .ok (some filter) ∧ Membership.listOutline filter.values = .ok list ∧
        fragment.params = c.options.mode.kept list.holes ∧
        ((negated && filter.values.isEmpty) = false → Text.trim filter.field ≠ "") := by
  obtain ⟨found, offset, hfound, hrun⟩ := h
  obtain ⟨w, hwriting, hparams⟩ := of_run hrun
  cases found with
  | none =>
    obtain ⟨_, rfl⟩ := Prod.ext_iff.mp (Except.ok.inj hwriting)
    exact .inl ⟨hfound, by rw [hparams]; cases c.options.mode <;> rfl⟩
  | some filter =>
    obtain ⟨list, hlist, hwritten, hfield⟩ := Membership.of_render hwriting
    rw [hwritten] at hparams
    exact .inr ⟨filter, list, hfound, hlist, hparams, hfield⟩

end Compiler

end FilterClause
