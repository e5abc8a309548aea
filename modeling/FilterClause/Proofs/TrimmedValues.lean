import FilterClause.Proofs.Conservation

/-!
Which scalars of a caller are bound without the white space at their ends. Three categories do not trim
theirs, so the values that are bound for a request are all trimmed just when the caller has trimmed
the scalars of these three.
-/
namespace FilterClause

/-- Holds when each scalar of the caller is bound trimmed. -/
def Trims (origins : List Origin) (params : List Scalar) : Prop :=
  ∀ v param, (Origin.scalar v, param) ∈ origins.zip params → param = v.trimmed

theorem trims_append {a b : List Origin} {params params' : List Scalar}
    (h : a.length = params.length) :
    Trims (a ++ b) (params ++ params') ↔ Trims a params ∧ Trims b params' := by
  unfold Trims
  rw [List.zip_append h]
  simp only [List.mem_append, or_imp, forall_and]

/-- Scalars that are bound trimmed need not be so themselves. -/
theorem trims_trimmed (origins : List Origin) : Trims origins (origins.map Origin.trimmed) := by
  intro v param h
  rw [← List.map_prod_left_eq_zip] at h
  obtain ⟨o, _, ho⟩ := List.mem_map.mp h
  cases ho
  rfl

/-- Scalars that are bound as they are have to be trimmed themselves. -/
theorem trims_value {origins : List Origin} :
    Trims origins (origins.map Origin.value) ↔ ∀ v, .scalar v ∈ origins → v.trimmed = v := by
  unfold Trims
  rw [← List.map_prod_left_eq_zip]
  constructor
  · intro h v hv
    exact (h v v (List.mem_map.mpr ⟨.scalar v, hv, rfl⟩)).symm
  · intro h v param hparam
    obtain ⟨o, ho, hpair⟩ := List.mem_map.mp hparam
    cases hpair
    exact (h v ho).symm

theorem Bundle.trims_bound (b : Bundle (List Origin)) :
    Trims b.toList.flatten b.bound ↔
      ∀ v, .scalar v ∈ b.special ++ b.range ++ b.extra → v.trimmed = v := by
  have hflatten : b.toList.flatten = b.equality ++ b.special ++ b.range ++ b.extra ++ b.within ++
      b.without ++ b.notEqual ++ b.period ++ b.rawSql := by
    simp [toList]
  rw [hflatten, bound]
  simp (disch := simp) only [trims_append, trims_trimmed, trims_value, List.mem_append, or_imp,
    forall_and, true_and, and_true]

/-- A request binds its scalars trimmed just when those of special filters, ranges and extra filters
are trimmed already. -/
theorem Compiler.scalars_trimmed_iff {c : Compiler} {r : Request} {out : Compiled}
    (hmode : c.options.mode = .placeholder) (h : c.compile r = .ok out) :
    ∃ filterType b, r.chosenFilterType c.options.filterType = .ok filterType ∧
      r.origins? filterType = some b ∧ out.params.length = b.toList.flatten.length ∧
      (Trims b.toList.flatten out.params ↔
        ∀ v, .scalar v ∈ b.special ++ b.range ++ b.extra → v.trimmed = v) := by
  obtain ⟨filterType, b, htype, horigins, hparams⟩ := params_eq_bound hmode h
  refine ⟨filterType, b, htype, horigins, ?_, ?_⟩
  · rw [hparams]
    simp [Bundle.bound, Bundle.toList]
  · rw [hparams]
    exact b.trims_bound

/-- Scalars with white space at their ends, where they are trimmed and where they need not be. -/
def Request.trimmedScalars : Request :=
  { equality := some (.object [("t.a", .text " x ")])
    special := some (.array [.object [("t.b", .object [("operador", .text "="),
      ("valor", .text "y")])]])
    notEqual := some (.object [("t.c", .text "z ")]) }

theorem Compiler.scalars_trimmed_of_trimmed :
    ∃ out b, binding.compile Request.trimmedScalars = .ok out ∧
      Request.trimmedScalars.origins? .numbers = some b ∧
      out.params.length = b.toList.flatten.length ∧ Trims b.toList.flatten out.params := by
  have hok : (binding.compile Request.trimmedScalars).toBool = true := by decide +kernel
  obtain ⟨out, hout⟩ := Checked.exists_eq_ok hok
  obtain ⟨filterType, b, htype, horigins, hlength, htrims⟩ := scalars_trimmed_iff rfl hout
  cases htype
  refine ⟨out, b, hout, horigins, hlength, htrims.mpr ?_⟩
  have hspecial : b.special ++ b.range ++ b.extra = [.scalar (.text "y")] := by
    cases horigins
    rfl
  intro v hv
  rw [hspecial, List.mem_singleton] at hv
  cases hv
  decide +kernel

/-- Scalars with white space at their ends in the categories that do not trim them. -/
def Request.spacedScalars : Request :=
  { special := some (.array [.object [("t.a", .object [("operador", .text "="),
      ("valor", .text " x ")])]])
    range := some (.object [("t.b", .object [("valor1", .text " 1"), ("valor2", .text "2 ")])])
    extra := some (.array [.object [("t.c", .object [("operador", .text "="), ("valor", .text " y "),
      ("comparacion", .text "AND")])]]) }

theorem Compiler.params_not_trimmed :
    ∃ out b, binding.compile Request.spacedScalars = .ok out ∧
      Request.spacedScalars.origins? .numbers = some b ∧
      out.params = [.text " x ", .text " 1", .text "2 ", .text " y "] ∧
      ¬ Trims b.toList.flatten out.params := by
  have hok : (binding.compile Request.spacedScalars).toBool = true := by decide +kernel
  obtain ⟨out, hout⟩ := Checked.exists_eq_ok hok
  obtain ⟨filterType, b, htype, horigins, hparams⟩ := params_eq_bound rfl hout
  cases htype
  cases horigins
  refine ⟨out, _, hout, rfl, hparams, ?_⟩
  rw [hparams, Bundle.trims_bound]
  intro htrimmed
  have hfirst : (Scalar.text " x ").trimmed = .text " x " := htrimmed _ (.head _)
  exact absurd hfirst (by decide +kernel)

end FilterClause
