import FilterClause.Proofs.DateTexts
import FilterClause.Proofs.Fragments
import FilterClause.Proofs.IntakeForms

/-!
Placeholders bind what the entries of a request supply: no value is lost, doubled or moved on its way
through the readers of the categories and the conditions made of what they have read. Each entry
conserves its own values, and so does every list of entries.
-/
namespace FilterClause

open Checked

namespace Outline

theorem holes_attach (acc : Outline) (l : Link) :
    (acc.attach l).holes = acc.holes ++ holes l.2 := by
  unfold attach
  split
  · rename_i hempty
    rw [List.isEmpty_iff.mp hempty]
    rfl
  · simp

theorem holes_foldl_attach (ls : List Link) (acc : Outline) :
    (ls.foldl attach acc).holes = acc.holes ++ ls.flatMap fun l => holes l.2 := by
  induction ls generalizing acc with
  | nil => simp
  | cons l ls ih => rw [List.foldl_cons, ih, holes_attach, List.flatMap_cons, List.append_assoc]

theorem holes_chain (ls : List Link) : (chain ls).holes = ls.flatMap fun l => holes l.2 :=
  holes_foldl_attach ls []

end Outline

/-! ### Entries and their links -/

/-- What an entry supplies is what the link of its filter binds. -/
def Conserves {ι α : Type} (read : ι → Checked α) (link : Bool → α → Checked Link)
    (supplied : ι → Option (List Origin)) (bound : Origin → Scalar) : Prop :=
  ∀ i a first l, read i = .ok a → link first a = .ok l →
    ∃ os, supplied i = some os ∧ Outline.holes l.2 = os.map bound

namespace Conserves

variable {ι α : Type} {read : ι → Checked α} {link : Bool → α → Checked Link}
  {supplied : ι → Option (List Origin)} {bound : Origin → Scalar}

/-- The links of a list of entries bind what the entries supply, in the same order. -/
theorem links (h : Conserves read link supplied bound) {is : List ι} {as : List α} {first : Bool}
    {ls : List Link} (hread : is.mapM read = .ok as) (hls : links link first as = .ok ls) :
    ∃ oss, is.mapM supplied = some oss ∧
      (ls.flatMap fun l => Outline.holes l.2) = oss.flatten.map bound := by
  induction is generalizing as first ls with
  | nil =>
    cases hread
    cases hls
    exact ⟨[], rfl, rfl⟩
  | cons i is ih =>
    rw [List.mapM_cons] at hread
    obtain ⟨a, ha, hread⟩ := bind_eq_ok_iff.mp hread
    obtain ⟨as', has, hread⟩ := bind_eq_ok_iff.mp hread
    cases hread
    obtain ⟨l, hl, hls⟩ := bind_eq_ok_iff.mp hls
    obtain ⟨ls', hls', hls⟩ := bind_eq_ok_iff.mp hls
    cases hls
    obtain ⟨os, hos, hholes⟩ := h i a first l ha hl
    obtain ⟨oss, hoss, hmore⟩ := ih has hls'
    refine ⟨os :: oss, ?_, ?_⟩
    · rw [List.mapM_cons, hos, hoss]
      rfl
    · rw [List.flatMap_cons, hholes, hmore, List.flatten_cons, List.map_append]

theorem chain (h : Conserves read link supplied bound) {is : List ι} {as : List α} {o : Outline}
    (hread : is.mapM read = .ok as)
    (ho : Outline.chain <$> FilterClause.links link true as = .ok o) :
    ∃ oss, is.mapM supplied = some oss ∧ o.holes = oss.flatten.map bound := by
  obtain ⟨ls, hls, rfl⟩ := map_eq_ok_iff.mp ho
  rw [Outline.holes_chain]
  exact h.links hread hls

end Conserves

/-- The value that is bound where white space at the ends of a scalar is not. -/
def Origin.trimmed : Origin → Scalar
  | scalar v => v.trimmed
  | text s => .text s

/-! ### The categories -/

theorem Scalar.trim_asText_trimmed (v : Scalar) : Text.trim v.trimmed.asText = Text.trim v.asText := by
  cases v with
  | text s => exact Text.trim_trim s
  | _ => rfl

theorem Conjunction.conserves (filterType : FilterType) (columns : Columns) :
    Conserves (fun (key, entry) => do return (key, ← Intake.equality key entry))
      (link filterType columns) (fun (_, entry) => Supplied.equality filterType entry)
      Origin.trimmed := by
  rintro ⟨key, entry⟩ filter first l hread hlink
  obtain ⟨found, hfound, hread⟩ := bind_eq_ok_iff.mp hread
  cases hread
  obtain ⟨hvalue, _, hconnective⟩ := Intake.of_equality hfound
  obtain ⟨⟨connective, t⟩, hcondition, rfl⟩ := map_eq_ok_iff.mp hlink
  obtain ⟨_, _, _, rfl⟩ := of_condition hcondition
  have hpattern : Supplied.isPattern filterType entry = looksInside filterType found := by
    rw [Supplied.isPattern, looksInside, hconnective]
  cases hlooks : looksInside filterType found with
  | true =>
    refine ⟨[.text ("%" ++ Text.trim found.value.asText ++ "%")], ?_, ?_⟩
    · simp [Supplied.equality, hvalue, hpattern, hlooks]
    · simp [term, Outline.ofTemplate, Outline.holes, boundValue, hlooks, Origin.trimmed,
        Scalar.trim_asText_trimmed]
  | false =>
    refine ⟨[.scalar found.value], ?_, ?_⟩
    · simp [Supplied.equality, hvalue, hpattern, hlooks]
    · simp [term, Outline.ofTemplate, Outline.holes, boundValue, hlooks, Origin.trimmed]

theorem Special.conserves (columns : Columns) :
    Conserves Intake.special (link columns) (Supplied.special columns) Origin.value := by
  intro group found first l hread hlink
  obtain ⟨entry, hgroup, hscalar, hbound⟩ := Intake.of_special hread
  obtain ⟨key, t, hcondition, hl, _⟩ := of_link hlink
  obtain ⟨_, _, _, operator, value, _, hvalue, _, _, _, rfl⟩ := of_condition hcondition
  rw [hl, hbound]
  cases hset : Supplied.isSet entry "valor_es_campo" with
  | true =>
    exact ⟨[.text (writtenField found.field columns)], by simp [Supplied.special, hgroup, hset], by
      simp [Bound.ofFlag, form, Outline.ofTemplate, Outline.holes, Origin.value]⟩
  | false =>
    exact ⟨[.scalar value], by simp [Supplied.special, hgroup, hset, hscalar, hvalue], by
      simp [Bound.ofFlag, form, Outline.ofTemplate, Outline.holes, Origin.value]⟩

theorem Range.conserves :
    Conserves (fun (key, entry) => do return (key, ← Intake.range key entry)) link
      (fun (key, entry) => Supplied.range key entry) Origin.value := by
  rintro ⟨key, entry⟩ range first l hread hlink
  obtain ⟨found, hfound, hread⟩ := bind_eq_ok_iff.mp hread
  cases hread
  obtain ⟨hlower, hupper, hbound⟩ := Intake.of_range hfound
  obtain ⟨t, hkeyed, rfl⟩ := map_eq_ok_iff.mp hlink
  obtain ⟨_, _, _, _, _, _, rfl⟩ := of_keyed hkeyed
  rw [Outline.holes_strip, form, hbound]
  cases hset : Supplied.isSet entry "valor_campo" with
  | true =>
    exact ⟨[.text (Text.trim key)], by simp [Supplied.range, hset], by
      simp [Bound.ofFlag, Outline.ofTemplate, Outline.holes, Origin.value]⟩
  | false =>
    exact ⟨[.scalar found.lower, .scalar found.upper],
      by simp [Supplied.range, hset, hlower, hupper], by
      simp [Bound.ofFlag, Outline.ofTemplate, Outline.holes, Origin.value]⟩

theorem Extra.conserves : Conserves Intake.extra link Supplied.extra Origin.value := by
  intro group found first l hread hlink
  obtain ⟨entry, hgroup, hscalar⟩ := Intake.of_extra hread
  obtain ⟨⟨connective, t⟩, hcondition, rfl⟩ := map_eq_ok_iff.mp hlink
  obtain ⟨_, _, _, operator, value, _, hvalue, _, _, _, rfl⟩ := of_condition hcondition
  exact ⟨[.scalar value], by simp [Supplied.extra, hgroup, hscalar, hvalue], by
    simp [Outline.ofTemplate, Outline.holes, Origin.value]⟩

theorem Membership.conserves (values : List Scalar) :
    Conserves (Intake.scalar · "an IN value") (link values) Supplied.single Origin.trimmed := by
  intro item v first l hread hlink
  obtain ⟨_, rfl⟩ := of_link hlink
  exact ⟨[.scalar v], by simp [Supplied.single, Intake.of_scalar hread], by
    simp [Outline.holes, Origin.trimmed]⟩

theorem NotEqual.conserves :
    Conserves (fun (key, entry) => do return (key, ← Intake.notEqual key entry)) link
      (fun (_, entry) => Supplied.single entry) Origin.trimmed := by
  rintro ⟨key, entry⟩ filter first l hread hlink
  obtain ⟨v, hv, hread⟩ := bind_eq_ok_iff.mp hread
  cases hread
  obtain ⟨t, hcondition, rfl⟩ := map_eq_ok_iff.mp hlink
  obtain ⟨_, _, rfl⟩ := of_condition hcondition
  exact ⟨[.scalar v], by simp [Supplied.single, Intake.of_notEqual hv], by
    simp [Outline.ofTemplate, Outline.holes, Origin.trimmed]⟩

/-- What is given for a date is a text, since no other scalar is read as a date. -/
theorem Period.conserves : Conserves Intake.period link Supplied.period Origin.trimmed := by
  intro entry found first l hread hlink
  obtain ⟨given, v, hgiven, hv, htext⟩ := Intake.of_period hread
  obtain ⟨t, hcondition, rfl⟩ := map_eq_ok_iff.mp hlink
  obtain ⟨⟨date, hdate⟩, _, _, rfl⟩ := of_condition (wrap_eq_ok_iff.mp hcondition)
  -- A date has two hyphens, and trimming adds none to the text of the scalar.
  have hsub : (Text.strip (Text.trim found.date).toList).Sublist v.asText.toList := by
    rw [htext, Text.trim, String.toList_ofList, Text.strip_strip]
    exact Text.strip_sublist _
  obtain ⟨s, rfl⟩ := Scalar.eq_text_of_readDate hdate hsub
  have hs : s = found.date := htext
  rw [Scalar.eq_text_of_ofJson? hv, hs] at hgiven
  refine ⟨[.text (Text.trim found.date), .text (Text.trim found.date)], ?_, ?_⟩
  · simp [Supplied.period, hgiven]
  · simp [Outline.ofTemplate, Outline.holes, Origin.trimmed]

/-! ### Fragments -/

namespace Compiler.Gives

variable {c : Compiler} {fragment : Fragment}

/-- The fragment of a list of filters binds what the entries supply. -/
theorem conserved {ι α : Type} {read : ι → Checked α} {link : Bool → α → Checked Link}
    {supplied : ι → Option (List Origin)} {bound : Origin → Scalar} {is : List ι}
    {filters : Checked (List α)} {render : List α → Writing String}
    (h : c.Gives filters render fragment) (hconserves : Conserves read link supplied bound)
    (hread : ∀ as, filters = .ok as → is.mapM read = .ok as)
    (hw : ∀ as, Writes (render as) (Outline.chain <$> links link true as)) :
    ∃ oss, is.mapM supplied = some oss ∧
      fragment.params = c.options.mode.kept (oss.flatten.map bound) := by
  obtain ⟨as, o, has, ho, hparams⟩ := h.outlined hw
  obtain ⟨oss, hoss, hholes⟩ := hconserves.chain (hread as has) ho
  exact ⟨oss, hoss, hholes ▸ hparams⟩

theorem conserved_membership {negated : Bool} {value : Option Json}
    (h : c.Gives (Intake.membership value) (Membership.renderOptional c.form negated) fragment) :
    ∃ oss, (Supplied.members value).mapM Supplied.single = some oss ∧
      fragment.params = c.options.mode.kept (oss.flatten.map Origin.trimmed) := by
  rcases h.membership with ⟨hread, hparams⟩ | ⟨filter, list, hread, hlist, hparams, _⟩
  -- What was compiled is what was read, so two of the four cases cannot be.
  · rcases Intake.of_membership hread with ⟨_, _, hmembers⟩ | ⟨_, hfound, _⟩
    · exact ⟨[], by rw [hmembers]; rfl, hparams⟩
    · exact nomatch hfound
  · rcases Intake.of_membership hread with ⟨hfound, _⟩ | ⟨_, hfound, _, hvalues⟩
    · exact nomatch hfound
    · cases hfound
      obtain ⟨oss, hoss, hholes⟩ := (Membership.conserves filter.values).chain hvalues hlist
      exact ⟨oss, hoss, hholes ▸ hparams⟩

/-- The parentheses around the periods bind nothing. -/
theorem conserved_periods {value : Option Json}
    (h : c.Gives (Intake.periods value) Period.render fragment) :
    ∃ oss, (Supplied.elements value).mapM Supplied.period = some oss ∧
      fragment.params = c.options.mode.kept (oss.flatten.map Origin.trimmed) := by
  obtain ⟨periods, o, hread, ho, hparams⟩ := h.outlined Period.render_writes
  obtain ⟨ls, hls, rfl⟩ := map_eq_ok_iff.mp ho
  obtain ⟨oss, hoss, hholes⟩ := Period.conserves.links (Intake.of_listed hread) hls
  have henclosed : (Period.enclose (Outline.chain ls)).holes = oss.flatten.map Origin.trimmed := by
    rw [← hholes, ← Outline.holes_chain]
    unfold Period.enclose
    split
    · rename_i hempty
      rw [List.isEmpty_iff.mp hempty]
    · simp
  exact ⟨oss, hoss, henclosed ▸ hparams⟩

end Compiler.Gives

/-! ### Requests -/

/-- The values that placeholders bind. White space at the ends of a scalar is left out in all
categories but those of special filters, ranges and extra filters. -/
def Bundle.bound (b : Bundle (List Origin)) : List Scalar :=
  b.equality.map Origin.trimmed ++ b.special.map Origin.value ++ b.range.map Origin.value ++
    b.extra.map Origin.value ++ b.within.map Origin.trimmed ++ b.without.map Origin.trimmed ++
    b.notEqual.map Origin.trimmed ++ b.period.map Origin.trimmed ++ b.rawSql.map Origin.trimmed

/-- The values that are bound for a request are those that its entries supply. -/
theorem Compiler.params_eq_bound {c : Compiler} {r : Request} {out : Compiled}
    (hmode : c.options.mode = .placeholder) (h : c.compile r = .ok out) :
    ∃ filterType b, r.chosenFilterType c.options.filterType = .ok filterType ∧
      r.origins? filterType = some b ∧ out.params = b.bound := by
  obtain ⟨filterType, fragments, htype, hcomposed, hparams, _⟩ := composed_of_compile h
  obtain ⟨equality, hequality, hequalityParams⟩ := hcomposed.equality.conserved
    (Conjunction.conserves filterType r.columns) (fun _ => Intake.of_keyed)
    (Conjunction.render_writes filterType r.columns)
  obtain ⟨special, hspecial, hspecialParams⟩ := hcomposed.special.conserved
    (Special.conserves r.columns) (fun _ => Intake.of_listed) (Special.render_writes r.columns)
  obtain ⟨range, hrange, hrangeParams⟩ := hcomposed.range.conserved Range.conserves
    (fun _ => Intake.of_keyed) Range.render_writes
  obtain ⟨extra, hextra, hextraParams⟩ := hcomposed.extra.conserved Extra.conserves
    (fun _ => Intake.of_listed) Extra.render_writes
  obtain ⟨within, hwithin, hwithinParams⟩ := hcomposed.within.conserved_membership
  obtain ⟨without, hwithout, hwithoutParams⟩ := hcomposed.without.conserved_membership
  obtain ⟨notEqual, hnotEqual, hnotEqualParams⟩ := hcomposed.notEqual.conserved NotEqual.conserves
    (fun _ => Intake.of_keyed) NotEqual.render_writes
  obtain ⟨period, hperiod, hperiodParams⟩ := hcomposed.period.conserved_periods
  refine ⟨filterType,
    { equality := equality.flatten, special := special.flatten, range := range.flatten
      extra := extra.flatten, within := within.flatten, without := without.flatten
      notEqual := notEqual.flatten, period := period.flatten, rawSql := [] }, htype, ?_, ?_⟩
  · rw [Request.origins?, hequality, hspecial, hrange, hextra, hwithin, hwithout, hnotEqual, hperiod]
    rfl
  · have hkept : ∀ values, c.options.mode.kept values = values := by
      intro values
      rw [hmode]
      rfl
    rw [hparams]
    simp [Bundle.toList, Bundle.bound, hequalityParams, hspecialParams, hrangeParams, hextraParams,
      hwithinParams, hwithoutParams, hnotEqualParams, hperiodParams, hcomposed.rawSql, hkept]

theorem Scalar.trimmed_trimmed (v : Scalar) : v.trimmed.trimmed = v.trimmed := by
  cases v with
  | text s => exact congrArg Scalar.text (Text.trim_trim s)
  | _ => rfl

theorem Origin.trimmed_trimmed (o : Origin) : o.trimmed.trimmed = o.value.trimmed := by
  cases o with
  | scalar v => exact v.trimmed_trimmed
  | text s => rfl

/-- Up to white space at their ends, all origins are bound as they are. -/
theorem Bundle.trimmed_bound (b : Bundle (List Origin)) :
    b.bound.map Scalar.trimmed = b.toList.flatten.map fun o => o.value.trimmed := by
  simp [bound, toList, Function.comp_def, Origin.trimmed_trimmed]

/-! ### The number of values -/

/-- Steps that give some number of values each, and some of them one more. -/
theorem length_flatten_of_mapM {ι β : Type} {f : ι → Option (List β)} {n : Nat} {more : ι → Bool}
    (h : ∀ i bs, f i = some bs → bs.length = n + if more i then 1 else 0) {is : List ι}
    {bss : List (List β)} (hbss : is.mapM f = some bss) :
    bss.flatten.length = is.length * n + is.countP more := by
  induction is generalizing bss with
  | nil =>
    cases hbss
    simp
  | cons i is ih =>
    rw [List.mapM_cons] at hbss
    obtain ⟨bs, hbs, hbss⟩ := Option.bind_eq_some_iff.mp hbss
    obtain ⟨rest, hrest, hbss⟩ := Option.bind_eq_some_iff.mp hbss
    cases hbss
    rw [List.flatten_cons, List.length_append, h i bs hbs, ih hrest, List.length_cons,
      List.countP_cons, Nat.succ_mul]
    omega

theorem length_flatten_of_mapM_const {ι β : Type} {f : ι → Option (List β)} {n : Nat}
    (h : ∀ i bs, f i = some bs → bs.length = n) {is : List ι} {bss : List (List β)}
    (hbss : is.mapM f = some bss) : bss.flatten.length = is.length * n := by
  have hnone : ∀ i bs, f i = some bs → bs.length = n + if false then 1 else 0 := h
  simpa using length_flatten_of_mapM hnone hbss

namespace Supplied

theorem length_equality {filterType : FilterType} {entry : Json} {os : List Origin}
    (h : equality filterType entry = some os) : os.length = 1 := by
  obtain ⟨v, _, h⟩ := Option.bind_eq_some_iff.mp h
  cases h
  split <;> rfl

theorem length_special {columns : Columns} {group : Json} {os : List Origin}
    (h : special columns group = some os) : os.length = 1 := by
  obtain ⟨⟨key, entry⟩, _, h⟩ := Option.bind_eq_some_iff.mp h
  dsimp only at h
  split at h
  · cases h
    rfl
  · obtain ⟨v, _, h⟩ := Option.bind_eq_some_iff.mp h
    cases h
    rfl

theorem length_range {key : String} {entry : Json} {os : List Origin}
    (h : range key entry = some os) :
    os.length = 1 + if !isSet entry "valor_campo" then 1 else 0 := by
  unfold range at h
  split at h
  · rename_i hset
    cases h
    simp [hset]
  · rename_i hset
    obtain ⟨lower, _, h⟩ := Option.bind_eq_some_iff.mp h
    obtain ⟨upper, _, h⟩ := Option.bind_eq_some_iff.mp h
    cases h
    simp [hset]

theorem length_extra {group : Json} {os : List Origin} (h : extra group = some os) :
    os.length = 1 := by
  obtain ⟨⟨key, entry⟩, _, h⟩ := Option.bind_eq_some_iff.mp h
  obtain ⟨v, _, h⟩ := Option.bind_eq_some_iff.mp h
  cases h
  rfl

theorem length_single {entry : Json} {os : List Origin} (h : single entry = some os) :
    os.length = 1 := by
  obtain ⟨v, _, h⟩ := Option.bind_eq_some_iff.mp h
  cases h
  rfl

theorem length_period {entry : Json} {os : List Origin} (h : period entry = some os) :
    os.length = 2 := by
  unfold period at h
  split at h
  · cases h
    rfl
  · exact nomatch h

end Supplied

/-- The number of origins does not depend on any value. -/
theorem Request.length_origins {r : Request} {filterType : FilterType} {b : Bundle (List Origin)}
    (h : r.origins? filterType = some b) : b.toList.flatten.length = r.valueCount := by
  obtain ⟨equality, hequality, h⟩ := Option.bind_eq_some_iff.mp h
  obtain ⟨special, hspecial, h⟩ := Option.bind_eq_some_iff.mp h
  obtain ⟨range, hrange, h⟩ := Option.bind_eq_some_iff.mp h
  obtain ⟨extra, hextra, h⟩ := Option.bind_eq_some_iff.mp h
  obtain ⟨within, hwithin, h⟩ := Option.bind_eq_some_iff.mp h
  obtain ⟨without, hwithout, h⟩ := Option.bind_eq_some_iff.mp h
  obtain ⟨notEqual, hnotEqual, h⟩ := Option.bind_eq_some_iff.mp h
  obtain ⟨period, hperiod, h⟩ := Option.bind_eq_some_iff.mp h
  cases h
  replace hequality := length_flatten_of_mapM_const (fun _ _ => Supplied.length_equality) hequality
  replace hspecial := length_flatten_of_mapM_const (fun _ _ => Supplied.length_special) hspecial
  replace hrange := length_flatten_of_mapM (fun _ _ => Supplied.length_range) hrange
  replace hextra := length_flatten_of_mapM_const (fun _ _ => Supplied.length_extra) hextra
  replace hwithin := length_flatten_of_mapM_const (fun _ _ => Supplied.length_single) hwithin
  replace hwithout := length_flatten_of_mapM_const (fun _ _ => Supplied.length_single) hwithout
  replace hnotEqual := length_flatten_of_mapM_const (fun _ _ => Supplied.length_single) hnotEqual
  replace hperiod := length_flatten_of_mapM_const (fun _ _ => Supplied.length_period) hperiod
  simp only [Bundle.toList, List.flatten_cons, List.flatten_nil, List.length_append, List.length_nil,
    hequality, hspecial, hrange, hextra, hwithin, hwithout, hnotEqual, hperiod, Request.valueCount]
  omega

/-- Each value that the caller supplies is bound once, in the order of the categories and of their
entries, and keeps its type. Only white space at the ends of texts may be lost. -/
theorem Compiler.params_conserved {c : Compiler} {r : Request} {out : Compiled}
    (hmode : c.options.mode = .placeholder) (h : c.compile r = .ok out) :
    ∃ filterType b, r.chosenFilterType c.options.filterType = .ok filterType ∧
      r.origins? filterType = some b ∧
      out.params.map Scalar.trimmed = b.toList.flatten.map (fun o => o.value.trimmed) ∧
      out.params.length = r.valueCount := by
  obtain ⟨filterType, b, htype, horigins, hparams⟩ := params_eq_bound hmode h
  have htrimmed := b.trimmed_bound
  rw [← hparams] at htrimmed
  refine ⟨filterType, b, htype, horigins, htrimmed, ?_⟩
  have hlength := congrArg List.length htrimmed
  rw [List.length_map, List.length_map] at hlength
  rw [hlength, Request.length_origins horigins]

/-- The compiler that binds values and is as usual otherwise. -/
def Compiler.binding : Compiler :=
  { options := { mode := .placeholder } }

/-- Entries of all categories, some of which bind another number of values than their neighbours. -/
def Request.everyCategory : Request :=
  { equality := some (.object [("t.a", .text " ana "),
      ("t.b", .object [("value", .integer 7), ("operador", .text "AND")])])
    filterType := some "textos"
    special := some (.array [.object [("t.c", .object [("operador", .text "="),
      ("valor", .text "t.d"), ("valor_es_campo", .boolean true)])]])
    range := some (.object [
      ("t.e", .object [("valor1", .integer 1), ("valor2", .text "2 ")]),
      (" t.f ", .object [("valor1", .text "t.g"), ("valor2", .text "t.h"),
        ("valor_campo", .integer 1)])])
    extra := some (.array [.object [("t.i", .object [("operador", .text "<"), ("valor", .text " x "),
      ("comparacion", .text "OR")])]])
    within := some (.object [("llave", .text "t.j"), ("values", .array [.text " z", .boolean true])])
    without := some (.object [("llave", .text "t.k"), ("values", .array [])])
    notEqual := some (.object [("t.l", .null)])
    period := some (.array [.object [("campo_1", .text "t.m"), ("campo_2", .text "now()"),
      ("fecha", .text " 2024-02-29")]])
    columns := [("t.c", "(SELECT c FROM u)")] }

theorem Compiler.params_conserved_of_every_category :
    ∃ out filterType b,
      binding.compile Request.everyCategory = .ok out ∧
      Request.everyCategory.chosenFilterType .numbers = .ok filterType ∧
      Request.everyCategory.origins? filterType = some b ∧
      out.params.map Scalar.trimmed = b.toList.flatten.map (fun o => o.value.trimmed) ∧
      out.params.length = 12 := by
  have hok : (binding.compile Request.everyCategory).toBool = true := by decide +kernel
  obtain ⟨out, hout⟩ := exists_eq_ok hok
  obtain ⟨filterType, b, htype, horigins, hparams, hlength⟩ := params_conserved rfl hout
  exact ⟨out, filterType, b, hout, htype, horigins, hparams, hlength.trans rfl⟩

end FilterClause
