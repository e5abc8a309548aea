import FilterClause.Proofs.Filters
import FilterClause.Proofs.WhereClause

/-!
Outlines with the values of their holes hidden. Requests that differ only in those values have outlines
that differ only there: which holes there are, and all that is written around them, is decided without
looking at a value that a literal is made of.
-/
namespace FilterClause

open Checked

def Mark.hidden : Mark → Mark
  | .char c => .char c
  | .hole _ => .hole .null

namespace Outline

/-- The outline without the values of its holes. -/
def hidden (o : Outline) : Outline :=
  o.map Mark.hidden

@[simp]
theorem hidden_nil : hidden [] = [] := rfl

@[simp]
theorem hidden_append (a b : Outline) : hidden (a ++ b) = hidden a ++ hidden b :=
  List.map_append

@[simp]
theorem hidden_ofText (s : String) : hidden (ofText s) = ofText s := by
  simp [hidden, ofText, Mark.hidden]

theorem isBlankMark_hidden : isBlankMark ∘ Mark.hidden = isBlankMark := by
  funext mark
  cases mark <;> rfl

/-- What is trimmed away has no holes. -/
theorem hidden_strip (o : Outline) : hidden o.strip = (hidden o).strip := by
  simp only [hidden, strip, List.rdropWhile, List.dropWhile_map, ← List.map_reverse,
    isBlankMark_hidden]

@[simp]
theorem hidden_ofTemplate_nil : hidden (ofTemplate []) = [] := rfl

@[simp]
theorem hidden_ofTemplate_raw (s : String) (t : Template) :
    hidden (ofTemplate (.raw s :: t)) = ofText s ++ hidden (ofTemplate t) := by
  rw [ofTemplate, hidden_append, hidden_ofText]

@[simp]
theorem hidden_ofTemplate_hole (v : Scalar) (t : Template) :
    hidden (ofTemplate (.hole v :: t)) = .hole .null :: hidden (ofTemplate t) := rfl

theorem isEmpty_hidden (o : Outline) : (hidden o).isEmpty = o.isEmpty := by
  cases o <;> rfl

end Outline

/-- The link without the values of its holes. -/
def Link.hidden (l : Link) : Link :=
  (l.1, Outline.hidden l.2)

namespace Outline

theorem hidden_attach (acc : Outline) (l : Link) :
    hidden (acc.attach l) = (hidden acc).attach l.hidden := by
  unfold attach
  rw [isEmpty_hidden]
  split
  · rfl
  · simp [Link.hidden]

theorem hidden_foldl_attach (ls : List Link) (acc : Outline) :
    hidden (ls.foldl attach acc) = (ls.map Link.hidden).foldl attach (hidden acc) := by
  induction ls generalizing acc with
  | nil => rfl
  | cons l ls ih => rw [List.foldl_cons, ih, hidden_attach, List.map_cons, List.foldl_cons]

theorem hidden_chain (ls : List Link) : hidden (chain ls) = chain (ls.map Link.hidden) :=
  hidden_foldl_attach ls []

end Outline

/-- Filters that are equal when masked have links that are equal when hidden, if each link is so. -/
theorem links_hidden {α β : Type} {mask : α → β} {link link' : Bool → α → Checked Link}
    (hlink : ∀ first a b l m, mask a = mask b → link first a = .ok l → link' first b = .ok m →
      l.hidden = m.hidden)
    {as bs : List α} {first : Bool} {ls ms : List Link} (hmask : as.map mask = bs.map mask)
    (hls : links link first as = .ok ls) (hms : links link' first bs = .ok ms) :
    ls.map Link.hidden = ms.map Link.hidden := by
  induction as generalizing bs first ls ms with
  | nil =>
    cases bs with
    | nil =>
      cases hls
      cases hms
      rfl
    | cons b bs => exact nomatch hmask
  | cons a as ih =>
    cases bs with
    | nil => exact nomatch hmask
    | cons b bs =>
      obtain ⟨hhead, htail⟩ := List.cons.inj hmask
      obtain ⟨l, hl, hls⟩ := bind_eq_ok_iff.mp hls
      obtain ⟨ls', hls', hls⟩ := bind_eq_ok_iff.mp hls
      obtain ⟨m, hm, hms⟩ := bind_eq_ok_iff.mp hms
      obtain ⟨ms', hms', hms⟩ := bind_eq_ok_iff.mp hms
      cases hls
      cases hms
      rw [List.map_cons, List.map_cons, hlink first a b l m hhead hl hm, ih htail hls' hms']

/-- The same for the chains that the links make. -/
theorem chain_hidden {α β : Type} {mask : α → β} {link link' : Bool → α → Checked Link}
    (hlink : ∀ first a b l m, mask a = mask b → link first a = .ok l → link' first b = .ok m →
      l.hidden = m.hidden)
    {as bs : List α} {o p : Outline} (hmask : as.map mask = bs.map mask)
    (ho : Outline.chain <$> links link true as = .ok o)
    (hp : Outline.chain <$> links link' true bs = .ok p) : o.hidden = p.hidden := by
  obtain ⟨ls, hls, rfl⟩ := map_eq_ok_iff.mp ho
  obtain ⟨ms, hms, rfl⟩ := map_eq_ok_iff.mp hp
  rw [Outline.hidden_chain, Outline.hidden_chain, links_hidden hlink hmask hls hms]

/-! ### The categories -/

namespace Conjunction

theorem link_hidden {filterType : FilterType} {columns : Columns} (first : Bool)
    (a b : String × Equality) (l m : Link) (hmask : (a.1, a.2.masked) = (b.1, b.2.masked))
    (hl : link filterType columns first a = .ok l) (hm : link filterType columns first b = .ok m) :
    l.hidden = m.hidden := by
  obtain ⟨key, value, field, comparison, given⟩ := a
  obtain ⟨key', value', field', comparison', given'⟩ := b
  simp only [Equality.masked, Prod.mk.injEq, Equality.mk.injEq, true_and] at hmask
  obtain ⟨rfl, rfl, rfl, rfl⟩ := hmask
  obtain ⟨⟨connective, t⟩, ht, rfl⟩ := map_eq_ok_iff.mp hl
  obtain ⟨⟨connective', t'⟩, ht', rfl⟩ := map_eq_ok_iff.mp hm
  obtain ⟨_, _, hread, htemplate⟩ := of_condition ht
  obtain ⟨_, _, hread', htemplate'⟩ := of_condition ht'
  have hconnective : connective = connective' := Except.ok.inj (hread.symm.trans hread')
  rw [htemplate, htemplate', hconnective]
  simp [Link.hidden, term, Comparison.writtenField, operator]

theorem outline_hidden {filterType : FilterType} {columns : Columns} {as bs : Entries Equality}
    {o p : Outline}
    (hmask : as.map (fun (key, filter) => (key, filter.masked)) =
      bs.map fun (key, filter) => (key, filter.masked))
    (ho : outline filterType columns as = .ok o) (hp : outline filterType columns bs = .ok p) :
    o.hidden = p.hidden :=
  chain_hidden link_hidden hmask ho hp

end Conjunction

namespace Special

theorem connective_of_masked {a b : Group Special} (hmask : a.masked masked = b.masked masked) :
    a.filter.connective = b.filter.connective := by
  have hkept : ∀ filter : Special, filter.masked.connective = filter.connective := by
    intro filter
    unfold masked
    cases filter.bound <;> rfl
  have hfilter : a.filter.masked = b.filter.masked := (Group.mk.inj hmask).2
  rw [← hkept, hfilter, hkept]

theorem hidden_form (columns : Columns) {a b : Group Special} {operator operator' : String}
    {value value' : Scalar} (hmask : a.masked masked = b.masked masked)
    (hoperator : a.filter.operator = some operator) (hvalue : a.filter.value = some value)
    (hoperator' : b.filter.operator = some operator') (hvalue' : b.filter.value = some value') :
    (Outline.ofTemplate (form (writtenField a.field columns) operator value
        a.filter.bound)).hidden =
      (Outline.ofTemplate (form (writtenField b.field columns) operator' value'
        b.filter.bound)).hidden := by
  obtain ⟨field, _, _, bound, connective⟩ := a
  obtain ⟨field', _, _, bound', connective'⟩ := b
  cases hoperator
  cases hvalue
  cases hoperator'
  cases hvalue'
  cases bound <;> cases bound' <;> simp only [Group.masked, masked, Group.mk.injEq, mk.injEq,
    reduceCtorEq, and_false, false_and, Option.some.injEq, Option.map_some, true_and] at hmask
  · obtain ⟨rfl, rfl, rfl⟩ := hmask
    simp [form]
  · obtain ⟨rfl, rfl, rfl, rfl⟩ := hmask
    simp [form]

theorem link_hidden {columns : Columns} (first : Bool) (a b : Group Special) (l m : Link)
    (hmask : a.masked masked = b.masked masked) (hl : link columns first a = .ok l)
    (hm : link columns first b = .ok m) : l.hidden = m.hidden := by
  obtain ⟨key, t, ht, hl, hsep⟩ := of_link hl
  obtain ⟨key', t', ht', hm, hsep'⟩ := of_link hm
  obtain ⟨hkey, _, _, operator, value, hoperator, hvalue, _, _, _, htemplate⟩ := of_condition ht
  obtain ⟨hkey', _, _, operator', value', hoperator', hvalue', _, _, _, htemplate'⟩ := of_condition ht'
  have hform := hidden_form columns hmask hoperator hvalue hoperator' hvalue'
  have hfield : a.field = b.field := (Group.mk.inj hmask).1
  have hgiven : a.filter.connective = b.filter.connective := connective_of_masked hmask
  have hseparator : l.1 = m.1 := by
    rcases hsep with ⟨hfirst, hsep⟩ | ⟨hfirst, connective, hread, hsep⟩
    · rcases hsep' with ⟨_, hsep'⟩ | ⟨hfirst', _⟩
      · rw [hsep, hsep']
      · exact nomatch hfirst.symm.trans hfirst'
    · rcases hsep' with ⟨hfirst', _⟩ | ⟨_, connective', hread', hsep'⟩
      · exact nomatch hfirst'.symm.trans hfirst
      · rw [hkey, hfield, ← hkey', hgiven] at hread
        rw [hsep, hsep', Except.ok.inj (hread.symm.trans hread')]
  rw [Link.hidden, Link.hidden, hl, hm, htemplate, htemplate', hform, hseparator]

theorem outline_hidden {columns : Columns} {as bs : List (Group Special)} {o p : Outline}
    (hmask : as.map (Group.masked masked) = bs.map (Group.masked masked))
    (ho : outline columns as = .ok o) (hp : outline columns bs = .ok p) : o.hidden = p.hidden :=
  chain_hidden link_hidden hmask ho hp

end Special

namespace Extra

theorem link_hidden (first : Bool) (a b : Group Extra) (l m : Link)
    (hmask : a.masked masked = b.masked masked) (hl : link first a = .ok l)
    (hm : link first b = .ok m) : l.hidden = m.hidden := by
  obtain ⟨field, operator, value, given⟩ := a
  obtain ⟨field', operator', value', given'⟩ := b
  simp only [Group.masked, masked, Group.mk.injEq, mk.injEq] at hmask
  obtain ⟨rfl, rfl, _, rfl⟩ := hmask
  obtain ⟨⟨connective, t⟩, ht, rfl⟩ := map_eq_ok_iff.mp hl
  obtain ⟨⟨connective', t'⟩, ht', rfl⟩ := map_eq_ok_iff.mp hm
  obtain ⟨_, _, hread, operator, _, hoperator, _, _, _, _, htemplate⟩ := of_condition ht
  obtain ⟨_, _, hread', operator', _, hoperator', _, _, _, _, htemplate'⟩ := of_condition ht'
  have hconnective : connective = connective' := Except.ok.inj (hread.symm.trans hread')
  have hsame : operator = operator' := Option.some.inj (hoperator.symm.trans hoperator')
  rw [htemplate, htemplate', hconnective, hsame]
  simp [Link.hidden]

theorem outline_hidden {as bs : List (Group Extra)} {o p : Outline}
    (hmask : as.map (Group.masked masked) = bs.map (Group.masked masked))
    (ho : outline as = .ok o) (hp : outline bs = .ok p) : o.hidden = p.hidden :=
  chain_hidden link_hidden hmask ho hp

end Extra

namespace Range

theorem hidden_form {key : String} {a b : Range} (hmask : a.masked = b.masked) :
    (Outline.ofTemplate (form key a)).hidden = (Outline.ofTemplate (form key b)).hidden := by
  obtain ⟨lower, upper, bound⟩ := a
  obtain ⟨lower', upper', bound'⟩ := b
  cases bound <;> cases bound' <;> simp only [masked, mk.injEq, reduceCtorEq, and_false] at hmask
  · simp [form]
  · obtain ⟨rfl, rfl, _⟩ := hmask
    rfl

theorem link_hidden (first : Bool) (a b : String × Range) (l m : Link)
    (hmask : (a.1, a.2.masked) = (b.1, b.2.masked)) (hl : link first a = .ok l)
    (hm : link first b = .ok m) : l.hidden = m.hidden := by
  obtain ⟨hkey, hrange⟩ := Prod.mk.inj hmask
  obtain ⟨t, ht, rfl⟩ := map_eq_ok_iff.mp hl
  obtain ⟨t', ht', rfl⟩ := map_eq_ok_iff.mp hm
  obtain ⟨_, _, _, _, _, _, htemplate⟩ := of_keyed ht
  obtain ⟨_, _, _, _, _, _, htemplate'⟩ := of_keyed ht'
  rw [Link.hidden, Link.hidden, Outline.hidden_strip, Outline.hidden_strip, htemplate, htemplate',
    hkey, hidden_form hrange]

theorem outline_hidden {as bs : Entries Range} {o p : Outline}
    (hmask : as.map (fun (key, range) => (key, range.masked)) =
      bs.map fun (key, range) => (key, range.masked))
    (ho : outline as = .ok o) (hp : outline bs = .ok p) : o.hidden = p.hidden :=
  chain_hidden link_hidden hmask ho hp

end Range

namespace NotEqual

theorem link_hidden (first : Bool) (a b : String × Scalar) (l m : Link)
    (hmask : (a.1, Scalar.null) = (b.1, Scalar.null)) (hl : link first a = .ok l)
    (hm : link first b = .ok m) : l.hidden = m.hidden := by
  obtain ⟨hkey, _⟩ := Prod.mk.inj hmask
  obtain ⟨t, ht, rfl⟩ := map_eq_ok_iff.mp hl
  obtain ⟨t', ht', rfl⟩ := map_eq_ok_iff.mp hm
  obtain ⟨_, _, htemplate⟩ := of_condition ht
  obtain ⟨_, _, htemplate'⟩ := of_condition ht'
  rw [htemplate, htemplate', hkey]
  simp [Link.hidden]

theorem outline_hidden {as bs : Entries Scalar} {o p : Outline}
    (hmask : as.map (fun (key, _) => (key, Scalar.null)) = bs.map fun (key, _) => (key, Scalar.null))
    (ho : outline as = .ok o) (hp : outline bs = .ok p) : o.hidden = p.hidden :=
  chain_hidden link_hidden hmask ho hp

end NotEqual

namespace Period

theorem link_hidden (first : Bool) (a b : Period) (l m : Link) (hmask : a.masked = b.masked)
    (hl : link first a = .ok l) (hm : link first b = .ok m) : l.hidden = m.hidden := by
  obtain ⟨start, finish, date⟩ := a
  obtain ⟨start', finish', date'⟩ := b
  simp only [masked, mk.injEq, and_true] at hmask
  obtain ⟨rfl, rfl⟩ := hmask
  obtain ⟨t, ht, rfl⟩ := map_eq_ok_iff.mp hl
  obtain ⟨t', ht', rfl⟩ := map_eq_ok_iff.mp hm
  obtain ⟨_, _, _, htemplate⟩ := of_condition (wrap_eq_ok_iff.mp ht)
  obtain ⟨_, _, _, htemplate'⟩ := of_condition (wrap_eq_ok_iff.mp ht')
  rw [htemplate, htemplate']
  simp [Link.hidden]

theorem hidden_enclose (o : Outline) : (enclose o).hidden = enclose o.hidden := by
  unfold enclose
  rw [Outline.isEmpty_hidden]
  split <;> simp

theorem outline_hidden {as bs : List Period} {o p : Outline}
    (hmask : as.map masked = bs.map masked) (ho : outline as = .ok o) (hp : outline bs = .ok p) :
    o.hidden = p.hidden := by
  obtain ⟨ls, hls, rfl⟩ := map_eq_ok_iff.mp ho
  obtain ⟨ms, hms, rfl⟩ := map_eq_ok_iff.mp hp
  rw [hidden_enclose, hidden_enclose, Outline.hidden_chain, Outline.hidden_chain,
    links_hidden link_hidden hmask hls hms]

end Period

namespace Membership

theorem link_hidden {values values' : List Scalar} (first : Bool) (v u : Scalar) (l m : Link)
    (_ : Scalar.null = Scalar.null) (hl : link values first v = .ok l)
    (hm : link values' first u = .ok m) : l.hidden = m.hidden := by
  obtain ⟨_, rfl⟩ := of_link hl
  obtain ⟨_, rfl⟩ := of_link hm
  rfl

theorem hidden_enclose (negated : Bool) (field : String) (list : Outline) :
    (enclose negated field list).hidden = enclose negated field list.hidden := by
  simp only [enclose, Outline.hidden_append, Outline.hidden_ofText]

/-- Lists of the same length are written alike. -/
theorem outline_hidden {negated : Bool} {field : String} {values values' : List Scalar}
    {o p : Outline}
    (hmask : (values.map fun _ => Scalar.null) = values'.map fun _ => Scalar.null)
    (ho : outline negated field values = .ok o) (hp : outline negated field values' = .ok p) :
    o.hidden = p.hidden := by
  have hempty : values = [] ↔ values' = [] := by
    rw [← List.map_eq_nil_iff, hmask, List.map_eq_nil_iff]
  rcases of_outline ho with ⟨hnone, ho⟩ | ⟨hsome, list, hlist, ho⟩
  · rcases of_outline hp with ⟨_, hp⟩ | ⟨hsome, _⟩
    · rw [ho, hp]
    · exact absurd (hempty.mp hnone) hsome
  · rcases of_outline hp with ⟨hnone, _⟩ | ⟨_, list', hlist', hp⟩
    · exact absurd (hempty.mpr hnone) hsome
    · rw [ho, hp, hidden_enclose, hidden_enclose, chain_hidden link_hidden hmask hlist hlist']

theorem optionalOutline_hidden {negated : Bool} {a b : Option Membership} {o p : Outline}
    (hmask : a.map masked = b.map masked) (ho : optionalOutline negated a = .ok o)
    (hp : optionalOutline negated b = .ok p) : o.hidden = p.hidden := by
  cases a with
  | none =>
    cases b with
    | none => rw [Except.ok.inj (ho.symm.trans hp)]
    | some b => exact nomatch hmask
  | some a =>
    cases b with
    | none => exact nomatch hmask
    | some b =>
      obtain ⟨field, values⟩ := a
      obtain ⟨field', values'⟩ := b
      simp only [Option.map_some, masked, Option.some.injEq, mk.injEq] at hmask
      obtain ⟨rfl, hvalues⟩ := hmask
      exact outline_hidden hvalues ho hp

end Membership

/-! ### Whole requests -/

/-- Filters that are equal when masked have outlines that are equal when hidden. -/
theorem Filters.Outlined.hidden_eq {f g : Filters} {b c : Bundle Outline} (hf : f.Outlined b)
    (hg : g.Outlined c) (hmask : f.masked = g.masked) :
    b.toList.map Outline.hidden = c.toList.map Outline.hidden := by
  simp only [masked, mk.injEq] at hmask
  obtain ⟨htype, hequality, hspecial, hrange, hextra, hwithin, hwithout, hnotEqual, hperiod, hrawSql,
    hcolumns⟩ := hmask
  have hconjunction := hg.equality
  have hspecials := hg.special
  rw [← htype, ← hcolumns] at hconjunction
  rw [← hcolumns] at hspecials
  simp only [Bundle.toList, List.map_cons, List.map_nil,
    Conjunction.outline_hidden hequality hf.equality hconjunction,
    Special.outline_hidden hspecial hf.special hspecials,
    Range.outline_hidden hrange hf.range hg.range,
    Extra.outline_hidden hextra hf.extra hg.extra,
    Membership.optionalOutline_hidden hwithin hf.within hg.within,
    Membership.optionalOutline_hidden hwithout hf.without hg.without,
    NotEqual.outline_hidden hnotEqual hf.notEqual hg.notEqual,
    Period.outline_hidden hperiod hf.period hg.period, hf.rawSql, hg.rawSql, hrawSql]

namespace Bundle

/-- Named outlines without the values of their holes. -/
def hiddenEntries (entries : List (String × Outline)) : List (String × Outline) :=
  entries.map fun (name, o) => (name, o.hidden)

theorem hidden_joined (parts : List (String × Outline)) :
    (joined parts).hidden = joined (hiddenEntries parts) := by
  have henclosed : ∀ name o, (enclosedOutline name o).hidden = enclosedOutline name o.hidden := by
    intro name o
    unfold enclosedOutline
    split <;> simp
  induction parts with
  | nil => rfl
  | cons part rest ih =>
    obtain ⟨name, o⟩ := part
    cases rest with
    | nil => simp [joined, hiddenEntries, henclosed]
    | cons next rest =>
      simp only [hiddenEntries, List.map_cons] at ih ⊢
      simp only [joined_cons_cons, Outline.hidden_append, henclosed, Outline.hidden_ofText, ih]

theorem hidden_combined (parts : List (String × Outline)) :
    (combined parts).hidden = combined (hiddenEntries parts) := by
  match parts with
  | [] => rfl
  | [(name, only)] => rfl
  | first :: second :: rest => exact hidden_joined (first :: second :: rest)

theorem hiddenEntries_outlineParts (b : Bundle Outline) :
    hiddenEntries b.outlineParts =
      ((hiddenEntries b.entries).map fun (name, o) => (name, o.strip)).filter
        fun (_, o) => !o.isEmpty := by
  unfold outlineParts
  induction b.entries with
  | nil => rfl
  | cons entry entries ih =>
    obtain ⟨name, o⟩ := entry
    simp only [hiddenEntries, List.map_cons, List.filter_cons, ← Outline.hidden_strip,
      Outline.isEmpty_hidden] at ih ⊢
    split
    · rw [List.map_cons, ih]
    · exact ih

/-- The clause of outlines that are equal when hidden is so, too. -/
theorem clause_hidden {b c : Bundle Outline}
    (h : b.toList.map Outline.hidden = c.toList.map Outline.hidden) :
    b.clause.hidden = c.clause.hidden := by
  have hzip : ∀ a : Bundle Outline,
      hiddenEntries a.entries = names.toList.zip (a.toList.map Outline.hidden) := by
    intro a
    rw [hiddenEntries, entries, List.zip_map_right]
    rfl
  rw [clause, clause, hidden_combined, hidden_combined, hiddenEntries_outlineParts,
    hiddenEntries_outlineParts, hzip, hzip, h]

end Bundle

end FilterClause
