import FilterClause.Proofs.Filters
import FilterClause.Proofs.Parentheses

/-!
What the outlines of a request have in common with its raw texts. Conditions are put together from raw
texts, holes and a few words; a property that all of these have, and that is kept when one is put
behind another, when white space is trimmed and when parentheses are put around something, is had by
every outline.
-/
namespace FilterClause

open Checked

/-- A property that outlines get from the raw texts in them. -/
structure Law (P : Outline → Prop) : Prop where
  append : ∀ {a b : Outline}, P a → P b → P (a ++ b)
  hole : ∀ v, P [.hole v]
  /-- Words have neither quotes nor parentheses. -/
  word : ∀ s : String, (∀ c ∈ s.toList, c ≠ '\'' ∧ c ≠ '(' ∧ c ≠ ')') → P (.ofText s)
  enclose : ∀ {o : Outline}, P o → P (.ofText "(" ++ o ++ .ofText ")")
  strip : ∀ {o : Outline}, P o → P o.strip
  escape : ∀ {s : String}, P (.ofText s) → P (.ofText (Literal.escape s))

theorem Text.stripEnd_eq_rdropWhile (cs : List Char) : stripEnd cs = cs.rdropWhile isBlankChar := by
  induction cs using List.reverseRecOn with
  | nil => rfl
  | append_singleton cs c ih =>
    rw [stripEnd_concat]
    by_cases hc : isBlankChar c = true
    · rw [if_pos hc, List.rdropWhile_concat_pos _ _ _ hc, ih]
    · rw [if_neg hc, List.rdropWhile_concat_neg _ _ _ hc]

/-- Trimming a text is stripping its outline. -/
theorem Outline.ofText_trim (s : String) : ofText (Text.trim s) = (ofText s).strip := by
  have hstrip : Text.strip s.toList =
      (s.toList.dropWhile Text.isBlankChar).rdropWhile Text.isBlankChar :=
    Text.stripEnd_eq_rdropWhile _
  have hchar : isBlankMark ∘ Mark.char = Text.isBlankChar := rfl
  rw [ofText, Text.trim, String.toList_ofList, hstrip, strip, ofText, List.dropWhile_map, hchar]
  simp only [List.rdropWhile, ← List.map_reverse, List.dropWhile_map, hchar]

/-- Each link of a list comes from one of its filters. -/
theorem of_mem_links {α : Type} {link : Bool → α → Checked Link} {as : List α} {first : Bool}
    {ls : List Link} (h : links link first as = .ok ls) {l : Link} (hl : l ∈ ls) :
    ∃ first', ∃ a ∈ as, link first' a = .ok l := by
  induction as generalizing first ls with
  | nil =>
    cases h
    exact absurd hl List.not_mem_nil
  | cons a as ih =>
    obtain ⟨l', hlink, h⟩ := bind_eq_ok_iff.mp h
    obtain ⟨more, hmore, h⟩ := bind_eq_ok_iff.mp h
    cases h
    rcases List.mem_cons.mp hl with rfl | hl
    · exact ⟨first, a, List.mem_cons_self, hlink⟩
    · obtain ⟨first', b, hb, hlink⟩ := ih hmore hl
      exact ⟨first', b, List.mem_cons_of_mem _ hb, hlink⟩

namespace Law

variable {P : Outline → Prop}

theorem nil (law : Law P) : P [] :=
  law.word "" (by simp)

theorem text_append (law : Law P) {s t : String} (hs : P (.ofText s)) (ht : P (.ofText t)) :
    P (.ofText (s ++ t)) := by
  rw [Outline.ofText_append]
  exact law.append hs ht

theorem trim (law : Law P) {s : String} (hs : P (.ofText s)) : P (.ofText (Text.trim s)) := by
  rw [Outline.ofText_trim]
  exact law.strip hs

theorem attach (law : Law P) {acc : Outline} {l : Link} (hacc : P acc) (hsep : P (.ofText l.1))
    (ho : P l.2) : P (acc.attach l) := by
  unfold Outline.attach
  split
  · exact ho
  · exact law.append hacc (law.append hsep ho)

theorem foldl_attach (law : Law P) {ls : List Link} {acc : Outline} (hacc : P acc)
    (hls : ∀ l ∈ ls, P (.ofText l.1) ∧ P l.2) : P (ls.foldl Outline.attach acc) := by
  induction ls generalizing acc with
  | nil => exact hacc
  | cons l ls ih =>
    obtain ⟨hsep, ho⟩ := hls l List.mem_cons_self
    exact ih (law.attach hacc hsep ho) fun l' hl' => hls l' (List.mem_cons_of_mem _ hl')

/-- A chain has what all of its links have. -/
theorem chain (law : Law P) {α : Type} {link : Bool → α → Checked Link} {as : List α}
    {ls : List Link} (h : links link true as = .ok ls)
    (hlink : ∀ first, ∀ a ∈ as, ∀ l, link first a = .ok l → P (.ofText l.1) ∧ P l.2) :
    P (Outline.chain ls) := by
  refine law.foldl_attach law.nil fun l hl => ?_
  obtain ⟨first, a, ha, hl⟩ := of_mem_links h hl
  exact hlink first a ha l hl

theorem separator (law : Law P) (connective : Connective) : P (.ofText connective.separator) := by
  cases connective
  · exact law.word _ (by simp [Connective.separator, Connective.keyword])
  · exact law.word _ (by simp [Connective.separator, Connective.keyword])

/-- A template has what its raw texts have. -/
theorem ofTemplate (law : Law P) {t : Template} (ht : ∀ s, Piece.raw s ∈ t → P (.ofText s)) :
    P (.ofTemplate t) := by
  induction t with
  | nil => exact law.nil
  | cons piece t ih =>
    have hrest : P (.ofTemplate t) := ih fun s hs => ht s (List.mem_cons_of_mem _ hs)
    cases piece with
    | raw s => exact law.append (ht s List.mem_cons_self) hrest
    | hole v => exact law.append (law.hole v) hrest

theorem raw_hole (law : Law P) {s : String} (v : Scalar) (hs : P (.ofText s)) :
    P (.ofTemplate [.raw s, .hole v]) := by
  apply law.ofTemplate
  simpa using hs

theorem hole_raw (law : Law P) {s : String} (v : Scalar) (hs : P (.ofText s)) :
    P (.ofTemplate [.hole v, .raw s]) := by
  apply law.ofTemplate
  simpa using hs

/-- A field and an operator with a space behind each. -/
theorem compared (law : Law P) {field operator : String} (hfield : P (.ofText field))
    (hoperator : P (.ofText operator)) : P (.ofText (field ++ " " ++ operator ++ " ")) := by
  have hspace : P (.ofText " ") := law.word _ (by simp)
  exact law.text_append (law.text_append (law.text_append hfield hspace) hoperator) hspace

end Law

/-! ### The categories -/

section

variable {P : Outline → Prop} {columns : Columns}

namespace Conjunction

theorem law_writtenField (law : Law P) {key : String} {filter : Equality}
    (hraw : ∀ s ∈ filter.rawTexts columns key, P (.ofText s)) :
    P (.ofText (Comparison.writtenField key filter columns)) := by
  have hfield := hraw _ List.mem_cons_self
  unfold Comparison.writtenField
  cases hfind : columns.find? key with
  | none =>
    rw [hfind] at hfield
    exact law.escape hfield
  | some expression =>
    rw [hfind] at hfield
    exact hfield

theorem law_operator (law : Law P) (filterType : FilterType) {key : String} {filter : Equality}
    (hraw : ∀ s ∈ filter.rawTexts columns key, P (.ofText s)) :
    P (.ofText (operator filter (usualOperator filterType))) := by
  unfold operator
  dsimp only
  split
  · cases filterType
    · exact law.word "=" (by simp)
    · exact law.word "LIKE" (by simp)
  · rename_i hgiven
    cases hcomparison : filter.comparison with
    | none => simp [hcomparison, (Text.trim_eq_empty_iff "").mpr rfl] at hgiven
    | some given => exact law.trim (hraw given (by simp [Equality.rawTexts, hcomparison]))

theorem law_outline (law : Law P) {filterType : FilterType} {filters : Entries Equality}
    {o : Outline}
    (hraw : ∀ s ∈ filters.flatMap (fun (key, filter) => filter.rawTexts columns key), P (.ofText s))
    (h : outline filterType columns filters = .ok o) : P o := by
  obtain ⟨ls, hls, rfl⟩ := map_eq_ok_iff.mp h
  refine law.chain hls fun first entry hentry l hl => ?_
  obtain ⟨key, filter⟩ := entry
  have hfilter : ∀ s ∈ filter.rawTexts columns key, P (.ofText s) :=
    fun s hs => hraw s (List.mem_flatMap.mpr ⟨(key, filter), hentry, hs⟩)
  obtain ⟨⟨connective, t⟩, hcondition, rfl⟩ := map_eq_ok_iff.mp hl
  obtain ⟨_, _, _, rfl⟩ := of_condition hcondition
  refine ⟨law.separator connective, law.raw_hole _ ?_⟩
  exact law.compared (law_writtenField law hfilter) (law_operator law filterType hfilter)

end Conjunction

namespace Special

theorem law_writtenField (law : Law P) {field : String}
    (hfield : P (.ofText ((columns.find? (Text.trim field)).getD field))) :
    P (.ofText (writtenField field columns)) := by
  unfold writtenField
  cases hfind : columns.find? (Text.trim field) with
  | none =>
    rw [hfind] at hfield
    exact law.trim hfield
  | some expression =>
    rw [hfind] at hfield
    exact hfield

theorem law_form (law : Law P) {group : Group Special} {operator : String} {value : Scalar}
    (hoperator : group.filter.operator = some operator) (hvalue : group.filter.value = some value)
    (hraw : ∀ s ∈ rawTexts columns group, P (.ofText s)) :
    P (.ofTemplate (form (writtenField group.field columns) operator value group.filter.bound)) := by
  unfold rawTexts at hraw
  cases hbound : group.filter.bound with
  | literal =>
    simp only [hbound, hoperator, Option.toList_some] at hraw
    refine law.raw_hole _ (law.compared (law_writtenField law (hraw _ List.mem_cons_self)) ?_)
    exact hraw operator (by simp)
  | field =>
    simp only [hbound, hoperator, hvalue, Option.map_some, Option.toList_some] at hraw
    have htext : P (.ofText (operator ++ value.asText)) :=
      law.text_append (hraw operator (by simp)) (hraw value.asText (by simp))
    exact law.hole_raw _ htext

theorem law_outline (law : Law P) {groups : List (Group Special)} {o : Outline}
    (hraw : ∀ s ∈ groups.flatMap (rawTexts columns), P (.ofText s))
    (h : outline columns groups = .ok o) : P o := by
  obtain ⟨ls, hls, rfl⟩ := map_eq_ok_iff.mp h
  refine law.chain hls fun first group hgroup l hl => ?_
  obtain ⟨key, t, hcondition, ho, hsep⟩ := of_link hl
  obtain ⟨_, _, _, operator, value, hoperator, hvalue, _, _, _, rfl⟩ := of_condition hcondition
  rw [ho]
  constructor
  · rcases hsep with ⟨_, hsep⟩ | ⟨_, connective, _, hsep⟩ <;> rw [hsep]
    · exact law.nil
    · exact law.separator connective
  · exact law_form law hoperator hvalue
      fun s hs => hraw s (List.mem_flatMap.mpr ⟨group, hgroup, hs⟩)

end Special

namespace Extra

theorem law_outline (law : Law P) {groups : List (Group Extra)} {o : Outline}
    (hraw : ∀ s ∈ groups.flatMap rawTexts, P (.ofText s)) (h : outline groups = .ok o) : P o := by
  obtain ⟨ls, hls, rfl⟩ := map_eq_ok_iff.mp h
  refine law.chain hls fun first group hgroup l hl => ?_
  have hgroupRaw : ∀ s ∈ rawTexts group, P (.ofText s) :=
    fun s hs => hraw s (List.mem_flatMap.mpr ⟨group, hgroup, hs⟩)
  obtain ⟨⟨connective, t⟩, hcondition, rfl⟩ := map_eq_ok_iff.mp hl
  obtain ⟨_, _, _, operator, value, hoperator, _, _, _, _, rfl⟩ := of_condition hcondition
  have hfield : P (.ofText group.field) := hgroupRaw _ (by simp [rawTexts])
  refine ⟨law.separator connective, law.raw_hole _ (law.compared (law.escape (law.trim hfield)) ?_)⟩
  exact hgroupRaw operator (by simp [rawTexts, hoperator])

end Extra

namespace Range

theorem law_form (law : Law P) {key : String} {range : Range}
    (hraw : ∀ s ∈ range.rawTexts key, P (.ofText s)) :
    P (.ofTemplate (form (Text.trim key) range)) := by
  have hand : P (.ofText " AND ") := law.word _ (by simp)
  have hbetween : P (.ofText " BETWEEN ") := law.word _ (by simp)
  unfold rawTexts at hraw
  unfold form
  cases hbound : range.bound with
  | literal =>
    simp only [hbound] at hraw
    have hfield : P (.ofText (Text.trim key ++ " BETWEEN ")) :=
      law.text_append (law.trim (hraw key (by simp))) hbetween
    apply law.ofTemplate
    intro s hs
    simp only [List.mem_cons, Piece.raw.injEq, reduceCtorEq, List.not_mem_nil, or_false,
      false_or] at hs
    rcases hs with rfl | rfl
    · exact hfield
    · exact hand
  | field =>
    simp only [hbound] at hraw
    have hlower := hraw range.lower.asText (by simp)
    have hupper := hraw range.upper.asText (by simp)
    have htext : P (.ofText (" BETWEEN " ++ range.lower.asText ++ " AND " ++ range.upper.asText)) :=
      law.text_append (law.text_append (law.text_append hbetween hlower) hand) hupper
    exact law.hole_raw _ htext

theorem law_outline (law : Law P) {ranges : Entries Range} {o : Outline}
    (hraw : ∀ s ∈ ranges.flatMap (fun (key, range) => range.rawTexts key), P (.ofText s))
    (h : outline ranges = .ok o) : P o := by
  obtain ⟨ls, hls, rfl⟩ := map_eq_ok_iff.mp h
  refine law.chain hls fun first entry hentry l hl => ?_
  obtain ⟨t, hkeyed, rfl⟩ := map_eq_ok_iff.mp hl
  obtain ⟨_, _, _, _, _, _, rfl⟩ := of_keyed hkeyed
  refine ⟨law.separator .and, law.strip (law_form law ?_)⟩
  exact fun s hs => hraw s (List.mem_flatMap.mpr ⟨entry, hentry, hs⟩)

end Range

namespace NotEqual

theorem law_outline (law : Law P) {filters : Entries Scalar} {o : Outline}
    (hraw : ∀ s ∈ filters.map Prod.fst, P (.ofText s)) (h : outline filters = .ok o) : P o := by
  obtain ⟨ls, hls, rfl⟩ := map_eq_ok_iff.mp h
  refine law.chain hls fun first entry hentry l hl => ?_
  obtain ⟨t, hcondition, rfl⟩ := map_eq_ok_iff.mp hl
  obtain ⟨_, _, rfl⟩ := of_condition hcondition
  have hkey : P (.ofText entry.1) := hraw _ (List.mem_map_of_mem hentry)
  have hdiffers : P (.ofText " <> ") := law.word _ (by simp)
  exact ⟨law.separator .and,
    law.raw_hole _ (law.text_append (law.escape (law.trim hkey)) hdiffers)⟩

end NotEqual

namespace Period

/-- The conditions of all periods stand in parentheses, unless there are none. -/
theorem law_inner (law : Law P) {periods : List Period} {o : Outline}
    (hraw : ∀ s ∈ periods.flatMap rawTexts, P (.ofText s)) (h : outline periods = .ok o) :
    o = [] ∨ ∃ inner, o = .ofText "(" ++ inner ++ .ofText ")" ∧ P inner := by
  obtain ⟨ls, hls, rfl⟩ := map_eq_ok_iff.mp h
  unfold enclose
  split
  · exact .inl rfl
  refine .inr ⟨_, rfl, law.chain hls fun first period hperiod l hl => ?_⟩
  have hperiodRaw : ∀ s ∈ rawTexts period, P (.ofText s) :=
    fun s hs => hraw s (List.mem_flatMap.mpr ⟨period, hperiod, hs⟩)
  obtain ⟨t, hcondition, rfl⟩ := map_eq_ok_iff.mp hl
  obtain ⟨_, _, _, rfl⟩ := of_condition (wrap_eq_ok_iff.mp hcondition)
  have hstart : P (.ofText (" >= " ++ Text.trim period.start ++ " AND ")) :=
    law.text_append (law.text_append (law.word _ (by simp))
      (law.trim (hperiodRaw period.start (by simp [rawTexts])))) (law.word _ (by simp))
  have hfinish : P (.ofText (" <= " ++ Text.trim period.finish)) :=
    law.text_append (law.word _ (by simp))
      (law.trim (hperiodRaw period.finish (by simp [rawTexts])))
  refine ⟨law.separator .and, law.ofTemplate ?_⟩
  intro s hs
  simp only [List.mem_cons, Piece.raw.injEq, reduceCtorEq, List.not_mem_nil, or_false,
    false_or] at hs
  rcases hs with rfl | rfl
  · exact hstart
  · exact hfinish

theorem law_outline (law : Law P) {periods : List Period} {o : Outline}
    (hraw : ∀ s ∈ periods.flatMap rawTexts, P (.ofText s)) (h : outline periods = .ok o) : P o := by
  rcases law_inner law hraw h with ho | ⟨inner, ho, hinner⟩ <;> rw [ho]
  · exact law.nil
  · exact law.enclose hinner

end Period

namespace Membership

theorem law_enclose (law : Law P) (negated : Bool) {field : String} {list : Outline}
    (hfield : P (.ofText field)) (hlist : P list) : P (enclose negated field list) := by
  -- The parenthesis that opens the list belongs to the word before it.
  have hsplit : enclose negated field list =
      .ofText (field ++ (if negated then " NOT IN " else " IN ")) ++
        (.ofText "(" ++ list ++ .ofText ")") := by
    unfold enclose
    cases negated <;> simp [Outline.ofText]
  rw [hsplit]
  refine law.append (law.text_append hfield (law.word _ ?_)) (law.enclose hlist)
  cases negated <;> simp

theorem law_listOutline (law : Law P) {values : List Scalar} {list : Outline}
    (h : listOutline values = .ok list) : P list := by
  obtain ⟨ls, hls, rfl⟩ := map_eq_ok_iff.mp h
  refine law.chain hls fun first v _ l hl => ?_
  obtain ⟨_, rfl⟩ := of_link hl
  exact ⟨law.word _ (by simp), law.hole _⟩

theorem law_outline (law : Law P) {negated : Bool} {field : String} {values : List Scalar}
    {o : Outline} (hraw : ∀ s ∈ rawTexts ⟨field, values⟩, P (.ofText s))
    (h : outline negated field values = .ok o) : P o := by
  rcases of_outline h with ⟨_, ho⟩ | ⟨hsome, list, hlist, ho⟩ <;> rw [ho]
  · exact law.nil
  · have hfield : P (.ofText field) := by
      cases values with
      | nil => exact absurd rfl hsome
      | cons v values => exact hraw field List.mem_cons_self
    exact law_enclose law negated (law.trim hfield) (law_listOutline law hlist)

theorem law_optionalOutline (law : Law P) {negated : Bool} {filter : Option Membership}
    {o : Outline} (hraw : ∀ s ∈ filter.toList.flatMap rawTexts, P (.ofText s))
    (h : optionalOutline negated filter = .ok o) : P o := by
  cases filter with
  | none =>
    cases h
    exact law.nil
  | some filter =>
    refine law_outline law (fun s hs => hraw s ?_) h
    simpa using hs

end Membership

/-- Every outline of a request has what its raw texts have. -/
theorem Filters.Outlined.law {f : Filters} {b : Bundle Outline} (h : f.Outlined b) (law : Law P)
    (hraw : ∀ s ∈ f.rawTexts, P (.ofText s)) : ∀ o ∈ b.toList, P o := by
  simp only [rawTexts, List.mem_append, or_imp, forall_and] at hraw
  obtain ⟨⟨⟨⟨⟨⟨⟨⟨hequality, hspecial⟩, hrange⟩, hextra⟩, hwithin⟩, hwithout⟩, hnotEqual⟩, hperiod⟩,
    hrawSql⟩ := hraw
  intro o ho
  simp only [Bundle.toList, List.mem_cons, List.not_mem_nil, or_false] at ho
  rcases ho with rfl | rfl | rfl | rfl | rfl | rfl | rfl | rfl | rfl
  · exact Conjunction.law_outline law hequality h.equality
  · exact Special.law_outline law hspecial h.special
  · exact Range.law_outline law hrange h.range
  · exact Extra.law_outline law hextra h.extra
  · exact Membership.law_optionalOutline law hwithin h.within
  · exact Membership.law_optionalOutline law hwithout h.without
  · exact NotEqual.law_outline law hnotEqual h.notEqual
  · exact Period.law_outline law hperiod h.period
  · rw [h.rawSql]
    exact hrawSql f.rawSql (by simp)

end

end FilterClause
