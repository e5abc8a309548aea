import FilterClause.Condition.Membership
import FilterClause.Proofs.Joining
import FilterClause.Proofs.PlainText
import FilterClause.Proofs.WrittenNumbers

/-!
Lists of values. A condition on membership is accepted just where it has a field and values that are not
blank, and its list holds one literal for each of them, with a comma between each two. Whatever characters
the values have, the list is read back as their texts. An exclusion differs in its words, and in that an
empty one is no condition at all.
-/
namespace FilterClause

open Checked

/-! ### Blank scalars -/

namespace Scalar

/-- The scalars that a list may not hold. -/
inductive Void : Scalar → Prop
  | null : Void null
  | false : Void (boolean false)
  | text {s : String} : (∀ c ∈ s.toList, Text.isBlankChar c = true) → Void (text s)

theorem isBlank_iff (v : Scalar) : v.isBlank = true ↔ v.Void := by
  constructor
  · intro h
    cases v with
    | null => exact .null
    | boolean b =>
      cases b with
      | false => exact .false
      | true => cases h
    | integer i =>
      have hink : (integer i).isBlank = false :=
        (Decimal.plainNumber_toString i).firm.isBlank_eq_false
      rw [hink] at h
      cases h
    | float x =>
      have hink : (float x).isBlank = false :=
        (Decimal.plainNumber_write_plain x).firm.isBlank_eq_false
      rw [hink] at h
      cases h
    | text s => exact .text (List.all_eq_true.mp h)
  · intro h
    cases h with
    | null => rfl
    | false => rfl
    | text hblank => exact List.all_eq_true.mpr hblank

theorem asText_trimmed (v : Scalar) : v.trimmed.asText = Text.trim v.asText := by
  cases v with
  | null => rfl
  | boolean b => cases b <;> rfl
  | integer i => exact (Decimal.plainNumber_toString i).firm.trim_eq.symm
  | float x => exact (Decimal.plainNumber_write_plain x).firm.trim_eq.symm
  | text s => rfl

end Scalar

/-! ### Lists of literals -/

/-- The tokens of literals with a comma between each two. -/
def Scanner.listed (texts : List String) : List Token :=
  [.char ','].intercalate (texts.map fun s => [.literal s])

theorem Scanner.literals_listed (texts : List String) : literals (listed texts) = texts := by
  induction texts with
  | nil => rfl
  | cons s texts ih =>
    cases texts with
    | nil => rfl
    | cons next texts =>
      have hsplit : listed (s :: next :: texts) = .literal s :: .char ',' :: listed (next :: texts) := by
        simp [listed]
      rw [hsplit]
      exact congrArg (s :: ·) ih

theorem Outline.tokens_intercalate (separator : Outline) (os : List Outline) :
    tokens (separator.intercalate os) = (tokens separator).intercalate (os.map tokens) := by
  induction os with
  | nil => rfl
  | cons o os ih =>
    cases os with
    | nil => simp
    | cons next os =>
      rw [List.intercalate_cons_cons, tokens_append, tokens_append, ih]
      simp only [List.map_cons, List.intercalate_cons_cons]

/-- What is written as literals is the outline filled with them. -/
theorem Writing.text_eq {writing : Writing String} {outline : Checked Outline}
    (h : Writes writing outline) :
    writing.text = (fun o => o.text (Mode.literal.filling .postgresql) 0) <$> outline := by
  rw [text, h]
  cases outline <;> rfl

namespace Membership

def item (values : List Scalar) (v : Scalar) : Checked Outline :=
  if v.isBlank then .error (.emptyValue "IN value" (Scalar.displayAll values))
  else .ok [.hole v.trimmed]

theorem alike (values : List Scalar) : Alike (link values) "," (item values) where
  link_eq _ v := by
    unfold link item
    split <;> rfl
  ne_nil v o h := by
    unfold item at h
    split at h
    · exact nomatch h
    · cases h
      exact List.cons_ne_nil _ _

/-- Holes with a comma between each two. -/
def itemized (values : List Scalar) : Outline :=
  (Outline.ofText ",").intercalate (values.map fun v => [.hole v.trimmed])

theorem itemized_ne_nil {values : List Scalar} (h : values ≠ []) : itemized values ≠ [] :=
  Outline.intercalate_ne_nil _ (by simpa using h) (by simp)

theorem tokens_itemized (values : List Scalar) :
    (itemized values).tokens = Scanner.listed (values.map fun v => Text.trim v.asText) := by
  have hitem : ∀ v : Scalar, Outline.tokens [.hole v.trimmed] = [.literal (Text.trim v.asText)] :=
    fun v => congrArg (fun s => [Token.literal s]) v.asText_trimmed
  rw [itemized, Outline.tokens_intercalate, List.map_map, Scanner.listed, List.map_map]
  simp only [Function.comp_def, hitem]
  rfl

theorem listOutline_eq_ok_iff {values : List Scalar} {list : Outline} :
    listOutline values = .ok list ↔ (∀ v ∈ values, ¬ v.Void) ∧ list = itemized values := by
  have hitem : ∀ v : Scalar, v.isBlank = false → item values v = .ok [.hole v.trimmed] :=
    fun v hink => if_neg (by simp [hink])
  have hchain : listOutline values = (Outline.ofText ",").intercalate <$> values.mapM (item values) :=
    (alike values).chain_eq values
  simp only [← Scalar.isBlank_iff, Bool.not_eq_true]
  constructor
  · intro h
    obtain ⟨os, hos, _⟩ := map_eq_ok_iff.mp (hchain ▸ h)
    have hink : ∀ v ∈ values, v.isBlank = false := by
      intro v hv
      obtain ⟨o, ho⟩ := exists_mapM_eq_ok_iff.mp ⟨os, hos⟩ v hv
      by_contra hblank
      rw [item, if_pos (by simpa using hblank)] at ho
      exact nomatch ho
    rw [hchain, mapM_eq_ok_of_forall fun v hv => hitem v (hink v hv), map_ok] at h
    exact ⟨hink, (Except.ok.inj h).symm⟩
  · rintro ⟨hink, rfl⟩
    rw [hchain, mapM_eq_ok_of_forall fun v hv => hitem v (hink v hv), map_ok]
    rfl

/-! ### Conditions -/

/-- The list of a condition, behind the checks of its field and its shape. -/
def checkedList (field : String) (values : List Scalar) : Checked Outline :=
  if Text.trim field = "" then .error (.emptyField (Text.trim field))
  else do
    let list ← (listOutline values).wrap "failed to build value list"
    if list = [] then
      (checkShape (Text.trim field) "").wrap "invalid IN clause"
    return list

theorem outline_eq_enclose {negated : Bool} {field : String} {values : List Scalar}
    (h : (negated && values.isEmpty) = false) :
    outline negated field values = enclose negated (Text.trim field) <$> checkedList field values := by
  rw [outline, h, if_neg Bool.false_ne_true, checkedList]
  by_cases hfield : Text.trim field = ""
  · rw [if_pos hfield, if_pos hfield]
    rfl
  rw [if_neg hfield, if_neg hfield]
  cases listOutline values with
  | error failure => rfl
  | ok list =>
    rw [wrap_ok, ok_bind, ok_bind]
    by_cases hnil : list = []
    · rw [if_pos hnil, if_pos hnil]
      cases checkShape (Text.trim field) "" <;> rfl
    · rw [if_neg hnil, if_neg hnil]
      rfl

theorem checkedList_eq_ok_iff {field : String} {values : List Scalar} {list : Outline} :
    checkedList field values = .ok list ↔
      (Text.trim field ≠ "" ∧ values ≠ [] ∧ ∀ v ∈ values, ¬ v.Void) ∧ list = itemized values := by
  unfold checkedList
  by_cases hfield : Text.trim field = ""
  · simp [hfield]
  rw [if_neg hfield]
  constructor
  · intro h
    obtain ⟨o, ho, h⟩ := bind_eq_ok_iff.mp h
    obtain ⟨hink, rfl⟩ := listOutline_eq_ok_iff.mp (wrap_eq_ok_iff.mp ho)
    by_cases hnil : itemized values = []
    · rw [if_pos hnil] at h
      obtain ⟨_, hshape, _⟩ := bind_eq_ok_iff.mp h
      exact absurd (wrap_eq_ok_iff.mp hshape) (checkShape_empty_ne_ok _)
    · rw [if_neg hnil] at h
      have hsome : values ≠ [] := by
        rintro rfl
        exact hnil rfl
      exact ⟨⟨hfield, hsome, hink⟩, (Except.ok.inj h).symm⟩
  · rintro ⟨⟨_, hsome, hink⟩, rfl⟩
    rw [listOutline_eq_ok_iff.mpr ⟨hink, rfl⟩, wrap_ok, ok_bind, if_neg (itemized_ne_nil hsome)]
    rfl

/-- What stands between the parentheses of a condition whose values are written as literals. -/
def listText (field : String) (values : List Scalar) : Checked String :=
  (fun list => list.text (Mode.literal.filling .postgresql) 0) <$> checkedList field values

theorem exists_listText_iff {field : String} {values : List Scalar} :
    (∃ text, listText field values = .ok text) ↔
      Text.trim field ≠ "" ∧ values ≠ [] ∧ ∀ v ∈ values, ¬ v.Void := by
  simp [listText, map_eq_ok_iff, checkedList_eq_ok_iff]

theorem tokens_listText {field : String} {values : List Scalar} {text : String}
    (h : listText field values = .ok text) :
    Scanner.tokens text = some (Scanner.listed (values.map fun v => Text.trim v.asText)) := by
  obtain ⟨list, hlist, rfl⟩ := map_eq_ok_iff.mp h
  obtain ⟨⟨_, _, hink⟩, rfl⟩ := checkedList_eq_ok_iff.mp hlist
  have hquotes : (itemized values).QuoteFree :=
    law_listOutline Outline.law_quoteFree (listOutline_eq_ok_iff.mpr ⟨hink, rfl⟩)
  rw [Outline.tokens_text hquotes, tokens_itemized]

/-- Nothing but the words of a condition tells whether its list is chosen or excluded. -/
theorem render_text (negated : Bool) (field : String) (values : List Scalar)
    (h : (negated && values.isEmpty) = false) :
    (render .standard negated field values).text =
      (fun text => Text.trim field ++ (if negated then " NOT IN (" else " IN (") ++ text ++ ")") <$>
        listText field values := by
  rw [Writing.text_eq (render_writes negated field values), outline_eq_enclose h, listText]
  cases checkedList field values with
  | error failure => rfl
  | ok list =>
    rw [map_ok, map_ok, map_ok, map_ok]
    simp [enclose, Outline.text_append, String.append_assoc]

end Membership

/-- A condition on membership holds one literal for each value. Its list tells what the values were. -/
theorem Membership.values_listed (field : String) (values : List Scalar) :
    (∃ list : Checked String,
      (render .standard false field values).text =
        (fun list => Text.trim field ++ " IN (" ++ list ++ ")") <$> list ∧
      (render .standard true field values).text =
        (if values = [] then .ok ""
          else (fun list => Text.trim field ++ " NOT IN (" ++ list ++ ")") <$> list) ∧
      ((∃ text, list = .ok text) ↔
        Text.trim field ≠ "" ∧ values ≠ [] ∧ ∀ v ∈ values, ¬ v.Void) ∧
      ∀ text, list = .ok text →
        Scanner.tokens text = some (Scanner.listed (values.map fun v => Text.trim v.asText))) ∧
    ∀ others sql, (render .standard false field values).text = .ok sql →
      (render .standard false field others).text = .ok sql →
      (values.map fun v => Text.trim v.asText) = others.map fun v => Text.trim v.asText := by
  constructor
  · refine ⟨listText field values, render_text false field values rfl, ?_, ?_, ?_⟩
    · by_cases hnone : values = []
      · subst hnone
        rfl
      · rw [if_neg hnone]
        exact render_text true field values (by simpa using hnone)
    · exact exists_listText_iff
    · exact fun text htext => tokens_listText htext
  · intro others sql hvalues hothers
    rw [render_text false field _ rfl] at hvalues hothers
    obtain ⟨list, hlist, rfl⟩ := map_eq_ok_iff.mp hvalues
    obtain ⟨list', hlist', hsame⟩ := map_eq_ok_iff.mp hothers
    have hlists : list' = list := by
      rw [← String.toList_inj] at hsame ⊢
      simpa using hsame
    subst hlists
    have htokens := Option.some.inj ((tokens_listText hlist).symm.trans (tokens_listText hlist'))
    rw [← Scanner.literals_listed (values.map _), htokens, Scanner.literals_listed]

example : (Membership.render .standard false " t.a " [.text " a','b ", .integer 1]).text =
    .ok "t.a IN ('a\\',\\'b','1')" := by
  decide +kernel

end FilterClause
