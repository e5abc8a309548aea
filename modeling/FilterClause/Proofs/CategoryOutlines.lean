import FilterClause.Condition.Membership
import FilterClause.Proofs.Chain
import FilterClause.Proofs.ConditionForms

/-!
The outline of each category. It is made of the filters alone: neither the way in which holes are
filled nor the number of the first one comes into it. What a category writes is its outline filled.
-/
namespace FilterClause

open Checked

/-- The separator that a connective makes. -/
def Connective.separator (connective : Connective) : String :=
  " " ++ connective.keyword ++ " "

/-- Holds of links that have a hole for a value. -/
def Link.HasHole (link : Link) : Prop :=
  Outline.holes link.2 ≠ []

theorem Link.HasHole.ne_nil {link : Link} (h : link.HasHole) : link.2 ≠ [] := by
  intro hnil
  exact h (by rw [hnil]; rfl)

namespace StepWrites

variable {α : Type} {step : String → α → Writing String} {link : Bool → α → Checked Link}

/-- Steps that look at nothing but their own filter need no invariant. -/
theorem of_run
    (hrun : ∀ (acc : Outline) (a : α) (w : Writer), step (w.text acc) a (w.after acc) =
      (fun l => (w.text (acc.attach l), w.after (acc.attach l))) <$> link acc.isEmpty a)
    (hhole : ∀ first a l, link first a = .ok l → l.HasHole) :
    StepWrites step link fun _ => True where
  run acc a w _ := hrun acc a w
  keeps _ a l _ hl := ⟨(hhole _ a l hl).ne_nil, trivial⟩

end StepWrites

namespace Writer

/-- What a connective puts behind a text, and the writer it leaves. -/
theorem attach_eq (w : Writer) (acc : Outline) (connective : Connective) (o : Outline) :
    (FilterClause.attach (w.text acc) connective.keyword ((w.after acc).text o),
        (w.after acc).after o) =
      (w.text (acc.attach (connective.separator, o)),
        w.after (acc.attach (connective.separator, o))) :=
  Prod.ext (w.text_attach acc connective.keyword o) (w.after_attach acc (connective.separator, o))

/-- A condition that is found with its connective is written behind what is there. -/
theorem attach_run (w : Writer) (acc : Outline) (found : Checked (Connective × Template)) :
    (do let (connective, t) ← found
        return attach (w.text acc) connective.keyword (← write t) : Writing String) (w.after acc) =
      (fun l => (w.text (acc.attach l), w.after (acc.attach l))) <$>
        (fun (connective, t) => (Connective.separator connective, Outline.ofTemplate t)) <$> found := by
  rw [Writing.run_bind, Writing.run_check]
  cases found with
  | error failure => rfl
  | ok condition =>
    obtain ⟨connective, t⟩ := condition
    rw [map_ok, ok_bind]
    dsimp only
    rw [Writing.run_bind, write_run, ok_bind, Writing.run_pure]
    exact congrArg Except.ok (w.attach_eq acc connective (.ofTemplate t))

/-- A condition without a connective of its own is written behind `AND`. -/
theorem separate_run (w : Writer) (acc : Outline) (found : Checked Template) :
    (do let text ← write (← found)
        return w.text acc ++ separator (w.text acc) ++ text : Writing String) (w.after acc) =
      (fun l => (w.text (acc.attach l), w.after (acc.attach l))) <$>
        (fun t => (Connective.and.separator, Outline.ofTemplate t)) <$> found := by
  rw [Writing.run_bind, Writing.run_check]
  cases found with
  | error failure => rfl
  | ok t =>
    rw [map_ok, ok_bind, Writing.run_bind, write_run, ok_bind, Writing.run_pure, append_separator]
    exact congrArg Except.ok (w.attach_eq acc .and (.ofTemplate t))

end Writer

/-! ### Equality filters -/

namespace Conjunction

def link (filterType : FilterType) (columns : Columns) (_ : Bool) (entry : String × Equality) :
    Checked Link :=
  (fun (connective, t) => (connective.separator, .ofTemplate t)) <$>
    condition filterType columns entry.1 entry.2

def outline (filterType : FilterType) (columns : Columns) (filters : Entries Equality) :
    Checked Outline :=
  Outline.chain <$> links (link filterType columns) true filters

theorem hasHole_of_link {filterType : FilterType} {columns : Columns} {first : Bool}
    {entry : String × Equality} {l : Link} (h : link filterType columns first entry = .ok l) :
    l.HasHole := by
  obtain ⟨⟨connective, t⟩, hcondition, rfl⟩ := map_eq_ok_iff.mp h
  obtain ⟨_, _, _, rfl⟩ := of_condition hcondition
  simp [Link.HasHole, term, Outline.ofTemplate, Outline.holes]

theorem render_writes (filterType : FilterType) (columns : Columns) (filters : Entries Equality) :
    Writes (render filterType columns filters) (outline filterType columns filters) := by
  refine (StepWrites.of_run ?_ fun _ _ _ => hasHole_of_link).writes_chain trivial filters
  exact fun acc entry w => w.attach_run acc (condition filterType columns entry.1 entry.2)

end Conjunction

/-! ### Groups -/

namespace Special

def link (columns : Columns) (first : Bool) (group : Group Special) : Checked Link := do
  let (key, t) ← condition columns group
  if first then
    return ("", .ofTemplate t)
  let connective ← Group.readConnective group.filter.connective key
  return (connective.separator, .ofTemplate t)

def outline (columns : Columns) (groups : List (Group Special)) : Checked Outline :=
  Outline.chain <$> links (link columns) true groups

theorem of_link {columns : Columns} {first : Bool} {group : Group Special} {l : Link}
    (h : link columns first group = .ok l) :
    ∃ key t, condition columns group = .ok (key, t) ∧ l.2 = .ofTemplate t ∧
      ((first = true ∧ l.1 = "") ∨ (first = false ∧ ∃ connective,
        Group.readConnective group.filter.connective key = .ok connective ∧
          l.1 = connective.separator)) := by
  unfold link at h
  obtain ⟨⟨key, t⟩, hcondition, h⟩ := bind_eq_ok_iff.mp h
  cases first with
  | true =>
    cases h
    exact ⟨key, t, hcondition, rfl, .inl ⟨rfl, rfl⟩⟩
  | false =>
    obtain ⟨connective, hread, h⟩ := bind_eq_ok_iff.mp h
    cases h
    exact ⟨key, t, hcondition, rfl, .inr ⟨rfl, connective, hread, rfl⟩⟩

theorem hasHole_of_link {columns : Columns} {first : Bool} {group : Group Special} {l : Link}
    (h : link columns first group = .ok l) : l.HasHole := by
  obtain ⟨key, t, hcondition, hl, _⟩ := of_link h
  obtain ⟨_, _, _, operator, value, _, _, _, _, _, rfl⟩ := of_condition hcondition
  rw [Link.HasHole, hl]
  cases group.filter.bound <;> simp [form, Outline.ofTemplate, Outline.holes]

theorem render_writes (columns : Columns) (groups : List (Group Special)) :
    Writes (render columns groups) (outline columns groups) := by
  refine (StepWrites.of_run ?_ fun _ _ _ => hasHole_of_link).writes_chain trivial groups
  intro acc group w
  unfold step link
  rw [Writing.run_bind, Writing.run_check]
  cases condition columns group with
  | error failure => rfl
  | ok found =>
    obtain ⟨key, t⟩ := found
    rw [map_ok, ok_bind, ok_bind]
    dsimp only
    rw [Writing.run_bind, Writer.write_run, ok_bind]
    cases acc with
    | nil =>
      rw [if_pos w.text_nil, Writer.after_nil]
      rfl
    | cons mark acc =>
      have hne : ¬ w.text (mark :: acc) = "" := by simp [Writer.text_eq_empty_iff]
      simp only [hne, if_false, List.isEmpty_cons, Bool.false_eq_true]
      rw [Writing.run_bind, Writing.run_check]
      cases Group.readConnective group.filter.connective key with
      | error failure => rfl
      | ok connective =>
        rw [map_ok, ok_bind, ok_bind, Writing.run_pure]
        exact congrArg Except.ok (w.attach_eq (mark :: acc) connective (.ofTemplate t))

end Special

namespace Extra

def link (_ : Bool) (group : Group Extra) : Checked Link :=
  (fun (connective, t) => (connective.separator, .ofTemplate t)) <$> condition group

def outline (groups : List (Group Extra)) : Checked Outline :=
  Outline.chain <$> links link true groups

theorem hasHole_of_link {first : Bool} {group : Group Extra} {l : Link}
    (h : link first group = .ok l) : l.HasHole := by
  obtain ⟨⟨connective, t⟩, hcondition, rfl⟩ := map_eq_ok_iff.mp h
  obtain ⟨_, _, _, operator, value, _, _, _, _, _, rfl⟩ := of_condition hcondition
  simp [Link.HasHole, Outline.ofTemplate, Outline.holes]

theorem render_writes (groups : List (Group Extra)) : Writes (render groups) (outline groups) := by
  refine (StepWrites.of_run ?_ fun _ _ _ => hasHole_of_link).writes_chain trivial groups
  exact fun acc group w => w.attach_run acc (condition group)

end Extra

/-! ### Ranges -/

namespace Range

/-- White space at the ends of a condition is not written. -/
def link (_ : Bool) (entry : String × Range) : Checked Link :=
  (fun t => (Connective.and.separator, (Outline.ofTemplate t).strip)) <$> keyed entry.1 entry.2

def outline (ranges : Entries Range) : Checked Outline :=
  Outline.chain <$> links link true ranges

theorem of_link {first : Bool} {entry : String × Range} {l : Link}
    (h : link first entry = .ok l) : l.HasHole ∧ Outline.Firm l.2 := by
  obtain ⟨t, hkeyed, rfl⟩ := map_eq_ok_iff.mp h
  obtain ⟨_, _, _, _, _, _, rfl⟩ := of_keyed hkeyed
  refine ⟨?_, Outline.firm_strip _⟩
  rw [Link.HasHole, Outline.holes_strip]
  unfold form
  cases entry.2.bound <;> simp [Outline.ofTemplate, Outline.holes]

/-- What is there is never blank at its ends, so trimming it leaves it as it is. -/
theorem extend_text {acc o : Outline} {w : Writer} (hacc : acc.Firm) (ho : o.strip ≠ []) :
    extend (w.text acc) ((w.after acc).text o) =
      .ok (w.text (acc.attach (Connective.and.separator, o.strip))) := by
  unfold extend
  dsimp only
  rw [Writer.trim_text, Writer.trim_text, hacc.strip_eq]
  have hne : ¬ (w.after acc).text o.strip = "" := by simp [Writer.text_eq_empty_iff, ho]
  rw [if_neg (by simp [hne]), append_separator, Writer.text_attach]
  rfl

theorem step_writes : StepWrites step link Outline.Firm where
  run acc entry w hacc := by
    unfold step link
    rw [Writing.run_bind, Writing.run_check]
    cases hkeyed : keyed entry.1 entry.2 with
    | error failure => rfl
    | ok t =>
      have hlink : link acc.isEmpty entry =
          .ok (Connective.and.separator, (Outline.ofTemplate t).strip) := by
        rw [link, hkeyed, map_ok]
      have hstate : (w.after acc).after (.ofTemplate t) =
          w.after (acc.attach (Connective.and.separator, (Outline.ofTemplate t).strip)) := by
        rw [← Writer.after_attach, Writer.after_strip]
      rw [map_ok, map_ok, map_ok, ok_bind, Writing.run_bind, Writer.write_run, ok_bind,
        Writing.run_check, extend_text hacc (of_link hlink).1.ne_nil, map_ok, hstate]
  keeps acc entry l hacc hlink := by
    obtain ⟨hhole, hfirm⟩ := of_link hlink
    exact ⟨hhole.ne_nil, hacc.attach hfirm hhole.ne_nil⟩

theorem render_writes (ranges : Entries Range) : Writes (render ranges) (outline ranges) :=
  step_writes.writes_chain ⟨nofun, nofun⟩ ranges

end Range

/-! ### Differences and periods -/

namespace NotEqual

def link (_ : Bool) (entry : String × Scalar) : Checked Link :=
  (fun t => (Connective.and.separator, .ofTemplate t)) <$> condition entry.1 entry.2

def outline (filters : Entries Scalar) : Checked Outline :=
  Outline.chain <$> links link true filters

theorem hasHole_of_link {first : Bool} {entry : String × Scalar} {l : Link}
    (h : link first entry = .ok l) : l.HasHole := by
  obtain ⟨t, hcondition, rfl⟩ := map_eq_ok_iff.mp h
  obtain ⟨_, _, rfl⟩ := of_condition hcondition
  simp [Link.HasHole, Outline.ofTemplate, Outline.holes]

theorem render_writes (filters : Entries Scalar) : Writes (render filters) (outline filters) := by
  refine (StepWrites.of_run ?_ fun _ _ _ => hasHole_of_link).writes_chain trivial filters
  exact fun acc entry w => w.separate_run acc (condition entry.1 entry.2)

end NotEqual

namespace Period

def link (_ : Bool) (period : Period) : Checked Link :=
  (fun t => (Connective.and.separator, .ofTemplate t)) <$>
    (condition period).wrap "failed to build date condition"

/-- Parentheses around an outline, unless it is empty. -/
def enclose (o : Outline) : Outline :=
  if o.isEmpty then [] else .ofText "(" ++ o ++ .ofText ")"

def outline (periods : List Period) : Checked Outline :=
  (fun ls => enclose (Outline.chain ls)) <$> links link true periods

theorem hasHole_of_link {first : Bool} {period : Period} {l : Link}
    (h : link first period = .ok l) : l.HasHole := by
  obtain ⟨t, hcondition, rfl⟩ := map_eq_ok_iff.mp h
  obtain ⟨_, _, _, rfl⟩ := of_condition (wrap_eq_ok_iff.mp hcondition)
  simp [Link.HasHole, Outline.ofTemplate, Outline.holes]

theorem steps_write (periods : List Period) :
    Writes (periods.foldlM step "") (Outline.chain <$> links link true periods) := by
  refine (StepWrites.of_run ?_ fun _ _ _ => hasHole_of_link).writes_chain trivial periods
  exact fun acc period w =>
    w.separate_run acc ((condition period).wrap "failed to build date condition")

theorem enclose_text (w : Writer) (o : Outline) :
    (if w.text o = "" then "" else "(" ++ w.text o ++ ")") = w.text (enclose o) ∧
      w.after (enclose o) = w.after o := by
  cases o with
  | nil => exact ⟨rfl, rfl⟩
  | cons mark o =>
    have hne : ¬ w.text (mark :: o) = "" := by simp [Writer.text_eq_empty_iff]
    rw [if_neg hne]
    constructor
    · simp only [enclose, List.isEmpty_cons, Bool.false_eq_true, if_false, Writer.text_append,
        Writer.text_ofText, Writer.after_ofText]
    · simp only [enclose, List.isEmpty_cons, Bool.false_eq_true, if_false, ← Writer.after_append,
        Writer.after_ofText]

theorem render_writes (periods : List Period) : Writes (render periods) (outline periods) := by
  intro w
  unfold render outline
  rw [Writing.run_bind, steps_write periods w]
  cases links link true periods with
  | error failure => rfl
  | ok ls =>
    obtain ⟨htext, hstate⟩ := enclose_text w (Outline.chain ls)
    rw [map_ok, map_ok, map_ok, ok_bind, Writing.run_pure, htext, ← hstate]
    rfl

end Period

/-! ### Membership -/

namespace Membership

/-- The values are linked by commas. The list is only needed to describe a refusal. -/
def link (values : List Scalar) (_ : Bool) (v : Scalar) : Checked Link :=
  if v.isBlank then .error (.emptyValue "IN value" (Scalar.displayAll values))
  else .ok (",", [.hole v.trimmed])

def listOutline (values : List Scalar) : Checked Outline :=
  Outline.chain <$> links (link values) true values

/-- The standard form of a condition on membership. -/
def enclose (negated : Bool) (field : String) (list : Outline) : Outline :=
  .ofText (field ++ (if negated then " NOT IN (" else " IN (")) ++ list ++ .ofText ")"

/-- Only an empty list is refused. -/
def outline (negated : Bool) (field : String) (values : List Scalar) : Checked Outline :=
  if negated && values.isEmpty then .ok []
  else if Text.trim field = "" then .error (.emptyField (Text.trim field))
  else do
    let list ← (listOutline values).wrap "failed to build value list"
    if list = [] then
      (checkShape (Text.trim field) "").wrap "invalid IN clause"
    return enclose negated (Text.trim field) list

theorem firm_hole (v : Scalar) : Outline.Firm [.hole v] := by
  constructor <;> intro mark hmark <;> cases hmark <;> rfl

theorem stepList_writes (values : List Scalar) :
    StepWrites (stepList values) (link values) Outline.Firm where
  run acc v w _ := by
    unfold stepList link
    by_cases hv : v.isBlank = true
    · simp only [hv, if_true]
      rfl
    · simp only [hv]
      rw [if_neg Bool.false_ne_true, if_neg Bool.false_ne_true, map_ok]
      rw [Writing.run_bind, Writer.value_run, ok_bind, Writing.run_pure]
      have hcomma : (if w.text acc = "" then (w.after acc).text [.hole v.trimmed]
          else w.text acc ++ "," ++ (w.after acc).text [.hole v.trimmed]) =
          w.text (acc.attach (",", [.hole v.trimmed])) :=
        w.text_join acc (",", [.hole v.trimmed])
      rw [hcomma, Writer.after_attach w acc (",", [.hole v.trimmed])]
  keeps acc v l hacc hlink := by
    unfold link at hlink
    split at hlink
    · exact nomatch hlink
    · cases hlink
      exact ⟨List.cons_ne_nil _ _, hacc.attach (firm_hole _) (List.cons_ne_nil _ _)⟩

theorem renderList_writes (values : List Scalar) :
    Writes (renderList values) (listOutline values) :=
  (stepList_writes values).writes_chain ⟨nofun, nofun⟩ values

theorem firm_listOutline {values : List Scalar} {list : Outline}
    (h : listOutline values = .ok list) : list.Firm := by
  obtain ⟨ls, hls, rfl⟩ := map_eq_ok_iff.mp h
  exact (stepList_writes values).inv_foldl ⟨nofun, nofun⟩ hls

/-- The standard form refuses an empty list and no other one. -/
theorem check_text {field : String} {list : Outline} (hfield : field ≠ "")
    (htrim : Text.trim field = field) (hlist : list.Firm) (hne : list ≠ []) (w : Writer) :
    checkShape field (w.text list) = .ok () := by
  have hfieldInk : ¬ Text.isBlank field = true := by
    rw [← Text.trim_eq_empty_iff, htrim]
    exact hfield
  have hlistInk : ¬ Text.isBlank (w.text list) = true := by
    rw [← Text.trim_eq_empty_iff, Writer.trim_text, hlist.strip_eq, Writer.text_eq_empty_iff]
    exact hne
  rw [checkShape, if_neg hfieldInk, if_neg hlistInk]

theorem enclose_text (negated : Bool) (field : String) (list : Outline) (w : Writer) :
    Form.standard.build field (w.text list) negated =
        w.text (enclose negated (Text.trim field) list) ∧
      w.after (enclose negated (Text.trim field) list) = w.after list := by
  unfold enclose
  constructor
  · simp only [Form.standard, Writer.text_append, Writer.text_ofText, Writer.after_ofText]
  · simp only [← Writer.after_append, Writer.after_ofText]

theorem render_writes (negated : Bool) (field : String) (values : List Scalar) :
    Writes (render .standard negated field values) (outline negated field values) := by
  intro w
  unfold render outline
  by_cases hnone : (negated && values.isEmpty) = true
  · simp only [hnone, if_true]
    rw [Writing.run_pure, map_ok, Writer.text_nil, Writer.after_nil]
  · simp only [hnone]
    rw [if_neg Bool.false_ne_true, if_neg Bool.false_ne_true]
    by_cases hfield : Text.trim field = ""
    · simp only [hfield, if_true]
      rfl
    · simp only [hfield, if_false]
      rw [Writing.run_bind, Writing.run_wrap, renderList_writes values w, wrap_map]
      cases hlist : listOutline values with
      | error failure => rfl
      | ok list =>
        have hcheck : Form.standard.check = checkShape := rfl
        obtain ⟨htext, hstate⟩ := enclose_text negated (Text.trim field) list w
        rw [Text.trim_trim] at htext hstate
        rw [wrap_ok, map_ok, ok_bind, ok_bind, Writing.run_bind, Writing.run_check, hcheck]
        dsimp only
        by_cases hnil : list = []
        · subst hnil
          rw [Writer.text_nil] at htext ⊢
          rw [if_pos rfl]
          cases checkShape (Text.trim field) "" with
          | error failure => rfl
          | ok _ =>
            rw [wrap_ok, map_ok, ok_bind, ok_bind, Writing.run_pure, htext, ← hstate]
            rfl
        · have hchecked := check_text hfield (Text.trim_trim field) (firm_listOutline hlist) hnil w
          rw [if_neg hnil, hchecked, wrap_ok, map_ok, ok_bind, Writing.run_pure, htext, ← hstate]
          rfl

/-- The shape of a condition allows no empty list. -/
theorem checkShape_empty_ne_ok (field : String) : checkShape field "" ≠ .ok () := by
  unfold checkShape
  split <;> exact nofun

/-- There is nothing to exclude, or there is a list with something in it. -/
theorem of_outline {negated : Bool} {field : String} {values : List Scalar} {o : Outline}
    (h : outline negated field values = .ok o) :
    (values = [] ∧ o = []) ∨
      (values ≠ [] ∧
        ∃ list, listOutline values = .ok list ∧ o = enclose negated (Text.trim field) list) := by
  unfold outline at h
  by_cases hnone : (negated && values.isEmpty) = true
  · rw [if_pos hnone] at h
    simp only [Bool.and_eq_true, List.isEmpty_iff] at hnone
    exact .inl ⟨hnone.2, (Except.ok.inj h).symm⟩
  · rw [if_neg hnone] at h
    by_cases hfield : Text.trim field = ""
    · rw [if_pos hfield] at h
      exact nomatch h
    · rw [if_neg hfield] at h
      obtain ⟨list, hlist, h⟩ := bind_eq_ok_iff.mp h
      have hlist := wrap_eq_ok_iff.mp hlist
      by_cases hnil : list = []
      · simp only [hnil, if_true] at h
        obtain ⟨_, hshape, _⟩ := bind_eq_ok_iff.mp h
        exact absurd (wrap_eq_ok_iff.mp hshape) (checkShape_empty_ne_ok _)
      · simp only [hnil, if_false] at h
        refine .inr ⟨?_, list, hlist, (Except.ok.inj h).symm⟩
        rintro rfl
        exact hnil (Except.ok.inj hlist).symm

theorem of_link {values : List Scalar} {first : Bool} {v : Scalar} {l : Link}
    (h : link values first v = .ok l) : v.isBlank = false ∧ l = (",", [.hole v.trimmed]) := by
  unfold link at h
  split at h
  · exact nomatch h
  · rename_i hv
    exact ⟨by simpa using hv, (Except.ok.inj h).symm⟩

end Membership

end FilterClause
