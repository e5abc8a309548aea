import FilterClause.Proofs.Checked
import FilterClause.Proofs.Outline

/-!
What a writer makes of an outline. A writing writes an outline when, from every writer, it leaves the
outline filled by that writer, and keeps the values of its holes where they are to be bound.
-/
namespace FilterClause

/-- How holes are filled in a mode, by the number of the value. -/
def Mode.filling (mode : Mode) (dialect : Dialect) : Filling :=
  match mode with
  | .literal => fun _ v => Literal.ofText v.asText
  | .placeholder => fun index _ => dialect.placeholder index

/-- The values that are left to be bound. -/
def Mode.kept (mode : Mode) (values : List Scalar) : List Scalar :=
  match mode with
  | .literal => []
  | .placeholder => values

theorem Mode.kept_append (mode : Mode) (a b : List Scalar) :
    mode.kept (a ++ b) = mode.kept a ++ mode.kept b := by
  cases mode <;> rfl

/-! ### Fillings have no white space at their ends -/

theorem Text.firm_ofText (s : String) : Text.Firm (Literal.ofText s).toList := by
  have htext : (Literal.ofText s).toList = '\'' :: (Literal.escape s).toList ++ ['\''] := by
    simp [Literal.ofText, Literal.quote]
  rw [htext]
  exact ⟨⟨'\'', _, rfl, by decide⟩, ⟨_, '\'', rfl, by decide⟩⟩

theorem Text.firm_placeholder (dialect : Dialect) (index : Nat) :
    Text.Firm (dialect.placeholder index).toList := by
  have hmark : Text.Firm "?".toList := ⟨⟨'?', [], rfl, by decide⟩, ⟨[], '?', rfl, by decide⟩⟩
  cases dialect with
  | mysql => exact hmark
  | sqlite => exact hmark
  | postgresql =>
    have htext : (Dialect.postgresql.placeholder index).toList = '$' :: Nat.toDigits 10 index := by
      simp [Dialect.placeholder]
    have hdigits : Nat.toDigits 10 index ≠ [] := Nat.toDigits_ne_nil
    have hlast : ((Nat.toDigits 10 index).getLast hdigits).isDigit = true :=
      Nat.isDigit_of_mem_toDigits (by omega) (by omega) (List.getLast_mem hdigits)
    rw [htext]
    refine ⟨⟨'$', _, rfl, by decide⟩, '$' :: (Nat.toDigits 10 index).dropLast, _, ?_,
      Text.isBlankChar_eq_false_of_isDigit hlast⟩
    rw [List.cons_append, List.dropLast_append_getLast]

theorem Mode.firm_filling (mode : Mode) (dialect : Dialect) : (mode.filling dialect).Firm := by
  intro index v
  cases mode with
  | literal => exact Text.firm_ofText v.asText
  | placeholder => exact Text.firm_placeholder dialect index

/-! ### Writers and outlines -/

namespace Writer

/-- An outline as the writer writes it. -/
def text (w : Writer) (o : Outline) : String :=
  o.text (w.mode.filling w.dialect) (w.offset + w.params.length)

/-- The writer once an outline is written. -/
def after (w : Writer) (o : Outline) : Writer :=
  { w with params := w.params ++ w.mode.kept o.holes }

@[simp]
theorem text_nil (w : Writer) : w.text [] = "" := rfl

@[simp]
theorem after_nil (w : Writer) : w.after [] = w := by
  cases w with
  | mk mode dialect offset params => cases mode <;> simp [after, Mode.kept, Outline.holes]

theorem after_append (w : Writer) (a b : Outline) : (w.after a).after b = w.after (a ++ b) := by
  simp [after, Mode.kept_append]

theorem text_append (w : Writer) (a b : Outline) :
    w.text (a ++ b) = w.text a ++ (w.after a).text b := by
  obtain ⟨mode, dialect, offset, params⟩ := w
  rw [text, Outline.text_append]
  refine congrArg (Outline.text _ _ a ++ ·) ?_
  cases mode with
  | literal => exact congrArg String.ofList (Outline.fill_congr fun _ _ _ => rfl)
  | placeholder => simp [text, after, Mode.kept, Nat.add_assoc]

@[simp]
theorem text_ofText (w : Writer) (s : String) : w.text (.ofText s) = s :=
  Outline.text_ofText _ _ s

@[simp]
theorem after_ofText (w : Writer) (s : String) : w.after (.ofText s) = w := by
  obtain ⟨mode, dialect, offset, params⟩ := w
  cases mode <;> simp [after, Mode.kept]

theorem text_eq_empty_iff (w : Writer) (o : Outline) : w.text o = "" ↔ o = [] :=
  Outline.text_eq_empty_iff (w.mode.firm_filling w.dialect) _ o

theorem trim_text (w : Writer) (o : Outline) : Text.trim (w.text o) = w.text o.strip :=
  Outline.trim_text (w.mode.firm_filling w.dialect) _ o

theorem after_strip (w : Writer) (o : Outline) : w.after o.strip = w.after o := by
  rw [after, Outline.holes_strip, after]

theorem value_run (v : Scalar) (w : Writer) :
    value v w = .ok (w.text [.hole v], w.after [.hole v]) := by
  obtain ⟨mode, dialect, offset, params⟩ := w
  cases mode with
  | literal => simp [value, text, Outline.text, after, Outline.fill, Mode.filling, Mode.kept]
  | placeholder =>
    simp [value, text, Outline.text, after, Outline.fill, Mode.filling, Mode.kept, Outline.holes,
      Nat.add_assoc]

theorem write_run (t : Template) (w : Writer) :
    write t w = .ok (w.text (.ofTemplate t), w.after (.ofTemplate t)) := by
  induction t generalizing w with
  | nil => simp [write, Outline.ofTemplate, Writing.run_pure]
  | cons piece t ih =>
    cases piece with
    | raw s =>
      simp only [write, Writing.run_bind, ih, Outline.ofTemplate, text_append, ← after_append,
        text_ofText, after_ofText, Checked.ok_bind, Writing.run_pure]
    | hole v =>
      have hsplit : Outline.ofTemplate (.hole v :: t) = [.hole v] ++ Outline.ofTemplate t := rfl
      simp only [write, Writing.run_bind, value_run, hsplit, text_append, ← after_append]
      simp only [Checked.ok_bind, ih, Writing.run_pure]

end Writer

end FilterClause
