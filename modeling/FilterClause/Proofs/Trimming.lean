import FilterClause.Text.Blank

/-!
What trimming leaves as it is. Only the white space before the first other character and after the
last one goes, so a text that starts and ends with other characters is its own trimmed form.
-/
namespace FilterClause.Text

theorem bounds_of_isDigit {c : Char} (h : c.isDigit = true) : 48 ≤ c.toNat ∧ c.toNat ≤ 57 := by
  simp only [Char.isDigit, Bool.and_eq_true, decide_eq_true_eq] at h
  exact h

theorem isBlankChar_eq_false_of_isDigit {c : Char} (h : c.isDigit = true) :
    isBlankChar c = false := by
  have hbounds := bounds_of_isDigit h
  simp only [isBlankChar, Bool.or_eq_false_iff, Bool.and_eq_false_iff, decide_eq_false_iff_not,
    beq_eq_false_iff_ne]
  omega

def StartsFirm (cs : List Char) : Prop :=
  ∃ c rest, cs = c :: rest ∧ isBlankChar c = false

def EndsFirm (cs : List Char) : Prop :=
  ∃ front c, cs = front ++ [c] ∧ isBlankChar c = false

/-- A text with no white space at its two ends, and not empty. -/
def Firm (cs : List Char) : Prop :=
  StartsFirm cs ∧ EndsFirm cs

theorem firm_of_forall {cs : List Char} (hne : cs ≠ []) (h : ∀ c ∈ cs, isBlankChar c = false) :
    Firm cs := by
  constructor
  · obtain ⟨c, rest, rfl⟩ := List.exists_cons_of_ne_nil hne
    exact ⟨c, rest, rfl, h c List.mem_cons_self⟩
  · have hlast := List.dropLast_concat_getLast hne
    exact ⟨cs.dropLast, cs.getLast hne, hlast.symm, h _ (List.getLast_mem hne)⟩

theorem StartsFirm.append {a : List Char} (h : StartsFirm a) (b : List Char) :
    StartsFirm (a ++ b) := by
  obtain ⟨c, rest, rfl, hc⟩ := h
  exact ⟨c, rest ++ b, rfl, hc⟩

theorem EndsFirm.append (a : List Char) {b : List Char} (h : EndsFirm b) : EndsFirm (a ++ b) := by
  obtain ⟨front, c, rfl, hc⟩ := h
  exact ⟨a ++ front, c, by simp, hc⟩

theorem StartsFirm.stripStart_eq {cs : List Char} (h : StartsFirm cs) : stripStart cs = cs := by
  obtain ⟨c, rest, rfl, hc⟩ := h
  simp [stripStart, hc]

/-- From the right, white space goes character by character. -/
theorem stripEnd_concat (front : List Char) (c : Char) :
    stripEnd (front ++ [c]) = if isBlankChar c then stripEnd front else front ++ [c] := by
  induction front with
  | nil => simp [stripEnd]
  | cons d front ih =>
    simp only [List.cons_append, stripEnd, ih]
    by_cases hc : isBlankChar c = true
    · simp only [hc, if_true]
    · simp only [hc]
      cases hfront : front ++ [c] with
      | nil => simp at hfront
      | cons e rest => simp

theorem EndsFirm.stripEnd_eq {cs : List Char} (h : EndsFirm cs) : stripEnd cs = cs := by
  obtain ⟨front, c, rfl, hc⟩ := h
  simp [stripEnd_concat, hc]

theorem Firm.strip_eq {cs : List Char} (h : Firm cs) : strip cs = cs := by
  rw [strip, h.1.stripStart_eq, h.2.stripEnd_eq]

theorem Firm.trim_eq {s : String} (h : Firm s.toList) : trim s = s := by
  rw [trim, h.strip_eq, String.ofList_toList]

theorem Firm.isBlank_eq_false {s : String} (h : Firm s.toList) : isBlank s = false := by
  obtain ⟨c, rest, hcs, hc⟩ := h.1
  rw [isBlank, hcs, List.all_cons, hc, Bool.false_and]

theorem stripStart_eq_nil_or_startsFirm (cs : List Char) :
    stripStart cs = [] ∨ StartsFirm (stripStart cs) := by
  induction cs with
  | nil => exact Or.inl rfl
  | cons c cs ih =>
    by_cases hc : isBlankChar c = true
    · have hstep : stripStart (c :: cs) = stripStart cs := List.dropWhile_cons_of_pos hc
      rw [hstep]
      exact ih
    · have hstep : stripStart (c :: cs) = c :: cs := List.dropWhile_cons_of_neg hc
      rw [hstep]
      exact Or.inr ⟨c, cs, rfl, by simpa using hc⟩

theorem stripEnd_eq_nil_or_endsFirm (cs : List Char) :
    stripEnd cs = [] ∨ EndsFirm (stripEnd cs) := by
  induction cs with
  | nil => exact Or.inl rfl
  | cons c cs ih =>
    rcases ih with hnil | ⟨front, d, hfront, hd⟩
    · by_cases hc : isBlankChar c = true
      · exact Or.inl (by simp [stripEnd, hnil, hc])
      · exact Or.inr ⟨[], c, by simp [stripEnd, hnil, hc], by simpa using hc⟩
    · have hstep : stripEnd (c :: cs) = c :: stripEnd cs := by
        cases hcs : stripEnd cs with
        | nil => simp [hcs] at hfront
        | cons e rest => simp [stripEnd, hcs]
      exact Or.inr ⟨c :: front, d, by rw [hstep, hfront, List.cons_append], hd⟩

/-- The first character stays first, unless nothing is left. -/
theorem StartsFirm.stripEnd {cs : List Char} (h : StartsFirm cs) : StartsFirm (stripEnd cs) := by
  obtain ⟨c, rest, rfl, hc⟩ := h
  cases hrest : Text.stripEnd rest with
  | nil => exact ⟨c, [], by simp [Text.stripEnd, hrest, hc], hc⟩
  | cons d ds => exact ⟨c, d :: ds, by simp [Text.stripEnd, hrest], hc⟩

/-- Trimming leaves nothing, or a text that trimming leaves as it is. -/
theorem strip_eq_nil_or_firm (cs : List Char) : strip cs = [] ∨ Firm (strip cs) := by
  rcases stripStart_eq_nil_or_startsFirm cs with hnil | hstart
  · exact Or.inl (by simp [strip, hnil, stripEnd])
  · rcases stripEnd_eq_nil_or_endsFirm (stripStart cs) with hnil | hend
    · exact Or.inl hnil
    · exact Or.inr ⟨hstart.stripEnd, hend⟩

theorem strip_strip (cs : List Char) : strip (strip cs) = strip cs := by
  rcases strip_eq_nil_or_firm cs with hnil | hfirm
  · rw [hnil]
    rfl
  · exact hfirm.strip_eq

theorem trim_trim (s : String) : trim (trim s) = trim s := by
  rw [trim, trim, String.toList_ofList, strip_strip]

end FilterClause.Text
