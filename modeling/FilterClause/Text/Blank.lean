/-!
White space at the two ends of a text. A text is blank when it holds nothing else.
-/
namespace FilterClause.Text

/-- Holds of the characters that have the Unicode property White_Space. -/
def isBlankChar (c : Char) : Bool :=
  let n := c.toNat
  (9 ≤ n && n ≤ 13) || n == 0x20 || n == 0x85 || n == 0xA0 || n == 0x1680 ||
    (0x2000 ≤ n && n ≤ 0x200A) || n == 0x2028 || n == 0x2029 || n == 0x202F ||
    n == 0x205F || n == 0x3000

/-- The characters from the first one that is not blank. -/
def stripStart (cs : List Char) : List Char :=
  cs.dropWhile isBlankChar

/-- The characters up to the last one that is not blank. -/
def stripEnd : List Char → List Char
  | [] => []
  | c :: cs =>
    match stripEnd cs with
    | [] => if isBlankChar c then [] else [c]
    | kept => c :: kept

def strip (cs : List Char) : List Char :=
  stripEnd (stripStart cs)

def trimEnd (s : String) : String :=
  String.ofList (stripEnd s.toList)

def trim (s : String) : String :=
  String.ofList (strip s.toList)

def isBlank (s : String) : Bool :=
  s.toList.all isBlankChar

theorem stripStart_eq_nil_iff (cs : List Char) :
    stripStart cs = [] ↔ ∀ c ∈ cs, isBlankChar c = true := by
  induction cs with
  | nil => simp [stripStart]
  | cons c cs ih =>
    by_cases hc : isBlankChar c = true
    · have hstep : stripStart (c :: cs) = stripStart cs := List.dropWhile_cons_of_pos hc
      rw [hstep, ih]
      simp [hc]
    · simp [stripStart, hc]

theorem stripEnd_eq_nil_iff (cs : List Char) :
    stripEnd cs = [] ↔ ∀ c ∈ cs, isBlankChar c = true := by
  induction cs with
  | nil => simp [stripEnd]
  | cons c cs ih =>
    cases h : stripEnd cs with
    | nil =>
      have hcs := ih.mp h
      by_cases hc : isBlankChar c = true
      · simp [stripEnd, h, hc]
        exact hcs
      · simp [stripEnd, h, hc]
    | cons d ds =>
      have hcs : ¬ ∀ c ∈ cs, isBlankChar c = true := fun hall => by
        simp [ih.mpr hall] at h
      simp only [stripEnd, h, reduceCtorEq, List.mem_cons, forall_eq_or_imp, false_iff]
      exact fun hall => hcs hall.2

/-- A text is blank exactly when nothing is left of it after trimming. -/
theorem trim_eq_empty_iff (s : String) : trim s = "" ↔ isBlank s = true := by
  rw [← String.toList_inj]
  simp only [trim, strip, String.toList_ofList, String.toList_empty, stripEnd_eq_nil_iff,
    isBlank, List.all_eq_true]
  constructor
  · intro h
    have hstart : stripStart s.toList = [] := by
      match hs : stripStart s.toList with
      | [] => rfl
      | c :: cs =>
        have hc := h c (by simp [hs])
        have hhead : isBlankChar c = false := by
          have := List.head?_dropWhile_not isBlankChar s.toList
          simp [stripStart] at hs
          simpa [hs] using this
        simp [hc] at hhead
    exact (stripStart_eq_nil_iff _).mp hstart
  · intro h c hc
    simp [(stripStart_eq_nil_iff _).mpr h] at hc

end FilterClause.Text
