import FilterClause.Proofs.Writing

/-!
Chains of conditions. A loop over filters puts each condition behind a separator after the text that is
there already, and finds out by that text whether the condition is the first one. It writes the chain
of the links that the filters give, and is refused where the first filter without a link is.
-/
namespace FilterClause

/-- A separator and the outline behind it. -/
abbrev Link := String × Outline

/-- The links of a list in order. Each is told whether it is the first one. -/
def links {α : Type} (link : Bool → α → Checked Link) (first : Bool) :
    List α → Checked (List Link)
  | [] => .ok []
  | a :: rest => do
    let l ← link first a
    let more ← links link false rest
    return l :: more

namespace Outline

def attach (acc : Outline) (link : Link) : Outline :=
  if acc.isEmpty then link.2 else acc ++ (ofText link.1 ++ link.2)

def chain (links : List Link) : Outline :=
  links.foldl attach []

theorem attach_ne_nil {acc : Outline} {link : Link} (h : link.2 ≠ []) : acc.attach link ≠ [] := by
  unfold attach
  split
  · exact h
  · simp [h]

/-! ### Outlines without white space at their ends -/

/-- Neither the first mark nor the last one is white space. -/
structure Firm (o : Outline) : Prop where
  head : ∀ mark ∈ o.head?, isBlankMark mark = false
  last : ∀ mark ∈ o.getLast?, isBlankMark mark = false

theorem Firm.strip_eq {o : Outline} (h : o.Firm) : o.strip = o := by
  have hstart : o.dropWhile isBlankMark = o := by
    cases o with
    | nil => rfl
    | cons mark o => exact List.dropWhile_cons_of_neg (by simp [h.head mark rfl])
  rw [strip, hstart, List.rdropWhile_eq_self_iff]
  intro hne
  simp [h.last (o.getLast hne) (List.getLast?_eq_getLast_of_ne_nil hne)]

theorem firm_strip (o : Outline) : o.strip.Firm := by
  constructor
  · intro mark hmark
    have hprefix : o.strip <+: o.dropWhile isBlankMark := List.rdropWhile_prefix _ _
    obtain ⟨rest, hrest⟩ := hprefix
    have hhead : mark ∈ (o.dropWhile isBlankMark).head? := by
      rw [← hrest]
      cases hs : o.strip with
      | nil => simp [hs] at hmark
      | cons first more => simpa [hs] using hmark
    have hnot := List.head?_dropWhile_not isBlankMark o
    rw [Option.mem_def.mp hhead] at hnot
    simpa using hnot
  · intro mark hmark
    have hne : o.strip ≠ [] := by
      intro hnil
      simp [hnil] at hmark
    have hnot := List.rdropWhile_last_not isBlankMark (o.dropWhile isBlankMark) hne
    rw [List.getLast?_eq_getLast_of_ne_nil hne, Option.mem_some_iff] at hmark
    rw [← hmark]
    simpa [strip] using hnot

theorem Firm.attach {acc : Outline} {link : Link} (hacc : acc.Firm) (hlink : link.2.Firm)
    (hne : link.2 ≠ []) : (acc.attach link).Firm := by
  cases acc with
  | nil => exact hlink
  | cons mark acc =>
    constructor
    · intro first hfirst
      exact hacc.head first (by simpa [Outline.attach] using hfirst)
    · intro last hlast
      have hend : (Outline.attach (mark :: acc) link).getLast? = link.2.getLast? := by
        have hlast : link.2.getLast? = some (link.2.getLast hne) :=
          List.getLast?_eq_getLast_of_ne_nil hne
        simp [Outline.attach, List.getLast?_append, List.getLast?_cons, hlast]
      exact hlink.last last (hend ▸ hlast)

end Outline

/-! ### Writing a chain -/

/-- Holds of a writing that leaves an outline filled by the writer, from every writer, and that is
refused just where the outline is. -/
def Writes (writing : Writing String) (o : Checked Outline) : Prop :=
  ∀ w, writing w = (fun o => (w.text o, w.after o)) <$> o

/-- Text goes behind a text as an outline goes behind an outline. -/
theorem Writer.text_join (w : Writer) (acc : Outline) (link : Link) :
    (if w.text acc = "" then (w.after acc).text link.2
      else w.text acc ++ link.1 ++ (w.after acc).text link.2) = w.text (acc.attach link) := by
  cases acc with
  | nil => simp [Outline.attach]
  | cons mark acc =>
    have hne : ¬ w.text (mark :: acc) = "" := by simp [text_eq_empty_iff]
    simp only [hne, if_false, Outline.attach, List.isEmpty_cons, Bool.false_eq_true, text_append,
      text_ofText, after_ofText, String.append_assoc]

theorem Writer.text_attach (w : Writer) (acc : Outline) (connective : String) (o : Outline) :
    FilterClause.attach (w.text acc) connective ((w.after acc).text o) =
      w.text (acc.attach (" " ++ connective ++ " ", o)) := by
  rw [← text_join, FilterClause.attach]
  simp only [String.append_assoc]

theorem Writer.after_attach (w : Writer) (acc : Outline) (link : Link) :
    (w.after acc).after link.2 = w.after (acc.attach link) := by
  cases acc with
  | nil => simp [Outline.attach]
  | cons mark acc =>
    have hsplit : Outline.attach (mark :: acc) link = (mark :: acc) ++ (.ofText link.1 ++ link.2) := rfl
    rw [hsplit, ← after_append, ← after_append, after_ofText]

/-- `AND` is what stands between two texts. -/
theorem append_separator (acc condition : String) :
    acc ++ separator acc ++ condition = attach acc "AND" condition := by
  unfold separator attach
  split
  · simp_all
  · simp only [String.append_assoc]
    rfl

/-- Each step of a loop writes one link behind the outline that is there, and keeps an invariant of that
outline. No link is empty. -/
structure StepWrites {α : Type} (step : String → α → Writing String)
    (link : Bool → α → Checked Link) (inv : Outline → Prop) : Prop where
  run : ∀ (acc : Outline) (a : α) (w : Writer), inv acc →
    step (w.text acc) a (w.after acc) =
      (fun l => (w.text (acc.attach l), w.after (acc.attach l))) <$> link acc.isEmpty a
  keeps : ∀ (acc : Outline) (a : α) (l : Link), inv acc → link acc.isEmpty a = .ok l →
    l.2 ≠ [] ∧ inv (acc.attach l)

namespace StepWrites

variable {α : Type} {step : String → α → Writing String} {link : Bool → α → Checked Link}
  {inv : Outline → Prop}

/-- The links are put behind what is there when the loop starts. -/
theorem foldlM_run (h : StepWrites step link inv) (as : List α) (acc : Outline) (w : Writer)
    (hacc : inv acc) :
    as.foldlM step (w.text acc) (w.after acc) =
      (fun ls => (w.text (ls.foldl Outline.attach acc), w.after (ls.foldl Outline.attach acc))) <$>
        links link acc.isEmpty as := by
  induction as generalizing acc with
  | nil => rfl
  | cons a as ih =>
    rw [List.foldlM_cons, Writing.run_bind, h.run acc a w hacc, links]
    cases hlink : link acc.isEmpty a with
    | error failure => rfl
    | ok l =>
      obtain ⟨hne, hnext⟩ := h.keeps acc a l hacc hlink
      have hfirst : (acc.attach l).isEmpty = false := by
        simpa using Outline.attach_ne_nil hne
      have hmore := ih (acc.attach l) hnext
      rw [hfirst] at hmore
      rw [Checked.map_ok, Checked.ok_bind, hmore, Checked.ok_bind]
      cases links link false as <;> rfl

/-- The invariant holds of what is there when the loop ends. -/
theorem inv_foldl (h : StepWrites step link inv) {as : List α} {acc : Outline} {ls : List Link}
    (hacc : inv acc) (hls : links link acc.isEmpty as = .ok ls) :
    inv (ls.foldl Outline.attach acc) := by
  induction as generalizing acc ls with
  | nil =>
    cases hls
    exact hacc
  | cons a as ih =>
    obtain ⟨l, hlink, hls⟩ := Checked.bind_eq_ok_iff.mp hls
    obtain ⟨more, hmore, hls⟩ := Checked.bind_eq_ok_iff.mp hls
    cases hls
    obtain ⟨hne, hnext⟩ := h.keeps acc a l hacc hlink
    have hrest : links link (acc.attach l).isEmpty as = .ok more := by
      rw [List.isEmpty_eq_false_iff.mpr (Outline.attach_ne_nil hne)]
      exact hmore
    rw [List.foldl_cons]
    exact ih hnext hrest

/-- A loop that starts with nothing writes the chain of its links. -/
theorem writes_chain (h : StepWrites step link inv) (hnil : inv []) (as : List α) :
    Writes (as.foldlM step "") (Outline.chain <$> links link true as) := by
  intro w
  have hrun := h.foldlM_run as [] w hnil
  rw [Writer.text_nil, Writer.after_nil] at hrun
  rw [hrun]
  simp only [List.isEmpty_nil]
  cases links link true as <;> rfl

end StepWrites

end FilterClause
