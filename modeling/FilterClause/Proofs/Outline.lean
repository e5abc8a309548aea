import FilterClause.Proofs.Trimming
import FilterClause.Writer
import Mathlib.Data.List.DropRight

/-!
Outlines: texts in which some places are holes for values. An outline is a template with its raw text
taken character by character, so two outlines that read alike are equal. Filling the holes commutes
with putting outlines together and, where no filling has white space at its ends, with trimming.
-/
namespace FilterClause

inductive Mark
  | char (c : Char)
  | hole (v : Scalar)
deriving DecidableEq, Repr

abbrev Outline := List Mark

/-- What is written in a hole, by its number and its value. -/
abbrev Filling := Nat → Scalar → String

/-- No filling is empty or has white space at its ends. -/
def Filling.Firm (filling : Filling) : Prop :=
  ∀ index v, Text.Firm (filling index v).toList

namespace Outline

def ofText (s : String) : Outline := s.toList.map .char

def ofTemplate : Template → Outline
  | [] => []
  | .raw s :: rest => ofText s ++ ofTemplate rest
  | .hole v :: rest => .hole v :: ofTemplate rest

/-- The values of the holes, in order. -/
def holes : Outline → List Scalar
  | [] => []
  | .char _ :: rest => holes rest
  | .hole v :: rest => v :: holes rest

/-- The outline with its holes filled, the first one numbered `index + 1`. -/
def fill (filling : Filling) (index : Nat) : Outline → List Char
  | [] => []
  | .char c :: rest => c :: fill filling index rest
  | .hole v :: rest => (filling (index + 1) v).toList ++ fill filling (index + 1) rest

@[simp]
theorem ofText_append (s t : String) : ofText (s ++ t) = ofText s ++ ofText t := by
  simp [ofText]

@[simp]
theorem holes_append (a b : Outline) : holes (a ++ b) = holes a ++ holes b := by
  induction a with
  | nil => rfl
  | cons mark a ih => cases mark <;> simp [holes, ih]

@[simp]
theorem holes_ofText (s : String) : holes (ofText s) = [] := by
  unfold ofText
  induction s.toList with
  | nil => rfl
  | cons c cs ih => simpa [holes] using ih

theorem fill_append (filling : Filling) (index : Nat) (a b : Outline) :
    fill filling index (a ++ b) =
      fill filling index a ++ fill filling (index + (holes a).length) b := by
  induction a generalizing index with
  | nil => rfl
  | cons mark a ih =>
    cases mark with
    | char c => simp [fill, holes, ih]
    | hole v => simp [fill, holes, ih, Nat.add_assoc, Nat.add_comm 1]

@[simp]
theorem fill_ofText (filling : Filling) (index : Nat) (s : String) :
    fill filling index (ofText s) = s.toList := by
  unfold ofText
  induction s.toList with
  | nil => rfl
  | cons c cs ih => simp [fill, ih]

/-- Fillings that agree on the holes of an outline fill it alike. -/
theorem fill_congr {f g : Filling} {i j : Nat} {o : Outline}
    (h : ∀ n v, (holes o)[n]? = some v → f (i + n + 1) v = g (j + n + 1) v) :
    fill f i o = fill g j o := by
  induction o generalizing i j with
  | nil => rfl
  | cons mark o ih =>
    cases mark with
    | char c => simp only [fill, ih h]
    | hole v =>
      have hhead : f (i + 1) v = g (j + 1) v := h 0 v rfl
      have htail : fill f (i + 1) o = fill g (j + 1) o := by
        apply ih
        intro n u hn
        simpa [Nat.add_assoc, Nat.add_comm 1] using h (n + 1) u hn
      simp only [fill, hhead, htail]

/-! ### White space at the ends -/

def isBlankMark : Mark → Bool
  | .char c => Text.isBlankChar c
  | .hole _ => false

/-- The outline without white space at its ends. -/
def strip (o : Outline) : Outline :=
  (o.dropWhile isBlankMark).rdropWhile isBlankMark

variable {filling : Filling}

theorem stripStart_fill (h : filling.Firm) (index : Nat) (o : Outline) :
    Text.stripStart (fill filling index o) = fill filling index (o.dropWhile isBlankMark) := by
  induction o generalizing index with
  | nil => rfl
  | cons mark o ih =>
    cases mark with
    | char c =>
      by_cases hc : isBlankMark (.char c) = true
      · have hskip : Text.stripStart (fill filling index (.char c :: o)) =
            Text.stripStart (fill filling index o) := List.dropWhile_cons_of_pos hc
        rw [hskip, ih, List.dropWhile_cons_of_pos hc]
      · have hkeep : Text.StartsFirm (fill filling index (.char c :: o)) :=
          ⟨c, fill filling index o, rfl, by simpa [isBlankMark] using hc⟩
        rw [hkeep.stripStart_eq, List.dropWhile_cons_of_neg hc]
    | hole v =>
      have hkeep : Text.StartsFirm (fill filling index (.hole v :: o)) := (h (index + 1) v).1.append _
      rw [hkeep.stripStart_eq, List.dropWhile_cons_of_neg (by simp [isBlankMark])]

theorem stripEnd_fill (h : filling.Firm) (index : Nat) (o : Outline) :
    Text.stripEnd (fill filling index o) = fill filling index (o.rdropWhile isBlankMark) := by
  induction o using List.reverseRecOn with
  | nil => rfl
  | append_singleton o mark ih =>
    rw [fill_append]
    cases mark with
    | char c =>
      simp only [fill, Text.stripEnd_concat]
      by_cases hc : isBlankMark (.char c) = true
      · have hblank : Text.isBlankChar c = true := hc
        rw [if_pos hblank, ih, List.rdropWhile_concat_pos _ _ _ hc]
      · have hink : ¬ Text.isBlankChar c = true := hc
        rw [if_neg hink, List.rdropWhile_concat_neg _ _ _ hc, fill_append]
        rfl
    | hole v =>
      have hkeep : Text.EndsFirm (fill filling (index + (holes o).length) [.hole v]) := by
        simpa [fill] using (h (index + (holes o).length + 1) v).2
      rw [(hkeep.append _).stripEnd_eq, List.rdropWhile_concat_neg _ _ _ (by simp [isBlankMark]),
        fill_append]

/-- Trimming a filled outline trims the outline. -/
theorem strip_fill (h : filling.Firm) (index : Nat) (o : Outline) :
    Text.strip (fill filling index o) = fill filling index o.strip := by
  rw [Text.strip, stripStart_fill h, stripEnd_fill h, strip]

/-- Trimming takes no hole away. -/
theorem holes_strip (o : Outline) : holes o.strip = holes o := by
  have hstart : ∀ o : Outline, holes (o.dropWhile isBlankMark) = holes o := by
    intro o
    induction o with
    | nil => rfl
    | cons mark o ih =>
      cases mark with
      | char c => by_cases hc : Text.isBlankChar c = true <;> simp [isBlankMark, hc, holes, ih]
      | hole v => simp [isBlankMark]
  have hend : ∀ o : Outline, holes (o.rdropWhile isBlankMark) = holes o := by
    intro o
    induction o using List.reverseRecOn with
    | nil => rfl
    | append_singleton o mark ih =>
      cases mark with
      | char c =>
        by_cases hc : isBlankMark (.char c) = true
        · rw [List.rdropWhile_concat_pos _ _ _ hc, ih, holes_append]
          simp [holes]
        · rw [List.rdropWhile_concat_neg _ _ _ hc]
      | hole v => rw [List.rdropWhile_concat_neg _ _ _ (by simp [isBlankMark])]
  rw [strip, hend, hstart]

theorem fill_eq_nil_iff (h : filling.Firm) (index : Nat) (o : Outline) :
    fill filling index o = [] ↔ o = [] := by
  cases o with
  | nil => simp [fill]
  | cons mark o =>
    cases mark with
    | char c => simp [fill]
    | hole v =>
      obtain ⟨⟨c, rest, hv, _⟩, _⟩ := h (index + 1) v
      simp [fill, hv]

/-! ### Texts -/

/-- The outline filled, its first hole numbered `index + 1`. -/
def text (filling : Filling) (index : Nat) (o : Outline) : String :=
  String.ofList (o.fill filling index)

theorem text_append (filling : Filling) (index : Nat) (a b : Outline) :
    text filling index (a ++ b) =
      text filling index a ++ text filling (index + a.holes.length) b := by
  rw [text, fill_append, String.ofList_append, text, text]

@[simp]
theorem text_ofText (filling : Filling) (index : Nat) (s : String) :
    text filling index (ofText s) = s := by
  rw [text, fill_ofText, String.ofList_toList]

theorem trim_text (h : filling.Firm) (index : Nat) (o : Outline) :
    Text.trim (o.text filling index) = o.strip.text filling index := by
  rw [Text.trim, text, String.toList_ofList, strip_fill h, text]

theorem text_eq_empty_iff (h : filling.Firm) (index : Nat) (o : Outline) :
    o.text filling index = "" ↔ o = [] := by
  rw [text, String.ofList_eq_empty_iff, fill_eq_nil_iff h]

end Outline

end FilterClause
