import FilterClause.Literal
import Mathlib.Algebra.Group.Nat.Even
import Mathlib.Data.List.Induction

/-!
What an escaped text is to a reader of literals. The reader finds the closing quote behind it, whatever
follows, and has then read the text itself, since within it every quote stands behind an odd number of
backslashes. So texts that are escaped alike are the same, and escaping goes character by character.
-/
namespace FilterClause.Literal

/-! ### Reading back -/

theorem scan_of_plain {c : Char} (hquote : c ≠ '\'') (hslash : c ≠ '\\') (rest : List Char) :
    scan (c :: rest) = (scan rest).map fun (content, rest) => (c :: content, rest) := by
  rw [scan.eq_def]
  split <;> simp_all

/-- An escaped character is read as the character itself. -/
theorem scan_escapeChar (c : Char) (rest : List Char) :
    scan (escapeChar c ++ rest) = (scan rest).map fun (content, rest) => (c :: content, rest) := by
  rcases escapeChar_cases c with ⟨hplain, hquote, _, hslash, _⟩ | ⟨d, hescaped, rfl, _⟩
  · rw [hplain, List.singleton_append, scan_of_plain hquote hslash]
  · rw [hescaped]
    rfl

/-- The closing quote is found behind an escaped text, whatever follows it. -/
theorem scan_escapeChars (cs rest : List Char) :
    scan (escapeChars cs ++ '\'' :: rest) = some (cs, rest) := by
  induction cs with
  | nil => rfl
  | cons c cs ih => rw [escapeChars_cons, List.append_assoc, scan_escapeChar, ih, Option.map_some]

theorem escapeChars_injective : Function.Injective escapeChars := by
  intro a b h
  have hread : scan (escapeChars a ++ ['\'']) = some (b, []) := by rw [h, scan_escapeChars]
  rw [scan_escapeChars] at hread
  exact (Prod.ext_iff.mp (Option.some.inj hread)).1

/-! ### Backslashes before quotes -/

/-- The number of backslashes at the end of a text. -/
def closingSlashes (cs : List Char) : Nat :=
  (cs.reverse.takeWhile (· = '\\')).length

theorem closingSlashes_concat_slash (cs : List Char) :
    closingSlashes (cs ++ ['\\']) = closingSlashes cs + 1 := by
  simp [closingSlashes]

theorem closingSlashes_concat_of_ne (cs : List Char) {c : Char} (h : c ≠ '\\') :
    closingSlashes (cs ++ [c]) = 0 := by
  simp [closingSlashes, h]

theorem escapeChars_concat (cs : List Char) (c : Char) :
    escapeChars (cs ++ [c]) = escapeChars cs ++ escapeChar c := by
  simp [escapeChars_append]

/-- The backslashes at the end of an escaped text are pairs. -/
theorem even_closingSlashes_escapeChars (cs : List Char) :
    Even (closingSlashes (escapeChars cs)) := by
  induction cs using List.reverseRecOn with
  | nil => exact ⟨0, rfl⟩
  | append_singleton cs c ih =>
    rw [escapeChars_concat]
    rcases escapeChar_cases c with ⟨hplain, _, _, hslash, _⟩ | ⟨d, hescaped, _⟩
    · rw [hplain, closingSlashes_concat_of_ne _ hslash]
      exact ⟨0, rfl⟩
    · have hsplit : escapeChars cs ++ ['\\', d] = (escapeChars cs ++ ['\\']) ++ [d] := by simp
      rw [hescaped, hsplit]
      by_cases hd : d = '\\'
      · rw [hd, closingSlashes_concat_slash, closingSlashes_concat_slash]
        exact ih.add ⟨1, rfl⟩
      · rw [closingSlashes_concat_of_ne _ hd]
        exact ⟨0, rfl⟩

/-- Holds of texts in which no quote, single or double, stands behind an even number of backslashes. -/
def Shielded (cs : List Char) : Prop :=
  ∀ front mark back, cs = front ++ mark :: back → mark = '\'' ∨ mark = '"' →
    ¬ Even (closingSlashes front)

/-- A quote within an escaped character stands behind its backslash. -/
theorem eq_slash_of_escapeChar {c mark : Char} {front back : List Char}
    (h : escapeChar c = front ++ mark :: back) (hmark : mark = '\'' ∨ mark = '"') :
    front = ['\\'] := by
  rcases escapeChar_cases c with ⟨hplain, hquote, hdouble, _⟩ | ⟨d, hescaped, _⟩
  · rw [hplain, eq_comm, List.append_eq_singleton_iff] at h
    obtain ⟨_, h⟩ | ⟨_, h⟩ := h
    · obtain rfl : mark = c := List.head_eq_of_cons_eq h
      exact absurd hmark (not_or.mpr ⟨hquote, hdouble⟩)
    · exact nomatch h
  · rw [hescaped] at h
    match front, h with
    | [], h =>
      obtain rfl : '\\' = mark := List.head_eq_of_cons_eq h
      exact absurd hmark (by decide)
    | [slash], h =>
      obtain rfl : '\\' = slash := List.head_eq_of_cons_eq h
      rfl
    | _ :: _ :: front, h => simp at h

theorem shielded_escapeChars (cs : List Char) : Shielded (escapeChars cs) := by
  induction cs using List.reverseRecOn with
  | nil => simp [Shielded]
  | append_singleton cs c ih =>
    intro front mark back h hmark
    -- A quote in the last character has its backslash behind the pairs of the characters before.
    have hlast : ∀ inner, front = escapeChars cs ++ inner → escapeChar c = inner ++ mark :: back →
        ¬ Even (closingSlashes front) := by
      rintro inner rfl hinner
      rw [eq_slash_of_escapeChar hinner hmark, closingSlashes_concat_slash, Nat.even_add_one,
        not_not]
      exact even_closingSlashes_escapeChars cs
    rw [escapeChars_concat, List.append_eq_append_iff] at h
    obtain ⟨inner, hfront, hinner⟩ | ⟨rest, hcs, hrest⟩ := h
    · exact hlast inner hfront hinner
    · cases rest with
      | nil => exact hlast [] (by rw [hcs]; simp) hrest.symm
      | cons first rest =>
        obtain rfl : mark = first := List.head_eq_of_cons_eq hrest
        exact ih front mark rest hcs hmark

theorem nul_notMem_escapeChars (cs : List Char) : '\x00' ∉ escapeChars cs := by
  intro h
  obtain ⟨c, _, hc⟩ := List.mem_flatMap.mp h
  rcases escapeChar_cases c with ⟨hplain, _, _, _, hnul⟩ | ⟨d, hescaped, _, hnul⟩
  · rw [hplain, List.mem_singleton] at hc
    exact hnul hc.symm
  · rw [hescaped, List.mem_cons, List.mem_singleton] at hc
    obtain hc | hc := hc
    · exact absurd hc (by decide)
    · exact hnul hc.symm

/-! ### Texts -/

/-- Behind an opening quote, an escaped text with a quote behind it is read as the text, and what follows
is left as it is. Different texts are escaped differently, without NUL and with a backslash in front of
every quote, and a text that is put together is escaped part by part. -/
theorem escape_self_delimiting :
    (∀ (raw : String) (rest : List Char),
      scan ((escape raw).toList ++ '\'' :: rest) = some (raw.toList, rest)) ∧
    Function.Injective escape ∧
    (∀ raw : String, '\x00' ∉ (escape raw).toList ∧ Shielded (escape raw).toList) ∧
    ∀ a b : String, escape (a ++ b) = escape a ++ escape b := by
  refine ⟨fun raw rest => ?_, fun a b h => ?_, fun raw => ?_, fun a b => ?_⟩
  · rw [escape, String.toList_ofList, scan_escapeChars]
  · exact String.toList_inj.mp (escapeChars_injective (String.ofList_injective h))
  · rw [escape, String.toList_ofList]
    exact ⟨nul_notMem_escapeChars _, shielded_escapeChars _⟩
  · rw [escape, String.toList_append, escapeChars_append, String.ofList_append, escape, escape]

end FilterClause.Literal
