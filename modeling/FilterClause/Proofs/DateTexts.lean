import FilterClause.Proofs.Checked
import FilterClause.Proofs.WrittenNumbers

/-!
Texts that denote a day. The numbers of a day stand between two hyphens, and the text of a scalar that is
no text has at most one, the sign of a number. So nothing but a text is ever read as a date.
-/
namespace FilterClause

namespace Text

theorem stripEnd_isPrefix (cs : List Char) : stripEnd cs <+: cs := by
  induction cs with
  | nil => exact List.prefix_rfl
  | cons c cs ih =>
    cases h : stripEnd cs with
    | nil =>
      by_cases hc : isBlankChar c = true <;> simp [stripEnd, h, hc]
    | cons d ds =>
      rw [h] at ih
      simpa [stripEnd, h] using ih

theorem strip_sublist (cs : List Char) : (strip cs).Sublist cs :=
  (stripEnd_isPrefix _).sublist.trans (List.dropWhile_suffix _).sublist

end Text

namespace Date

theorem suffix_of_readNumber {width : Option Nat} {cs rest : List Char} {n : Nat}
    (h : readNumber width cs = some (n, rest)) : rest <:+ cs := by
  unfold readNumber at h
  dsimp only at h
  cases width <;> dsimp only at h <;> split at h
  · exact nomatch h
  · cases h
    exact List.drop_suffix _ _
  · exact nomatch h
  · cases h
    exact List.drop_suffix _ _

theorem suffix_of_readYear {cs rest : List Char} {year : Int}
    (h : readYear cs = some (year, rest)) : rest <:+ cs := by
  unfold readYear at h
  have hstart : Text.stripStart cs <:+ cs := List.dropWhile_suffix _
  split at h
  all_goals
    obtain ⟨⟨n, rest'⟩, hnumber, hrest⟩ := Option.map_eq_some_iff.mp h
    cases hrest
    have hafter := suffix_of_readNumber hnumber
  · rename_i hsign
    exact (hafter.trans (hsign ▸ List.suffix_cons _ _)).trans hstart
  · rename_i hsign
    exact (hafter.trans (hsign ▸ List.suffix_cons _ _)).trans hstart
  · exact hafter.trans hstart

theorem of_readHyphen {cs rest : List Char} (h : readHyphen cs = some rest) : cs = '-' :: rest := by
  unfold readHyphen at h
  split at h
  · cases h
    rfl
  · exact nomatch h

/-- There is a hyphen on either side of the month. -/
theorem two_le_hyphens_of_read? {cs : List Char} {date : Date} (h : read? cs = some date) :
    2 ≤ cs.count '-' := by
  unfold read? at h
  obtain ⟨⟨year, afterYear⟩, hyear, h⟩ := Option.bind_eq_some_iff.mp h
  obtain ⟨beforeMonth, hfirst, h⟩ := Option.bind_eq_some_iff.mp h
  obtain ⟨⟨month, afterMonth⟩, hmonth, h⟩ := Option.bind_eq_some_iff.mp h
  obtain ⟨beforeDay, hsecond, h⟩ := Option.bind_eq_some_iff.mp h
  have hyearEnd := (suffix_of_readYear hyear).sublist.count_le '-'
  have hmonthEnd := (suffix_of_readNumber hmonth).sublist.count_le '-'
  have hmonthStart := (List.dropWhile_suffix (l := beforeMonth) Text.isBlankChar).sublist.count_le '-'
  rw [of_readHyphen hfirst, List.count_cons_self] at hyearEnd
  rw [of_readHyphen hsecond, List.count_cons_self] at hmonthEnd
  have hsame : List.count '-' (Text.stripStart beforeMonth) =
      List.count '-' (beforeMonth.dropWhile Text.isBlankChar) := rfl
  omega

end Date

theorem Scalar.hyphens_asText {v : Scalar} (h : ∀ s, v ≠ .text s) : v.asText.toList.count '-' ≤ 1 := by
  cases v with
  | null => decide
  | boolean b => cases b <;> decide
  | integer i => exact (Decimal.plainNumber_toString i).hyphens_le
  | float x => exact (Decimal.plainNumber_write_plain x).hyphens_le
  | text s => exact absurd rfl (h s)

/-- Only a text is read as a date. -/
theorem Scalar.eq_text_of_readDate {v : Scalar} {s : String} {date : Date}
    (h : readDate s = .ok date) (hs : (Text.strip s.toList).Sublist v.asText.toList) :
    ∃ t, v = .text t := by
  have hread : Date.read? (Text.strip s.toList) = some date := by
    unfold readDate at h
    split at h
    · rename_i found hfound
      cases h
      exact hfound
    · exact nomatch h
  have hmany := Date.two_le_hyphens_of_read? hread
  have hle := hs.count_le '-'
  have hsome : ¬ ∀ t, v ≠ .text t := by
    intro hnone
    have hfew := hyphens_asText hnone
    omega
  simpa using hsome

end FilterClause
