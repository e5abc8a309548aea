import FilterClause.Proofs.NumericKeys

/-!
Numbers as they are written without an exponent. Each is a sign and a significand of the grammar of
numbers. So a number has no hyphen but its sign, and trimming leaves it as it is.
-/
namespace FilterClause

namespace Decimal

/-- The texts of numbers without an exponent. -/
inductive PlainNumber : List Char → Prop
  | mk {sign significand : List Char} :
    SignText sign → SignificandText significand → PlainNumber (sign ++ significand)

/-! ### Digits -/

theorem digitsText_toDigits (n : Nat) : DigitsText (Nat.toDigits 10 n) :=
  ⟨Nat.toDigits_ne_nil, fun _ hc => Nat.isDigit_of_mem_toDigits (by omega) (by omega) hc⟩

theorem digitsText_zero : DigitsText ['0'] :=
  ⟨List.cons_ne_nil _ _, List.forall_mem_singleton.mpr rfl⟩

theorem isDigit_of_mem_zeros {n : Nat} : ∀ c ∈ (zeros n).toList, c.isDigit = true := by
  intro c hc
  rw [zeros, String.toList_ofList] at hc
  rw [List.eq_of_mem_replicate hc]
  rfl

theorem DigitsText.append {digits more : List Char} (h : DigitsText digits)
    (hmore : ∀ c ∈ more, c.isDigit = true) : DigitsText (digits ++ more) :=
  ⟨List.append_ne_nil_of_left_ne_nil h.ne_nil more, List.forall_mem_append.mpr ⟨h.isDigit, hmore⟩⟩

theorem DigitsText.take {digits : List Char} (h : DigitsText digits) {n : Nat} (hn : n ≠ 0) :
    DigitsText (digits.take n) := by
  refine ⟨?_, fun c hc => h.isDigit c (List.mem_of_mem_take hc)⟩
  rw [ne_eq, List.take_eq_nil_iff, not_or]
  exact ⟨hn, h.ne_nil⟩

/-! ### Written numbers -/

theorem significandText_writePositional (keepsPoint : Bool) {digits : List Char}
    (h : DigitsText digits) (scale : Int) :
    SignificandText (writePositional keepsPoint digits scale).toList := by
  unfold writePositional
  dsimp only
  split
  · have hwhole := h.append (isDigit_of_mem_zeros (n := scale.toNat))
    cases keepsPoint with
    | false => simpa using SignificandText.whole hwhole
    | true => simpa using SignificandText.point hwhole digitsText_zero.isDigit
  · split
    · rename_i horder
      have hfront := h.take (n := (scale + digits.length).toNat) (by omega)
      have hback : ∀ c ∈ digits.drop (scale + digits.length).toNat, c.isDigit = true :=
        fun c hc => h.isDigit c (List.mem_of_mem_drop hc)
      simpa using SignificandText.point hfront hback
    · have hback := List.forall_mem_append.mpr
        ⟨isDigit_of_mem_zeros (n := (-(scale + digits.length)).toNat), h.isDigit⟩
      simpa using SignificandText.point digitsText_zero hback

theorem toList_toString (i : Int) :
    (toString i).toList =
      if 0 ≤ i then Nat.toDigits 10 i.toNat else '-' :: Nat.toDigits 10 (-i).toNat := by
  rw [Int.toString_eq_repr, Int.repr_eq_if]
  split
  · exact Nat.toList_repr
  · rw [String.toList_append, Nat.toList_repr]
    rfl

theorem plainNumber_toString (i : Int) : PlainNumber (toString i).toList := by
  rw [toList_toString]
  split
  · exact .mk .none (.whole (digitsText_toDigits _))
  · exact .mk .minus (.whole (digitsText_toDigits _))

theorem plainNumber_write_plain (x : Binary64) : PlainNumber (write .plain x).toList := by
  have hsign : SignText (if x.negative then "-" else "").toList := by
    cases x.negative
    · exact .none
    · exact .minus
  unfold write
  dsimp only
  split
  · rw [String.toList_append]
    exact .mk hsign (.whole digitsText_zero)
  · rw [if_pos (show Layout.plain.positional _ = true from rfl), String.toList_append]
    exact .mk hsign (significandText_writePositional _ (digitsText_toDigits _) _)

/-! ### Characters -/

theorem hyphens_of_isDigit {cs : List Char} (h : ∀ c ∈ cs, c.isDigit = true) : cs.count '-' = 0 := by
  rw [List.count_eq_zero]
  intro hmem
  exact absurd (h '-' hmem) (by decide)

theorem SignificandText.hyphens {cs : List Char} (h : SignificandText cs) : cs.count '-' = 0 := by
  cases h with
  | whole hdigits => exact hyphens_of_isDigit hdigits.isDigit
  | point hdigits hfraction =>
    simp [hyphens_of_isDigit hdigits.isDigit, hyphens_of_isDigit hfraction]
  | fraction hdigits => simp [hyphens_of_isDigit hdigits.isDigit]

/-- Without an exponent a number has at most the hyphen of its sign. -/
theorem PlainNumber.hyphens_le {cs : List Char} (h : PlainNumber cs) : cs.count '-' ≤ 1 := by
  obtain ⟨hsign, hsignificand⟩ := h
  rw [List.count_append, hsignificand.hyphens]
  cases hsign with
  | none => decide
  | plus => decide
  | minus => decide

theorem PlainNumber.firm {cs : List Char} (h : PlainNumber cs) : Text.Firm cs := by
  obtain ⟨hsign, hsignificand⟩ := h
  obtain ⟨c, hc, _⟩ := hsignificand.exists_digit
  refine Text.firm_of_forall (List.ne_nil_of_mem (List.mem_append_right _ hc)) fun c hc => ?_
  refine (bounds_of_isNumeralChar ?_).2
  rcases List.mem_append.mp hc with hc | hc
  · exact hsign.isNumeralChar c hc
  · exact hsignificand.isNumeralChar c hc

end Decimal

end FilterClause
