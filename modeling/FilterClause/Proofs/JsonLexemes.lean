import FilterClause.Json.Printer
import FilterClause.Json.Reader
import FilterClause.Proofs.Checked

/-!
Strings and whole numbers as they are written in JSON, read back from the front of a longer text. A
string ends with its quote. A number goes on as long as there are digits, so what stands behind it has to
end it.
-/
namespace FilterClause.Json

/-! ### Strings -/

theorem prepend_ok (c : Char) (s rest : List Char) :
    prepend c (.ok (s, rest)) = .ok (c :: s, rest) := rfl

/-- The four digits of a control character. -/
theorem hexCode_control :
    ∀ n < 0x20, hexCode '0' '0' (hexDigit (n / 16)) (hexDigit (n % 16)) = some n := by
  decide

theorem string_control {c : Char} (h : c.toNat < 0x20) (rest : List Char) :
    string ('\\' :: 'u' :: '0' :: '0' :: hexDigit (c.toNat / 16) :: hexDigit (c.toNat % 16) :: rest) =
      prepend c (string rest) := by
  have hlow : isLowSurrogate c.toNat = false := by
    simp only [isLowSurrogate, Bool.and_eq_false_iff, decide_eq_false_iff_not]
    omega
  have hhigh : isHighSurrogate c.toNat = false := by
    simp only [isHighSurrogate, Bool.and_eq_false_iff, decide_eq_false_iff_not]
    omega
  rw [string]
  simp only [hexCode_control c.toNat h, hlow, hhigh, Bool.false_eq_true, if_false, Char.ofNat_toNat]

theorem string_plain {c : Char} (hquote : c ≠ '"') (hslash : c ≠ '\\') (h : ¬ c.toNat < 0x20)
    (rest : List Char) : string (c :: rest) = prepend c (string rest) := by
  rw [string, if_neg h]
  all_goals simp [hquote, hslash]

/-- A character is read back from the form in which it stands in a string. -/
theorem string_escapeChar (c : Char) (rest : List Char) :
    string (escapeChar c ++ rest) = prepend c (string rest) := by
  unfold escapeChar
  split
  · rfl
  · rfl
  · rfl
  · rfl
  · rfl
  · rfl
  · rfl
  · rename_i hquote hslash _ _ _ _ _
    split
    · rename_i hcontrol
      exact string_control hcontrol rest
    · rename_i hprinted
      exact string_plain hquote hslash hprinted rest

theorem string_stringChars (cs rest : List Char) :
    string (cs.flatMap escapeChar ++ '"' :: rest) = .ok (cs, rest) := by
  induction cs with
  | nil => rfl
  | cons c cs ih =>
    rw [List.flatMap_cons, List.append_assoc, string_escapeChar, ih, prepend_ok]

theorem string?_stringChars (s : String) (rest : List Char) :
    string? (s.toList.flatMap escapeChar ++ '"' :: rest) = .ok (s, rest) := by
  rw [string?, string_stringChars]
  exact congrArg (fun s => Except.ok (s, rest)) String.ofList_toList

/-! ### Whole numbers -/

/-- Holds of what may stand behind a value: nothing, or what goes on with an array or object. -/
def Ends (rest : List Char) : Prop :=
  ∀ c ∈ rest.head?, c = ',' ∨ c = ']' ∨ c = '\x7d'

theorem ends_cons {c : Char} (h : c = ',' ∨ c = ']' ∨ c = '\x7d') (rest : List Char) :
    Ends (c :: rest) := by
  intro d hd
  cases hd
  exact h

theorem Ends.takeWhile_isDigit {rest : List Char} (h : Ends rest) :
    rest.takeWhile Char.isDigit = [] := by
  cases rest with
  | nil => rfl
  | cons c rest =>
    rcases h c rfl with rfl | rfl | rfl <;> rfl

theorem Ends.dropWhile_isDigit {rest : List Char} (h : Ends rest) :
    rest.dropWhile Char.isDigit = rest := by
  cases rest with
  | nil => rfl
  | cons c rest =>
    rcases h c rfl with rfl | rfl | rfl <;> rfl

theorem afterWhole_of_ends (negative : Bool) (digits : List Char) {rest : List Char} (h : Ends rest) :
    afterWhole negative digits rest = whole negative digits rest := by
  cases rest with
  | nil => rfl
  | cons c rest =>
    rcases h c rfl with rfl | rfl | rfl <;> rfl

/-- No numeral but that of zero starts with a zero. -/
theorem eq_zero_of_toDigits {n : Nat} {more : List Char} (h : Nat.toDigits 10 n = '0' :: more) :
    n = 0 := by
  induction n using Nat.strongRecOn generalizing more with
  | _ n ih =>
    by_cases hsmall : n < 10
    · rw [Nat.toDigits_of_lt_base hsmall] at h
      have hdigit : n.digitChar = '0' := by simpa using congrArg List.head? h
      have hall : ∀ m < 10, m.digitChar = '0' → m = 0 := by decide
      exact hall n hsmall hdigit
    · rw [Nat.toDigits_of_base_le (by decide) (Nat.le_of_not_lt hsmall)] at h
      obtain ⟨first, front, hfront⟩ :=
        List.exists_cons_of_ne_nil (Nat.toDigits_ne_nil (n := n / 10) (b := 10))
      rw [hfront, List.cons_append] at h
      have hzero := ih (n / 10) (by omega) (hfront.trans (by rw [(List.cons.inj h).1]))
      omega

theorem exists_toDigits_cons (n : Nat) :
    ∃ c more, Nat.toDigits 10 n = c :: more ∧ c.isDigit = true := by
  obtain ⟨c, more, hcons⟩ := List.exists_cons_of_ne_nil (Nat.toDigits_ne_nil (n := n) (b := 10))
  have hmem : c ∈ Nat.toDigits 10 n := by simp [hcons]
  exact ⟨c, more, hcons, Nat.isDigit_of_mem_toDigits (by decide) (by decide) hmem⟩

theorem valueOf_toDigits (n : Nat) : Decimal.valueOf (Nat.toDigits 10 n) = n :=
  Nat.ofDigitChars_ten_toDigits

theorem whole_of_inRange {negative : Bool} {n : Nat}
    (h : if negative then 0 < n ∧ n ≤ Nat.pow 2 63 else n < Nat.pow 2 64) (rest : List Char) :
    whole negative (Nat.toDigits 10 n) rest = .ok (.integer (if negative then -n else n), rest) := by
  unfold whole
  simp only [valueOf_toDigits]
  cases negative
  · rw [if_pos]
    simpa using h
  · rw [if_pos]
    simpa using h

theorem number?_toDigits {negative : Bool} {n : Nat} {rest : List Char}
    (h : if negative then 0 < n ∧ n ≤ Nat.pow 2 63 else n < Nat.pow 2 64) (hrest : Ends rest) :
    number? negative (Nat.toDigits 10 n ++ rest) =
      .ok (.integer (if negative then -n else n), rest) := by
  have hdigits : ∀ c ∈ Nat.toDigits 10 n, c.isDigit = true := fun c hc =>
    Nat.isDigit_of_mem_toDigits (by decide) (by decide) hc
  have htake : (Nat.toDigits 10 n ++ rest).takeWhile Char.isDigit = Nat.toDigits 10 n := by
    rw [List.takeWhile_append_of_pos hdigits, hrest.takeWhile_isDigit, List.append_nil]
  have hdrop : (Nat.toDigits 10 n ++ rest).dropWhile Char.isDigit = rest := by
    rw [List.dropWhile_append_of_pos hdigits, hrest.dropWhile_isDigit]
  obtain ⟨c, more, hcons, hdigit⟩ := exists_toDigits_cons n
  by_cases hzero : c = '0'
  · subst hzero
    have hn := eq_zero_of_toDigits hcons
    subst hn
    rw [Nat.toDigits_zero, List.singleton_append, number?, hrest.takeWhile_isDigit]
    exact (afterWhole_of_ends negative ['0'] hrest).trans (whole_of_inRange h rest)
  · have hread : number? negative (c :: (more ++ rest)) =
        afterWhole negative ((c :: (more ++ rest)).takeWhile Char.isDigit)
          ((c :: (more ++ rest)).dropWhile Char.isDigit) := by
      rw [number?, if_pos hdigit]
      simpa using hzero
    rw [hcons, List.cons_append] at htake hdrop ⊢
    rw [hread, htake, hdrop, afterWhole_of_ends _ _ hrest, ← hcons]
    exact whole_of_inRange h rest

end FilterClause.Json
