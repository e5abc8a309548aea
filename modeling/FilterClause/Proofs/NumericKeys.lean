import FilterClause.Filter
import FilterClause.Proofs.Trimming
import Mathlib.Data.List.TakeWhile

/-!
Keys that look like numbers. A grammar of decimal numbers stands beside the tests that a key goes
through. Of the texts that are read in floating point it derives those with a digit, and the test of the
characters turns away none of these.
-/
namespace FilterClause

namespace Decimal

/-! ### The grammar -/

/-- Holds of a run of digits, one at least. -/
structure DigitsText (cs : List Char) : Prop where
  ne_nil : cs ≠ []
  isDigit : ∀ c ∈ cs, c.isDigit = true

/-- The texts of a sign, which may be left out. -/
inductive SignText : List Char → Prop
  | none : SignText []
  | plus : SignText ['+']
  | minus : SignText ['-']

/-- The texts between sign and exponent. Digits may be missing on one side of the point only. -/
inductive SignificandText : List Char → Prop
  | whole {digits : List Char} : DigitsText digits → SignificandText digits
  | point {digits fraction : List Char} :
    DigitsText digits → (∀ c ∈ fraction, c.isDigit = true) →
    SignificandText (digits ++ '.' :: fraction)
  | fraction {digits : List Char} : DigitsText digits → SignificandText ('.' :: digits)

/-- The texts of an exponent, which may be left out. -/
inductive ExponentText : List Char → Prop
  | none : ExponentText []
  | marked {mark : Char} {sign digits : List Char} :
    mark = 'e' ∨ mark = 'E' → SignText sign → DigitsText digits →
    ExponentText (mark :: (sign ++ digits))

/-- The texts of decimal numbers. -/
inductive NumberText : List Char → Prop
  | mk {sign significand exponent : List Char} :
    SignText sign → SignificandText significand → ExponentText exponent →
    NumberText (sign ++ (significand ++ exponent))

/-! ### Reading the parts -/

theorem isDigits_iff (cs : List Char) : isDigits cs = true ↔ DigitsText cs := by
  constructor
  · intro h
    simp only [isDigits, Bool.and_eq_true, Bool.not_eq_true', List.isEmpty_eq_false_iff,
      List.all_eq_true] at h
    exact ⟨h.1, h.2⟩
  · intro h
    simpa [isDigits, h.ne_nil] using h.isDigit

theorem exists_sign (cs : List Char) : ∃ sign, SignText sign ∧ cs = sign ++ dropSign cs := by
  unfold dropSign
  split
  · exact ⟨['+'], .plus, rfl⟩
  · exact ⟨['-'], .minus, rfl⟩
  · exact ⟨[], .none, rfl⟩

/-- Behind a sign comes no second one. -/
theorem dropSign_append {sign cs : List Char} (h : SignText sign) (hcs : dropSign cs = cs) :
    dropSign (sign ++ cs) = cs := by
  cases h with
  | none => exact hcs
  | plus => rfl
  | minus => rfl

theorem DigitsText.dropSign_append {digits : List Char} (h : DigitsText digits) (cs : List Char) :
    dropSign (digits ++ cs) = digits ++ cs := by
  obtain ⟨c, more, rfl⟩ := List.exists_cons_of_ne_nil h.ne_nil
  have hc := h.isDigit c List.mem_cons_self
  unfold dropSign
  split
  · rename_i heq
    cases heq
    exact absurd hc (by decide)
  · rename_i heq
    cases heq
    exact absurd hc (by decide)
  · rfl

theorem SignificandText.dropSign_append {significand : List Char} (h : SignificandText significand)
    (cs : List Char) : dropSign (significand ++ cs) = significand ++ cs := by
  cases h with
  | whole hdigits => exact hdigits.dropSign_append cs
  | point hdigits _ => simpa using hdigits.dropSign_append ('.' :: (_ ++ cs))
  | fraction _ => rfl

theorem isExponent_iff (cs : List Char) : isExponent cs = true ↔ ExponentText cs := by
  constructor
  · intro h
    cases cs with
    | nil => exact .none
    | cons mark rest =>
      simp only [isExponent, Bool.and_eq_true, Bool.or_eq_true, beq_iff_eq, isDigits_iff] at h
      obtain ⟨sign, hsign, hrest⟩ := exists_sign rest
      rw [hrest]
      exact .marked h.1 hsign h.2
  · intro h
    cases h with
    | none => rfl
    | marked hmark hsign hdigits =>
      have hunsigned := hdigits.dropSign_append []
      rw [List.append_nil] at hunsigned
      simp only [isExponent, Bool.and_eq_true, Bool.or_eq_true, beq_iff_eq, isDigits_iff,
        dropSign_append hsign hunsigned]
      exact ⟨hmark, hdigits⟩

/-! ### Numerals -/

theorem digitsText_takeWhile {cs : List Char} (h : cs.takeWhile Char.isDigit ≠ []) :
    DigitsText (cs.takeWhile Char.isDigit) :=
  ⟨h, fun _ hc => List.mem_takeWhile_imp hc⟩

/-- A run of digits ends where no digit follows. -/
theorem cut_digits {run rest : List Char} (hrun : ∀ c ∈ run, c.isDigit = true)
    (hrest : rest.takeWhile Char.isDigit = []) :
    (run ++ rest).takeWhile Char.isDigit = run ∧ (run ++ rest).dropWhile Char.isDigit = rest := by
  have hwhole := List.takeWhile_append_dropWhile (p := Char.isDigit) (l := rest)
  rw [hrest, List.nil_append] at hwhole
  constructor
  · rw [List.takeWhile_append_of_pos hrun, hrest, List.append_nil]
  · rw [List.dropWhile_append_of_pos hrun, hwhole]

theorem ExponentText.takeWhile_eq {cs : List Char} (h : ExponentText cs) :
    cs.takeWhile Char.isDigit = [] := by
  cases h with
  | none => rfl
  | marked hmark _ _ =>
    rcases hmark with rfl | rfl
    · rfl
    · rfl

theorem numberText_of_isNumeral {cs : List Char} (h : isNumeral cs = true) : NumberText cs := by
  obtain ⟨sign, hsign, hcs⟩ := exists_sign cs
  have hwhole := List.takeWhile_append_dropWhile (p := Char.isDigit) (l := dropSign cs)
  rw [hcs, ← hwhole]
  simp only [isNumeral] at h
  split at h
  · rename_i rest hrest
    have hfraction := List.takeWhile_append_dropWhile (p := Char.isDigit) (l := rest)
    simp only [Bool.and_eq_true, Bool.or_eq_true, Bool.not_eq_true', List.isEmpty_eq_false_iff,
      isExponent_iff] at h
    obtain ⟨hsome, hexponent⟩ := h
    rw [hrest, ← hfraction]
    -- A point with no digit in front of it has one behind it.
    by_cases hfront : (dropSign cs).takeWhile Char.isDigit = []
    · have hback := hsome.resolve_left (not_not_intro hfront)
      rw [hfront, List.nil_append, ← List.cons_append]
      exact .mk hsign (.fraction (digitsText_takeWhile hback)) hexponent
    · have hafter : ∀ c ∈ rest.takeWhile Char.isDigit, c.isDigit = true :=
        fun _ hc => List.mem_takeWhile_imp hc
      rw [← List.cons_append, ← List.append_assoc (List.takeWhile _ _)]
      exact .mk hsign (.point (digitsText_takeWhile hfront) hafter) hexponent
  · simp only [Bool.and_eq_true, Bool.not_eq_true', List.isEmpty_eq_false_iff, isExponent_iff] at h
    exact .mk hsign (.whole (digitsText_takeWhile h.1)) h.2

theorem isNumeral_of_numberText {cs : List Char} (h : NumberText cs) : isNumeral cs = true := by
  obtain @⟨sign, significand, exponent, hsign, hsignificand, hexponent⟩ := h
  have hunsigned := dropSign_append hsign (hsignificand.dropSign_append exponent)
  have hstop := hexponent.takeWhile_eq
  have hend := (isExponent_iff exponent).mpr hexponent
  simp only [isNumeral]
  rw [hunsigned]
  cases hsignificand with
  | whole hdigits =>
    obtain ⟨htake, hdrop⟩ := cut_digits hdigits.isDigit hstop
    rw [htake, hdrop]
    split
    · -- No exponent starts with a point.
      exact absurd hend (by simp [isExponent])
    · simp [hdigits.ne_nil, hend]
  | @point digits fraction hdigits hfraction =>
    have hpoint : ('.' :: (fraction ++ exponent)).takeWhile Char.isDigit = [] := rfl
    obtain ⟨htake, hdrop⟩ := cut_digits hdigits.isDigit hpoint
    obtain ⟨_, hrest⟩ := cut_digits hfraction hstop
    rw [List.append_assoc, List.cons_append, htake, hdrop]
    simp [hrest, hdigits.ne_nil, hend]
  | @fraction digits hdigits =>
    have hpoint : ('.' :: (digits ++ exponent)).dropWhile Char.isDigit =
        '.' :: (digits ++ exponent) := rfl
    obtain ⟨htake, hrest⟩ := cut_digits hdigits.isDigit hstop
    rw [List.cons_append, hpoint]
    simp [htake, hrest, hdigits.ne_nil, hend]

theorem isNumeral_iff (cs : List Char) : isNumeral cs = true ↔ NumberText cs :=
  ⟨numberText_of_isNumeral, isNumeral_of_numberText⟩

/-! ### Characters -/

theorem isNumeralChar_of_isDigit {c : Char} (h : c.isDigit = true) : isNumeralChar c = true := by
  rw [isNumeralChar, h, Bool.true_or]

theorem SignText.isNumeralChar {cs : List Char} (h : SignText cs) :
    ∀ c ∈ cs, isNumeralChar c = true := by
  cases h with
  | none => exact List.forall_mem_nil _
  | plus => exact List.forall_mem_singleton.mpr rfl
  | minus => exact List.forall_mem_singleton.mpr rfl

theorem SignificandText.isNumeralChar {cs : List Char} (h : SignificandText cs) :
    ∀ c ∈ cs, isNumeralChar c = true := by
  intro c hc
  cases h with
  | whole hdigits => exact isNumeralChar_of_isDigit (hdigits.isDigit c hc)
  | point hdigits hfraction =>
    rw [List.mem_append, List.mem_cons] at hc
    rcases hc with hc | rfl | hc
    · exact isNumeralChar_of_isDigit (hdigits.isDigit c hc)
    · rfl
    · exact isNumeralChar_of_isDigit (hfraction c hc)
  | fraction hdigits =>
    rcases List.mem_cons.mp hc with rfl | hc
    · rfl
    · exact isNumeralChar_of_isDigit (hdigits.isDigit c hc)

theorem ExponentText.isNumeralChar {cs : List Char} (h : ExponentText cs) :
    ∀ c ∈ cs, isNumeralChar c = true := by
  intro c hc
  cases h with
  | none => exact absurd hc List.not_mem_nil
  | marked hmark hsign hdigits =>
    rw [List.mem_cons, List.mem_append] at hc
    rcases hc with rfl | hc | hc
    · rcases hmark with rfl | rfl
      · rfl
      · rfl
    · exact hsign.isNumeralChar c hc
    · exact isNumeralChar_of_isDigit (hdigits.isDigit c hc)

theorem NumberText.isNumeralChar {cs : List Char} (h : NumberText cs) :
    ∀ c ∈ cs, isNumeralChar c = true := by
  obtain ⟨hsign, hsignificand, hexponent⟩ := h
  intro c hc
  rw [List.mem_append, List.mem_append] at hc
  rcases hc with hc | hc | hc
  · exact hsign.isNumeralChar c hc
  · exact hsignificand.isNumeralChar c hc
  · exact hexponent.isNumeralChar c hc

theorem DigitsText.exists_digit {cs : List Char} (h : DigitsText cs) : ∃ c ∈ cs, c.isDigit = true := by
  obtain ⟨c, hc⟩ := List.exists_mem_of_ne_nil cs h.ne_nil
  exact ⟨c, hc, h.isDigit c hc⟩

theorem SignificandText.exists_digit {cs : List Char} (h : SignificandText cs) :
    ∃ c ∈ cs, c.isDigit = true := by
  cases h with
  | whole hdigits => exact hdigits.exists_digit
  | point hdigits _ =>
    obtain ⟨c, hc, hdigit⟩ := hdigits.exists_digit
    exact ⟨c, List.mem_append_left _ hc, hdigit⟩
  | fraction hdigits =>
    obtain ⟨c, hc, hdigit⟩ := hdigits.exists_digit
    exact ⟨c, List.mem_cons_of_mem _ hc, hdigit⟩

theorem NumberText.exists_digit {cs : List Char} (h : NumberText cs) :
    ∃ c ∈ cs, c.isDigit = true := by
  obtain ⟨_, hsignificand, _⟩ := h
  obtain ⟨c, hc, hdigit⟩ := hsignificand.exists_digit
  exact ⟨c, List.mem_append_right _ (List.mem_append_left _ hc), hdigit⟩

/-- Numerals are written in ASCII, without white space. -/
theorem bounds_of_isNumeralChar {c : Char} (h : isNumeralChar c = true) :
    c.toNat < 128 ∧ Text.isBlankChar c = false := by
  rw [isNumeralChar, Bool.or_eq_true, List.contains_iff_mem] at h
  rcases h with hdigit | hmark
  · have hbounds := Text.bounds_of_isDigit hdigit
    exact ⟨by omega, Text.isBlankChar_eq_false_of_isDigit hdigit⟩
  · simp only [List.mem_cons, List.not_mem_nil, or_false] at hmark
    rcases hmark with rfl | rfl | rfl | rfl | rfl
    all_goals exact ⟨by decide, rfl⟩

/-! ### Floating point -/

theorem toLower_of_isDigit {c : Char} (h : c.isDigit = true) : c.toLower = c := by
  have hbounds := Text.bounds_of_isDigit h
  unfold Char.toLower
  split
  · rename_i hcapital
    have hlow : 65 ≤ c.toNat := UInt32.le_iff_toNat_le.mp hcapital.1
    omega
  · rfl

theorem SignText.map_toLower {cs : List Char} (h : SignText cs) : cs.map Char.toLower = cs := by
  cases h with
  | none => rfl
  | plus => rfl
  | minus => rfl

/-- Neither a sign nor the name of a special value has a digit. -/
theorem not_exists_digit_of_special {cs sign : List Char} {name : String} (hsign : SignText sign)
    (hname : name ∈ specialNames) (h : cs.map Char.toLower = sign ++ name.toList) :
    ¬ ∃ c ∈ cs, c.isDigit = true := by
  have hnames : ∀ name ∈ specialNames, name.toList.any Char.isDigit = false := by decide +kernel
  have hsigns : sign.any Char.isDigit = false := by
    cases hsign with
    | none => rfl
    | plus => rfl
    | minus => rfl
  rintro ⟨c, hc, hdigit⟩
  have hlower : c ∈ sign ++ name.toList := by
    rw [← h, ← toLower_of_isDigit hdigit]
    exact List.mem_map_of_mem hc
  rcases List.mem_append.mp hlower with hmem | hmem
  · exact List.any_eq_false.mp hsigns c hmem hdigit
  · exact List.any_eq_false.mp (hnames name hname) c hmem hdigit

/-- Of the texts that are read in floating point the decimal numbers are those with a digit. -/
theorem isFloat_and_digit_iff (cs : List Char) :
    (isFloat cs = true ∧ ∃ c ∈ cs, c.isDigit = true) ↔ NumberText cs := by
  constructor
  · rintro ⟨hfloat, hdigit⟩
    rw [isFloat, Bool.or_eq_true, isNumeral_iff] at hfloat
    rcases hfloat with hnumber | hspecial
    · exact hnumber
    · obtain ⟨sign, hsign, hcs⟩ := exists_sign cs
      have hlower : cs.map Char.toLower =
          sign ++ (String.ofList ((dropSign cs).map Char.toLower)).toList := by
        rw [String.toList_ofList, ← hsign.map_toLower, ← List.map_append, ← hcs]
      rw [List.contains_iff_mem] at hspecial
      exact absurd hdigit (not_exists_digit_of_special hsign hspecial hlower)
  · intro h
    have hnumeral := (isNumeral_iff cs).mpr h
    exact ⟨by rw [isFloat, hnumeral, Bool.true_or], h.exists_digit⟩

end Decimal

open Decimal

/-! ### Keys -/

theorem isNumericKey_trim (key : String) : isNumericKey (Text.trim key) = isNumericKey key := by
  rw [isNumericKey, isNumericKey, Text.trim, String.toList_ofList, Text.strip_strip]

/-- What is read in floating point and has a digit passes the other two tests as well. -/
theorem isNumericKey_iff (key : String) :
    isNumericKey key = true ↔ NumberText (Text.strip key.toList) := by
  rw [← isFloat_and_digit_iff]
  simp only [isNumericKey, Bool.and_eq_true, List.any_eq_true]
  constructor
  · rintro ⟨⟨⟨_, hdigit⟩, _⟩, hfloat⟩
    exact ⟨hfloat, hdigit⟩
  · rintro ⟨hfloat, hdigit⟩
    have hnumber := (isFloat_and_digit_iff _).mp ⟨hfloat, hdigit⟩
    refine ⟨⟨⟨?_, hdigit⟩, ?_⟩, hfloat⟩
    · obtain ⟨c, hc, _⟩ := hdigit
      simpa using List.ne_nil_of_mem hc
    · exact List.all_eq_true.mpr hnumber.isNumeralChar

/-- A key is numeric exactly when it is a decimal number between white space, so trimming a key makes no
difference. Refused as numbers are the texts with a character outside ASCII or with white space inside, a
lone point, and the names of special values in letters of either case, with or without a sign. -/
theorem isNumericKey_iff_number (key : String) :
    (isNumericKey key = true ↔ NumberText (Text.strip key.toList)) ∧
    isNumericKey (Text.trim key) = isNumericKey key ∧
    (∀ c ∈ Text.strip key.toList, 128 ≤ c.toNat ∨ Text.isBlankChar c = true →
      isNumericKey key = false) ∧
    (Text.trim key = "." → isNumericKey key = false) ∧
    ∀ sign, SignText sign → ∀ name ∈ ["inf", "infinity", "nan"],
      (Text.strip key.toList).map Char.toLower = sign ++ name.toList → isNumericKey key = false := by
  have hrefused (h : ¬ NumberText (Text.strip key.toList)) : isNumericKey key = false :=
    Bool.eq_false_iff.mpr (mt (isNumericKey_iff key).mp h)
  refine ⟨isNumericKey_iff key, isNumericKey_trim key, ?_, ?_, ?_⟩
  · intro c hc hstrange
    apply hrefused
    intro hnumber
    obtain ⟨hascii, hink⟩ := bounds_of_isNumeralChar (hnumber.isNumeralChar c hc)
    rcases hstrange with hwide | hblank
    · omega
    · exact absurd hblank (by rw [hink]; decide)
  · intro hpoint
    have hstrip : Text.strip key.toList = ['.'] := by
      rw [← String.toList_ofList (l := Text.strip key.toList)]
      exact congrArg String.toList hpoint
    apply hrefused
    intro hnumber
    rw [hstrip] at hnumber
    obtain ⟨c, hc, hdigit⟩ := hnumber.exists_digit
    rw [List.mem_singleton.mp hc] at hdigit
    exact absurd hdigit (by decide)
  · intro sign hsign name hname hlower
    apply hrefused
    intro hnumber
    exact not_exists_digit_of_special hsign hname hlower hnumber.exists_digit

example : ["5.", " -.5e+07\t", "1E400"].all isNumericKey = true := by decide +kernel

example : ["1e", ".e1", "-inf", "1 2"].any isNumericKey = false := by decide +kernel

end FilterClause
