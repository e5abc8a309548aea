import FilterClause.Proofs.DateTexts
import Mathlib.Data.List.Induction
import Mathlib.Data.List.TakeWhile

/-!
The texts that are read as a day. White space may stand before each of the three numbers, leading zeros may
be left out, and behind a sign a year has any number of digits.
-/
namespace FilterClause

/-! ### Numerals -/

/-- Holds of a run of digits, one at least, and the number that it stands for. -/
structure Numeral (digits : List Char) (n : Nat) : Prop where
  ne_nil : digits ≠ []
  isDigit : ∀ c ∈ digits, c.isDigit = true
  valueOf_eq : Decimal.valueOf digits = n

namespace Decimal

theorem valueOf_concat (digits : List Char) (c : Char) :
    valueOf (digits ++ [c]) = 10 * valueOf digits + (c.toNat - '0'.toNat) := by
  simp [valueOf]

theorem valueOf_lt {digits : List Char} (h : ∀ c ∈ digits, c.isDigit = true) :
    valueOf digits < Nat.pow 10 digits.length := by
  induction digits using List.reverseRecOn with
  | nil => simp [valueOf]
  | append_singleton digits c ih =>
    have hlast := Text.bounds_of_isDigit (h c (by simp))
    have hfront := ih fun d hd => h d (by simp [hd])
    have hzero : '0'.toNat = 48 := rfl
    have hpower : Nat.pow 10 (digits.length + 1) = Nat.pow 10 digits.length * 10 := rfl
    rw [valueOf_concat, List.length_append, List.length_singleton, hpower]
    omega

/-- Of the runs of digits of one length no two stand for the same number. -/
theorem valueOf_injective {a b : List Char} (ha : ∀ c ∈ a, c.isDigit = true)
    (hb : ∀ c ∈ b, c.isDigit = true) (hlength : a.length = b.length) (h : valueOf a = valueOf b) :
    a = b := by
  induction a using List.reverseRecOn generalizing b with
  | nil => exact (List.length_eq_zero_iff.mp hlength.symm).symm
  | append_singleton a c ih =>
    cases b using List.reverseRecOn with
    | nil => simp at hlength
    | append_singleton b d =>
      have hc := Text.bounds_of_isDigit (ha c (by simp))
      have hd := Text.bounds_of_isDigit (hb d (by simp))
      have hzero : '0'.toNat = 48 := rfl
      rw [valueOf_concat, valueOf_concat] at h
      have hfront : a = b := by
        refine ih (fun e he => ha e (by simp [he])) (fun e he => hb e (by simp [he])) ?_ (by omega)
        simpa using hlength
      have hlast : c = d := Char.toNat_inj.mp (by omega)
      rw [hfront, hlast]

end Decimal

namespace Numeral

theorem exists_cons {digits : List Char} {n : Nat} (h : Numeral digits n) :
    ∃ c more, digits = c :: more ∧ c.isDigit = true := by
  cases digits with
  | nil => exact absurd rfl h.ne_nil
  | cons c more => exact ⟨c, more, rfl, h.isDigit c List.mem_cons_self⟩

theorem startsFirm {digits : List Char} {n : Nat} (h : Numeral digits n) :
    Text.StartsFirm digits := by
  obtain ⟨c, more, hcons, hc⟩ := h.exists_cons
  exact ⟨c, more, hcons, Text.isBlankChar_eq_false_of_isDigit hc⟩

/-- What a run of digits starts with is a numeral, unless it is nothing, and the rest comes behind it. -/
theorem of_run {digits cs : List Char} (h : digits <+: cs.takeWhile Char.isDigit)
    (hne : digits ≠ []) :
    Numeral digits (Decimal.valueOf digits) ∧ cs = digits ++ cs.drop digits.length := by
  have hstart : digits <+: cs := h.trans (List.takeWhile_prefix _)
  refine ⟨⟨hne, fun c hc => ?_, rfl⟩, (List.prefix_iff_eq_append.mp hstart).symm⟩
  exact List.mem_takeWhile_imp (h.subset hc)

end Numeral

namespace Date

/-! ### Reading numbers -/

theorem of_readNumber {width : Option Nat} {cs rest : List Char} {n : Nat}
    (h : readNumber width cs = some (n, rest)) :
    ∃ digits, Numeral digits n ∧ (∀ w, width = some w → digits.length ≤ w) ∧ cs = digits ++ rest := by
  unfold readNumber at h
  cases width with
  | none =>
    dsimp only at h
    split at h
    · exact nomatch h
    · rename_i hsome
      cases h
      obtain ⟨hdigits, hsplit⟩ := Numeral.of_run List.prefix_rfl (by simpa using hsome)
      exact ⟨_, hdigits, nofun, hsplit⟩
  | some w =>
    dsimp only at h
    split at h
    · exact nomatch h
    · rename_i hsome
      cases h
      obtain ⟨hdigits, hsplit⟩ := Numeral.of_run (List.take_prefix w _) (by simpa using hsome)
      refine ⟨_, hdigits, ?_, hsplit⟩
      rintro _ ⟨⟩
      exact List.length_take_le w _

/-- A number ends where no digit follows. -/
theorem readNumber_append {width : Option Nat} {digits rest : List Char} {n : Nat}
    (h : Numeral digits n) (hwidth : ∀ w, width = some w → digits.length ≤ w)
    (hrest : rest.takeWhile Char.isDigit = []) :
    readNumber width (digits ++ rest) = some (n, rest) := by
  have hrun : (digits ++ rest).takeWhile Char.isDigit = digits := by
    rw [List.takeWhile_append_of_pos h.isDigit, hrest, List.append_nil]
  have hsome : digits.isEmpty = false := by simpa using h.ne_nil
  unfold readNumber
  dsimp only
  rw [hrun]
  cases width with
  | none => simp [hsome, h.valueOf_eq]
  | some w => simp [List.take_of_length_le (hwidth w rfl), hsome, h.valueOf_eq]

/-! ### The grammar -/

/-- Holds of a run of white space. -/
def Blanks (cs : List Char) : Prop :=
  ∀ c ∈ cs, Text.isBlankChar c = true

/-- The texts of a year: four digits at most, or a sign and any number of them. -/
inductive YearText : List Char → Int → Prop
  | plain {digits : List Char} {n : Nat} :
    Numeral digits n → digits.length ≤ 4 → YearText digits n
  | positive {digits : List Char} {n : Nat} : Numeral digits n → YearText ('+' :: digits) n
  | negative {digits : List Char} {n : Nat} : Numeral digits n → YearText ('-' :: digits) (-n)

/-- The texts of a month or a day. -/
structure PartText (digits : List Char) (n : Nat) : Prop extends Numeral digits n where
  short : digits.length ≤ 2

/-- Holds of a text and the day that it denotes. -/
inductive Denotes : List Char → Date → Prop
  | mk {blanks year blanks' month blanks'' day : List Char} {date : Date} :
    Blanks blanks → YearText year date.year →
    Blanks blanks' → PartText month date.month →
    Blanks blanks'' → PartText day date.day → date.Exists →
    Denotes (blanks ++ year ++ '-' :: (blanks' ++ month) ++ '-' :: (blanks'' ++ day)) date

theorem Denotes.isDay {cs : List Char} {date : Date} (h : Denotes cs date) : date.Exists := by
  cases h
  assumption

theorem YearText.startsFirm {cs : List Char} {year : Int} (h : YearText cs year) :
    Text.StartsFirm cs := by
  cases h with
  | plain hdigits _ => exact hdigits.startsFirm
  | positive _ => exact ⟨'+', _, rfl, by decide⟩
  | negative _ => exact ⟨'-', _, rfl, by decide⟩

theorem stripStart_append {blanks cs : List Char} (hblanks : Blanks blanks)
    (h : Text.StartsFirm cs) : Text.stripStart (blanks ++ cs) = cs := by
  have hskip : Text.stripStart (blanks ++ cs) = Text.stripStart cs :=
    List.dropWhile_append_of_pos hblanks
  rw [hskip, h.stripStart_eq]

theorem exists_blanks (cs : List Char) :
    ∃ blanks, Blanks blanks ∧ cs = blanks ++ Text.stripStart cs :=
  ⟨cs.takeWhile Text.isBlankChar, fun _ hc => List.mem_takeWhile_imp hc,
    List.takeWhile_append_dropWhile.symm⟩

theorem of_readYear {cs rest : List Char} {year : Int} (h : readYear cs = some (year, rest)) :
    ∃ text, YearText text year ∧ Text.stripStart cs = text ++ rest := by
  unfold readYear at h
  split at h
  all_goals
    obtain ⟨⟨n, rest'⟩, hnumber, hfound⟩ := Option.map_eq_some_iff.mp h
    cases hfound
    obtain ⟨digits, hdigits, hwidth, hcs⟩ := of_readNumber hnumber
  · rename_i hsign
    exact ⟨'-' :: digits, .negative hdigits, by rw [hsign, hcs, List.cons_append]⟩
  · rename_i hsign
    exact ⟨'+' :: digits, .positive hdigits, by rw [hsign, hcs, List.cons_append]⟩
  · exact ⟨digits, .plain hdigits (hwidth 4 rfl), hcs⟩

theorem readYear_append {blanks text rest : List Char} {year : Int} (hblanks : Blanks blanks)
    (h : YearText text year) (hrest : rest.takeWhile Char.isDigit = []) :
    readYear (blanks ++ text ++ rest) = some (year, rest) := by
  unfold readYear
  rw [List.append_assoc, stripStart_append hblanks (h.startsFirm.append rest)]
  cases h with
  | @plain _ n hdigits hwidth =>
    have hnumber : readNumber (some 4) (text ++ rest) = some (n, rest) := by
      refine readNumber_append hdigits ?_ hrest
      rintro _ ⟨⟩
      exact hwidth
    -- No digit is taken for a sign.
    obtain ⟨c, more, rfl, hc⟩ := hdigits.exists_cons
    split
    · rename_i hsign
      cases hsign
      exact absurd hc (by decide)
    · rename_i hsign
      cases hsign
      exact absurd hc (by decide)
    · rw [hnumber]
      rfl
  | @positive digits n hdigits =>
    have hnumber : readNumber none (digits ++ rest) = some (n, rest) :=
      readNumber_append hdigits nofun hrest
    simp only [List.cons_append, hnumber]
    rfl
  | @negative digits n hdigits =>
    have hnumber : readNumber none (digits ++ rest) = some (n, rest) :=
      readNumber_append hdigits nofun hrest
    simp only [List.cons_append, hnumber]
    rfl

theorem PartText.read_append {blanks text rest : List Char} {n : Nat} (h : PartText text n)
    (hblanks : Blanks blanks) (hrest : rest.takeWhile Char.isDigit = []) :
    readNumber (some 2) (Text.stripStart (blanks ++ (text ++ rest))) = some (n, rest) := by
  rw [stripStart_append hblanks (h.startsFirm.append rest)]
  refine readNumber_append h.toNumeral ?_ hrest
  rintro _ ⟨⟩
  exact h.short

theorem denotes_of_read? {cs : List Char} {date : Date} (h : read? cs = some date) :
    Denotes cs date := by
  unfold read? at h
  obtain ⟨⟨year, afterYear⟩, hyear, h⟩ := Option.bind_eq_some_iff.mp h
  obtain ⟨beforeMonth, hfirst, h⟩ := Option.bind_eq_some_iff.mp h
  obtain ⟨⟨month, afterMonth⟩, hmonth, h⟩ := Option.bind_eq_some_iff.mp h
  obtain ⟨beforeDay, hsecond, h⟩ := Option.bind_eq_some_iff.mp h
  obtain ⟨⟨day, afterDay⟩, hday, h⟩ := Option.bind_eq_some_iff.mp h
  dsimp only at h hfirst hmonth hsecond hday
  split at h
  · rename_i hend
    cases h
    obtain ⟨rfl, hexists⟩ : afterDay = [] ∧ Date.Exists ⟨year, month, day⟩ := by simpa using hend
    obtain ⟨yearText, hyear, hcs⟩ := of_readYear hyear
    obtain ⟨monthText, hmonth, hmonthWidth, hmonthRest⟩ := of_readNumber hmonth
    obtain ⟨dayText, hday, hdayWidth, hdayRest⟩ := of_readNumber hday
    obtain ⟨blanks, hblanks, hstart⟩ := exists_blanks cs
    obtain ⟨blanks', hblanks', hmiddle⟩ := exists_blanks beforeMonth
    obtain ⟨blanks'', hblanks'', hlast⟩ := exists_blanks beforeDay
    have hsplit : cs = blanks ++ yearText ++ '-' :: (blanks' ++ monthText) ++
        '-' :: (blanks'' ++ dayText) := by
      rw [hstart, hcs, of_readHyphen hfirst, hmiddle, hmonthRest, of_readHyphen hsecond, hlast,
        hdayRest]
      simp
    rw [hsplit]
    exact .mk hblanks hyear hblanks' ⟨hmonth, hmonthWidth 2 rfl⟩ hblanks'' ⟨hday, hdayWidth 2 rfl⟩
      hexists
  · exact nomatch h

theorem Denotes.read?_eq {cs : List Char} {date : Date} (h : Denotes cs date) :
    read? cs = some date := by
  cases h with
  | @mk blanks yearText blanks' monthText blanks'' dayText _ hblanks hyear hblanks' hmonth hblanks''
      hday hexists =>
    have hreadYear : ∀ rest,
        readYear (blanks ++ (yearText ++ '-' :: rest)) = some (date.year, '-' :: rest) := by
      intro rest
      rw [← List.append_assoc]
      exact readYear_append hblanks hyear (by simp)
    have hreadMonth : ∀ rest,
        readNumber (some 2) (Text.stripStart (blanks' ++ (monthText ++ '-' :: rest))) =
          some (date.month, '-' :: rest) :=
      fun rest => hmonth.read_append hblanks' (by simp)
    have hreadDay : readNumber (some 2) (Text.stripStart (blanks'' ++ dayText)) =
        some (date.day, []) := by
      rw [← List.append_nil dayText]
      exact hday.read_append hblanks'' rfl
    simp only [read?, List.append_assoc, List.cons_append, hreadYear, hreadMonth, hreadDay, readHyphen,
      Option.bind_eq_bind, Option.bind_some]
    simp [hexists]

/-- A text is read as a day just where it denotes it. -/
theorem read?_eq_some_iff {cs : List Char} {date : Date} : read? cs = some date ↔ Denotes cs date :=
  ⟨denotes_of_read?, Denotes.read?_eq⟩

end Date

end FilterClause
