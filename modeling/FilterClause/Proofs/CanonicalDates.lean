import FilterClause.Proofs.DateGrammar
import FilterClause.Proofs.Joining

/-!
Canonical dates. The canonical text of a day has four, two and two digits, and a year from 0 to 9999 is
printed so. A period is accepted for every text that denotes a day, and its condition shows the text as it is
given, not as the day is printed, so only a canonical text comes out canonical.
-/
namespace FilterClause

open Checked

namespace Date

/-! ### The canonical text of a day -/

/-- Holds of the text of a day in four, two and two digits. -/
inductive Canonical : List Char → Date → Prop
  | mk {year month day : List Char} {y m d : Nat} :
    Numeral year y → year.length = 4 → Numeral month m → month.length = 2 →
    Numeral day d → day.length = 2 → Date.Exists ⟨y, m, d⟩ →
    Canonical (year ++ '-' :: month ++ '-' :: day) ⟨y, m, d⟩

theorem Canonical.denotes {cs : List Char} {date : Date} (h : Canonical cs date) :
    Denotes cs date := by
  cases h with
  | mk hyear hyearLength hmonth hmonthLength hday hdayLength hexists =>
    have hblanks : Blanks [] := nofun
    have hmonthText : PartText _ _ := ⟨hmonth, hmonthLength.le⟩
    have hdayText : PartText _ _ := ⟨hday, hdayLength.le⟩
    exact .mk hblanks (.plain hyear hyearLength.le) hblanks hmonthText hblanks hdayText hexists

theorem Canonical.length_eq {cs : List Char} {date : Date} (h : Canonical cs date) :
    cs.length = 10 := by
  cases h with
  | mk _ hyear _ hmonth _ hday _ => simp [hyear, hmonth, hday]

/-- Zeros in front fill a number up to its width. -/
theorem numeral_padded {width n : Nat} (hwidth : 0 < width) (h : n < Nat.pow 10 width) :
    Numeral (padded width n).toList n ∧ (padded width n).toList.length = width := by
  have hshort : (Nat.toDigits 10 n).length ≤ width :=
    (Nat.length_toDigits_le_iff (by omega) hwidth).mpr h
  have hlength : (padded width n).toList.length = width := by
    simp only [padded, String.toList_ofList, List.length_append, List.length_replicate]
    omega
  refine ⟨⟨?_, ?_, ?_⟩, hlength⟩
  · intro hnil
    rw [hnil, List.length_nil] at hlength
    omega
  · intro c hc
    rw [padded, String.toList_ofList] at hc
    rcases List.mem_append.mp hc with hzero | hdigit
    · rw [List.eq_of_mem_replicate hzero]
      rfl
    · exact Nat.isDigit_of_mem_toDigits (by omega) (by omega) hdigit
  · rw [padded, String.toList_ofList]
    have hvalue : Nat.ofDigitChars 10
        (List.replicate (width - (Nat.toDigits 10 n).length) '0' ++ Nat.toDigits 10 n) 0 = n := by
      rw [Nat.ofDigitChars_append, Nat.ofDigitChars_replicate_zero, Nat.mul_zero,
        Nat.ofDigitChars_ten_toDigits]
    exact hvalue

theorem padded_eq {digits : List Char} {width n : Nat} (h : Numeral digits n)
    (hlength : digits.length = width) : (padded width n).toList = digits := by
  subst hlength
  have hbound : n < Nat.pow 10 digits.length := h.valueOf_eq ▸ Decimal.valueOf_lt h.isDigit
  obtain ⟨hpadded, hwidth⟩ := numeral_padded (List.length_pos_iff.mpr h.ne_nil) hbound
  exact Decimal.valueOf_injective hpadded.isDigit h.isDigit hwidth
    (hpadded.valueOf_eq.trans h.valueOf_eq.symm)

theorem toList_text {date : Date} (h : 0 ≤ date.year ∧ date.year ≤ 9999) :
    date.text.toList = (padded 4 date.year.natAbs).toList ++ '-' :: (padded 2 date.month).toList ++
      '-' :: (padded 2 date.day).toList := by
  have hsign : (if date.year < 0 then "-" else if 9999 < date.year then "+" else "") = "" := by
    rw [if_neg (by omega), if_neg (by omega)]
  simp only [text, hsign, String.toList_append]
  simp

theorem daysIn_le (year : Int) (month : Nat) : daysIn year month ≤ 31 := by
  unfold daysIn
  split
  · split <;> omega
  · omega
  · omega
  · omega
  · omega
  · omega

/-- The canonical texts are what days of four-digit years are printed as. -/
theorem canonical_iff {cs : List Char} {date : Date} (h : Denotes cs date) :
    (∃ d, Canonical cs d) ↔ (0 ≤ date.year ∧ date.year ≤ 9999) ∧ date.text.toList = cs := by
  constructor
  · rintro ⟨d, hcanonical⟩
    have hsame : d = date := by
      have hread := hcanonical.denotes.read?_eq
      rw [h.read?_eq] at hread
      exact (Option.some.inj hread).symm
    subst hsame
    cases hcanonical with
    | @mk year month day y m d hyear hyearLength hmonth hmonthLength hday hdayLength _ =>
      have hbound : y < Nat.pow 10 4 := by
        rw [← hyear.valueOf_eq, ← hyearLength]
        exact Decimal.valueOf_lt hyear.isDigit
      have hmyriad : Nat.pow 10 4 = 10000 := rfl
      have hyears : (0 : Int) ≤ y ∧ (y : Int) ≤ 9999 := by omega
      refine ⟨hyears, ?_⟩
      rw [toList_text hyears]
      dsimp only
      rw [Int.natAbs_natCast, padded_eq hyear hyearLength, padded_eq hmonth hmonthLength,
        padded_eq hday hdayLength]
  · rintro ⟨hyears, rfl⟩
    obtain ⟨year, month, day⟩ := date
    have hexists := h.isDay
    obtain ⟨_, _, _, hmonthBound, _, hdayBound⟩ := id hexists
    dsimp only at hyears hmonthBound hdayBound
    lift year to ℕ using hyears.1
    have hdays := daysIn_le year month
    have hhundred : Nat.pow 10 2 = 100 := rfl
    have hmyriad : Nat.pow 10 4 = 10000 := rfl
    obtain ⟨hyear, hyearLength⟩ : _ ∧ (padded 4 year).toList.length = 4 :=
      numeral_padded (by omega) (by omega)
    obtain ⟨hmonth, hmonthLength⟩ : _ ∧ (padded 2 month).toList.length = 2 :=
      numeral_padded (by omega) (by omega)
    obtain ⟨hday, hdayLength⟩ : _ ∧ (padded 2 day).toList.length = 2 :=
      numeral_padded (by omega) (by omega)
    rw [toList_text hyears]
    exact ⟨_, .mk hyear hyearLength hmonth hmonthLength hday hdayLength hexists⟩

end Date

theorem readDate_eq_ok_iff {s : String} {date : Date} :
    readDate s = .ok date ↔ Date.Denotes (Text.trim s).toList date := by
  rw [← Date.read?_eq_some_iff, Text.trim, String.toList_ofList, readDate]
  cases Date.read? (Text.strip s.toList) <;> simp

namespace Period

/-! ### Conditions of periods -/

/-- Holds of a period whose condition can be written: it has both ends, and its date denotes a day. -/
structure Dated (period : Period) : Prop where
  start : Text.trim period.start ≠ ""
  finish : Text.trim period.finish ≠ ""
  date : ∃ day, Date.Denotes (Text.trim period.date).toList day

/-- The condition of a period with the given text for its date. -/
def form (period : Period) (date : String) : Template :=
  [.hole (.text date), .raw (" >= " ++ Text.trim period.start ++ " AND "), .hole (.text date),
    .raw (" <= " ++ Text.trim period.finish)]

theorem condition_eq_ok_iff {period : Period} {t : Template} :
    condition period = .ok t ↔ Dated period ∧ t = form period (Text.trim period.date) := by
  constructor
  · intro h
    obtain ⟨⟨day, hday⟩, hstart, hfinish, ht⟩ := of_condition h
    rw [readDate_eq_ok_iff, Text.trim_trim] at hday
    exact ⟨⟨hstart, hfinish, day, hday⟩, ht⟩
  · rintro ⟨⟨hstart, hfinish, day, hday⟩, rfl⟩
    have hread : readDate (Text.trim period.date) = .ok day := by
      rwa [readDate_eq_ok_iff, Text.trim_trim]
    have hdate : Text.trim period.date ≠ "" := by
      intro hnil
      rw [hnil] at hday
      exact nomatch hday.read?_eq
    simp only [condition, readText, if_neg hstart, if_neg hfinish, if_neg hdate, ok_bind, hread]
    rfl

/-- What a period is written as in a list. -/
def dated (period : Period) : Checked Outline :=
  Outline.ofTemplate <$> (condition period).wrap "failed to build date condition"

theorem alike : Alike link " AND " dated :=
  .of_map (fun _ _ => rfl) fun _ _ hl => (hasHole_of_link hl).ne_nil

theorem dated_eq_ok_iff {period : Period} {o : Outline} :
    dated period = .ok o ↔
      Dated period ∧ o = .ofTemplate (form period (Text.trim period.date)) := by
  rw [dated, map_eq_ok_iff]
  simp only [wrap_eq_ok_iff, condition_eq_ok_iff]
  constructor
  · rintro ⟨t, ⟨h, rfl⟩, rfl⟩
    exact ⟨h, rfl⟩
  · rintro ⟨h, rfl⟩
    exact ⟨_, ⟨h, rfl⟩, rfl⟩

theorem exists_dated_iff {period : Period} : (∃ o, dated period = .ok o) ↔ Dated period := by
  simp [dated_eq_ok_iff]

/-- What periods are written as in a list, each with the text that is given for its date. -/
def joined (periods : List Period) : Outline :=
  (Outline.ofText " AND ").intercalate
    (periods.map fun period => Outline.ofTemplate (form period (Text.trim period.date)))

theorem joined_ne_nil {periods : List Period} (h : periods ≠ []) : joined periods ≠ [] :=
  Outline.intercalate_ne_nil _ (by simpa using h) (by simp [form, Outline.ofTemplate])

theorem holes_enclose (o : Outline) : (enclose o).holes = o.holes := by
  unfold enclose
  split
  · rename_i hnil
    rw [List.isEmpty_iff.mp hnil]
  · simp

theorem holes_joined (periods : List Period) :
    (joined periods).holes = periods.flatMap fun period =>
      [.text (Text.trim period.date), .text (Text.trim period.date)] := by
  have hform : ∀ period date, (Outline.ofTemplate (form period date)).holes =
      [.text date, .text date] := by
    intro period date
    simp [form, Outline.ofTemplate, Outline.holes]
  simp only [joined, Outline.holes_intercalate, List.flatMap_map, hform]

theorem run_render (c : Compiler) (offset : Nat) (periods : List Period) :
    c.run offset (render periods) = c.fragment offset <$> enclose <$>
      (Outline.ofText " AND ").intercalate <$> periods.mapM dated := by
  rw [← alike.chain_eq]
  exact c.run_eq offset (writes_enclosed periods)

theorem exists_run_iff (c : Compiler) (offset : Nat) (periods : List Period) :
    (∃ f, c.run offset (render periods) = .ok f) ↔ ∀ period ∈ periods, Dated period := by
  simp only [run_render, exists_map_eq_ok_iff, exists_mapM_eq_ok_iff, exists_dated_iff]

theorem run_eq_of_dated (c : Compiler) (offset : Nat) {periods : List Period}
    (h : ∀ period ∈ periods, Dated period) :
    c.run offset (render periods) = .ok (c.fragment offset (enclose (joined periods))) := by
  have hdated : ∀ period ∈ periods,
      dated period = .ok (.ofTemplate (form period (Text.trim period.date))) :=
    fun period hperiod => dated_eq_ok_iff.mpr ⟨h period hperiod, rfl⟩
  rw [run_render, mapM_eq_ok_of_forall hdated]
  rfl

end Period

/-- Periods are accepted just where their ends are there and their dates denote a day. Each is written with
its date as it is given, and that is how the day is printed, with a year of four digits, just where the text is
canonical. -/
theorem Compiler.dates_canonical_iff (c : Compiler) (offset : Nat) (periods : List Period) :
    ((∃ f, c.run offset (Period.render periods) = .ok f) ↔
      ∀ period ∈ periods, Period.Dated period) ∧
    ((∀ period ∈ periods, Text.trim period.start ≠ "" ∧ Text.trim period.finish ≠ "" ∧
        ∃ day, Date.Canonical (Text.trim period.date).toList day) →
      ∃ f, c.run offset (Period.render periods) = .ok f) ∧
    ∀ f, c.run offset (Period.render periods) = .ok f →
      (∃ parts, c.fragments offset (periods.map fun period =>
          Writer.write (period.form (Text.trim period.date))) = .ok parts ∧
        f = if periods = [] then ⟨"", []⟩ else (Fragment.conjoined parts).enclosed) ∧
      f.params = c.options.mode.kept (periods.flatMap fun period =>
        [.text (Text.trim period.date), .text (Text.trim period.date)]) ∧
      ∀ period ∈ periods, ∃ day, readDate period.date = .ok day ∧
        ((∃ d, Date.Canonical (Text.trim period.date).toList d) ↔
          (0 ≤ day.year ∧ day.year ≤ 9999) ∧ day.text = Text.trim period.date) := by
  refine ⟨Period.exists_run_iff c offset periods, fun hcanonical => ?_, fun f hf => ?_⟩
  · refine (Period.exists_run_iff c offset periods).mpr fun period hperiod => ?_
    obtain ⟨hstart, hfinish, day, hday⟩ := hcanonical period hperiod
    exact ⟨hstart, hfinish, day, hday.denotes⟩
  have hall := (Period.exists_run_iff c offset periods).mp ⟨f, hf⟩
  rw [Period.run_eq_of_dated c offset hall] at hf
  cases hf
  refine ⟨?_, ?_, fun period hperiod => ?_⟩
  · have hwrites : ∀ period ∈ periods, Writes (Writer.write (period.form (Text.trim period.date)))
        (.ok (.ofTemplate (period.form (Text.trim period.date)))) :=
      fun period _ w => Writer.write_run _ w
    obtain ⟨parts, hparts, hjoined⟩ := c.fragments_conjoined offset hwrites
    refine ⟨parts, hparts, ?_⟩
    by_cases hnone : periods = []
    · subst hnone
      exact c.fragment_nil offset
    · rw [if_neg hnone, hjoined]
      exact Period.fragment_enclose c offset _ (Period.joined_ne_nil hnone)
  · rw [fragment, Period.holes_enclose, Period.holes_joined]
  · obtain ⟨day, hday⟩ := (hall period hperiod).date
    refine ⟨day, readDate_eq_ok_iff.mpr hday, ?_⟩
    rw [Date.canonical_iff hday, String.toList_inj]

/-- A date without its leading zeros is accepted, and it is compared as a text that no day is printed as. -/
theorem Compiler.dates_not_canonical :
    ({} : Compiler).run 0 (Period.render [⟨"t.a", "t.b", "2023-6-1"⟩]) =
      .ok ⟨"('2023-6-1' >= t.a AND '2023-6-1' <= t.b)", []⟩ ∧
    readDate "2023-6-1" = .ok ⟨2023, 6, 1⟩ ∧ Date.text ⟨2023, 6, 1⟩ = "2023-06-01" ∧
    ¬ ∃ d, Date.Canonical (Text.trim "2023-6-1").toList d := by
  refine ⟨by decide +kernel, by decide +kernel, by decide +kernel, ?_⟩
  rintro ⟨d, hcanonical⟩
  exact absurd hcanonical.length_eq (by decide +kernel)

end FilterClause
