import FilterClause.Proofs.Fragments
import FilterClause.Proofs.IntakeForms
import FilterClause.Proofs.NumericKeys

/-!
The fields that the conditions of a request are about. Keys are checked in every category. The field
that an equality filter gives in place of its key is not checked at all, and the field of a membership
filter is only checked not to be blank.
-/
namespace FilterClause

open Checked

/-- Holds of fields that may name a column. -/
structure Plausible (field : String) : Prop where
  ink : Text.trim field ≠ ""
  notNumeric : isNumericKey field = false

namespace Supplied

/-- The field of an equality filter, unless an expression stands for it. -/
def equalityField (columns : Columns) (key : String) (entry : Json) : Option String :=
  match columns.find? key with
  | some _ => none
  | none => some ((text entry "campo").getD key)

/-- The field of a special filter, unless an expression stands for it. -/
def specialField (columns : Columns) (key : String) : Option String :=
  match columns.find? (Text.trim key) with
  | some _ => none
  | none => some key

/-- The keys of a list of groups. -/
def groupKeys (groups : Option Json) : List String :=
  (elements groups).filterMap fun group => (group? group).map Prod.fst

def keys (value : Option Json) : List String :=
  (entries value).map Prod.fst

end Supplied

open Supplied

/-- The fields of all conditions, by category. Nothing is excluded by a list without values, so such
a filter has no condition. Periods have no field. -/
def Request.fieldNames (r : Request) : Bundle (List String) where
  equality := (entries r.equality).filterMap fun (key, entry) => equalityField r.columns key entry
  special := (groupKeys r.special).filterMap (specialField r.columns)
  range := keys r.range
  extra := groupKeys r.extra
  within := (membershipField r.within).toList
  without := if members r.without = [] then [] else (membershipField r.without).toList
  notEqual := keys r.notEqual
  period := []
  rawSql := []

theorem plausible_of_trim {key : String} (hink : Text.trim key ≠ "")
    (hnumeric : isNumericKey (Text.trim key) = false) : Plausible key :=
  ⟨hink, isNumericKey_trim key ▸ hnumeric⟩

/-! ### Entries that were accepted -/

/-- Each entry of a list was read and has a link. -/
theorem linked_of_mem {ι α : Type} {read : ι → Checked α} {link : Bool → α → Checked Link}
    {is : List ι} {as : List α} {first : Bool} {ls : List Link} (hread : is.mapM read = .ok as)
    (hls : links link first as = .ok ls) {i : ι} (hi : i ∈ is) :
    ∃ a first' l, read i = .ok a ∧ link first' a = .ok l := by
  induction is generalizing as first ls with
  | nil => exact absurd hi List.not_mem_nil
  | cons j is ih =>
    rw [List.mapM_cons] at hread
    obtain ⟨a, ha, hread⟩ := bind_eq_ok_iff.mp hread
    obtain ⟨more, hmore, hread⟩ := bind_eq_ok_iff.mp hread
    cases hread
    obtain ⟨l, hl, hls⟩ := bind_eq_ok_iff.mp hls
    obtain ⟨rest, hrest, hls⟩ := bind_eq_ok_iff.mp hls
    rcases List.mem_cons.mp hi with rfl | hi
    · exact ⟨a, first, l, ha, hl⟩
    · exact ih hmore hrest hi

theorem Compiler.Gives.linked {c : Compiler} {fragment : Fragment} {ι α : Type}
    {read : ι → Checked α} {link : Bool → α → Checked Link} {is : List ι}
    {filters : Checked (List α)} {render : List α → Writing String}
    (h : c.Gives filters render fragment) (hread : ∀ as, filters = .ok as → is.mapM read = .ok as)
    (hw : ∀ as, Writes (render as) (Outline.chain <$> links link true as)) {i : ι} (hi : i ∈ is) :
    ∃ a first l, read i = .ok a ∧ link first a = .ok l := by
  obtain ⟨as, o, has, ho, _⟩ := h.outlined hw
  obtain ⟨ls, hls, _⟩ := map_eq_ok_iff.mp ho
  exact linked_of_mem (hread as has) hls hi

theorem mem_groupKeys {groups : Option Json} {key : String} :
    key ∈ groupKeys groups ↔ ∃ group ∈ elements groups, ∃ entry, group? group = some (key, entry) := by
  simp [groupKeys]

theorem mem_keys {value : Option Json} {key : String} :
    key ∈ keys value ↔ ∃ entry, (key, entry) ∈ entries value := by
  simp [keys]

namespace Compiler.Composed

variable {c : Compiler} {r : Request} {filterType : FilterType} {b : Bundle Fragment}

theorem plausible_equality (h : c.Composed r filterType b) :
    ∀ key ∈ keys r.equality, Plausible key := by
  intro key hkey
  obtain ⟨entry, hentry⟩ := mem_keys.mp hkey
  obtain ⟨filter, first, l, hread, hlink⟩ := h.equality.linked (fun _ => Intake.of_keyed)
    (Conjunction.render_writes filterType r.columns) hentry
  obtain ⟨found, _, hread⟩ := bind_eq_ok_iff.mp hread
  cases hread
  obtain ⟨⟨connective, t⟩, hcondition, _⟩ := map_eq_ok_iff.mp hlink
  obtain ⟨hnumeric, hblank, _⟩ := Conjunction.of_condition hcondition
  exact ⟨fun hempty => by simp [(Text.trim_eq_empty_iff key).mp hempty] at hblank, hnumeric⟩

theorem plausible_special (h : c.Composed r filterType b) :
    ∀ key ∈ groupKeys r.special, Plausible key := by
  intro key hkey
  obtain ⟨group, hgroup, entry, hentry⟩ := mem_groupKeys.mp hkey
  obtain ⟨found, first, l, hread, hlink⟩ := h.special.linked (fun _ => Intake.of_listed)
    (Special.render_writes r.columns) hgroup
  obtain ⟨_, hsame, _⟩ := Intake.of_special hread
  cases hentry.symm.trans hsame
  obtain ⟨_, t, hcondition, _⟩ := Special.of_link hlink
  obtain ⟨rfl, hink, hnumeric, _⟩ := Special.of_condition hcondition
  exact plausible_of_trim hink hnumeric

theorem plausible_range (h : c.Composed r filterType b) : ∀ key ∈ keys r.range, Plausible key := by
  intro key hkey
  obtain ⟨entry, hentry⟩ := mem_keys.mp hkey
  obtain ⟨range, first, l, hread, hlink⟩ := h.range.linked (fun _ => Intake.of_keyed)
    Range.render_writes hentry
  obtain ⟨found, _, hread⟩ := bind_eq_ok_iff.mp hread
  cases hread
  obtain ⟨t, hkeyed, _⟩ := map_eq_ok_iff.mp hlink
  obtain ⟨hink, hnumeric, _⟩ := Range.of_keyed hkeyed
  exact plausible_of_trim hink hnumeric

theorem plausible_extra (h : c.Composed r filterType b) :
    ∀ key ∈ groupKeys r.extra, Plausible key := by
  intro key hkey
  obtain ⟨group, hgroup, entry, hentry⟩ := mem_groupKeys.mp hkey
  obtain ⟨found, first, l, hread, hlink⟩ := h.extra.linked (fun _ => Intake.of_listed)
    Extra.render_writes hgroup
  obtain ⟨_, hsame, _⟩ := Intake.of_extra hread
  cases hentry.symm.trans hsame
  obtain ⟨⟨connective, t⟩, hcondition, _⟩ := map_eq_ok_iff.mp hlink
  obtain ⟨hink, hnumeric, _⟩ := Extra.of_condition hcondition
  exact plausible_of_trim hink hnumeric

theorem plausible_notEqual (h : c.Composed r filterType b) :
    ∀ key ∈ keys r.notEqual, Plausible key := by
  intro key hkey
  obtain ⟨entry, hentry⟩ := mem_keys.mp hkey
  obtain ⟨filter, first, l, hread, hlink⟩ := h.notEqual.linked (fun _ => Intake.of_keyed)
    NotEqual.render_writes hentry
  obtain ⟨found, _, hread⟩ := bind_eq_ok_iff.mp hread
  cases hread
  obtain ⟨t, hcondition, _⟩ := map_eq_ok_iff.mp hlink
  obtain ⟨hink, hnumeric, _⟩ := NotEqual.of_condition hcondition
  exact plausible_of_trim hink hnumeric

end Compiler.Composed

/-- The field of a condition on membership is not blank. -/
theorem Compiler.Gives.membershipField_ink {c : Compiler} {fragment : Fragment} {negated : Bool}
    {value : Option Json}
    (h : c.Gives (Intake.membership value) (Membership.renderOptional c.form negated) fragment)
    (hvalues : negated = true → members value ≠ []) :
    ∀ field ∈ membershipField value, Text.trim field ≠ "" := by
  intro field hfield
  rcases h.membership with ⟨hread, _⟩ | ⟨filter, list, hread, _, _, hink⟩
  · rcases Intake.of_membership hread with ⟨_, hnone, _⟩ | ⟨_, hfound, _⟩
    · rw [hnone] at hfield
      exact nomatch hfield
    · exact nomatch hfound
  · rcases Intake.of_membership hread with ⟨hfound, _⟩ | ⟨_, hfound, hname, hread⟩
    · exact nomatch hfound
    · cases hfound
      rw [hname] at hfield
      cases hfield
      refine hink ?_
      cases negated with
      | false => rfl
      | true =>
        obtain ⟨item, items, hitems⟩ := List.exists_cons_of_ne_nil (hvalues rfl)
        rw [hitems, List.mapM_cons] at hread
        obtain ⟨v, _, hread⟩ := bind_eq_ok_iff.mp hread
        obtain ⟨vs, _, hread⟩ := bind_eq_ok_iff.mp hread
        rw [← Except.ok.inj hread]
        rfl

/-! ### Requests -/

theorem mem_fieldNames {r : Request} {field : String} :
    field ∈ r.fieldNames.toList.flatten ↔
      (∃ key entry, (key, entry) ∈ entries r.equality ∧
          equalityField r.columns key entry = some field) ∨
        (∃ key ∈ groupKeys r.special, specialField r.columns key = some field) ∨
        field ∈ keys r.range ∨ field ∈ groupKeys r.extra ∨
        field ∈ r.fieldNames.within ++ r.fieldNames.without ∨ field ∈ keys r.notEqual := by
  simp [Bundle.toList, Request.fieldNames, or_assoc]

namespace Compiler.Composed

variable {c : Compiler} {r : Request} {filterType : FilterType} {b : Bundle Fragment}

/-- Only the fields that take the place of keys are not checked. -/
theorem plausible_equalityField (h : c.Composed r filterType b)
    (hgiven : ∀ key entry field, (key, entry) ∈ entries r.equality → r.columns.find? key = none →
      text entry "campo" = some field → Plausible field)
    {key field : String} {entry : Json} (hentry : (key, entry) ∈ entries r.equality)
    (hfield : equalityField r.columns key entry = some field) : Plausible field := by
  unfold equalityField at hfield
  cases hcolumn : r.columns.find? key with
  | some expression =>
    rw [hcolumn] at hfield
    exact nomatch hfield
  | none =>
    rw [hcolumn] at hfield
    cases hcampo : text entry "campo" with
    | some other =>
      rw [hcampo] at hfield
      cases hfield
      exact hgiven key entry _ hentry hcolumn hcampo
    | none =>
      rw [hcampo] at hfield
      cases hfield
      exact h.plausible_equality _ (mem_keys.mpr ⟨entry, hentry⟩)

theorem plausible_specialField (h : c.Composed r filterType b) {key field : String}
    (hkey : key ∈ groupKeys r.special) (hfield : specialField r.columns key = some field) :
    Plausible field := by
  unfold specialField at hfield
  split at hfield
  · exact nomatch hfield
  · cases hfield
    exact h.plausible_special _ hkey

theorem ink_membershipFields (h : c.Composed r filterType b) :
    ∀ field ∈ r.fieldNames.within ++ r.fieldNames.without, Text.trim field ≠ "" := by
  intro field hfield
  rcases List.mem_append.mp hfield with hwithin | hwithout
  · refine h.within.membershipField_ink nofun field ?_
    simpa [Request.fieldNames] using hwithin
  · by_cases hvalues : members r.without = []
    · simp [Request.fieldNames, hvalues] at hwithout
    · refine h.without.membershipField_ink (fun _ => hvalues) field ?_
      simpa [Request.fieldNames, hvalues] using hwithout

end Compiler.Composed

/-- The fields of an accepted request may all name columns just when those may that an equality filter
gives in place of its key, and no field of a membership filter is numeric. -/
theorem Compiler.fieldNames_plausible_iff {c : Compiler} {r : Request} {out : Compiled}
    (h : c.compile r = .ok out) :
    (∀ field ∈ r.fieldNames.toList.flatten, Plausible field) ↔
      (∀ key entry field, (key, entry) ∈ entries r.equality → r.columns.find? key = none →
          text entry "campo" = some field → Plausible field) ∧
        ∀ field ∈ r.fieldNames.within ++ r.fieldNames.without, isNumericKey field = false := by
  obtain ⟨filterType, b, _, hcomposed, _⟩ := composed_of_compile h
  constructor
  · intro hsound
    constructor
    · intro key entry field hentry hcolumn hgiven
      refine hsound field (mem_fieldNames.mpr (.inl ⟨key, entry, hentry, ?_⟩))
      rw [equalityField, hcolumn, hgiven]
      rfl
    · intro field hfield
      have hmem : field ∈ r.fieldNames.toList.flatten :=
        mem_fieldNames.mpr (.inr (.inr (.inr (.inr (.inl hfield)))))
      exact (hsound field hmem).notNumeric
  · rintro ⟨hgiven, hnumeric⟩ field hfield
    rcases mem_fieldNames.mp hfield with ⟨key, entry, hentry, hname⟩ | ⟨key, hkey, hname⟩ | hkey |
      hkey | hkey | hkey
    · exact hcomposed.plausible_equalityField hgiven hentry hname
    · exact hcomposed.plausible_specialField hkey hname
    · exact hcomposed.plausible_range field hkey
    · exact hcomposed.plausible_extra field hkey
    · exact ⟨hcomposed.ink_membershipFields field hkey, hnumeric field hkey⟩
    · exact hcomposed.plausible_notEqual field hkey

/-- Fields that are given in other places than keys. -/
def Request.givenFields (campo llave : String) : Request :=
  { equality := some (.object [("t.a", .object [("value", .integer 1), ("campo", .text campo)])])
    within := some (.object [("llave", .text llave), ("values", .array [.integer 1])]) }

theorem Compiler.fieldNames_plausible_of_columns :
    ∃ out, ({} : Compiler).compile (Request.givenFields "t.b" "t.c") = .ok out ∧
      ∀ field ∈ (Request.givenFields "t.b" "t.c").fieldNames.toList.flatten, Plausible field := by
  have hout : ({} : Compiler).compile (Request.givenFields "t.b" "t.c") = .ok _ := rfl
  refine ⟨_, hout, (fieldNames_plausible_iff hout).mpr ⟨?_, ?_⟩⟩
  · intro key entry field hentry _ hgiven
    cases List.mem_singleton.mp hentry
    cases hgiven
    exact ⟨by decide +kernel, by decide +kernel⟩
  · intro field hfield
    cases List.mem_singleton.mp hfield
    decide +kernel

/-- Neither a blank field nor numeric ones are refused. -/
theorem Compiler.implausible_fieldNames :
    (∃ out, ({} : Compiler).compile (Request.givenFields " " "5") = .ok out ∧
      out.bundle.equality = "  = '1'" ∧ out.bundle.within = "5 IN ('1')") ∧
    (Request.givenFields " " "5").fieldNames.toList.flatten = [" ", "5"] ∧
    ¬ Plausible " " ∧ ¬ Plausible "5" := by
  refine ⟨⟨_, rfl, by decide +kernel, by decide +kernel⟩, rfl, ?_, ?_⟩
  · exact fun hsound => hsound.ink (by decide +kernel)
  · exact fun hsound => absurd hsound.notNumeric (by decide +kernel)

end FilterClause
