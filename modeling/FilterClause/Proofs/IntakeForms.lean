import FilterClause.Intake
import FilterClause.Proofs.Checked
import FilterClause.Proofs.Supplied

/-!
What the readers of the categories find. A reader that does not refuse its JSON gives what the caller has
supplied there: the same scalars and texts under the same names, and entry after entry in the same order.
-/
namespace FilterClause

theorem Scalar.eq_text_of_ofJson? {value : Json} {s : String}
    (h : ofJson? value = some (.text s)) : value = .text s := by
  cases value with
  | text t =>
    cases h
    rfl
  | number n =>
    cases n with
    | integer i =>
      simp only [ofJson?] at h
      split at h
      · exact nomatch h
      · obtain ⟨x, _, hx⟩ := Option.map_eq_some_iff.mp h
        exact nomatch hx
    | float x => exact nomatch h
  | _ => exact nomatch h

namespace Intake

open Checked

theorem of_record {value : Json} {what : String} {members : Members}
    (h : record value what = .ok members) : value = .object members := by
  cases value with
  | object found =>
    cases h
    rfl
  | _ => exact nomatch h

theorem of_scalar {value : Json} {what : String} {v : Scalar} (h : scalar value what = .ok v) :
    Scalar.ofJson? value = some v := by
  unfold scalar at h
  cases hv : Scalar.ofJson? value with
  | none => rw [hv] at h; exact nomatch h
  | some found =>
    rw [hv] at h
    cases h
    rfl

theorem of_text {value : Json} {what s : String} (h : text value what = .ok s) :
    ∃ v, Scalar.ofJson? value = some v ∧ v.asText = s := by
  obtain ⟨v, hv, h⟩ := bind_eq_ok_iff.mp h
  cases h
  exact ⟨v, of_scalar hv, rfl⟩

theorem of_required {members : Members} {name : String} {value : Json}
    (h : required members name = .ok value) :
    Supplied.given (.object members) name = some value ∧ value ≠ .null := by
  unfold required at h
  split at h
  · exact nomatch h
  · exact nomatch h
  · rename_i hnull hfound
    cases h
    exact ⟨hfound, hnull⟩

theorem of_optionalText {members : Members} {name : String} {found : Option String}
    (h : optionalText members name = .ok found) :
    Supplied.text (.object members) name = found := by
  unfold Supplied.text
  unfold optionalText at h
  have hgiven : Supplied.given (.object members) name = Entries.find? members name := rfl
  rw [hgiven]
  split at h
  · rename_i hnone
    cases h
    rw [hnone]
    rfl
  · rename_i hnull
    cases h
    rw [hnull]
  · rename_i value hnull hvalue
    obtain ⟨s, hs, h⟩ := bind_eq_ok_iff.mp h
    cases h
    obtain ⟨v, hv, rfl⟩ := of_text hs
    rw [hvalue]
    cases value with
    | null => exact (hnull rfl).elim
    | _ => simp [hv]

theorem of_optionalScalar {members : Members} {name : String} {found : Option Scalar}
    (h : optionalScalar members name = .ok found) :
    Supplied.scalar (.object members) name = found := by
  unfold optionalScalar at h
  have hgiven : Supplied.given (.object members) name = Entries.find? members name := rfl
  rw [Supplied.scalar, hgiven]
  split at h
  · rename_i hnone
    cases h
    rw [hnone]
    rfl
  · rename_i value hvalue
    obtain ⟨v, hv, h⟩ := bind_eq_ok_iff.mp h
    cases h
    rw [hvalue]
    exact of_scalar hv

theorem scalar_of_required {members : Members} {name what : String} {value : Json} {v : Scalar}
    (h : required members name = .ok value) (hv : scalar value what = .ok v) :
    Supplied.scalar (.object members) name = some v := by
  rw [Supplied.scalar, (of_required h).1]
  exact of_scalar hv

theorem flag_eq (members : Members) (name : String) :
    flag members name = Supplied.isSet (.object members) name := by
  have hgiven : Supplied.given (.object members) name = Entries.find? members name := rfl
  unfold flag Supplied.isSet
  rw [hgiven]
  cases Entries.find? members name <;> rfl

theorem of_singleEntry {group : Json} {category key : String} {entry : Json}
    (h : singleEntry group category = .ok (key, entry)) :
    Supplied.group? group = some (key, entry) := by
  obtain ⟨members, hmembers, h⟩ := bind_eq_ok_iff.mp h
  rw [of_record hmembers]
  split at h
  · cases h
    rfl
  · exact nomatch h

/-! ### Categories -/

theorem of_keyed {β : Type} {value : Option Json} {name : String}
    {read : String × Json → Checked β} {found : List β}
    (h : category value [] (fun value => do (← keyed value name).mapM read) = .ok found) :
    (Supplied.entries value).mapM read = .ok found := by
  unfold category at h
  split at h
  · exact h
  · exact h
  · rename_i value _
    obtain ⟨members, hmembers, h⟩ := bind_eq_ok_iff.mp h
    unfold keyed at hmembers
    split at hmembers
    · cases hmembers
      exact h
    · cases hmembers
      exact h
    · exact nomatch hmembers
    · exact nomatch hmembers

theorem of_listed {β : Type} {value : Option Json} {name : String} {read : Json → Checked β}
    {found : List β}
    (h : category value [] (fun value => do (← listed value name).mapM read) = .ok found) :
    (Supplied.elements value).mapM read = .ok found := by
  unfold category at h
  split at h
  · exact h
  · exact h
  · rename_i value _
    obtain ⟨items, hitems, h⟩ := bind_eq_ok_iff.mp h
    unfold listed at hitems
    split at hitems
    · cases hitems
      exact h
    · cases hitems
      exact h
    · exact nomatch hitems

theorem of_equality {key : String} {entry : Json} {filter : Equality}
    (h : equality key entry = .ok filter) :
    Supplied.equalityValue entry = some filter.value ∧
      Supplied.text entry "campo" = filter.field ∧
      Supplied.text entry "operador" = filter.connective := by
  unfold equality at h
  split at h
  · exact nomatch h
  · rename_i attributes _
    obtain ⟨given, hgiven, h⟩ := bind_eq_ok_iff.mp h
    obtain ⟨value, hvalue, h⟩ := bind_eq_ok_iff.mp h
    obtain ⟨field, hfield, h⟩ := bind_eq_ok_iff.mp h
    obtain ⟨comparison, hcomparison, h⟩ := bind_eq_ok_iff.mp h
    obtain ⟨connective, hconnective, h⟩ := bind_eq_ok_iff.mp h
    cases h
    have hrequired : required attributes "value" = .ok given := by
      cases hcase : required attributes "value" with
      | error failure => rw [hcase] at hgiven; exact nomatch hgiven
      | ok found => rw [hcase] at hgiven; exact hgiven
    exact ⟨scalar_of_required hrequired hvalue, of_optionalText hfield,
      of_optionalText hconnective⟩
  · exact nomatch h
  · rename_i hempty hobject harray
    obtain ⟨value, hvalue, h⟩ := bind_eq_ok_iff.mp h
    cases h
    cases entry with
    | object attributes => exact absurd rfl (hobject attributes)
    | array items => exact absurd rfl (harray items)
    | _ => exact ⟨of_scalar hvalue, rfl, rfl⟩

theorem of_special {group : Json} {found : Group Special} (h : special group = .ok found) :
    ∃ entry, Supplied.group? group = some (found.field, entry) ∧
      Supplied.scalar entry "valor" = found.filter.value ∧
      found.filter.bound = .ofFlag (Supplied.isSet entry "valor_es_campo") := by
  obtain ⟨⟨field, entry⟩, hgroup, h⟩ := bind_eq_ok_iff.mp h
  obtain ⟨attributes, hattributes, h⟩ := bind_eq_ok_iff.mp h
  obtain ⟨operator, hoperator, h⟩ := bind_eq_ok_iff.mp h
  obtain ⟨value, hvalue, h⟩ := bind_eq_ok_iff.mp h
  obtain ⟨connective, hconnective, h⟩ := bind_eq_ok_iff.mp h
  cases h
  have hentry := of_record hattributes
  refine ⟨entry, of_singleEntry hgroup, ?_, ?_⟩
  · rw [hentry]
    exact of_optionalScalar hvalue
  · rw [hentry, ← flag_eq]

theorem of_extra {group : Json} {found : Group Extra} (h : extra group = .ok found) :
    ∃ entry, Supplied.group? group = some (found.field, entry) ∧
      Supplied.scalar entry "valor" = found.filter.value := by
  obtain ⟨⟨field, entry⟩, hgroup, h⟩ := bind_eq_ok_iff.mp h
  obtain ⟨attributes, hattributes, h⟩ := bind_eq_ok_iff.mp h
  obtain ⟨operator, hoperator, h⟩ := bind_eq_ok_iff.mp h
  obtain ⟨value, hvalue, h⟩ := bind_eq_ok_iff.mp h
  obtain ⟨connective, hconnective, h⟩ := bind_eq_ok_iff.mp h
  cases h
  refine ⟨entry, of_singleEntry hgroup, ?_⟩
  rw [of_record hattributes]
  exact of_optionalScalar hvalue

theorem of_range {key : String} {entry : Json} {found : Range} (h : range key entry = .ok found) :
    Supplied.scalar entry "valor1" = some found.lower ∧
      Supplied.scalar entry "valor2" = some found.upper ∧
      found.bound = .ofFlag (Supplied.isSet entry "valor_campo") := by
  obtain ⟨attributes, hattributes, h⟩ := bind_eq_ok_iff.mp h
  obtain ⟨_, _, h⟩ := bind_eq_ok_iff.mp h
  obtain ⟨first, hfirst, h⟩ := bind_eq_ok_iff.mp h
  obtain ⟨lower, hlower, h⟩ := bind_eq_ok_iff.mp h
  obtain ⟨second, hsecond, h⟩ := bind_eq_ok_iff.mp h
  obtain ⟨upper, hupper, h⟩ := bind_eq_ok_iff.mp h
  cases h
  rw [of_record hattributes, ← flag_eq]
  exact ⟨scalar_of_required hfirst hlower, scalar_of_required hsecond hupper, rfl⟩

/-- The date is the text of what is given for it, which need not be a text itself. -/
theorem of_period {entry : Json} {found : Period} (h : period entry = .ok found) :
    ∃ given v, Supplied.given entry "fecha" = some given ∧ Scalar.ofJson? given = some v ∧
      v.asText = found.date := by
  obtain ⟨attributes, hattributes, h⟩ := bind_eq_ok_iff.mp h
  obtain ⟨_, _, h⟩ := bind_eq_ok_iff.mp h
  obtain ⟨first, _, h⟩ := bind_eq_ok_iff.mp h
  obtain ⟨start, _, h⟩ := bind_eq_ok_iff.mp h
  obtain ⟨second, _, h⟩ := bind_eq_ok_iff.mp h
  obtain ⟨finish, _, h⟩ := bind_eq_ok_iff.mp h
  obtain ⟨given, hgiven, h⟩ := bind_eq_ok_iff.mp h
  obtain ⟨date, hdate, h⟩ := bind_eq_ok_iff.mp h
  cases h
  obtain ⟨v, hv, htext⟩ := of_text hdate
  rw [of_record hattributes]
  exact ⟨given, v, (of_required hgiven).1, hv, htext⟩

theorem of_membership {value : Option Json} {found : Option Membership}
    (h : membership value = .ok found) :
    (found = none ∧ Supplied.membershipField value = none ∧ Supplied.members value = []) ∨
      ∃ filter, found = some filter ∧ Supplied.membershipField value = some filter.field ∧
        (Supplied.members value).mapM (scalar · "an IN value") = .ok filter.values := by
  unfold membership category at h
  split at h
  · cases h
    exact .inl ⟨rfl, rfl, rfl⟩
  · cases h
    exact .inl ⟨rfl, rfl, rfl⟩
  · rename_i entry _
    dsimp only at h
    split at h
    · cases h
      exact .inl ⟨rfl, rfl, rfl⟩
    · cases h
      exact .inl ⟨rfl, rfl, rfl⟩
    · obtain ⟨attributes, hattributes, h⟩ := bind_eq_ok_iff.mp h
      obtain ⟨_, _, h⟩ := bind_eq_ok_iff.mp h
      obtain ⟨key, hkey, h⟩ := bind_eq_ok_iff.mp h
      obtain ⟨field, hfield, h⟩ := bind_eq_ok_iff.mp h
      obtain ⟨given, hgiven, h⟩ := bind_eq_ok_iff.mp h
      have hentry := of_record hattributes
      obtain ⟨hkeyGiven, hkeyNull⟩ := of_required hkey
      obtain ⟨v, hv, htext⟩ := of_text hfield
      have hname : Supplied.membershipField (some entry) = some field := by
        rw [Supplied.membershipField, Option.bind_some, hentry, Supplied.text, hkeyGiven]
        cases key with
        | null => exact absurd rfl hkeyNull
        | _ => simp [hv, htext]
      split at h
      · rename_i items
        obtain ⟨values, hvalues, h⟩ := bind_eq_ok_iff.mp h
        cases h
        have hmembers : Supplied.members (some entry) = items := by
          rw [hentry, Supplied.members, Option.bind_some, (of_required hgiven).1]
        exact .inr ⟨_, rfl, hname, by rw [hmembers]; exact hvalues⟩
      · exact nomatch h

theorem of_notEqual {key : String} {entry : Json} {v : Scalar} (h : notEqual key entry = .ok v) :
    Scalar.ofJson? entry = some v := by
  unfold notEqual at h
  split at h
  · exact nomatch h
  · exact of_scalar h

end Intake

end FilterClause
