import FilterClause.Proofs.IntakeForms
import FilterClause.Proofs.JsonReading
import Mathlib.Data.List.Forall2

/-!
What the readers of the categories accept, and that they keep it. For each category there is a shape
that is told on the JSON alone: its reader succeeds on the values that have it and on no others, and finds
one filter for each entry, in the order of the entries and with the values that they give.
-/
namespace FilterClause

open Checked

/-! ### Whole numbers -/

namespace Decimal

theorem binaryOrder_le (num den : Nat) : binaryOrder num den ≤ num.log2 := by
  unfold binaryOrder
  dsimp only
  split <;> omega

theorem isSome_ofRatio {negative : Bool} {num : Nat} (den : Nat) (h : num.log2 ≤ 64) :
    (ofRatio negative num den).isSome := by
  have horder := binaryOrder_le num den
  unfold ofRatio
  split
  · rfl
  · have hleast : Binary64.leastExponent = -1074 := rfl
    have hgreatest : Binary64.greatestExponent = 971 := rfl
    dsimp only
    generalize nearest _ _ = m
    by_cases hm : m = Nat.pow 2 53
    · rw [if_pos hm, if_neg (by omega)]
      rfl
    · rw [if_neg hm, if_neg (by omega)]
      rfl

theorem isSome_ofInt {i : Int} (h : i.natAbs ≤ 0x10000000000000000) : (ofInt i).isSome := by
  unfold ofInt ofDecimal
  dsimp only
  -- far below the sizes that are settled without looking at the digits
  have hcount : digitCount i.natAbs ≤ 20 := by
    unfold digitCount
    split
    · omega
    · exact (Nat.length_toDigits_le_iff (by omega) (by omega)).mpr (by omega)
  split
  · rfl
  · rename_i hsmall
    simp only [Bool.or_eq_true, decide_eq_true_eq, not_or] at hsmall
    rw [if_neg (by omega)]
    apply isSome_ofRatio
    have hlog := (Nat.log2_lt (k := 65) hsmall.1).mpr (by omega)
    simpa using Nat.le_of_lt_succ hlog

end Decimal

/-! ### Scalars -/

namespace Json

def isScalar : Json → Bool
  | array _ => false
  | object _ => false
  | _ => true

def isObject : Json → Bool
  | object _ => true
  | _ => false

/-- Holds of the values that there are, however deep: the numbers in them are in range, and no object in
them has a name twice. -/
def Sound (value : Json) : Prop :=
  ∃ depth, Fits depth value

theorem Sound.item {items : List Json} (h : Sound (array items)) {item : Json} (hitem : item ∈ items) :
    item.Sound := by
  obtain ⟨_, hfits⟩ := h
  cases hfits with
  | array hitems => exact ⟨_, hitems item hitem⟩

theorem Sound.member {members : List (String × Json)} (h : Sound (object members))
    {member : String × Json} (hmember : member ∈ members) : member.2.Sound := by
  obtain ⟨_, hfits⟩ := h
  cases hfits with
  | object _ hmembers => exact ⟨_, hmembers member hmember⟩

theorem Sound.given {entry value : Json} (h : entry.Sound) {name : String}
    (hgiven : Supplied.given entry name = some value) : value.Sound := by
  cases entry with
  | object members =>
    obtain ⟨front, back, rfl, _⟩ := List.lookup_eq_some_iff.mp hgiven
    exact h.member (List.mem_append_cons_self : (name, value) ∈ front ++ (name, value) :: back)
  | _ => exact nomatch hgiven

end Json

/-- A value is taken for a scalar just when it is one. -/
theorem Scalar.isSome_ofJson? {value : Json} (h : value.Sound) :
    (ofJson? value).isSome = value.isScalar := by
  cases value with
  | number n =>
    obtain ⟨_, hfits⟩ := h
    cases hfits with
    | number _ hrange =>
      cases n with
      | integer i =>
        have hlow : -0x8000000000000000 ≤ i := hrange.1
        have hhigh : i < 0x10000000000000000 := hrange.2
        have hfloat : (Decimal.ofInt i).isSome := Decimal.isSome_ofInt (by omega)
        simp only [ofJson?, Json.isScalar]
        split
        · rfl
        · rw [Option.isSome_map, hfloat]
      | float x => rfl
  | _ => rfl

/-! ### Readers -/

/-- Holds of a step that succeeds just when what it reads has some shape, and then finds what is told of
it. -/
structure Checked.Accepts {α : Type} (x : Checked α) (shape : Prop) (told : α → Prop) : Prop where
  succeeds_iff : (∃ found, x = .ok found) ↔ shape
  records : ∀ found, x = .ok found → told found

namespace Checked

variable {α β : Type} {x : Checked α} {p q : Prop} {t : α → Prop} {u : β → Prop}

theorem accepts_ok {a : α} (h : t a) : Accepts (.ok a) True t where
  succeeds_iff := ⟨fun _ => trivial, fun _ => ⟨a, rfl⟩⟩
  records found hfound := by
    cases hfound
    exact h

theorem accepts_error (failure : Failure) (hp : ¬ p) : Accepts (.error failure) p t where
  succeeds_iff := ⟨nofun, fun h => absurd h hp⟩
  records := nofun

/-- The shapes of two steps go together when that of the second does not depend on what the first finds. -/
theorem Accepts.bind {next : α → Checked β} (hx : Accepts x p t)
    (hnext : ∀ a, t a → Accepts (next a) q u) : Accepts (x >>= next) (p ∧ q) u where
  succeeds_iff := by
    constructor
    · rintro ⟨b, hb⟩
      obtain ⟨a, ha, hb⟩ := bind_eq_ok_iff.mp hb
      exact ⟨hx.succeeds_iff.mp ⟨a, ha⟩, (hnext a (hx.records a ha)).succeeds_iff.mp ⟨b, hb⟩⟩
    · rintro ⟨hp, hq⟩
      obtain ⟨a, ha⟩ := hx.succeeds_iff.mpr hp
      obtain ⟨b, hb⟩ := (hnext a (hx.records a ha)).succeeds_iff.mpr hq
      exact ⟨b, bind_eq_ok_iff.mpr ⟨a, ha, hb⟩⟩
  records b hb := by
    obtain ⟨a, ha, hb⟩ := bind_eq_ok_iff.mp hb
    exact (hnext a (hx.records a ha)).records b hb

theorem Accepts.congr (h : Accepts x p t) (hpq : p ↔ q) : Accepts x q t where
  succeeds_iff := h.succeeds_iff.trans hpq
  records := h.records

theorem Accepts.withField (h : Accepts x p t) (field : String) : Accepts (x.withField field) p t where
  succeeds_iff := by
    simp only [withField_eq_ok_iff]
    exact h.succeeds_iff
  records found hfound := h.records found (withField_eq_ok_iff.mp hfound)

/-- A run over a list succeeds just when each of its steps does, and finds something for each element. -/
theorem accepts_mapM {read : α → Checked β} {shape : α → Prop} {told : α → β → Prop} {as : List α}
    (h : ∀ a ∈ as, Accepts (read a) (shape a) (told a)) :
    Accepts (as.mapM read) (∀ a ∈ as, shape a) (List.Forall₂ told as) := by
  induction as with
  | nil => exact (accepts_ok List.Forall₂.nil).congr (by simp)
  | cons a as ih =>
    have hrest := ih fun b hb => h b (List.mem_cons_of_mem a hb)
    rw [List.mapM_cons]
    refine ((h a List.mem_cons_self).bind fun b hb => hrest.bind fun bs hbs =>
      accepts_ok (List.Forall₂.cons hb hbs)).congr ?_
    rw [List.forall_mem_cons, and_true]

end Checked

namespace Supplied

/-- Whether something that is not null stands under a name. -/
def has (entry : Json) (name : String) : Bool :=
  (given entry name).any (!·.isNull)

/-- Whether nothing stands under a name, or a scalar, such as null. -/
def mayHaveScalar (entry : Json) (name : String) : Bool :=
  (given entry name).all Json.isScalar

/-- Whether a scalar that is not null stands under a name. -/
def hasScalar (entry : Json) (name : String) : Bool :=
  has entry name && mayHaveScalar entry name

/-- Whether an array of scalars stands under a name. -/
def hasScalars (entry : Json) (name : String) : Bool :=
  match given entry name with
  | some (.array items) => items.all Json.isScalar
  | _ => false

theorem has_iff {entry : Json} {name : String} :
    has entry name ↔ ∃ value, given entry name = some value ∧ value ≠ .null := by
  rw [has, Option.any_eq_true]
  refine exists_congr fun value => and_congr_right fun _ => ?_
  cases value <;> simp [Json.isNull]

theorem isObject_of_has {entry : Json} {name : String} (h : has entry name) : entry.isObject := by
  obtain ⟨value, hvalue, _⟩ := has_iff.mp h
  cases entry with
  | object members => rfl
  | _ => exact nomatch hvalue

theorem isObject_of_hasScalar {entry : Json} {name : String} (h : hasScalar entry name) :
    entry.isObject :=
  isObject_of_has (Bool.and_eq_true_iff.mp h).1

theorem has_of_hasScalars {entry : Json} {name : String} (h : hasScalars entry name) :
    has entry name := by
  unfold hasScalars at h
  split at h
  · rename_i items hitems
    exact has_iff.mpr ⟨.array items, hitems, nofun⟩
  · exact nomatch h

theorem mayHaveScalar_of_given {entry value : Json} {name : String}
    (h : given entry name = some value) : mayHaveScalar entry name = value.isScalar := by
  rw [mayHaveScalar, h, Option.all_some]

end Supplied

namespace Intake

open Supplied (given has mayHaveScalar)

/-- A shape that only objects have is read off the members of one. -/
theorem accepts_record {α : Type} {entry : Json} {what : String} {next : Members → Checked α}
    {shape : Prop} {told : α → Prop} (hobject : shape → entry.isObject)
    (h : ∀ members, entry = .object members → Accepts (next members) shape told) :
    Accepts (record entry what >>= next) shape told := by
  cases entry with
  | object members => exact h members rfl
  | _ => exact accepts_error _ fun hshape => nomatch hobject hshape

theorem accepts_scalar {value : Json} (h : value.Sound) (what : String) :
    Accepts (scalar value what) value.isScalar (Scalar.ofJson? value = some ·) where
  succeeds_iff := by
    rw [← Scalar.isSome_ofJson? h, scalar]
    cases Scalar.ofJson? value <;> simp
  records _ hfound := of_scalar hfound

theorem accepts_given {entry value : Json} (h : entry.Sound) {name : String}
    (hgiven : given entry name = some value) (what : String) :
    Accepts (scalar value what) (mayHaveScalar entry name) (Supplied.scalar entry name = some ·) := by
  rw [Supplied.mayHaveScalar_of_given hgiven, Supplied.scalar, hgiven]
  exact accepts_scalar (h.given hgiven) what

theorem accepts_givenText {entry value : Json} (h : entry.Sound) {name : String}
    (hgiven : given entry name = some value) (hnull : value ≠ .null) (what : String) :
    Accepts (text value what) (mayHaveScalar entry name) (Supplied.text entry name = some ·) := by
  refine ((accepts_given h hgiven what).bind fun v hv => accepts_ok ?_).congr (and_iff_left trivial)
  rw [Supplied.scalar, hgiven, Option.bind_some] at hv
  rw [Supplied.text, hgiven]
  cases value with
  | null => exact absurd rfl hnull
  | _ => simp [hv]

theorem accepts_required (members : Members) (name : String) :
    Accepts (required members name) (has (.object members) name)
      (fun value => given (.object members) name = some value ∧ value ≠ .null) where
  succeeds_iff := by
    have hgiven : given (.object members) name = Entries.find? members name := rfl
    rw [Supplied.has_iff]
    constructor
    · rintro ⟨value, hvalue⟩
      exact ⟨value, of_required hvalue⟩
    · rintro ⟨value, hvalue, hnull⟩
      rw [hgiven] at hvalue
      unfold required
      rw [hvalue]
      cases value with
      | null => exact absurd rfl hnull
      | _ => exact ⟨_, rfl⟩
  records _ hfound := of_required hfound

theorem accepts_requireAll (members : Members) (names : List String) :
    Accepts (requireAll members names) (∀ name ∈ names, has (.object members) name) fun _ => True := by
  induction names with
  | nil => exact (accepts_ok trivial).congr (by simp)
  | cons name names ih =>
    refine (((accepts_required members name).bind fun _ _ =>
      accepts_ok (t := fun _ => True) trivial).bind fun _ _ => ih).congr ?_
    rw [List.forall_mem_cons, and_true]

theorem accepts_optionalScalar {members : Members} (h : (Json.object members).Sound) (name : String) :
    Accepts (optionalScalar members name) (mayHaveScalar (.object members) name)
      (Supplied.scalar (.object members) name = ·) where
  succeeds_iff := by
    have hgiven : given (.object members) name = Entries.find? members name := rfl
    unfold optionalScalar
    cases hvalue : Entries.find? members name with
    | none => simp [mayHaveScalar, hgiven, hvalue]
    | some value =>
      rw [← hgiven] at hvalue
      refine (((accepts_given h hvalue name).bind fun v _ =>
        accepts_ok (t := fun _ => True) trivial).congr (and_iff_left trivial)).succeeds_iff
  records _ hfound := of_optionalScalar hfound

theorem accepts_optionalText {members : Members} (h : (Json.object members).Sound) (name : String) :
    Accepts (optionalText members name) (mayHaveScalar (.object members) name)
      (Supplied.text (.object members) name = ·) where
  succeeds_iff := by
    have hgiven : given (.object members) name = Entries.find? members name := rfl
    unfold optionalText
    split
    · rename_i hvalue
      simp [mayHaveScalar, hgiven, hvalue]
    · rename_i hvalue
      simp [mayHaveScalar, hgiven, hvalue, Json.isScalar]
    · rename_i value hnull hvalue
      rw [← hgiven] at hvalue
      refine (((accepts_givenText h hvalue hnull name).bind fun v _ =>
        accepts_ok (t := fun _ => True) trivial).congr (and_iff_left trivial)).succeeds_iff
  records _ hfound := of_optionalText hfound

theorem accepts_singleEntry (group : Json) (name : String) :
    Accepts (singleEntry group name) (∃ key entry, Supplied.group? group = some (key, entry))
      (Supplied.group? group = some ·) where
  succeeds_iff := by
    constructor
    · rintro ⟨⟨key, entry⟩, hfound⟩
      exact ⟨key, entry, of_singleEntry hfound⟩
    · rintro ⟨key, entry, hgroup⟩
      unfold Supplied.group? at hgroup
      split at hgroup
      · exact ⟨_, rfl⟩
      · exact nomatch hgroup
  records _ hfound := of_singleEntry hfound

end Intake

/-! ### Entries -/

namespace Supplied

/-- An equality filter is a scalar, or an object with a value and up to three more attributes. -/
def isEquality (entry : Json) : Bool :=
  entry.isScalar || (hasScalar entry "value" && mayHaveScalar entry "campo" &&
    mayHaveScalar entry "comparacion" && mayHaveScalar entry "operador")

def isRange (entry : Json) : Bool :=
  hasScalar entry "valor1" && hasScalar entry "valor2"

def isPeriod (entry : Json) : Bool :=
  hasScalar entry "campo_1" && hasScalar entry "campo_2" && hasScalar entry "fecha"

/-- All attributes of the entry of a group may be left out. -/
def isGroupEntry (entry : Json) : Bool :=
  entry.isObject && (mayHaveScalar entry "operador" && mayHaveScalar entry "valor" &&
    mayHaveScalar entry "comparacion")

/-- A group has exactly one entry. -/
def isGroup (group : Json) : Bool :=
  (group? group).any (isGroupEntry ·.2)

/-- The key of an entry that has to differ from a value may not look like a number. -/
def isNotEqual (key : String) (entry : Json) : Bool :=
  !isNumericKey key && entry.isScalar

end Supplied

/-- An equality filter keeps the value and the texts of its entry. -/
structure Equality.Records (entry : Json) (filter : Equality) : Prop where
  value : Supplied.equalityValue entry = some filter.value
  field : Supplied.text entry "campo" = filter.field
  comparison : Supplied.text entry "comparacion" = filter.comparison
  connective : Supplied.text entry "operador" = filter.connective

structure Range.Records (entry : Json) (range : Range) : Prop where
  lower : Supplied.scalar entry "valor1" = some range.lower
  upper : Supplied.scalar entry "valor2" = some range.upper
  bound : .ofFlag (Supplied.isSet entry "valor_campo") = range.bound

structure Period.Records (entry : Json) (period : Period) : Prop where
  start : Supplied.text entry "campo_1" = some period.start
  finish : Supplied.text entry "campo_2" = some period.finish
  date : Supplied.text entry "fecha" = some period.date

structure Special.Records (entry : Json) (filter : Special) : Prop where
  operator : Supplied.text entry "operador" = filter.operator
  value : Supplied.scalar entry "valor" = filter.value
  bound : .ofFlag (Supplied.isSet entry "valor_es_campo") = filter.bound
  connective : Supplied.text entry "comparacion" = filter.connective

structure Extra.Records (entry : Json) (filter : Extra) : Prop where
  operator : Supplied.text entry "operador" = filter.operator
  value : Supplied.scalar entry "valor" = filter.value
  connective : Supplied.text entry "comparacion" = filter.connective

/-- A group keeps its key beside what its filter keeps. -/
def Group.Records {α : Type} (told : Json → α → Prop) (group : Json) (found : Group α) : Prop :=
  ∃ entry, Supplied.group? group = some (found.field, entry) ∧ told entry found.filter

namespace Intake

open Supplied (given hasScalar mayHaveScalar)

theorem accepts_equality (key : String) {entry : Json} (h : entry.Sound) :
    Accepts (equality key entry) (Supplied.isEquality entry) (Equality.Records entry) := by
  unfold equality
  split
  · exact accepts_error _ (by decide)
  · rename_i attributes _
    refine (((accepts_required attributes "value").withField key).bind fun value hvalue =>
      (accepts_given h hvalue.1 "value").bind fun value hvalue =>
      (accepts_optionalText h "campo").bind fun field hfield =>
      (accepts_optionalText h "comparacion").bind fun comparison hcomparison =>
      (accepts_optionalText h "operador").bind fun connective hconnective =>
      accepts_ok ⟨hvalue, hfield, hcomparison, hconnective⟩).congr ?_
    simp [Supplied.isEquality, hasScalar, Json.isScalar, and_assoc]
  · exact accepts_error _ Bool.false_ne_true
  · rename_i hobject harray
    have hscalar : entry.isScalar := by
      cases entry with
      | object attributes => exact absurd rfl (hobject attributes)
      | array items => exact absurd rfl (harray items)
      | _ => rfl
    have hgiven : ∀ name, given entry name = none := by
      intro name
      cases entry with
      | object attributes => exact absurd rfl (hobject attributes)
      | _ => rfl
    have htext : ∀ name, Supplied.text entry name = none := by
      intro name
      rw [Supplied.text, hgiven]
      rfl
    refine ((accepts_scalar h "value").bind fun value hvalue =>
      accepts_ok ⟨?_, htext "campo", htext "comparacion", htext "operador"⟩).congr ?_
    · simp [Supplied.isEquality, hscalar]
    · rw [← hvalue]
      cases entry with
      | object attributes => exact absurd rfl (hobject attributes)
      | _ => rfl

theorem accepts_range (key : String) {entry : Json} (h : entry.Sound) :
    Accepts (range key entry) (Supplied.isRange entry) (Range.Records entry) := by
  refine accepts_record (fun hshape => ?_) fun attributes hentry => ?_
  · exact Supplied.isObject_of_hasScalar (Bool.and_eq_true_iff.mp hshape).1
  · subst hentry
    refine (((accepts_requireAll attributes ["valor1", "valor2"]).withField key).bind fun _ _ =>
      (accepts_required attributes "valor1").bind fun first hfirst =>
      (accepts_given h hfirst.1 "valor1").bind fun lower hlower =>
      (accepts_required attributes "valor2").bind fun second hsecond =>
      (accepts_given h hsecond.1 "valor2").bind fun upper hupper =>
      accepts_ok ⟨hlower, hupper, by rw [flag_eq]⟩).congr ?_
    simp only [Supplied.isRange, hasScalar, List.forall_mem_cons, Bool.and_eq_true]
    tauto

theorem accepts_period {entry : Json} (h : entry.Sound) :
    Accepts (period entry) (Supplied.isPeriod entry) (Period.Records entry) := by
  refine accepts_record (fun hshape => ?_) fun attributes hentry => ?_
  · simp only [Supplied.isPeriod, Bool.and_eq_true] at hshape
    exact Supplied.isObject_of_hasScalar hshape.1.1
  · subst hentry
    refine ((accepts_requireAll attributes ["campo_1", "campo_2", "fecha"]).bind fun _ _ =>
      (accepts_required attributes "campo_1").bind fun first hfirst =>
      (accepts_givenText h hfirst.1 hfirst.2 "campo_1").bind fun start hstart =>
      (accepts_required attributes "campo_2").bind fun second hsecond =>
      (accepts_givenText h hsecond.1 hsecond.2 "campo_2").bind fun finish hfinish =>
      (accepts_required attributes "fecha").bind fun third hthird =>
      (accepts_givenText h hthird.1 hthird.2 "fecha").bind fun date hdate =>
      accepts_ok ⟨hstart, hfinish, hdate⟩).congr ?_
    simp only [Supplied.isPeriod, hasScalar, List.forall_mem_cons, Bool.and_eq_true]
    tauto

theorem accepts_notEqual (key : String) {entry : Json} (h : entry.Sound) :
    Accepts (notEqual key entry) (Supplied.isNotEqual key entry) (Scalar.ofJson? entry = some ·) := by
  unfold notEqual Supplied.isNotEqual
  split
  · rename_i hkey
    exact accepts_error _ (by simp [hkey])
  · rename_i hkey
    exact (accepts_scalar h _).congr (by simp [hkey])

/-- The shape of a group is that of its only entry. -/
theorem accepts_group {α : Type} {group : Json} {name : String} {next : String × Json → Checked α}
    {shape : Json → Bool} {told : α → Prop}
    (h : ∀ key entry, Supplied.group? group = some (key, entry) →
      Accepts (next (key, entry)) (shape entry) told) :
    Accepts (singleEntry group name >>= next)
      ((Supplied.group? group).any (shape ·.2)) told := by
  refine ((accepts_singleEntry group name).bind
    (q := (Supplied.group? group).all (shape ·.2)) fun found hfound => ?_).congr ?_
  · obtain ⟨key, entry⟩ := found
    exact (h key entry hfound).congr (by simp [hfound])
  · cases Supplied.group? group with
    | none => simp
    | some found =>
      obtain ⟨key, entry⟩ := found
      simp

theorem sound_of_group {group : Json} (h : group.Sound) {key : String} {entry : Json}
    (hgroup : Supplied.group? group = some (key, entry)) : entry.Sound := by
  unfold Supplied.group? at hgroup
  split at hgroup
  · cases hgroup
    exact h.member List.mem_cons_self
  · exact nomatch hgroup

theorem accepts_special {group : Json} (h : group.Sound) :
    Accepts (special group) (Supplied.isGroup group) (Group.Records Special.Records group) := by
  refine accepts_group fun key entry hgroup => ?_
  refine accepts_record (fun hshape => ?_) fun attributes hentry => ?_
  · exact (Bool.and_eq_true_iff.mp hshape).1
  · have hsound := sound_of_group h hgroup
    subst hentry
    refine ((accepts_optionalText hsound "operador").bind fun operator hoperator =>
      (accepts_optionalScalar hsound "valor").bind fun value hvalue =>
      (accepts_optionalText hsound "comparacion").bind fun connective hconnective =>
      accepts_ok ⟨_, hgroup, hoperator, hvalue, by rw [flag_eq], hconnective⟩).congr ?_
    simp [Supplied.isGroupEntry, Json.isObject, and_assoc]

theorem accepts_extra {group : Json} (h : group.Sound) :
    Accepts (extra group) (Supplied.isGroup group) (Group.Records Extra.Records group) := by
  refine accepts_group fun key entry hgroup => ?_
  refine accepts_record (fun hshape => ?_) fun attributes hentry => ?_
  · exact (Bool.and_eq_true_iff.mp hshape).1
  · have hsound := sound_of_group h hgroup
    subst hentry
    refine ((accepts_optionalText hsound "operador").bind fun operator hoperator =>
      (accepts_optionalScalar hsound "valor").bind fun value hvalue =>
      (accepts_optionalText hsound "comparacion").bind fun connective hconnective =>
      accepts_ok ⟨_, hgroup, hoperator, hvalue, hconnective⟩).congr ?_
    simp [Supplied.isGroupEntry, Json.isObject, and_assoc]

end Intake

/-! ### Categories -/

namespace Supplied

/-- A keyed category is absent, null, an empty array, or an object of entries. -/
def isKeyed (shape : String → Json → Bool) : Option Json → Bool
  | none => true
  | some .null => true
  | some (.array []) => true
  | some (.object members) => members.all fun (key, entry) => shape key entry
  | some _ => false

/-- A listed category is absent, null, an array of elements, or an object of them. -/
def isListed (shape : Json → Bool) : Option Json → Bool
  | none => true
  | some .null => true
  | some (.array items) => items.all shape
  | some (.object members) => members.all fun (_, item) => shape item
  | some _ => false

/-- Whether a membership category asks for nothing. -/
def isVoid : Option Json → Bool
  | none => true
  | some .null => true
  | some (.object []) => true
  | some (.array []) => true
  | some _ => false

def isMembership (value : Option Json) : Bool :=
  isVoid value || value.any fun entry => hasScalar entry "llave" && hasScalars entry "values"

end Supplied

/-- There is a filter for each entry, under the same key and at the same place. -/
def Entries.Records {α : Type} (told : Json → α → Prop) (value : Option Json) (found : Entries α) :
    Prop :=
  List.Forall₂ (fun member filter => member.1 = filter.1 ∧ told member.2 filter.2)
    (Supplied.entries value) found

/-- There is no filter just where nothing is asked for, and otherwise it keeps the field and each of the
values. -/
structure Membership.Records (value : Option Json) (found : Option Membership) : Prop where
  eq_none_iff : found = none ↔ Supplied.isVoid value
  field : Supplied.membershipField value = found.map Membership.field
  values : List.Forall₂ (Scalar.ofJson? · = some ·) (Supplied.members value)
    ((found.map Membership.values).getD [])

namespace Intake

open Supplied (given hasScalar hasScalars isKeyed isListed isMembership isVoid)

theorem accepts_keyed {α : Type} {value : Option Json} (h : ∀ v, value = some v → v.Sound)
    {name : String} {read : String → Json → Checked α} {shape : String → Json → Bool}
    {told : Json → α → Prop}
    (hread : ∀ key entry, entry.Sound → Accepts (read key entry) (shape key entry) (told entry)) :
    Accepts (category value [] fun value => do
        (← keyed value name).mapM fun (key, entry) => do return (key, ← read key entry))
      (isKeyed shape value) (Entries.Records told value) := by
  cases value with
  | none => exact (accepts_ok List.Forall₂.nil).congr (iff_of_true trivial rfl)
  | some value =>
    cases value with
    | null => exact (accepts_ok List.Forall₂.nil).congr (iff_of_true trivial rfl)
    | array items =>
      cases items with
      | nil => exact (accepts_ok List.Forall₂.nil).congr (iff_of_true trivial rfl)
      | cons item items => exact accepts_error _ Bool.false_ne_true
    | object members =>
      refine (accepts_mapM fun member hmember => (hread member.1 member.2 ?_).bind
        fun filter hfilter => accepts_ok ⟨rfl, hfilter⟩).congr ?_
      · exact (h _ rfl).member hmember
      · simp [isKeyed]
    | _ => exact accepts_error _ Bool.false_ne_true

theorem accepts_listed {α : Type} {value : Option Json} (h : ∀ v, value = some v → v.Sound)
    {name : String} {read : Json → Checked α} {shape : Json → Bool} {told : Json → α → Prop}
    (hread : ∀ entry, entry.Sound → Accepts (read entry) (shape entry) (told entry)) :
    Accepts (category value [] fun value => do (← listed value name).mapM read)
      (isListed shape value) (List.Forall₂ told (Supplied.elements value)) := by
  cases value with
  | none => exact (accepts_ok List.Forall₂.nil).congr (iff_of_true trivial rfl)
  | some value =>
    cases value with
    | null => exact (accepts_ok List.Forall₂.nil).congr (iff_of_true trivial rfl)
    | array items =>
      refine (accepts_mapM fun item hitem => hread item ?_).congr ?_
      · exact (h _ rfl).item hitem
      · simp [isListed]
    | object members =>
      refine (accepts_mapM fun item hitem => hread item ?_).congr ?_
      · obtain ⟨member, hmember, rfl⟩ := List.mem_map.mp hitem
        exact (h _ rfl).member hmember
      · rw [List.forall_mem_map]
        simp [isListed]
    | _ => exact accepts_error _ Bool.false_ne_true

theorem accepts_void {value : Option Json} (h : isVoid value) :
    Accepts (.ok none) (isMembership value) (Membership.Records value) := by
  have hrecords : Membership.Records value none := by
    unfold isVoid at h
    split at h
    · exact ⟨iff_of_true rfl rfl, rfl, .nil⟩
    · exact ⟨iff_of_true rfl rfl, rfl, .nil⟩
    · exact ⟨iff_of_true rfl rfl, rfl, .nil⟩
    · exact ⟨iff_of_true rfl rfl, rfl, .nil⟩
    · exact nomatch h
  exact (accepts_ok hrecords).congr (by simp [isMembership, h])

theorem accepts_values {members : Members} {value : Json} {field : String}
    (h : (Json.object members).Sound) (hvoid : isVoid (some (.object members)) = false)
    (hfield : Supplied.text (.object members) "llave" = some field)
    (hgiven : given (.object members) "values" = some value) :
    Accepts
      (match value with
        | .array items => do
          let values ← items.mapM fun item => scalar item "an IN value"
          return some { field, values }
        | other =>
          throw ((Failure.invalidShape "`values` must be an array" other.compact).withField field))
      (hasScalars (.object members) "values") (Membership.Records (some (.object members))) := by
  cases value with
  | array items =>
    have hmembers : Supplied.members (some (.object members)) = items := by
      rw [Supplied.members, Option.bind_some, hgiven]
    refine ((accepts_mapM fun item hitem => accepts_scalar ((h.given hgiven).item hitem) _).bind
      fun found hfound => accepts_ok ⟨by simp [hvoid], hfield, ?_⟩).congr (by simp [hasScalars, hgiven])
    rw [hmembers]
    exact hfound
  | _ => exact accepts_error _ (by simp [hasScalars, hgiven])

theorem accepts_membership {value : Option Json} (h : ∀ v, value = some v → v.Sound) :
    Accepts (membership value) (isMembership value) (Membership.Records value) := by
  unfold membership category
  split
  · exact accepts_void rfl
  · exact accepts_void rfl
  · rename_i entry hnull
    have hsound := h entry rfl
    dsimp only
    split
    · exact accepts_void rfl
    · exact accepts_void rfl
    · rename_i hobject harray
      have hvoid : isVoid (some entry) = false := by
        unfold isVoid
        split <;> simp_all
      suffices hread : Accepts _ (hasScalar entry "llave" && hasScalars entry "values") _ from
        hread.congr (by simp [isMembership, hvoid])
      refine accepts_record (fun hshape => ?_) fun attributes hentry => ?_
      · exact Supplied.isObject_of_hasScalar (Bool.and_eq_true_iff.mp hshape).1
      · subst hentry
        refine ((accepts_requireAll attributes ["llave", "values"]).bind fun _ _ =>
          (accepts_required attributes "llave").bind fun key hkey =>
          (accepts_givenText hsound hkey.1 hkey.2 "llave").bind fun field hfield =>
          (accepts_required attributes "values").bind fun values hvalues =>
          accepts_values hsound hvoid hfield hvalues.1).congr ?_
        have hlist : hasScalars (.object attributes) "values" →
          Supplied.has (.object attributes) "values" := Supplied.has_of_hasScalars
        simp only [hasScalar, List.forall_mem_cons, Bool.and_eq_true]
        tauto

/-- Each reader accepts the shape of its category and nothing else, and keeps every entry. -/
theorem accepts_categories {value : Option Json} (h : ∀ v, value = some v → v.Sound) :
    Accepts (equalities value) (isKeyed (fun _ => Supplied.isEquality) value)
        (Entries.Records Equality.Records value) ∧
      Accepts (ranges value) (isKeyed (fun _ => Supplied.isRange) value)
        (Entries.Records Range.Records value) ∧
      Accepts (notEquals value) (isKeyed Supplied.isNotEqual value)
        (Entries.Records (Scalar.ofJson? · = some ·) value) ∧
      Accepts (membership value) (isMembership value) (Membership.Records value) ∧
      Accepts (periods value) (isListed Supplied.isPeriod value)
        (List.Forall₂ Period.Records (Supplied.elements value)) ∧
      Accepts (specials value) (isListed Supplied.isGroup value)
        (List.Forall₂ (Group.Records Special.Records) (Supplied.elements value)) ∧
      Accepts (extras value) (isListed Supplied.isGroup value)
        (List.Forall₂ (Group.Records Extra.Records) (Supplied.elements value)) :=
  ⟨accepts_keyed h fun key _ => accepts_equality key, accepts_keyed h fun key _ => accepts_range key,
    accepts_keyed h fun key _ => accepts_notEqual key, accepts_membership h,
    accepts_listed h fun _ => accepts_period, accepts_listed h fun _ => accepts_special,
    accepts_listed h fun _ => accepts_extra⟩

/-- The equality filters of a text and of an object in which one attribute is null. -/
def twoEntries : Json :=
  .object [("t.a", .text "x"), ("t.b", .object [("value", .integer 2), ("campo", .null)])]

/-- What has the shape of one category need not have that of another. -/
theorem accepts_categories_of_twoEntries :
    (∃ found, equalities (some twoEntries) = .ok found ∧
      Entries.Records Equality.Records (some twoEntries) found) ∧
    ¬ ∃ found, ranges (some twoEntries) = .ok found := by
  have hattributes : ∀ member ∈ [("value", Json.integer 2), ("campo", .null)], member.2.Fits 0 := by
    simp only [List.forall_mem_cons]
    exact ⟨.number 0 ⟨by decide, by decide⟩, .null 0, nofun⟩
  have hmembers : ∀ member ∈ [("t.a", Json.text "x"),
      ("t.b", .object [("value", .integer 2), ("campo", .null)])], member.2.Fits 1 := by
    simp only [List.forall_mem_cons]
    exact ⟨.text 1 "x", .object (by decide) hattributes, nofun⟩
  have hsound : ∀ v, some twoEntries = some v → v.Sound := by
    rintro _ ⟨⟩
    exact ⟨2, .object (by decide) hmembers⟩
  obtain ⟨hequalities, hranges, _⟩ := accepts_categories hsound
  constructor
  · obtain ⟨found, hfound⟩ := hequalities.succeeds_iff.mpr (by decide)
    exact ⟨found, hfound, hequalities.records found hfound⟩
  · rw [hranges.succeeds_iff]
    decide

end Intake

end FilterClause
