import FilterClause.Proofs.JsonLexemes

/-!
What the values read from a text have in common. Names stand once in an object, numbers are within
range, and no more arrays and objects stand inside each other than the reader allows.
-/
namespace FilterClause

namespace Entries

variable {α : Type}

theorem mem_put {entries : Entries α} {name : String} {value : α} {entry : String × α}
    (h : entry ∈ put entries name value) : entry = (name, value) ∨ entry ∈ entries := by
  induction entries with
  | nil => exact .inl (by simpa [put] using h)
  | cons first rest ih =>
    obtain ⟨other, old⟩ := first
    rw [put] at h
    split at h
    · rcases List.mem_cons.mp h with rfl | hrest
      · exact .inl rfl
      · exact .inr (List.mem_cons_of_mem _ hrest)
    · rcases List.mem_cons.mp h with rfl | hrest
      · exact .inr List.mem_cons_self
      · rcases ih hrest with hnew | hold
        · exact .inl hnew
        · exact .inr (List.mem_cons_of_mem _ hold)

/-- A new name goes to the end. -/
theorem put_of_notMem {entries : Entries α} {name : String} (value : α) (h : name ∉ names entries) :
    put entries name value = entries ++ [(name, value)] := by
  induction entries with
  | nil => rfl
  | cons first rest ih =>
    obtain ⟨other, old⟩ := first
    have hother : other ≠ name := by
      rintro rfl
      exact h List.mem_cons_self
    rw [put, if_neg hother, ih fun hmem => h (List.mem_cons_of_mem _ hmem), List.cons_append]

end Entries

namespace Json

/-! ### What the readers of elements and members keep -/

/-- Holds of a reader that keeps a property of the state that it goes on from. -/
def Keeps {σ : Type} (P : σ → Prop) (read : σ → List Char → Except Fault (Cut σ)) : Prop :=
  ∀ {state cs state' rest}, P state → read state cs = .ok (state', rest) → P state'

section Keeps

variable {σ : Type} {P : σ → Prop}

theorem Keeps.moreElements {element : σ → List Char → Except Fault (Cut σ)} (h : Keeps P element)
    {fuel : Nat} : Keeps P fun state => Json.moreElements element state fuel := by
  intro state cs state' rest hstate hread
  induction fuel generalizing state cs with
  | zero => exact nomatch hread
  | succ fuel ih =>
    obtain ⟨next, -, hread⟩ := bind_eq_ok_iff.mp hread
    cases next with
    | close after =>
      cases hread
      exact hstate
    | element after =>
      obtain ⟨⟨middle, after⟩, hfirst, hread⟩ := bind_eq_ok_iff.mp hread
      exact ih (h hstate hfirst) hread

theorem Keeps.elements {element : σ → List Char → Except Fault (Cut σ)} (h : Keeps P element) :
    Keeps P (Json.elements element) := by
  intro state cs state' rest hstate hread
  unfold Json.elements at hread
  split at hread
  · exact nomatch hread
  · cases hread
    exact hstate
  · obtain ⟨⟨middle, after⟩, hfirst, hread⟩ := bind_eq_ok_iff.mp hread
    exact h.moreElements (h hstate hfirst) hread

theorem Keeps.moreFields {readers : List (σ → List Char → Except Fault (Cut σ))}
    (h : ∀ reader ∈ readers, Keeps P reader) : Keeps P (Json.moreFields readers) := by
  intro state cs state' rest hstate hread
  induction readers generalizing state cs with
  | nil =>
    unfold Json.moreFields at hread
    split at hread
    · exact nomatch hread
    · cases hread
      exact hstate
    · exact nomatch hread
  | cons reader readers ih =>
    obtain ⟨next, -, hread⟩ := bind_eq_ok_iff.mp hread
    cases next with
    | close after =>
      cases hread
      exact hstate
    | element after =>
      obtain ⟨⟨middle, after⟩, hfirst, hread⟩ := bind_eq_ok_iff.mp hread
      exact ih (fun other hother => h other (List.mem_cons_of_mem _ hother))
        (h reader List.mem_cons_self hstate hfirst) hread

theorem Keeps.fields {readers : List (σ → List Char → Except Fault (Cut σ))}
    (h : ∀ reader ∈ readers, Keeps P reader) : Keeps P (Json.fields readers) := by
  intro state cs state' rest hstate hread
  unfold Json.fields at hread
  split at hread
  · exact nomatch hread
  · cases hread
    exact hstate
  · exact nomatch hread
  · rename_i reader readers _ _
    obtain ⟨⟨middle, after⟩, hfirst, hread⟩ := bind_eq_ok_iff.mp hread
    exact Keeps.moreFields (fun other hother => h other (List.mem_cons_of_mem _ hother))
      (h reader List.mem_cons_self hstate hfirst) hread

theorem Keeps.moreMembers {member : σ → String → List Char → Except Fault (Cut σ)}
    (h : ∀ name, Keeps P fun state => member state name) {fuel : Nat} :
    Keeps P fun state => Json.moreMembers member state fuel := by
  intro state cs state' rest hstate hread
  induction fuel generalizing state cs with
  | zero => exact nomatch hread
  | succ fuel ih =>
    dsimp only at hread
    unfold Json.moreMembers at hread
    split at hread
    · exact nomatch hread
    · cases hread
      exact hstate
    · split at hread
      · exact nomatch hread
      · obtain ⟨⟨name, after⟩, -, hread⟩ := bind_eq_ok_iff.mp hread
        obtain ⟨⟨middle, after⟩, hfirst, hread⟩ := bind_eq_ok_iff.mp hread
        exact ih (h name hstate hfirst) hread
      · exact nomatch hread
    · exact nomatch hread

theorem Keeps.members {member : σ → String → List Char → Except Fault (Cut σ)}
    (h : ∀ name, Keeps P fun state => member state name) : Keeps P (Json.members member) := by
  intro state cs state' rest hstate hread
  unfold Json.members at hread
  split at hread
  · exact nomatch hread
  · cases hread
    exact hstate
  · obtain ⟨⟨name, after⟩, -, hread⟩ := bind_eq_ok_iff.mp hread
    obtain ⟨⟨middle, after⟩, hfirst, hread⟩ := bind_eq_ok_iff.mp hread
    exact Keeps.moreMembers h (h name hstate hfirst) hread
  · exact nomatch hread

end Keeps

/-! ### Numbers -/

/-- Holds of the numbers that can be kept: the whole ones from `-2 ^ 63` to `2 ^ 64 - 1` and all binary64
ones. -/
def Number.InRange : Number → Prop
  | .integer i => -(Nat.pow 2 63 : Nat) ≤ i ∧ i < (Nat.pow 2 64 : Nat)
  | .float _ => True

theorem inRange_of_floating {negative : Bool} {l : Decimal.Leading} {cs rest : List Char} {n : Number}
    (h : floating negative l cs = .ok (n, rest)) : n.InRange := by
  unfold floating at h
  split at h
  · exact nomatch h
  · cases h
    trivial

theorem inRange_of_scaled {negative : Bool} {l : Decimal.Leading} {cs rest : List Char} {n : Number}
    (h : scaled negative l cs = .ok (n, rest)) : n.InRange := by
  unfold scaled at h
  dsimp only at h
  split at h
  · obtain ⟨_, -, h⟩ := bind_eq_ok_iff.mp h
    exact inRange_of_floating h
  · obtain ⟨_, -, h⟩ := bind_eq_ok_iff.mp h
    exact inRange_of_floating h
  · exact inRange_of_floating h

theorem inRange_of_whole {negative : Bool} {digits cs rest : List Char} {n : Number}
    (h : whole negative digits cs = .ok (n, rest)) : n.InRange := by
  unfold whole at h
  dsimp only at h
  cases negative
  · simp only [Bool.false_eq_true, if_false, decide_eq_true_eq] at h
    split at h
    · rename_i hrange
      have hlimit : Decimal.valueOf digits < Nat.pow 2 64 := hrange
      cases h
      exact ⟨by omega, by omega⟩
    · exact inRange_of_floating h
  · simp only [if_true, decide_eq_true_eq] at h
    split at h
    · rename_i hrange
      have hlimit : Decimal.valueOf digits ≤ Nat.pow 2 63 := hrange.2
      cases h
      exact ⟨by omega, by omega⟩
    · exact inRange_of_floating h

theorem inRange_of_afterWhole {negative : Bool} {digits cs rest : List Char} {n : Number}
    (h : afterWhole negative digits cs = .ok (n, rest)) : n.InRange := by
  unfold afterWhole at h
  dsimp only at h
  split at h
  · split at h
    · exact nomatch h
    · exact inRange_of_scaled h
  · split at h
    · exact inRange_of_scaled h
    · exact inRange_of_whole h
  · exact inRange_of_whole h

theorem inRange_of_number? {negative : Bool} {cs rest : List Char} {n : Number}
    (h : number? negative cs = .ok (n, rest)) : n.InRange := by
  unfold number? at h
  split at h
  · exact nomatch h
  · split at h
    · exact inRange_of_afterWhole h
    · exact nomatch h
  · split at h
    · exact inRange_of_afterWhole h
    · exact nomatch h

/-! ### Values -/

/-- Holds of the values that a reader with room for `depth` arrays and objects inside each other can
give. -/
inductive Fits : Nat → Json → Prop
  | null (depth : Nat) : Fits depth .null
  | boolean (depth : Nat) (b : Bool) : Fits depth (.boolean b)
  | number (depth : Nat) {n : Number} (h : n.InRange) : Fits depth (.number n)
  | text (depth : Nat) (s : String) : Fits depth (.text s)
  | array {depth : Nat} {items : List Json} (h : ∀ item ∈ items, Fits depth item) :
      Fits (depth + 1) (.array items)
  | object {depth : Nat} {members : List (String × Json)} (hnames : (Entries.names members).Nodup)
      (h : ∀ member ∈ members, Fits depth member.2) : Fits (depth + 1) (.object members)

/-- Reads one more element of an array. -/
def readItem (depth : Nat) (items : List Json) (cs : List Char) : Except Fault (Cut (List Json)) := do
  let (item, rest) ← value depth cs
  .ok (items ++ [item], rest)

/-- Reads one more entry under a name that is read already, by the reader for what stands behind the
colon. -/
def readEntry {α : Type} (item : List Char → Except Fault (Cut α)) (entries : Entries α) (name : String)
    (cs : List Char) : Except Fault (Cut (Entries α)) := do
  let (value, rest) ← item (← colon cs)
  .ok (Entries.put entries name value, rest)

/-- Names stay without repetition, and the new value is one that the reader gives. -/
theorem Keeps.readEntry {α : Type} {item : List Char → Except Fault (Cut α)} {P : α → Prop}
    (h : ∀ {cs value rest}, item cs = .ok (value, rest) → P value) (name : String) :
    Keeps (fun entries => (Entries.names entries).Nodup ∧ ∀ entry ∈ entries, P entry.2)
      fun entries => Json.readEntry item entries name := by
  intro entries cs entries' rest hentries hread
  obtain ⟨_, -, hread⟩ := bind_eq_ok_iff.mp hread
  obtain ⟨⟨value, after⟩, hvalue, hread⟩ := bind_eq_ok_iff.mp hread
  cases hread
  refine ⟨Entries.nodup_names_put name value hentries.1, fun entry hentry => ?_⟩
  rcases Entries.mem_put hentry with rfl | hold
  · exact h hvalue
  · exact hentries.2 entry hold

/-- A value that is read is a scalar, or an array or an object whose parts are read with room for one
less. -/
theorem value_cases {depth : Nat} {cs rest : List Char} {v : Json}
    (h : value depth cs = .ok (v, rest)) :
    (∀ room, Fits room v) ∨
      (∃ inner items after, depth = inner + 1 ∧ v = .array items ∧
        elements (readItem inner) [] after = .ok (items, rest)) ∨
      (∃ inner entries after, depth = inner + 1 ∧ v = .object entries ∧
        members (readEntry (value inner)) [] after = .ok (entries, rest)) := by
  unfold value at h
  split at h
  · exact nomatch h
  · obtain ⟨_, -, h⟩ := bind_eq_ok_iff.mp h
    cases h
    exact .inl fun room => .null room
  · obtain ⟨_, -, h⟩ := bind_eq_ok_iff.mp h
    cases h
    exact .inl fun room => .boolean room _
  · obtain ⟨_, -, h⟩ := bind_eq_ok_iff.mp h
    cases h
    exact .inl fun room => .boolean room _
  · obtain ⟨_, -, h⟩ := bind_eq_ok_iff.mp h
    cases h
    exact .inl fun room => .text room _
  · obtain ⟨_, hnumber, h⟩ := bind_eq_ok_iff.mp h
    cases h
    exact .inl fun room => .number room (inRange_of_number? hnumber)
  · cases depth with
    | zero => exact nomatch h
    | succ inner =>
      obtain ⟨⟨items, after⟩, hitems, h⟩ := bind_eq_ok_iff.mp h
      cases h
      exact .inr (.inl ⟨inner, items, _, rfl, rfl, hitems⟩)
  · cases depth with
    | zero => exact nomatch h
    | succ inner =>
      obtain ⟨⟨entries, after⟩, hentries, h⟩ := bind_eq_ok_iff.mp h
      cases h
      exact .inr (.inr ⟨inner, entries, _, rfl, rfl, hentries⟩)
  · split at h
    · obtain ⟨_, hnumber, h⟩ := bind_eq_ok_iff.mp h
      cases h
      exact .inl fun room => .number room (inRange_of_number? hnumber)
    · exact nomatch h

theorem fits_of_value {depth : Nat} {cs rest : List Char} {v : Json}
    (h : value depth cs = .ok (v, rest)) : Fits depth v := by
  induction depth generalizing cs rest v with
  | zero =>
    rcases value_cases h with hscalar | ⟨_, _, _, hdepth, _⟩ | ⟨_, _, _, hdepth, _⟩
    · exact hscalar 0
    · exact nomatch hdepth
    · exact nomatch hdepth
  | succ depth ih =>
    rcases value_cases h with hscalar | ⟨inner, items, after, hdepth, rfl, hread⟩ |
      ⟨inner, entries, after, hdepth, rfl, hread⟩
    · exact hscalar _
    · cases hdepth
      have hkeeps : Keeps (fun items => ∀ item ∈ items, Fits depth item) (readItem depth) := by
        intro items cs items' rest hitems hread
        obtain ⟨⟨item, after⟩, hitem, hread⟩ := bind_eq_ok_iff.mp hread
        cases hread
        intro other hother
        rcases List.mem_append.mp hother with hold | hnew
        · exact hitems other hold
        · rw [List.mem_singleton.mp hnew]
          exact ih hitem
      exact .array (hkeeps.elements (by simp) hread)
    · cases hdepth
      have hall := Keeps.members (Keeps.readEntry ih) ⟨by simp [Entries.names], by simp⟩ hread
      exact .object hall.1 hall.2

/-- Nothing is read where something else was expected. -/
theorem unexpected_ne_ok {α : Type} (expected : String) (cs : List Char) (a : α) :
    unexpected expected cs ≠ .ok a := by
  intro h
  unfold unexpected at h
  dsimp only at h
  split at h
  · exact nomatch h
  · exact nomatch h
  · exact nomatch h
  · obtain ⟨_, -, h⟩ := bind_eq_ok_iff.mp h
    exact nomatch h

end Json

end FilterClause
