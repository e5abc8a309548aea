import FilterClause.Proofs.Junction

/-!
Lists whose filters are all written alike, in front as behind others, with one separator between each two.
Such a list is accepted just where each of its filters is, and refused as the first filter that is not.
What it is written as is the conditions of its filters one after another.
-/
namespace FilterClause

open Checked

/-! ### Steps over a list -/

namespace Checked

variable {α β : Type} {f : α → Checked β}

theorem throw_eq (failure : Failure) : (throw failure : Checked α) = .error failure := rfl

theorem error_bind (failure : Failure) (next : α → Checked β) :
    (.error failure : Checked α) >>= next = .error failure := rfl

theorem wrap_error (message : String) (failure : Failure) :
    Checked.wrap message (.error failure : Checked α) = .error (failure.wrap message) := rfl

theorem exists_map_eq_ok_iff {g : α → β} {found : Checked α} :
    (∃ b, g <$> found = .ok b) ↔ ∃ a, found = .ok a := by
  simp [map_eq_ok_iff]

theorem exists_mapM_eq_ok_iff {as : List α} :
    (∃ bs, as.mapM f = .ok bs) ↔ ∀ a ∈ as, ∃ b, f a = .ok b := by
  induction as with
  | nil => exact ⟨nofun, fun _ => ⟨[], rfl⟩⟩
  | cons a as ih =>
    rw [List.forall_mem_cons, ← ih, List.mapM_cons]
    constructor
    · rintro ⟨_, h⟩
      obtain ⟨b, hb, h⟩ := bind_eq_ok_iff.mp h
      obtain ⟨bs, hbs, _⟩ := bind_eq_ok_iff.mp h
      exact ⟨⟨b, hb⟩, bs, hbs⟩
    · rintro ⟨⟨b, hb⟩, bs, hbs⟩
      exact ⟨b :: bs, by rw [hb, hbs]; rfl⟩

theorem mapM_eq_ok_of_forall {as : List α} {g : α → β} (h : ∀ a ∈ as, f a = .ok (g a)) :
    as.mapM f = .ok (as.map g) := by
  induction as with
  | nil => rfl
  | cons a as ih =>
    obtain ⟨hfirst, hrest⟩ := List.forall_mem_cons.mp h
    rw [List.mapM_cons, hfirst, ih hrest]
    rfl

theorem exists_of_mem_mapM {as : List α} {bs : List β} (h : as.mapM f = .ok bs) {b : β}
    (hb : b ∈ bs) : ∃ a ∈ as, f a = .ok b := by
  induction as generalizing bs with
  | nil =>
    cases h
    exact absurd hb List.not_mem_nil
  | cons a as ih =>
    rw [List.mapM_cons] at h
    obtain ⟨first, hfirst, h⟩ := bind_eq_ok_iff.mp h
    obtain ⟨rest, hrest, h⟩ := bind_eq_ok_iff.mp h
    cases h
    rcases List.mem_cons.mp hb with rfl | hb
    · exact ⟨a, List.mem_cons_self, hfirst⟩
    · obtain ⟨a', ha', hb⟩ := ih hrest hb
      exact ⟨a', List.mem_cons_of_mem _ ha', hb⟩

/-- Nothing that comes behind the first failure matters. -/
theorem mapM_eq_error_iff {as : List α} {failure : Failure} :
    as.mapM f = .error failure ↔
      ∃ front a back, as = front ++ a :: back ∧ (∀ b ∈ front, ∃ found, f b = .ok found) ∧
        f a = .error failure := by
  have hrun : (fun _ => ()) <$> as.mapM f = as.forM fun a => (fun _ => ()) <$> f a := by
    induction as with
    | nil => rfl
    | cons a as ih =>
      rw [List.mapM_cons]
      refine discard_bind fun b => ?_
      rw [← ih]
      cases as.mapM f <;> rfl
  have hdone : ∀ b, ((fun _ => ()) <$> f b : Checked Unit) = .ok () ↔ ∃ found, f b = .ok found := by
    intro b
    simp [map_eq_ok_iff]
  rw [← map_eq_error_iff (f := fun _ => ()), hrun, forM_eq_error_iff]
  simp only [hdone, map_eq_error_iff]

end Checked

/-! ### Chains with one separator -/

/-- Links with one separator make the outlines with that separator between each two. -/
theorem Outline.chain_eq_intercalate (separator : String) {os : List Outline}
    (h : ∀ o ∈ os, o ≠ []) :
    chain (os.map fun o => (separator, o)) = (ofText separator).intercalate os := by
  induction os with
  | nil => rfl
  | cons o os ih =>
    have hfirst : o ≠ [] := h o List.mem_cons_self
    cases os with
    | nil => simp [chain, attach]
    | cons next os =>
      have hrest : ∀ o ∈ next :: os, o ≠ [] := fun o' ho' => h o' (List.mem_cons_of_mem _ ho')
      have hmore := ih hrest
      rw [List.map_cons, chain_cons (hrest next List.mem_cons_self)] at hmore
      rw [List.map_cons, List.map_cons, chain_cons hfirst, List.flatMap_cons,
        List.intercalate_cons_cons, ← hmore]
      simp only [List.append_assoc]

theorem Outline.intercalate_ne_nil (separator : Outline) {os : List Outline} (hos : os ≠ [])
    (h : ∀ o ∈ os, o ≠ []) : separator.intercalate os ≠ [] := by
  cases os with
  | nil => exact absurd rfl hos
  | cons o os =>
    have hfirst : o ≠ [] := h o List.mem_cons_self
    cases os <;> simp [hfirst]

theorem Outline.holes_intercalate (separator : String) (os : List Outline) :
    holes ((ofText separator).intercalate os) = os.flatMap holes := by
  induction os with
  | nil => rfl
  | cons o os ih =>
    cases os with
    | nil => simp
    | cons next os =>
      rw [List.intercalate_cons_cons, holes_append, holes_append, holes_ofText, ih, List.append_nil]
      rfl

/-- Wherever a filter stands, its link is its condition behind the same separator. -/
structure Alike {α : Type} (link : Bool → α → Checked Link) (separator : String)
    (condition : α → Checked Outline) : Prop where
  link_eq : ∀ first a, link first a = (fun o => (separator, o)) <$> condition a
  ne_nil : ∀ a o, condition a = .ok o → o ≠ []

namespace Alike

variable {α : Type} {link : Bool → α → Checked Link} {separator : String}
  {condition : α → Checked Outline}

/-- A link that is found without regard to its place. -/
theorem of_map {β : Type} {found : α → Checked β} {outline : β → Outline}
    (hlink : ∀ first a, link first a = (fun b => (separator, outline b)) <$> found a)
    (hne : ∀ a l, link true a = .ok l → l.2 ≠ []) :
    Alike link separator fun a => outline <$> found a where
  link_eq first a := by
    rw [hlink]
    cases found a <;> rfl
  ne_nil a o ho := by
    obtain ⟨b, hb, rfl⟩ := map_eq_ok_iff.mp ho
    exact hne a (separator, outline b) (by rw [hlink, hb, map_ok])

theorem links_eq (h : Alike link separator condition) (first : Bool) (as : List α) :
    links link first as = (List.map fun o => (separator, o)) <$> as.mapM condition := by
  induction as generalizing first with
  | nil => rfl
  | cons a as ih =>
    rw [links, h.link_eq, List.mapM_cons, ih]
    cases condition a with
    | error failure => rfl
    | ok o => cases as.mapM condition <;> rfl

theorem chain_eq (h : Alike link separator condition) (as : List α) :
    Outline.chain <$> links link true as =
      (Outline.ofText separator).intercalate <$> as.mapM condition := by
  rw [h.links_eq]
  cases hos : as.mapM condition with
  | error failure => rfl
  | ok os =>
    rw [map_ok, map_ok, map_ok]
    refine congrArg Except.ok (Outline.chain_eq_intercalate separator fun o ho => ?_)
    obtain ⟨a, _, ha⟩ := exists_of_mem_mapM hos ho
    exact h.ne_nil a o ha

end Alike

/-! ### Conditions with `AND` between them -/

/-- Fragments with `AND` between each two. -/
def Fragment.conjoined (parts : List Fragment) : Fragment :=
  ⟨" AND ".intercalate (parts.map Fragment.sql), parts.flatMap Fragment.params⟩

theorem Fragment.conjoined_singleton (part : Fragment) : conjoined [part] = part := by
  simp [conjoined]

theorem Fragment.conjoined_cons_cons (part next : Fragment) (parts : List Fragment) :
    conjoined (part :: next :: parts) = part.join "AND" (conjoined (next :: parts)) := by
  simp only [conjoined, join, List.map_cons, String.intercalate_cons_cons, List.flatMap_cons,
    String.append_assoc]
  rfl

namespace Compiler

/-- What several conditions are written as, each behind the values of the ones before it. -/
def fragments (c : Compiler) : Nat → List (Writing String) → Checked (List Fragment)
  | _, [] => .ok []
  | offset, writing :: rest => do
    let front ← c.run offset writing
    let back ← fragments c (offset + front.params.length) rest
    return front :: back

theorem fragment_nil (c : Compiler) (offset : Nat) : c.fragment offset [] = ⟨"", []⟩ := by
  rw [fragment]
  cases c.options.mode <;> rfl

theorem run_of_writes (c : Compiler) (offset : Nat) {writing : Writing String} {o : Outline}
    (h : Writes writing (.ok o)) : c.run offset writing = .ok (c.fragment offset o) :=
  c.run_eq offset h

/-- Written one behind the other, conditions are their outlines with `AND` between them. -/
theorem fragments_conjoined {α : Type} (c : Compiler) (offset : Nat) {as : List α}
    {write : α → Writing String} {outline : α → Outline}
    (h : ∀ a ∈ as, Writes (write a) (.ok (outline a))) :
    ∃ parts, c.fragments offset (as.map write) = .ok parts ∧
      Fragment.conjoined parts =
        c.fragment offset ((Outline.ofText " AND ").intercalate (as.map outline)) := by
  induction as generalizing offset with
  | nil =>
    exact ⟨[], rfl, (c.fragment_nil offset).symm⟩
  | cons a as ih =>
    obtain ⟨hfirst, hrest⟩ := List.forall_mem_cons.mp h
    have hfront := c.run_of_writes offset hfirst
    obtain ⟨parts, hparts, hjoined⟩ :=
      ih (offset + (c.fragment offset (outline a)).params.length) hrest
    refine ⟨c.fragment offset (outline a) :: parts, ?_, ?_⟩
    · rw [List.map_cons, fragments, hfront, ok_bind, hparts]
      rfl
    · cases as with
      | nil =>
        cases hparts
        rw [Fragment.conjoined_singleton]
        simp
      | cons next as =>
        obtain ⟨part, hpart, hmore⟩ := bind_eq_ok_iff.mp hparts
        obtain ⟨more, _, hmore⟩ := bind_eq_ok_iff.mp hmore
        cases hmore
        have hsplit : (Outline.ofText " AND ").intercalate ((a :: next :: as).map outline) =
            outline a ++ (Outline.ofText (" " ++ "AND" ++ " ") ++
              (Outline.ofText " AND ").intercalate ((next :: as).map outline)) := by
          simp only [List.map_cons, List.intercalate_cons_cons, List.append_assoc]
          rfl
        rw [Fragment.conjoined_cons_cons, hjoined, hsplit, c.fragment_join]

end Compiler

end FilterClause
