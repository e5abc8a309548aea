/-!
Values under names, in the order in which the names were first given. Giving a name again replaces
its value and keeps its place.
-/
namespace FilterClause

abbrev Entries (α : Type) := List (String × α)

namespace Entries

variable {α : Type}

def find? (entries : Entries α) (name : String) : Option α :=
  entries.lookup name

def put (entries : Entries α) (name : String) (value : α) : Entries α :=
  match entries with
  | [] => [(name, value)]
  | (other, old) :: rest =>
    if other = name then (name, value) :: rest else (other, old) :: put rest name value

def erase (entries : Entries α) (name : String) : Entries α :=
  entries.filter fun (other, _) => other != name

def ofList (pairs : List (String × α)) : Entries α :=
  pairs.foldl (fun entries (name, value) => put entries name value) []

def names (entries : Entries α) : List String :=
  entries.map Prod.fst

/-- A name that is there already keeps its place, a new one goes to the end. -/
theorem names_put (entries : Entries α) (name : String) (value : α) :
    names (put entries name value) =
      if name ∈ names entries then names entries else names entries ++ [name] := by
  induction entries with
  | nil => simp [put, names]
  | cons entry rest ih =>
    obtain ⟨other, old⟩ := entry
    by_cases ho : other = name
    · simp [put, ho, names]
    · have hne : ¬ name = other := fun e => ho e.symm
      simp only [names] at ih
      by_cases hmem : name ∈ rest.map Prod.fst <;> simp [put, ho, names, ih, hne, hmem]

theorem nodup_names_put {entries : Entries α} (name : String) (value : α)
    (h : (names entries).Nodup) : (names (put entries name value)).Nodup := by
  rw [names_put]
  split
  · exact h
  · rename_i hmem
    rw [List.nodup_append]
    refine ⟨h, by simp, ?_⟩
    intro a ha b hb hab
    simp only [List.mem_singleton] at hb
    exact hmem (hb ▸ hab ▸ ha)

end Entries

end FilterClause
