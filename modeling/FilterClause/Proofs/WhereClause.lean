import FilterClause.Proofs.RequestOutline

/-!
The outline of the one condition of a query, put together from the outlines of its fragments. Filling
it is the same as filling the fragments and putting them together, since neither what is blank nor
what is trimmed depends on how holes are filled.
-/
namespace FilterClause

namespace Bundle

/-- The outlines that are not blank, without white space at their ends. -/
def outlineParts (b : Bundle Outline) : List (String × Outline) :=
  (b.entries.map fun (name, o) => (name, o.strip)).filter fun (_, o) => !o.isEmpty

def enclosedOutline (name : String) (o : Outline) : Outline :=
  if name = names.period then o else .ofText "(" ++ o ++ .ofText ")"

/-- Several outlines with `AND` between them. -/
def joined (entries : List (String × Outline)) : Outline :=
  (Outline.ofText " AND ").intercalate (entries.map fun (name, o) => enclosedOutline name o)

/-- The only outline, or all of them joined. -/
def combined (parts : List (String × Outline)) : Outline :=
  match parts with
  | [(_, only)] => only
  | parts => joined parts

/-- The outline of the one condition of the whole query. -/
def clause (b : Bundle Outline) : Outline :=
  combined b.outlineParts

/-- Named outlines filled one after another. -/
def fillEntries (filling : Filling) (index : Nat) :
    List (String × Outline) → List (String × String)
  | [] => []
  | (name, o) :: rest =>
    (name, o.text filling index) :: fillEntries filling (index + o.holes.length) rest

theorem entries_fill (filling : Filling) (index : Nat) (b : Bundle Outline) :
    (b.fill filling index).entries = fillEntries filling index b.entries := rfl

/-- The values of the holes of named outlines. -/
def entryHoles (entries : List (String × Outline)) : List Scalar :=
  entries.flatMap fun entry => entry.2.holes

variable {filling : Filling}

/-- The same outlines are dropped as texts are. None of them has a hole. -/
theorem fillEntries_strip (h : filling.Firm) (entries : List (String × Outline)) (index : Nat) :
    ((fillEntries filling index entries).map fun (name, sql) => (name, Text.trim sql)).filter
        (fun (_, sql) => sql != "") =
      fillEntries filling index
        ((entries.map fun (name, o) => (name, o.strip)).filter fun (_, o) => !o.isEmpty) := by
  induction entries generalizing index with
  | nil => rfl
  | cons entry entries ih =>
    obtain ⟨name, o⟩ := entry
    simp only [fillEntries, List.map_cons, List.filter_cons, Outline.trim_text h]
    by_cases hblank : o.strip = []
    · have hholes : o.holes = [] := by
        rw [← Outline.holes_strip, hblank]
        rfl
      simp only [hholes, hblank]
      exact ih index
    · have htext : o.strip.text filling index ≠ "" := by
        rw [Ne, Outline.text_eq_empty_iff h]
        exact hblank
      have hkeep : (!o.strip.isEmpty) = true := by simpa using hblank
      rw [if_pos (by simpa using htext), if_pos hkeep, fillEntries, Outline.holes_strip, ih]

theorem parts_fill (h : filling.Firm) (index : Nat) (b : Bundle Outline) :
    (b.fill filling index).parts = fillEntries filling index b.outlineParts := by
  rw [parts, entries_fill, fillEntries_strip h, outlineParts]

theorem holes_enclosedOutline (name : String) (o : Outline) :
    (enclosedOutline name o).holes = o.holes := by
  unfold enclosedOutline
  split <;> simp

theorem enclosed_text (name : String) (o : Outline) (index : Nat) :
    enclosed name (o.text filling index) = (enclosedOutline name o).text filling index := by
  unfold enclosed enclosedOutline
  split
  · rfl
  · simp [Outline.text_append, String.append_assoc]

/-- Enclosing filled outlines fills the enclosed ones. -/
theorem map_enclosed_fillEntries (parts : List (String × Outline)) (index : Nat) :
    ((fillEntries filling index parts).map fun (name, sql) => enclosed name sql) =
      (fillEntries filling index
        (parts.map fun (name, o) => (name, enclosedOutline name o))).map Prod.snd := by
  induction parts generalizing index with
  | nil => rfl
  | cons part parts ih =>
    obtain ⟨name, o⟩ := part
    simp only [fillEntries, List.map_cons, enclosed_text, holes_enclosedOutline, ih]

theorem joined_cons_cons (name : String) (o : Outline) (next : String × Outline)
    (rest : List (String × Outline)) :
    joined ((name, o) :: next :: rest) =
      enclosedOutline name o ++ .ofText " AND " ++ joined (next :: rest) := by
  simp only [joined, List.map_cons, List.intercalate_cons_cons]

/-- Conditions with `AND` between them are the joined outlines filled. -/
theorem intercalate_fillEntries (entries : List (String × Outline)) (index : Nat) :
    " AND ".intercalate
        ((fillEntries filling index entries).map fun (name, sql) => enclosed name sql) =
      (joined entries).text filling index := by
  induction entries generalizing index with
  | nil => rfl
  | cons entry rest ih =>
    obtain ⟨name, o⟩ := entry
    cases rest with
    | nil =>
      simp only [fillEntries, List.map_cons, List.map_nil, String.intercalate_singleton,
        List.intercalate_singleton, enclosed_text, joined]
    | cons next rest =>
      have hmore := ih (index + o.holes.length)
      rw [joined_cons_cons, Outline.text_append, Outline.text_append, Outline.text_ofText,
        Outline.holes_append, holes_enclosedOutline, Outline.holes_ofText, List.append_nil, ← hmore,
        ← enclosed_text]
      simp only [fillEntries, List.map_cons, String.intercalate_cons_cons]

/-- The condition of the filled fragments is their clause filled. -/
theorem whereClause_fill (h : filling.Firm) (index : Nat) (b : Bundle Outline) :
    (b.fill filling index).whereClause = b.clause.text filling index := by
  unfold whereClause clause combined
  rw [parts_fill h]
  match b.outlineParts with
  | [] => rfl
  | [(name, only)] => rfl
  | first :: second :: rest => exact intercalate_fillEntries (first :: second :: rest) index

theorem holes_joined (entries : List (String × Outline)) :
    (joined entries).holes = entryHoles entries := by
  induction entries with
  | nil => rfl
  | cons entry rest ih =>
    obtain ⟨name, o⟩ := entry
    cases rest with
    | nil => simp [joined, entryHoles, holes_enclosedOutline]
    | cons next rest =>
      rw [joined_cons_cons, Outline.holes_append, Outline.holes_append, ih, holes_enclosedOutline]
      simp [entryHoles]

theorem entryHoles_outlineParts (b : Bundle Outline) : entryHoles b.outlineParts = b.holes := by
  have hdrop : ∀ entries : List (String × Outline),
      entryHoles ((entries.map fun (name, o) => (name, o.strip)).filter fun (_, o) => !o.isEmpty) =
        entryHoles entries := by
    intro entries
    induction entries with
    | nil => rfl
    | cons entry entries ih =>
      obtain ⟨name, o⟩ := entry
      rw [List.map_cons, List.filter_cons]
      by_cases hblank : o.strip = []
      · have hholes : o.holes = [] := by
          rw [← Outline.holes_strip, hblank]
          rfl
        rw [if_neg (by simp [hblank]), ih]
        simp [entryHoles, hholes]
      · rw [if_pos (by simpa using hblank)]
        simp only [entryHoles, List.flatMap_cons, Outline.holes_strip] at ih ⊢
        rw [ih]
  rw [outlineParts, hdrop]
  rfl

/-- The clause has the holes of the fragments, in their order. -/
theorem holes_clause (b : Bundle Outline) : b.clause.holes = b.holes := by
  have hparts := b.entryHoles_outlineParts
  unfold clause combined
  match hs : b.outlineParts with
  | [] =>
    rw [← hparts, hs]
    rfl
  | [(name, only)] => simpa [hs, entryHoles] using hparts
  | first :: second :: rest => rw [holes_joined, ← hs, hparts]

end Bundle

end FilterClause
