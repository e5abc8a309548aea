import FilterClause.Proofs.WhereClause

/-!
The two modes of compiling as two fillings of the same pieces. The pieces come from the request alone;
a placeholder is written by the number of its hole, a literal from the value that placeholders would
have bound for it.
-/
namespace FilterClause

namespace Bundle

/-- Fillings that agree on the holes of named outlines fill them alike. -/
theorem fillEntries_congr {f g : Filling} {i j : Nat} {entries : List (String × Outline)}
    (h : ∀ n v, (entryHoles entries)[n]? = some v → f (i + n + 1) v = g (j + n + 1) v) :
    fillEntries f i entries = fillEntries g j entries := by
  induction entries generalizing i j with
  | nil => rfl
  | cons entry rest ih =>
    obtain ⟨name, o⟩ := entry
    have hsplit : entryHoles ((name, o) :: rest) = o.holes ++ entryHoles rest := List.flatMap_cons
    have htext : o.text f i = o.text g j := by
      refine congrArg String.ofList (Outline.fill_congr fun n v hn => h n v ?_)
      have hlt : n < o.holes.length := (List.getElem?_eq_some_iff.mp hn).1
      rw [hsplit, List.getElem?_append_left hlt]
      exact hn
    have hrest : fillEntries f (i + o.holes.length) rest =
        fillEntries g (j + o.holes.length) rest := by
      apply ih
      intro n v hn
      have hshift : (entryHoles ((name, o) :: rest))[o.holes.length + n]? = some v := by
        rw [hsplit, List.getElem?_append_right (by omega), Nat.add_sub_cancel_left]
        exact hn
      simpa only [Nat.add_assoc] using h (o.holes.length + n) v hshift
    rw [fillEntries, fillEntries, htext, hrest]

theorem entries_injective {b c : Bundle String} (h : b.entries = c.entries) : b = c := by
  have hparts : b.toList = c.toList := by
    have hsnd := congrArg (List.map Prod.snd) h
    simpa [entries, names, toList] using hsnd
  cases b
  cases c
  simpa [toList] using hparts

theorem fill_congr {f g : Filling} {i j : Nat} {b : Bundle Outline}
    (h : ∀ n v, b.holes[n]? = some v → f (i + n + 1) v = g (j + n + 1) v) :
    b.fill f i = b.fill g j := by
  apply entries_injective
  rw [entries_fill, entries_fill]
  exact fillEntries_congr h

end Bundle

/-- The compiler with the standard form of membership. -/
def Compiler.standard (mode : Mode) (dialect : Dialect) (offset : Nat) (usual : FilterType) :
    Compiler :=
  { options := { mode, dialect, offset, filterType := usual } }

/-- Holes filled with placeholders that are numbered behind an offset. -/
def Filling.numbered (dialect : Dialect) (offset : Nat) : Filling :=
  fun i _ => dialect.placeholder (offset + i)

/-- Holes filled with the literals of the values at their numbers. -/
def Filling.quoted (params : List Scalar) : Filling :=
  fun i _ => Literal.quote (Literal.escape (params.getD (i - 1) .null).asText)

theorem Filling.numbered_eq (dialect : Dialect) (offset n : Nat) (v : Scalar) :
    Mode.placeholder.filling dialect (offset + n + 1) v = numbered dialect offset (0 + n + 1) v := by
  simp [Mode.filling, numbered, Nat.add_assoc]

theorem Filling.quoted_eq (dialect : Dialect) {params : List Scalar} (offset n : Nat) {v : Scalar}
    (h : params[n]? = some v) :
    Mode.literal.filling dialect (offset + n + 1) v = quoted params (0 + n + 1) v := by
  simp [Mode.filling, quoted, Literal.ofText, h]

theorem Compiler.compile_standard (mode : Mode) (dialect : Dialect) (offset : Nat)
    (usual : FilterType) (r : Request) :
    (standard mode dialect offset usual).compile r =
      (fun b => { bundle := b.fill (mode.filling dialect) offset, params := mode.kept b.holes }) <$>
        r.outlines usual :=
  (standard mode dialect offset usual).compile_eq rfl r

/-- In either mode compiling a request fills the holes of the same pieces, or fails in the same way. -/
theorem Compiler.compile_two_fillings (r : Request) (usual : FilterType) :
    (∃ (pieces : Bundle Outline) (clause : Outline) (params : List Scalar),
      params.length = pieces.holes.length ∧ params.length = clause.holes.length ∧
      ∀ (dialect : Dialect) (offset : Nat),
        (∃ out, (standard .placeholder dialect offset usual).compile r = .ok out ∧
          out.bundle = pieces.fill (.numbered dialect offset) 0 ∧
          out.bundle.whereClause = clause.text (.numbered dialect offset) 0 ∧
          out.params = params) ∧
        (∃ out, (standard .literal dialect offset usual).compile r = .ok out ∧
          out.bundle = pieces.fill (.quoted params) 0 ∧
          out.bundle.whereClause = clause.text (.quoted params) 0 ∧
          out.params = [])) ∨
    (∃ failure, ∀ (mode : Mode) (dialect : Dialect) (offset : Nat),
      (standard mode dialect offset usual).compile r = .error failure) := by
  cases houtlines : r.outlines usual with
  | error failure =>
    right
    refine ⟨failure, fun mode dialect offset => ?_⟩
    rw [compile_standard, houtlines]
    rfl
  | ok pieces =>
    left
    refine ⟨pieces, pieces.clause, pieces.holes, rfl, by rw [pieces.holes_clause], ?_⟩
    intro dialect offset
    constructor
    · refine ⟨_, by rw [compile_standard, houtlines, Checked.map_ok], ?_, ?_, rfl⟩
      · exact Bundle.fill_congr fun n v _ => Filling.numbered_eq dialect offset n v
      · dsimp only
        rw [Bundle.whereClause_fill (Mode.firm_filling _ _)]
        refine congrArg String.ofList (Outline.fill_congr fun n v _ => ?_)
        exact Filling.numbered_eq dialect offset n v
    · refine ⟨_, by rw [compile_standard, houtlines, Checked.map_ok], ?_, ?_, rfl⟩
      · exact Bundle.fill_congr fun n v hn => Filling.quoted_eq dialect offset n hn
      · dsimp only
        rw [Bundle.whereClause_fill (Mode.firm_filling _ _)]
        refine congrArg String.ofList (Outline.fill_congr fun n v hn => ?_)
        exact Filling.quoted_eq dialect offset n (pieces.holes_clause ▸ hn)

/-- A request with three values, one of which needs an escape. -/
def threeValues : Request where
  equality := some (.object [("t.a", .text "x")])
  within := some (.object [("llave", .text "t.b"), ("values", .array [.integer 1, .text "o'k"])])

example : (Compiler.standard .placeholder .postgresql 3 .numbers).compile threeValues =
    .ok { bundle := { Bundle.replicate "" with equality := "t.a = $4", within := "t.b IN ($5,$6)" }
          params := [.text "x", .integer 1, .text "o'k"] } := by
  decide +kernel

example : (Compiler.standard .literal .postgresql 3 .numbers).compile threeValues =
    .ok { bundle := { Bundle.replicate "" with equality := "t.a = 'x'", within := "t.b IN ('1','o\\'k')" }
          params := [] } := by
  decide +kernel

end FilterClause
