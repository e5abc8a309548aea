import FilterClause.Writer

/-!
Outcomes of steps that may be refused. A sequence of steps succeeds exactly when each step does, and
fails as the first step that does not. Describing a failure anew changes neither when there is one nor
what comes of a success.
-/
namespace FilterClause

/-- Whatever the failures are, a step and the one that follows it succeed when each does. -/
theorem bind_eq_ok_iff {ε α β : Type} {x : Except ε α} {f : α → Except ε β} {b : β} :
    x >>= f = .ok b ↔ ∃ a, x = .ok a ∧ f a = .ok b := by
  cases x with
  | error failure => simp [bind, Except.bind]
  | ok a =>
    constructor
    · intro h
      exact ⟨a, rfl, h⟩
    · rintro ⟨a', ha, h⟩
      cases ha
      exact h

namespace Checked

variable {α β : Type}

theorem ok_bind (a : α) (f : α → Checked β) : (.ok a : Checked α) >>= f = f a := rfl

theorem map_ok (f : α → β) (a : α) : (f <$> (.ok a : Checked α) : Checked β) = .ok (f a) := rfl

theorem bind_eq_ok_iff {x : Checked α} {f : α → Checked β} {b : β} :
    x >>= f = .ok b ↔ ∃ a, x = .ok a ∧ f a = .ok b :=
  FilterClause.bind_eq_ok_iff

theorem map_eq_ok_iff {x : Checked α} {f : α → β} {b : β} :
    f <$> x = .ok b ↔ ∃ a, x = .ok a ∧ f a = b := by
  cases x with
  | error failure => simp [Functor.map, Except.map]
  | ok a =>
    constructor
    · intro h
      exact ⟨a, rfl, Except.ok.inj h⟩
    · rintro ⟨a', ha, rfl⟩
      cases ha
      rfl

theorem exists_eq_ok {x : Checked α} (h : x.toBool = true) : ∃ a, x = .ok a := by
  cases x with
  | error failure => exact nomatch h
  | ok a => exact ⟨a, rfl⟩

/-- Two sequences of steps agree up to a map when what follows their first step does. -/
theorem bind_eq_map_bind {γ δ : Type} {x : Checked α} {f : α → β} {next : β → Checked γ}
    {other : α → Checked δ} {g : δ → γ} (h : ∀ a, next (f a) = g <$> other a) :
    (f <$> x : Checked β) >>= next = g <$> (x >>= other) := by
  cases x with
  | error failure => rfl
  | ok a => exact h a

@[simp]
theorem wrap_ok (message : String) (a : α) : Checked.wrap message (.ok a) = .ok a := rfl

@[simp]
theorem withOperation_ok (operation : String) (a : α) :
    Checked.withOperation operation (.ok a) = .ok a := rfl

theorem wrap_eq_ok_iff {message : String} {x : Checked α} {a : α} :
    x.wrap message = .ok a ↔ x = .ok a := by
  cases x with
  | error failure => exact ⟨nofun, nofun⟩
  | ok a' => exact ⟨fun h => h, fun h => h⟩

theorem withOperation_eq_ok_iff {operation : String} {x : Checked α} {a : α} :
    x.withOperation operation = .ok a ↔ x = .ok a := by
  cases x with
  | error failure => exact ⟨nofun, nofun⟩
  | ok a' => exact ⟨fun h => h, fun h => h⟩

theorem withField_eq_ok_iff {field : String} {x : Checked α} {a : α} :
    x.withField field = .ok a ↔ x = .ok a := by
  cases x with
  | error failure => exact ⟨nofun, nofun⟩
  | ok a' => exact ⟨fun h => h, fun h => h⟩

/-- What is made of a success does not change how a failure is described. -/
theorem wrap_map (message : String) (f : α → β) (x : Checked α) :
    (f <$> x : Checked β).wrap message = f <$> x.wrap message := by
  cases x <;> rfl

/-! ### Failures -/

theorem map_eq_error_iff {x : Checked α} {f : α → β} {failure : Failure} :
    f <$> x = .error failure ↔ x = .error failure := by
  cases x <;> simp [Functor.map, Except.map]

theorem mapError_eq_error_iff {x : Checked α} {f : Failure → Failure} {failure : Failure} :
    x.mapError f = .error failure ↔ ∃ cause, x = .error cause ∧ f cause = failure := by
  cases x with
  | error found =>
    constructor
    · intro h
      exact ⟨found, rfl, Except.error.inj h⟩
    · rintro ⟨_, hcause, rfl⟩
      cases hcause
      rfl
  | ok a =>
    constructor
    · intro h
      exact nomatch (show (.ok a : Checked α) = .error failure from h)
    · rintro ⟨_, hcause, _⟩
      exact nomatch hcause

/-- What comes of the steps does not matter for whether they fail. -/
theorem discard_bind {x : Checked α} {next : α → Checked β} {rest : Checked Unit}
    (h : ∀ a, (fun _ => ()) <$> next a = rest) :
    (fun _ => ()) <$> (x >>= next) = ((fun _ => ()) <$> x : Checked Unit) >>= fun _ => rest := by
  cases x with
  | error failure => rfl
  | ok a => exact h a

/-- A run over a list fails at the first element that does. -/
theorem forM_eq_error_iff {f : α → Checked Unit} {as : List α} {failure : Failure} :
    as.forM f = .error failure ↔
      ∃ front a back, as = front ++ a :: back ∧ (∀ b ∈ front, f b = .ok ()) ∧
        f a = .error failure := by
  induction as with
  | nil => simp [List.forM, pure, Except.pure]
  | cons a as ih =>
    have hrun : (a :: as).forM f = f a >>= fun _ => as.forM f := rfl
    rw [hrun]
    cases hfirst : f a with
    | error found =>
      constructor
      · intro h
        cases h
        exact ⟨[], a, as, rfl, by simp, hfirst⟩
      · rintro ⟨front, b, back, hsplit, hfront, hb⟩
        cases front with
        | nil =>
          cases hsplit
          rw [hfirst] at hb
          exact hb
        | cons a' front =>
          cases hsplit
          rw [hfront a List.mem_cons_self] at hfirst
          exact nomatch hfirst
    | ok _ =>
      rw [ok_bind, ih]
      constructor
      · rintro ⟨front, b, back, rfl, hfront, hb⟩
        refine ⟨a :: front, b, back, rfl, ?_, hb⟩
        intro b' hb'
        rcases List.mem_cons.mp hb' with rfl | hb'
        · exact hfirst
        · exact hfront b' hb'
      · rintro ⟨front, b, back, hsplit, hfront, hb⟩
        cases front with
        | nil =>
          cases hsplit
          rw [hfirst] at hb
          exact nomatch hb
        | cons a' front =>
          cases hsplit
          exact ⟨front, b, back, rfl, fun b' hb' => hfront b' (List.mem_cons_of_mem _ hb'), hb⟩

end Checked

namespace Writing

variable {α β : Type}

theorem run_bind (x : Writing α) (f : α → Writing β) (w : Writer) :
    (x >>= f) w = x w >>= fun p => f p.1 p.2 := rfl

theorem run_pure (a : α) (w : Writer) : (pure a : Writing α) w = .ok (a, w) := rfl

theorem run_wrap (message : String) (x : Writing α) (w : Writer) :
    (x.wrap message) w = Checked.wrap message (x w) := rfl

/-- A check leaves the writer as it is. -/
theorem run_check (x : Checked α) (w : Writer) :
    (liftM x : Writing α) w = (fun a => (a, w)) <$> x := by
  cases x <;> rfl

end Writing

end FilterClause
