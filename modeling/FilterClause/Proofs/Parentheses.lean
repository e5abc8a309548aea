import FilterClause.Proofs.Scanner

/-!
The depth of parentheses, which those in a literal do not count for. Between balanced parentheses the
depth never comes back to where it was before them, so of a text in parentheses only these two are
seen from outside.
-/
namespace FilterClause

/-- The depth behind a token. There is none where a parenthesis closes that was never opened. -/
def Token.after (depth : Nat) : Token → Option Nat
  | .char c =>
    if c = '(' then some (depth + 1)
    else if c = ')' then (if depth = 0 then none else some (depth - 1))
    else some depth
  | .literal _ => some depth

namespace Scanner

/-- The depth behind some tokens. -/
def depthAfter : Nat → List Token → Option Nat
  | depth, [] => some depth
  | depth, t :: ts => (t.after depth).bind fun next => depthAfter next ts

/-- The depth is never negative, and zero again at the end. -/
def Balanced (ts : List Token) : Prop :=
  depthAfter 0 ts = some 0

instance (ts : List Token) : Decidable (Balanced ts) :=
  inferInstanceAs (Decidable (depthAfter 0 ts = some 0))

/-- The tokens before or behind which the depth is zero. -/
def outermost : Nat → List Token → List Token
  | _, [] => []
  | depth, t :: ts =>
    match t.after depth with
    | none => []
    | some next =>
      if depth = 0 ∨ next = 0 then t :: outermost next ts else outermost next ts

/-- A balanced text in parentheses. -/
def Parenthesized (ts : List Token) : Prop :=
  ∃ inner, ts = .char '(' :: inner ++ [.char ')'] ∧ Balanced inner

theorem depthAfter_append (depth : Nat) (a b : List Token) :
    depthAfter depth (a ++ b) = (depthAfter depth a).bind fun next => depthAfter next b := by
  induction a generalizing depth with
  | nil => rfl
  | cons t a ih =>
    simp only [List.cons_append, depthAfter]
    cases t.after depth with
    | none => rfl
    | some next => exact ih next

theorem Balanced.append {a b : List Token} (ha : Balanced a) (hb : Balanced b) :
    Balanced (a ++ b) := by
  rw [Balanced, depthAfter_append, ha]
  exact hb

theorem outermost_append {depth next : Nat} {a : List Token} (h : depthAfter depth a = some next)
    (b : List Token) : outermost depth (a ++ b) = outermost depth a ++ outermost next b := by
  induction a generalizing depth with
  | nil =>
    cases h
    rfl
  | cons t a ih =>
    simp only [List.cons_append, depthAfter, outermost] at h ⊢
    cases hstep : t.after depth with
    | none => simp [hstep] at h
    | some behind =>
      rw [hstep] at h
      dsimp only
      split <;> simp [ih h]

/-! ### Texts without parentheses -/

/-- Holds of tokens that are no parentheses. -/
def Flat (ts : List Token) : Prop :=
  ∀ t ∈ ts, t ≠ .char '(' ∧ t ≠ .char ')'

theorem after_of_ne {t : Token} (h : t ≠ .char '(' ∧ t ≠ .char ')') (depth : Nat) :
    t.after depth = some depth := by
  obtain ⟨hopen, hclose⟩ := h
  cases t with
  | literal content => rfl
  | char c =>
    have hopen' : c ≠ '(' := fun hc => hopen (congrArg Token.char hc)
    have hclose' : c ≠ ')' := fun hc => hclose (congrArg Token.char hc)
    simp only [Token.after, hopen', hclose', if_false]

theorem Flat.depthAfter_eq {ts : List Token} (h : Flat ts) (depth : Nat) :
    depthAfter depth ts = some depth := by
  induction ts with
  | nil => rfl
  | cons t ts ih =>
    rw [depthAfter, after_of_ne (h t List.mem_cons_self)]
    exact ih fun t' ht' => h t' (List.mem_cons_of_mem _ ht')

/-- Without parentheses everything is seen from outside. -/
theorem Flat.outermost_eq {ts : List Token} (h : Flat ts) : outermost 0 ts = ts := by
  induction ts with
  | nil => rfl
  | cons t ts ih =>
    have hmore := ih fun t' ht' => h t' (List.mem_cons_of_mem _ ht')
    rw [outermost, after_of_ne (h t List.mem_cons_self)]
    simp only [true_or, if_true, hmore]

/-- Nothing changes where tokens that are no parentheses are left out at the ends. -/
theorem Balanced.of_flat_ends {front ts back : List Token} (hfront : Flat front) (hback : Flat back)
    (h : Balanced (front ++ (ts ++ back))) : Balanced ts := by
  rw [Balanced, depthAfter_append, hfront.depthAfter_eq, Option.bind_some, depthAfter_append] at h
  obtain ⟨depth, hts, hdepth⟩ := Option.bind_eq_some_iff.mp h
  rw [hback.depthAfter_eq] at hdepth
  rw [Balanced, hts, hdepth]

/-! ### One level further in -/

theorem after_succ {depth next : Nat} {t : Token} (h : t.after depth = some next) :
    t.after (depth + 1) = some (next + 1) := by
  cases t with
  | literal content =>
    cases h
    rfl
  | char c =>
    unfold Token.after at h ⊢
    dsimp only at h ⊢
    by_cases hopen : c = '('
    · simp only [hopen, if_true] at h ⊢
      cases h
      rfl
    · by_cases hclose : c = ')'
      · rw [if_neg hopen, if_pos hclose] at h ⊢
        by_cases hzero : depth = 0
        · simp [hzero] at h
        · have hnext : next = depth - 1 := by simpa [hzero, eq_comm] using h
          have hdepth : depth - 1 + 1 = depth := by omega
          simp [hnext, hdepth]
      · rw [if_neg hopen, if_neg hclose] at h ⊢
        cases h
        rfl

theorem depthAfter_succ {depth next : Nat} {ts : List Token} (h : depthAfter depth ts = some next) :
    depthAfter (depth + 1) ts = some (next + 1) := by
  induction ts generalizing depth with
  | nil =>
    cases h
    rfl
  | cons t ts ih =>
    obtain ⟨behind, hstep, hrest⟩ := Option.bind_eq_some_iff.mp h
    rw [depthAfter, after_succ hstep]
    exact ih hrest

/-- What never goes below its own depth is not seen one level further out. -/
theorem outermost_succ {depth next : Nat} {ts : List Token} (h : depthAfter depth ts = some next) :
    outermost (depth + 1) ts = [] := by
  induction ts generalizing depth with
  | nil => rfl
  | cons t ts ih =>
    obtain ⟨behind, hstep, hrest⟩ := Option.bind_eq_some_iff.mp h
    rw [outermost, after_succ hstep]
    have hin : ¬ (depth + 1 = 0 ∨ behind + 1 = 0) := by omega
    simp only [hin, if_false]
    exact ih hrest

namespace Parenthesized

variable {ts : List Token}

theorem balanced (h : Parenthesized ts) : Balanced ts := by
  obtain ⟨inner, rfl, hinner⟩ := h
  have hdeep : depthAfter 1 inner = some 1 := depthAfter_succ hinner
  have hsplit : depthAfter 0 (.char '(' :: inner ++ [.char ')']) =
      (depthAfter 1 inner).bind fun next => depthAfter next [.char ')'] := by
    rw [List.cons_append, depthAfter, ← depthAfter_append]
    rfl
  rw [Balanced, hsplit, hdeep]
  rfl

/-- The depth comes back to zero only where the group ends. -/
theorem depthAfter_pos (h : Parenthesized ts) {front : List Token} (hfront : front <+: ts)
    (hne : front ≠ []) (hproper : front ≠ ts) : ∃ n, depthAfter 0 front = some (n + 1) := by
  obtain ⟨inner, rfl, hinner⟩ := h
  cases front with
  | nil => exact absurd rfl hne
  | cons t front =>
    obtain ⟨rfl, hrest⟩ := List.cons_prefix_cons.mp hfront
    have hinside : front <+: inner := by
      rcases List.prefix_concat_iff.mp hrest with hall | hinside
      · exact absurd (by rw [hall, List.cons_append]) hproper
      · exact hinside
    obtain ⟨rest, rfl⟩ := hinside
    rw [Balanced, depthAfter_append] at hinner
    obtain ⟨n, hn, _⟩ := Option.bind_eq_some_iff.mp hinner
    exact ⟨n, depthAfter_succ hn⟩

/-- From outside only the parentheses of a group are seen. -/
theorem outermost_eq (h : Parenthesized ts) : outermost 0 ts = [.char '(', .char ')'] := by
  obtain ⟨inner, rfl, hinner⟩ := h
  have hdeep : depthAfter 1 inner = some 1 := depthAfter_succ hinner
  have hopen : outermost 0 (.char '(' :: inner ++ [.char ')']) =
      .char '(' :: outermost 1 (inner ++ [.char ')']) := rfl
  rw [hopen, outermost_append hdeep, outermost_succ hinner]
  rfl

end Parenthesized

/-- Of parenthesized texts that are joined, their parentheses and what joins them are seen. -/
theorem outermost_intercalate {word : List Token} (hword : Flat word) {groups : List (List Token)}
    (h : ∀ ts ∈ groups, Parenthesized ts) :
    outermost 0 (word.intercalate groups) =
      word.intercalate (groups.map fun _ => [.char '(', .char ')']) := by
  induction groups with
  | nil => rfl
  | cons ts rest ih =>
    have hts : Parenthesized ts := h ts List.mem_cons_self
    cases rest with
    | nil => simpa using hts.outermost_eq
    | cons next rest =>
      have hmore := ih fun ts' hts' => h ts' (List.mem_cons_of_mem _ hts')
      rw [List.map_cons] at hmore
      rw [List.map_cons, List.map_cons, List.intercalate_cons_cons, List.intercalate_cons_cons,
        List.append_assoc, outermost_append hts.balanced, hts.outermost_eq,
        outermost_append (hword.depthAfter_eq 0), hword.outermost_eq, hmore, List.append_assoc]

end Scanner

end FilterClause
