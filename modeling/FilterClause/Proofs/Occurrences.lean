import FilterClause.Proofs.References

/-!
The occurrences of one reference in a text that ends with a closing brace. None goes on behind such a
text, so they are replaced apart from those behind it. A value that starts with the reference it is put
in for makes the text longer with each occurrence.
-/
namespace FilterClause.Settings

/-- A text is empty, or it starts with a mark, or with a character that no mark starts with. -/
@[elab_as_elim]
theorem mark_induction {mark : List Char} (hmark : mark ≠ []) {motive : List Char → Prop}
    (nil : motive []) (occurrence : ∀ rest, motive rest → motive (mark ++ rest))
    (character : ∀ c rest, ¬ mark <+: c :: rest → motive rest → motive (c :: rest))
    (cs : List Char) : motive cs := by
  induction hlength : cs.length using Nat.strong_induction_on generalizing cs with
  | _ n ih =>
    subst hlength
    cases cs with
    | nil => exact nil
    | cons c rest =>
      by_cases hopens : mark <+: c :: rest
      · obtain ⟨after, hafter⟩ := hopens
        have hshorter : after.length < (c :: rest).length := by
          have hpositive : 0 < mark.length := List.length_pos_iff.mpr hmark
          rw [← hafter, List.length_append]
          omega
        rw [← hafter]
        exact occurrence after (ih after.length hshorter after rfl)
      · exact character c rest hopens (ih rest.length (by simp) rest rfl)

theorem reference_ne_nil (name : List Char) : reference name ≠ [] := by
  simp [reference]

theorem reference_eq_append (name : List Char) :
    reference name = '$' :: '\x7b' :: name ++ ['\x7d'] := rfl

/-- The only closing brace of a reference is its last character. -/
theorem IsName.eq_nil_of_reference {name before after : List Char} (h : IsName name)
    (hsplit : reference name = before ++ '\x7d' :: after) : after = [] := by
  rcases List.eq_nil_or_concat after with hnil | ⟨front, last, rfl⟩
  · exact hnil
  · have hinside : '$' :: '\x7b' :: name = before ++ '\x7d' :: front := by
      have hends : ('$' :: '\x7b' :: name) ++ ['\x7d'] = (before ++ '\x7d' :: front) ++ [last] := by
        rw [← reference_eq_append, hsplit]
        simp
      exact (List.append_inj' hends rfl).1
    have hmem : '\x7d' ∈ '$' :: '\x7b' :: name := by
      rw [hinside]
      simp
    exact absurd hmem (by simp [h.brace_notMem])

/-! ### Closed texts -/

/-- Holds of a text that is empty or ends with a closing brace. -/
def Closed (cs : List Char) : Prop :=
  cs = [] ∨ ∃ front, cs = front ++ ['\x7d']

theorem closed_reference (name : List Char) : Closed (reference name) :=
  .inr ⟨_, reference_eq_append name⟩

theorem Closed.append {a b : List Char} (ha : Closed a) (hb : Closed b) : Closed (a ++ b) := by
  rcases hb with rfl | ⟨front, rfl⟩
  · simpa using ha
  · exact .inr ⟨a ++ front, by simp⟩

theorem Closed.of_append {a b : List Char} (h : Closed (a ++ b)) : Closed b := by
  rcases List.eq_nil_or_concat b with rfl | ⟨front, last, rfl⟩
  · exact .inl rfl
  · rcases h with hnil | ⟨whole, hwhole⟩
    · simp at hnil
    · have hends : (a ++ front) ++ [last] = whole ++ ['\x7d'] := by simpa using hwhole
      have hlast : last = '\x7d' := by simpa using (List.append_inj' hends rfl).2
      exact .inr ⟨front, by rw [hlast, List.concat_eq_append]⟩

/-- A reference that starts in a closed text ends in it. -/
theorem Closed.prefix_of_prefix_append {name a b : List Char} (ha : Closed a) (hname : IsName name)
    (hne : a ≠ []) (h : reference name <+: a ++ b) : reference name <+: a := by
  rcases List.prefix_or_prefix_of_prefix h (List.prefix_append a b) with hin | ⟨after, hafter⟩
  · exact hin
  · rcases ha with hnil | ⟨front, rfl⟩
    · exact absurd hnil hne
    · have hsplit : reference name = front ++ '\x7d' :: after := by
        rw [← hafter]
        simp
      have hnone : after = [] := hname.eq_nil_of_reference hsplit
      rw [hnone, List.append_nil] at hafter
      exact ⟨[], by rw [List.append_nil, hafter]⟩

section Replace

variable {name : List Char} (value : List Char)

/-- References behind a closed text are replaced apart from those in it. -/
theorem Closed.replaceFrom_append (hname : IsName name) {a : List Char} (ha : Closed a)
    (b : List Char) :
    replaceFrom (reference name) value 0 (a ++ b) =
      replaceFrom (reference name) value 0 a ++ replaceFrom (reference name) value 0 b := by
  induction a using mark_induction (reference_ne_nil name) with
  | nil => rfl
  | occurrence rest ih =>
    rw [List.append_assoc, replaceFrom_reference, replaceFrom_reference, ih ha.of_append,
      List.append_assoc]
  | character c rest hc ih =>
    have hbehind : ¬ reference name <+: c :: (rest ++ b) := fun h =>
      hc (ha.prefix_of_prefix_append hname (List.cons_ne_nil c rest) h)
    rw [List.cons_append, replaceFrom_cons value hbehind, replaceFrom_cons value hc,
      ih (Closed.of_append (a := [c]) ha), List.cons_append]

/-- In a reference another one can only stand at the end. -/
theorem replaceFrom_inside (extra : List Char) {inside : List Char}
    (h : '\x7d' ∉ inside) :
    ∃ more, (more = [] ∨ more = extra) ∧
      replaceFrom (reference name) (reference name ++ extra) 0 (inside ++ ['\x7d']) =
        inside ++ ['\x7d'] ++ more := by
  induction inside with
  | nil =>
    refine ⟨[], .inl rfl, ?_⟩
    have hstart : ¬ reference name <+: ['\x7d'] := by simp [reference]
    rw [List.nil_append, replaceFrom_cons _ hstart]
    rfl
  | cons c inside ih =>
    by_cases hopens : reference name <+: c :: inside ++ ['\x7d']
    · have hwhole : reference name = c :: inside ++ ['\x7d'] := by
        obtain ⟨after, hafter⟩ := hopens
        rcases List.eq_nil_or_concat after with rfl | ⟨front, last, rfl⟩
        · rw [← hafter, List.append_nil]
        · have hends : (reference name ++ front) ++ [last] = (c :: inside) ++ ['\x7d'] := by
            rw [← hafter]
            simp
          have hfront : reference name ++ front = c :: inside := (List.append_inj' hends rfl).1
          exact absurd (hfront ▸ by simp [reference]) h
      refine ⟨extra, .inr rfl, ?_⟩
      rw [← hwhole, replaceFrom_reference_self]
    · obtain ⟨more, hmore, hrun⟩ := ih fun hmem => h (List.mem_cons_of_mem _ hmem)
      refine ⟨more, hmore, ?_⟩
      have hstep := replaceFrom_cons (reference name ++ extra) hopens
      exact hstep.trans (by simp [hrun])

/-- A value that goes on from the reference that it replaces makes no text shorter. -/
theorem length_le_replaceFrom (name extra cs : List Char) :
    cs.length ≤ (replaceFrom (reference name) (reference name ++ extra) 0 cs).length := by
  induction cs using mark_induction (reference_ne_nil name) with
  | nil => simp
  | occurrence rest ih =>
    rw [replaceFrom_reference]
    simp only [List.length_append]
    omega
  | character c rest hc ih =>
    rw [replaceFrom_cons _ hc]
    simpa using ih

end Replace

/-! ### Every reference grown at once -/

section Rewrite

variable {f g : List Char → List Char} {cs : List Char}

theorem length_rewrite_le (h : ∀ name ∈ names none cs, (f name).length ≤ (g name).length) :
    (rewrite f cs).length ≤ (rewrite g cs).length := by
  induction cs using text_induction with
  | nil => exact Nat.le_refl 0
  | reference name rest hname ih =>
    rw [names_reference hname] at h
    have hfirst := h name List.mem_cons_self
    have hrest := ih fun other hother => h other (List.mem_cons_of_mem _ hother)
    rw [rewrite_reference f hname, rewrite_reference g hname, List.length_append, List.length_append]
    omega
  | character c rest hc ih =>
    rw [names_cons hc] at h
    rw [rewrite_cons f hc, rewrite_cons g hc, List.length_cons, List.length_cons]
    exact Nat.succ_le_succ (ih h)

theorem length_rewrite_lt (h : ∀ name ∈ names none cs, (f name).length ≤ (g name).length)
    {longer : List Char} (hmem : longer ∈ names none cs)
    (hlonger : (f longer).length < (g longer).length) :
    (rewrite f cs).length < (rewrite g cs).length := by
  induction cs using text_induction with
  | nil => exact nomatch hmem
  | reference name rest hname ih =>
    rw [names_reference hname] at h hmem
    have hfirst := h name List.mem_cons_self
    have hothers := fun other hother => h other (List.mem_cons_of_mem name hother)
    have hrest := length_rewrite_le hothers
    rw [rewrite_reference f hname, rewrite_reference g hname, List.length_append, List.length_append]
    rcases List.mem_cons.mp hmem with rfl | hmem
    · omega
    · have hmore := ih hothers hmem
      omega
  | character c rest hc ih =>
    rw [names_cons hc] at h hmem
    rw [rewrite_cons f hc, rewrite_cons g hc, List.length_cons, List.length_cons]
    exact Nat.succ_lt_succ (ih h hmem)

/-- What stands for the references is closed and starts as they do, so a reference is replaced in each of
these apart. -/
theorem replaceFrom_rewrite_closed {name : List Char} (value : List Char) (hname : IsName name)
    (hg : ∀ other ∈ names none cs, ∃ more, g other = reference other ++ more ∧ Closed more) :
    replaceFrom (reference name) value 0 (rewrite g cs) =
      rewrite (fun other => replaceFrom (reference name) value 0 (g other)) cs := by
  apply replaceFrom_rewrite hname
  · intro other hother rest
    obtain ⟨more, hmore, hclosed⟩ := hg other hother
    have hwhole : Closed (g other) := hmore ▸ (closed_reference other).append hclosed
    exact hwhole.replaceFrom_append value hname rest
  · intro other hother _
    obtain ⟨more, hmore, _⟩ := hg other hother
    exact ⟨'$', '\x7b' :: other ++ ['\x7d'] ++ more, by simp [hmore, reference], by decide⟩

end Rewrite

end FilterClause.Settings
