import FilterClause.Settings.Variables
import Mathlib.Data.List.TakeWhile

/-!
The references in a text. A text is read from left to right. Where it starts with a reference the
reading goes on behind the closing brace, elsewhere behind the first character, so no two references
that are met in this way overlap. `rewrite` puts something in place of each of them at once.
-/
namespace FilterClause.Settings

/-- Holds of what may stand between the braces of a reference. -/
structure IsName (name : List Char) : Prop where
  ne_nil : name ≠ []
  brace_notMem : '\x7d' ∉ name

/-- The name in the reference that a text starts with. -/
def name? : List Char → Option (List Char)
  | '$' :: '\x7b' :: rest =>
    let name := rest.takeWhile (· != '\x7d')
    if name.isEmpty || (rest.dropWhile (· != '\x7d')).isEmpty then none else some name
  | _ => none

/-- The text with something in place of each reference, after `skip` characters that belong to the
last one. -/
def rewriteFrom (f : List Char → List Char) : Nat → List Char → List Char
  | _, [] => []
  | skip + 1, _ :: rest => rewriteFrom f skip rest
  | 0, c :: rest =>
    match name? (c :: rest) with
    | some name => f name ++ rewriteFrom f (name.length + 2) rest
    | none => c :: rewriteFrom f 0 rest

def rewrite (f : List Char → List Char) (cs : List Char) : List Char :=
  rewriteFrom f 0 cs

theorem name?_reference {name : List Char} (h : IsName name) (rest : List Char) :
    name? (reference name ++ rest) = some name := by
  have hopen : reference name ++ rest = '$' :: '\x7b' :: (name ++ '\x7d' :: rest) := by
    simp [reference]
  have hinside : ∀ c ∈ name, (c != '\x7d') = true := by
    intro c hc
    have hne : c ≠ '\x7d' := fun heq => h.brace_notMem (heq ▸ hc)
    simpa using hne
  have htake : (name ++ '\x7d' :: rest).takeWhile (· != '\x7d') = name := by
    rw [List.takeWhile_append_of_pos hinside]
    simp
  have hdrop : (name ++ '\x7d' :: rest).dropWhile (· != '\x7d') = '\x7d' :: rest := by
    rw [List.dropWhile_append_of_pos hinside]
    simp
  rw [hopen, name?]
  simp [htake, hdrop, h.ne_nil]

theorem of_name? {cs name : List Char} (h : name? cs = some name) :
    IsName name ∧ ∃ rest, cs = reference name ++ rest := by
  unfold name? at h
  split at h
  · rename_i rest
    dsimp only at h
    split at h
    · exact nomatch h
    · rename_i hsome
      simp only [Bool.or_eq_true, List.isEmpty_iff, not_or] at hsome
      cases h
      obtain ⟨hname, hafter⟩ := hsome
      obtain ⟨c, after, hrest⟩ := List.exists_cons_of_ne_nil hafter
      have hclose : c = '\x7d' := by
        have hnot := List.head?_dropWhile_not (· != '\x7d') rest
        rw [hrest] at hnot
        simpa using hnot
      refine ⟨⟨hname, fun hmem => ?_⟩, after, ?_⟩
      · simpa using List.mem_takeWhile_imp hmem
      · have hsplit := List.takeWhile_append_dropWhile (p := (· != '\x7d')) (l := rest)
        rw [hrest, hclose] at hsplit
        simp [reference, hsplit]
  · exact nomatch h

/-- Braces that are opened and are no reference have nothing in them, or are never closed. -/
theorem of_name?_eq_none {inside : List Char} (h : name? ('$' :: '\x7b' :: inside) = none) :
    (∃ after, inside = '\x7d' :: after) ∨ '\x7d' ∉ inside := by
  by_cases hmem : '\x7d' ∈ inside
  · left
    obtain ⟨name, after, rfl, hname⟩ := List.eq_append_cons_of_mem hmem
    have hreference : '$' :: '\x7b' :: (name ++ '\x7d' :: after) = reference name ++ after := by
      simp [reference]
    cases name with
    | nil => exact ⟨after, rfl⟩
    | cons c name =>
      rw [hreference, name?_reference ⟨List.cons_ne_nil c name, hname⟩] at h
      exact nomatch h
  · exact .inr hmem

/-- The ways in which a text starts: not at all, with a reference, or with a character of its own. -/
@[elab_as_elim]
theorem text_induction {motive : List Char → Prop} (nil : motive [])
    (reference : ∀ name rest, IsName name → motive rest → motive (reference name ++ rest))
    (character : ∀ c rest, name? (c :: rest) = none → motive rest → motive (c :: rest))
    (cs : List Char) : motive cs := by
  induction hlength : cs.length using Nat.strong_induction_on generalizing cs with
  | _ n ih =>
    subst hlength
    cases cs with
    | nil => exact nil
    | cons c rest =>
      cases hname : name? (c :: rest) with
      | none => exact character c rest hname (ih rest.length (by simp) rest rfl)
      | some name =>
        obtain ⟨hvalid, after, hsplit⟩ := of_name? hname
        have hshorter : after.length < (c :: rest).length := by
          rw [hsplit, List.length_append, Settings.reference]
          simp
        rw [hsplit]
        exact reference name after hvalid (ih after.length hshorter after rfl)

/-! ### Rewriting -/

section Rewrite

variable (f : List Char → List Char)

theorem rewriteFrom_append (a b : List Char) : rewriteFrom f a.length (a ++ b) = rewrite f b := by
  induction a with
  | nil => rfl
  | cons c a ih => simpa only [List.length_cons, List.cons_append, rewriteFrom] using ih

@[simp]
theorem rewrite_nil : rewrite f [] = [] := rfl

theorem rewrite_reference {name : List Char} (h : IsName name) (rest : List Char) :
    rewrite f (reference name ++ rest) = f name ++ rewrite f rest := by
  have hname := name?_reference h rest
  have hopen : reference name ++ rest = '$' :: ('\x7b' :: name ++ ['\x7d'] ++ rest) := by
    simp [reference]
  have hlength : ('\x7b' :: name ++ ['\x7d']).length = name.length + 2 := by simp
  rw [hopen] at hname ⊢
  rw [rewrite, rewriteFrom, hname]
  dsimp only
  rw [← hlength, rewriteFrom_append]

theorem rewrite_cons {c : Char} {rest : List Char} (h : name? (c :: rest) = none) :
    rewrite f (c :: rest) = c :: rewrite f rest := by
  rw [rewrite, rewriteFrom, h]
  rfl

end Rewrite

/-! ### The names of all references -/

theorem names_of_brace_notMem (opened : Opened) {cs : List Char} (h : '\x7d' ∉ cs) :
    names opened cs = [] := by
  fun_induction names opened cs with
  | case1 opened => rfl
  | case2 rest ih =>
    apply ih
    intro hmem
    exact h (List.mem_cons_of_mem _ (List.mem_cons_of_mem _ hmem))
  | case3 c rest _ ih => exact ih fun hmem => h (List.mem_cons_of_mem _ hmem)
  | case4 c name rest hclose => exact absurd List.mem_cons_self h
  | case5 c name rest hclose => exact absurd List.mem_cons_self h
  | case6 name c rest hclose ih => exact ih fun hmem => h (List.mem_cons_of_mem _ hmem)

theorem names_opened {name : List Char} (h : '\x7d' ∉ name) (before rest : List Char)
    (hne : before ++ name ≠ []) :
    names (some before.reverse) (name ++ '\x7d' :: rest) = (before ++ name) :: names none rest := by
  induction name generalizing before with
  | nil =>
    rw [List.append_nil] at hne ⊢
    have hsome : before.reverse.isEmpty = false := by simpa using hne
    simp [names, hsome]
  | cons c name ih =>
    have hopen : ¬ c = '\x7d' := fun heq => h (heq ▸ List.mem_cons_self)
    have hbefore : c :: before.reverse = (before ++ [c]).reverse := by simp
    rw [List.cons_append, names, if_neg hopen, hbefore,
      ih (fun hmem => h (List.mem_cons_of_mem _ hmem)) (before ++ [c]) (by simp)]
    simp

theorem names_reference {name : List Char} (h : IsName name) (rest : List Char) :
    names none (reference name ++ rest) = name :: names none rest := by
  have hopen : reference name ++ rest = '$' :: '\x7b' :: (name ++ '\x7d' :: rest) := by
    simp [reference]
  rw [hopen, names]
  exact names_opened h.brace_notMem [] rest (by simpa using h.ne_nil)

theorem names_cons {c : Char} {rest : List Char} (h : name? (c :: rest) = none) :
    names none (c :: rest) = names none rest := by
  by_cases hopen : ∃ inside, c = '$' ∧ rest = '\x7b' :: inside
  · obtain ⟨inside, rfl, rfl⟩ := hopen
    have hskip : names none ('\x7b' :: inside) = names none inside := by
      rw [names]
      simp
    rw [hskip, names]
    rcases of_name?_eq_none h with ⟨after, rfl⟩ | hunclosed
    · simp [names]
    · rw [names_of_brace_notMem _ hunclosed, names_of_brace_notMem _ hunclosed]
  · rw [names]
    rintro inside hc rfl
    exact hopen ⟨inside, hc, rfl⟩

theorem isName_of_mem_names {cs name : List Char} (h : name ∈ names none cs) : IsName name := by
  induction cs using text_induction with
  | nil => exact nomatch h
  | reference other rest hother ih =>
    rw [names_reference hother] at h
    rcases List.mem_cons.mp h with rfl | hrest
    · exact hother
    · exact ih hrest
  | character c rest hc ih =>
    rw [names_cons hc] at h
    exact ih h

/-- Putting each reference in its own place changes nothing. -/
theorem rewrite_eq_self {f : List Char → List Char} {cs : List Char}
    (h : ∀ name ∈ names none cs, f name = reference name) : rewrite f cs = cs := by
  induction cs using text_induction with
  | nil => rfl
  | reference name rest hname ih =>
    rw [names_reference hname] at h
    rw [rewrite_reference f hname, h name List.mem_cons_self,
      ih fun other hother => h other (List.mem_cons_of_mem _ hother)]
  | character c rest hc ih =>
    rw [names_cons hc] at h
    rw [rewrite_cons f hc, ih h]

theorem rewrite_congr {f g : List Char → List Char} {cs : List Char}
    (h : ∀ name ∈ names none cs, f name = g name) : rewrite f cs = rewrite g cs := by
  induction cs using text_induction with
  | nil => rfl
  | reference name rest hname ih =>
    rw [names_reference hname] at h
    rw [rewrite_reference f hname, rewrite_reference g hname, h name List.mem_cons_self,
      ih fun other hother => h other (List.mem_cons_of_mem _ hother)]
  | character c rest hc ih =>
    rw [names_cons hc] at h
    rw [rewrite_cons f hc, rewrite_cons g hc, ih h]

/-! ### Replacing a mark -/

section Replace

variable (mark value : List Char)

theorem replaceFrom_append (a b : List Char) :
    replaceFrom mark value a.length (a ++ b) = replaceFrom mark value 0 b := by
  induction a with
  | nil => rfl
  | cons c a ih => simpa only [List.length_cons, List.cons_append, replaceFrom] using ih

theorem replaceFrom_reference (name rest : List Char) :
    replaceFrom (reference name) value 0 (reference name ++ rest) =
      value ++ replaceFrom (reference name) value 0 rest := by
  have hopen : reference name ++ rest = '$' :: ('\x7b' :: name ++ ['\x7d'] ++ rest) := by
    simp [reference]
  have hmark : (reference name).isPrefixOf ('$' :: ('\x7b' :: name ++ ['\x7d'] ++ rest)) = true := by
    rw [← hopen, List.isPrefixOf_iff_prefix]
    exact List.prefix_append _ _
  have hlength : ('\x7b' :: name ++ ['\x7d']).length = (reference name).length - 1 := by
    simp [reference]
  rw [hopen, replaceFrom, if_pos hmark, ← hlength, replaceFrom_append]

theorem replaceFrom_reference_self (name : List Char) :
    replaceFrom (reference name) value 0 (reference name) = value := by
  have hrun := replaceFrom_reference value name []
  rwa [List.append_nil, replaceFrom, List.append_nil] at hrun

theorem replaceFrom_cons {mark : List Char} {c : Char} {rest : List Char}
    (h : ¬ mark <+: c :: rest) :
    replaceFrom mark value 0 (c :: rest) = c :: replaceFrom mark value 0 rest := by
  have hmark : mark.isPrefixOf (c :: rest) = false := by
    rw [← Bool.not_eq_true, List.isPrefixOf_iff_prefix]
    exact h
  rw [replaceFrom, if_neg (by simp [hmark])]

end Replace

/-- A character that no reference starts with starts none either once the references behind it are
rewritten, unless what is put right behind a dollar sign opens a brace. -/
theorem reference_not_start {g : List Char → List Char} {c : Char} {rest name : List Char}
    (h : name? (c :: rest) = none) (hname : IsName name)
    (hjoint : ∀ other ∈ names none (c :: rest), '$' :: reference other <:+: c :: rest →
      ∃ d more, g other = d :: more ∧ d ≠ '\x7b') :
    ¬ reference name <+: c :: rewrite g rest := by
  intro hopens
  have hopen : reference name = '$' :: '\x7b' :: (name ++ ['\x7d']) := by simp [reference]
  rw [hopen, List.cons_prefix_cons] at hopens
  obtain ⟨rfl, hopens⟩ := hopens
  induction rest using text_induction with
  | nil => simp at hopens
  | reference other rest hother =>
    rw [names_cons h, names_reference hother] at hjoint
    have hwithin : '$' :: reference other <:+: '$' :: (reference other ++ rest) :=
      (List.prefix_append ('$' :: reference other) rest).isInfix
    obtain ⟨d, more, hd, hne⟩ := hjoint other List.mem_cons_self hwithin
    rw [rewrite_reference g hother, hd, List.cons_append, List.cons_prefix_cons] at hopens
    exact hne hopens.1.symm
  | character d inside hd =>
    rw [rewrite_cons g hd, List.cons_prefix_cons] at hopens
    obtain ⟨rfl, hopens⟩ := hopens
    rcases of_name?_eq_none h with ⟨after, rfl⟩ | hunclosed
    · rw [rewrite_cons g rfl] at hopens
      obtain ⟨first, name, rfl⟩ := List.exists_cons_of_ne_nil hname.ne_nil
      rw [List.cons_append, List.cons_prefix_cons] at hopens
      exact hname.brace_notMem (hopens.1 ▸ List.mem_cons_self)
    · have hnames : names none inside = [] := names_of_brace_notMem none hunclosed
      rw [rewrite_eq_self (by simp [hnames])] at hopens
      exact hunclosed (hopens.subset (by simp))

/-- Where replacing a mark goes through what stands for each reference by itself, it goes through the
whole text in this way. -/
theorem replaceFrom_rewrite {name value : List Char} (hname : IsName name)
    {g g' : List Char → List Char} {cs : List Char}
    (hg : ∀ other ∈ names none cs, ∀ rest, replaceFrom (reference name) value 0 (g other ++ rest) =
      g' other ++ replaceFrom (reference name) value 0 rest)
    (hjoint : ∀ other ∈ names none cs, '$' :: reference other <:+: cs →
      ∃ d more, g other = d :: more ∧ d ≠ '\x7b') :
    replaceFrom (reference name) value 0 (rewrite g cs) = rewrite g' cs := by
  induction cs using text_induction with
  | nil => rfl
  | reference other rest hother ih =>
    have hrest : rest <:+: reference other ++ rest := (List.suffix_append _ _).isInfix
    rw [names_reference hother] at hg hjoint
    rw [rewrite_reference g hother, rewrite_reference g' hother, hg other List.mem_cons_self]
    congr 1
    apply ih
    · intro next hnext
      exact hg next (List.mem_cons_of_mem _ hnext)
    · intro next hnext hwithin
      exact hjoint next (List.mem_cons_of_mem _ hnext) (hwithin.trans hrest)
  | character c rest hc ih =>
    have hrest : rest <:+: c :: rest := (List.suffix_cons c rest).isInfix
    rw [rewrite_cons g hc, rewrite_cons g' hc,
      replaceFrom_cons value (reference_not_start hc hname hjoint)]
    rw [names_cons hc] at hg hjoint
    congr 1
    exact ih hg fun next hnext hwithin => hjoint next hnext (hwithin.trans hrest)

end FilterClause.Settings
