import FilterClause.Proofs.Occurrences

/-!
The expansion of variables beside the replacement of all references at once. Variables are put in one
after the other, each wherever its reference stands by then, so a reference that comes with a value, or
that lies inside another one, is found as well. Where values and names are plain the two are the same;
over all environments they are the same for the texts that have one reference at most.
-/
namespace FilterClause.Settings

/-- What stands for a reference: the value of its variable, or the reference itself. -/
def valueOf (vars : String → Option String) (name : List Char) : List Char :=
  match vars (String.ofList name) with
  | some value => value.toList
  | none => reference name

/-- The text with all of its references replaced at once. -/
def substituteAll (vars : String → Option String) (text : String) : String :=
  String.ofList (rewrite (valueOf vars) text.toList)

theorem valueOf_eq_some {vars : String → Option String} {name : List Char} {value : String}
    (h : vars (String.ofList name) = some value) : valueOf vars name = value.toList := by
  rw [valueOf, h]

theorem valueOf_eq_none {vars : String → Option String} {name : List Char}
    (h : vars (String.ofList name) = none) : valueOf vars name = reference name := by
  rw [valueOf, h]

/-! ### Plain names and values -/

/-- Names and values without a dollar sign. A value right behind a dollar sign does not go on as a
reference would. -/
structure Plain (vars : String → Option String) (cs : List Char) : Prop where
  names : ∀ name ∈ names none cs, '$' ∉ name
  values : ∀ name ∈ Settings.names none cs, ∀ value ∈ vars (String.ofList name), '$' ∉ value.toList
  joints : ∀ name ∈ Settings.names none cs, ∀ value ∈ vars (String.ofList name),
    '$' :: reference name <:+: cs → value.toList ≠ [] ∧ value.toList.head? ≠ some '\x7b'

/-- A text without a dollar sign holds no reference, and none starts in it. -/
theorem replaceFrom_of_dollar_notMem {name : List Char} (value : List Char) {passed : List Char}
    (h : '$' ∉ passed) (rest : List Char) :
    replaceFrom (reference name) value 0 (passed ++ rest) =
      passed ++ replaceFrom (reference name) value 0 rest := by
  induction passed with
  | nil => rfl
  | cons c passed ih =>
    have hstart : ¬ reference name <+: c :: (passed ++ rest) := by
      intro hopens
      have hopen : reference name = '$' :: ('\x7b' :: name ++ ['\x7d']) := by simp [reference]
      rw [hopen, List.cons_prefix_cons] at hopens
      exact h (hopens.1 ▸ List.mem_cons_self)
    rw [List.cons_append, replaceFrom_cons value hstart,
      ih fun hmem => h (List.mem_cons_of_mem _ hmem), List.cons_append]

/-- A plain reference is passed over where another one is replaced. -/
theorem replaceFrom_reference_of_ne {name other : List Char} (value : List Char) (hname : IsName name)
    (hother : IsName other) (hne : other ≠ name) (hplain : '$' ∉ other) (rest : List Char) :
    replaceFrom (reference name) value 0 (reference other ++ rest) =
      reference other ++ replaceFrom (reference name) value 0 rest := by
  have hstart : ¬ reference name <+: reference other ++ rest := by
    rintro ⟨after, hafter⟩
    have hsame := congrArg name? hafter
    rw [name?_reference hname, name?_reference hother] at hsame
    exact hne (Option.some.inj hsame).symm
  have hopen : reference other = '$' :: ('\x7b' :: other ++ ['\x7d']) := by simp [reference]
  have hinside : '$' ∉ '\x7b' :: other ++ ['\x7d'] := by simp [hplain]
  rw [hopen, List.cons_append] at hstart ⊢
  rw [replaceFrom_cons value hstart, replaceFrom_of_dollar_notMem value hinside]
  rfl

/-- What stands for a reference once the variables in `done` are put in. -/
def valueAfter (vars : String → Option String) (done : List (List Char)) (name : List Char) :
    List Char :=
  if name ∈ done then valueOf vars name else reference name

section Plain

variable {vars : String → Option String} {cs : List Char}

/-- Putting in a variable replaces a reference to it that is there, and passes over anything else that
stands for a reference. -/
theorem replaceFrom_valueAfter (h : Plain vars cs) (done : List (List Char)) {name other : List Char}
    {value : String} (hname : name ∈ names none cs) (hother : other ∈ names none cs)
    (hvalue : vars (String.ofList name) = some value) (rest : List Char) :
    replaceFrom (reference name) value.toList 0 (valueAfter vars done other ++ rest) =
      valueAfter vars (name :: done) other ++
        replaceFrom (reference name) value.toList 0 rest := by
  have hpass : other ≠ name →
      replaceFrom (reference name) value.toList 0 (reference other ++ rest) =
        reference other ++ replaceFrom (reference name) value.toList 0 rest := fun hne =>
    replaceFrom_reference_of_ne value.toList (isName_of_mem_names hname)
      (isName_of_mem_names hother) hne (h.names other hother) rest
  by_cases hdone : other ∈ done
  · have hafter : valueAfter vars (name :: done) other = valueOf vars other := by
      simp [valueAfter, hdone]
    rw [hafter, valueAfter, if_pos hdone]
    cases hset : vars (String.ofList other) with
    | some set =>
      rw [valueOf_eq_some hset]
      exact replaceFrom_of_dollar_notMem value.toList (h.values other hother set hset) rest
    | none =>
      have hne : other ≠ name := by
        rintro rfl
        exact nomatch hvalue.symm.trans hset
      rw [valueOf_eq_none hset]
      exact hpass hne
  · rw [valueAfter, if_neg hdone]
    by_cases heq : other = name
    · subst heq
      have hafter : valueAfter vars (other :: done) other = value.toList := by
        simp [valueAfter, valueOf_eq_some hvalue]
      rw [hafter]
      exact replaceFrom_reference value.toList other rest
    · have hafter : valueAfter vars (name :: done) other = reference other := by
        simp [valueAfter, hdone, heq]
      rw [hafter]
      exact hpass heq

/-- Right behind a dollar sign nothing that stands for a reference opens a brace. -/
theorem valueAfter_start (h : Plain vars cs) (done : List (List Char)) {other : List Char}
    (hother : other ∈ names none cs) (hwithin : '$' :: reference other <:+: cs) :
    ∃ c more, valueAfter vars done other = c :: more ∧ c ≠ '\x7b' := by
  have hreference : ∃ c more, reference other = c :: more ∧ c ≠ '\x7b' :=
    ⟨'$', '\x7b' :: other ++ ['\x7d'], by simp [reference], by decide⟩
  unfold valueAfter
  split
  · cases hset : vars (String.ofList other) with
    | some set =>
      obtain ⟨hne, hhead⟩ := h.joints other hother set hset hwithin
      obtain ⟨c, more, hcons⟩ := List.exists_cons_of_ne_nil hne
      refine ⟨c, more, by rw [valueOf_eq_some hset, hcons], ?_⟩
      rintro rfl
      exact hhead (by rw [hcons]; rfl)
    | none =>
      rw [valueOf_eq_none hset]
      exact hreference
  · exact hreference

/-- Putting in one more variable replaces its references and nothing else. -/
theorem substitute_valueAfter (h : Plain vars cs) (done : List (List Char)) {name : List Char}
    (hname : name ∈ names none cs) :
    substitute vars (rewrite (valueAfter vars done) cs) name =
      rewrite (valueAfter vars (name :: done)) cs := by
  unfold substitute
  cases hvalue : vars (String.ofList name) with
  | none =>
    apply rewrite_congr
    intro other _
    by_cases hother : other = name
    · subst hother
      simp [valueAfter, valueOf_eq_none hvalue]
    · simp [valueAfter, hother]
  | some value =>
    apply replaceFrom_rewrite (isName_of_mem_names hname)
    · exact fun other hother => replaceFrom_valueAfter h done hname hother hvalue
    · exact fun other hother => valueAfter_start h done hother

theorem foldl_substitute (h : Plain vars cs) (next done : List (List Char))
    (hnext : ∀ name ∈ next, name ∈ names none cs) :
    next.foldl (substitute vars) (rewrite (valueAfter vars done) cs) =
      rewrite (valueAfter vars (next.reverse ++ done)) cs := by
  induction next generalizing done with
  | nil => rfl
  | cons name next ih =>
    rw [List.foldl_cons, substitute_valueAfter h done (hnext name List.mem_cons_self),
      ih (name :: done) fun other hother => hnext other (List.mem_cons_of_mem _ hother)]
    simp

theorem expand_of_plain {text : String} (h : Plain vars text.toList) :
    expand vars text = substituteAll vars text := by
  have hstart : text.toList = rewrite (valueAfter vars []) text.toList :=
    (rewrite_eq_self fun name _ => by simp [valueAfter]).symm
  have hend : rewrite (valueAfter vars ((names none text.toList).reverse ++ [])) text.toList =
      rewrite (valueOf vars) text.toList := by
    apply rewrite_congr
    intro name hname
    simp [valueAfter, hname]
  have hrun := foldl_substitute h (names none text.toList) [] fun _ hname => hname
  rw [← hstart, hend] at hrun
  exact congrArg String.ofList hrun

end Plain

/-! ### One reference at most -/

theorem rewrite_reference_self (cs : List Char) : rewrite reference cs = cs :=
  rewrite_eq_self fun _ _ => rfl

/-- The only reference is replaced wherever it stands, and it stands nowhere else. -/
theorem substitute_eq_rewrite (vars : String → Option String) {cs name : List Char}
    (h : names none cs = [name]) : substitute vars cs name = rewrite (valueOf vars) cs := by
  have honly : ∀ other ∈ names none cs, other = name := by simp [h]
  unfold substitute
  cases hvalue : vars (String.ofList name) with
  | none =>
    refine (rewrite_eq_self fun other hother => ?_).symm
    rw [honly other hother]
    exact valueOf_eq_none hvalue
  | some value =>
    have hmem : name ∈ names none cs := by simp [h]
    have hrun : replaceFrom (reference name) value.toList 0 (rewrite reference cs) =
        rewrite (valueOf vars) cs := by
      apply replaceFrom_rewrite (isName_of_mem_names hmem)
      · intro other hother rest
        rw [honly other hother, valueOf_eq_some hvalue]
        exact replaceFrom_reference value.toList name rest
      · intro other _ _
        exact ⟨'$', '\x7b' :: other ++ ['\x7d'], by simp [reference], by decide⟩
    rwa [rewrite_reference_self] at hrun

theorem expand_of_length_le_one (vars : String → Option String) {text : String}
    (h : (names none text.toList).length ≤ 1) : expand vars text = substituteAll vars text := by
  refine congrArg String.ofList ?_
  cases hnames : names none text.toList with
  | nil => exact (rewrite_eq_self (by simp [hnames])).symm
  | cons name more =>
    have hmore : more = [] := by
      rw [hnames] at h
      simpa using h
    subst hmore
    exact substitute_eq_rewrite vars hnames

/-! ### Two references or more -/

/-- Two variables whose values are their own references, with the second reference behind. -/
def repeating (a b : List Char) (name : String) : Option String :=
  if name.toList = a ∨ name.toList = b then
    some (String.ofList (reference name.toList ++ reference b))
  else none

section Repeating

variable {a b : List Char}

theorem valueOf_repeating (name : List Char) :
    valueOf (repeating a b) name =
      if name = a ∨ name = b then reference name ++ reference b else reference name := by
  unfold valueOf repeating
  rw [String.toList_ofList]
  by_cases hname : name = a ∨ name = b
  · rw [if_pos hname, if_pos hname]
    exact String.toList_ofList
  · rw [if_neg hname, if_neg hname]

theorem substitute_repeating {name : List Char} (h : name = a ∨ name = b) (cs : List Char) :
    substitute (repeating a b) cs name =
      replaceFrom (reference name) (reference name ++ reference b) 0 cs := by
  unfold substitute repeating
  rw [String.toList_ofList, if_pos h]
  dsimp only
  rw [String.toList_ofList]

/-- No pass makes the text shorter. -/
theorem length_le_passes (next : List (List Char)) (cs : List Char) :
    cs.length ≤ (next.foldl (substitute (repeating a b)) cs).length := by
  induction next generalizing cs with
  | nil => exact Nat.le_refl _
  | cons name next ih =>
    rw [List.foldl_cons]
    refine Nat.le_trans ?_ (ih _)
    by_cases hname : name = a ∨ name = b
    · rw [substitute_repeating hname]
      exact length_le_replaceFrom name (reference b) cs
    · have hunset : repeating a b (String.ofList name) = none := by
        rw [repeating, String.toList_ofList, if_neg hname]
      rw [substitute, hunset]

/-- What the first pass makes of a reference goes on from it with a closed text. -/
theorem first_pass_reference {name : List Char} (hname : IsName name) :
    ∃ more, (more = [] ∨ more = reference b) ∧
      replaceFrom (reference a) (reference a ++ reference b) 0 (reference name) =
        reference name ++ more := by
  have hinside : '\x7d' ∉ '$' :: '\x7b' :: name := by simp [hname.brace_notMem]
  exact replaceFrom_inside (reference b) hinside

/-- Both passes make a reference at least as long as its value, and longer where the first variable is
meant. -/
theorem length_valueOf_repeating (hb : IsName b) (name : List Char) :
    (valueOf (repeating a b) name).length + (if name = a then 1 else 0) ≤
      (substitute (repeating a b) (substitute (repeating a b) (reference name) a) b).length := by
  rw [substitute_repeating (.inl rfl), substitute_repeating (.inr rfl), valueOf_repeating]
  have hpositive : 0 < (reference b).length := List.length_pos_iff.mpr (reference_ne_nil b)
  by_cases heqa : name = a
  · subst heqa
    have hkept := length_le_replaceFrom b (reference b) (reference name)
    rw [replaceFrom_reference_self, (closed_reference name).replaceFrom_append _ hb,
      replaceFrom_reference_self]
    simp only [true_or, if_true, List.length_append]
    omega
  · by_cases heqb : name = b
    · subst heqb
      obtain ⟨more, -, hfirst⟩ := first_pass_reference (a := a) (b := name) hb
      rw [hfirst, (closed_reference name).replaceFrom_append _ hb, replaceFrom_reference_self]
      simp only [heqa, or_true, if_true, if_false, List.length_append]
      omega
    · have hfirst := length_le_replaceFrom a (reference b) (reference name)
      have hkept := length_le_replaceFrom b (reference b)
        (replaceFrom (reference a) (reference a ++ reference b) 0 (reference name))
      simp only [heqa, heqb, or_self, if_false]
      omega

/-- The two passes go through each reference of the text apart. -/
theorem passes_eq_rewrite (ha : IsName a) (hb : IsName b) (cs : List Char) :
    substitute (repeating a b) (substitute (repeating a b) cs a) b =
      rewrite (fun name =>
        substitute (repeating a b) (substitute (repeating a b) (reference name) a) b) cs := by
  simp only [substitute_repeating (.inl rfl), substitute_repeating (.inr rfl)]
  have hfirst : replaceFrom (reference a) (reference a ++ reference b) 0 cs =
      rewrite (fun name =>
        replaceFrom (reference a) (reference a ++ reference b) 0 (reference name)) cs := by
    rw [← replaceFrom_rewrite_closed _ ha fun name _ => ⟨[], by simp, .inl rfl⟩,
      rewrite_reference_self]
  rw [hfirst]
  apply replaceFrom_rewrite_closed _ hb
  intro name hname
  obtain ⟨more, hmore, hrun⟩ := first_pass_reference (a := a) (b := b) (isName_of_mem_names hname)
  refine ⟨more, hrun, ?_⟩
  rcases hmore with rfl | rfl
  · exact .inl rfl
  · exact closed_reference b

theorem expand_repeating_ne {text : String} {more : List (List Char)}
    (h : names none text.toList = a :: b :: more) :
    expand (repeating a b) text ≠ substituteAll (repeating a b) text := by
  have hmema : a ∈ names none text.toList := by simp [h]
  have hmemb : b ∈ names none text.toList := by simp [h]
  have ha := isName_of_mem_names hmema
  have hb := isName_of_mem_names hmemb
  -- The first two passes make more of the text than replacing all references at once, and what is left of
  -- the passes takes nothing away.
  have htwo : (rewrite (valueOf (repeating a b)) text.toList).length <
      (substitute (repeating a b) (substitute (repeating a b) text.toList a) b).length := by
    rw [passes_eq_rewrite ha hb]
    refine length_rewrite_lt (fun name _ => ?_) hmema ?_
    · exact Nat.le_of_add_right_le (length_valueOf_repeating (a := a) hb name)
    · have hlonger := length_valueOf_repeating (a := a) hb a
      rwa [if_pos rfl] at hlonger
  have hall : (rewrite (valueOf (repeating a b)) text.toList).length <
      ((names none text.toList).foldl (substitute (repeating a b)) text.toList).length := by
    rw [h, List.foldl_cons, List.foldl_cons]
    exact Nat.lt_of_lt_of_le htwo (length_le_passes more _)
  intro heq
  have hsame := congrArg String.toList heq
  rw [expand, substituteAll, String.toList_ofList, String.toList_ofList] at hsame
  rw [hsame] at hall
  exact Nat.lt_irrefl _ hall

end Repeating

/-! ### Where the two are the same -/

/-- Variables that are put in one after the other are put in at once where names and values are plain.
Whatever the values are, this holds of the texts with one reference at most and of no others. -/
theorem expand_simultaneous_iff (text : String) :
    (∀ vars, Plain vars text.toList → expand vars text = substituteAll vars text) ∧
      ((∀ vars, expand vars text = substituteAll vars text) ↔
        (names none text.toList).length ≤ 1) := by
  refine ⟨fun vars => expand_of_plain, fun hsame => ?_, fun hone vars =>
    expand_of_length_le_one vars hone⟩
  by_contra hmore
  match hnames : names none text.toList with
  | [] => simp [hnames] at hmore
  | [_] => simp [hnames] at hmore
  | a :: b :: _ => exact expand_repeating_ne hnames (hsame (repeating a b))

/-- Set and unset variables, one of them named twice and one right behind a dollar sign. -/
theorem expand_simultaneous_of_plain :
    let vars := fun name => if name = "HOST" then some "db" else if name = "PORT" then some "" else none
    let text := "$\x7bHOST\x7d:$\x7bPORT\x7d $$\x7bHOST\x7d $\x7bUSER\x7d $\x7b\x7d $\x7bHOST"
    Plain vars text.toList ∧ expand vars text = substituteAll vars text ∧
      expand vars text = "db: $db $\x7bUSER\x7d $\x7b\x7d $\x7bHOST" := by
  intro vars text
  have hplain : Plain vars text.toList :=
    ⟨by decide +kernel, by decide +kernel, by decide +kernel⟩
  exact ⟨hplain, (expand_simultaneous_iff text).1 vars hplain, by decide +kernel⟩

/-- A reference that comes with a value is expanded again. -/
theorem expand_ne_substituteAll :
    let vars := fun name => if name = "A" then some "$\x7bB\x7d" else if name = "B" then some "b" else none
    let text := "$\x7bA\x7d $\x7bB\x7d"
    substituteAll vars text = "$\x7bB\x7d b" ∧ expand vars text ≠ substituteAll vars text := by
  decide +kernel

end FilterClause.Settings
