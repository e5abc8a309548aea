import FilterClause.Proofs.RequestOutline

/-!
Chains cut in two. The condition of a list of filters is the condition of its front, the connective of
the first filter behind the cut, and the condition of its back, whose placeholders are numbered on from
those of the front. That filter alone stands differently in the whole list than in its part, so nothing
but its connective is looked at anew.
-/
namespace FilterClause

open Checked

/-! ### Links of a list in two parts -/

section Links

variable {α : Type} {link : Bool → α → Checked Link}

theorem links_cons_eq_ok_iff {first : Bool} {x : α} {xs : List α} {ls : List Link} :
    links link first (x :: xs) = .ok ls ↔
      ∃ l more, link first x = .ok l ∧ links link false xs = .ok more ∧ ls = l :: more := by
  rw [links, bind_eq_ok_iff]
  constructor
  · rintro ⟨l, hl, hls⟩
    obtain ⟨more, hmore, hls⟩ := bind_eq_ok_iff.mp hls
    cases hls
    exact ⟨l, more, hl, hmore, rfl⟩
  · rintro ⟨l, more, hl, hmore, rfl⟩
    exact ⟨l, hl, bind_eq_ok_iff.mpr ⟨more, hmore, rfl⟩⟩

theorem exists_links_cons_iff {first : Bool} {x : α} {xs : List α} :
    (∃ ls, links link first (x :: xs) = .ok ls) ↔
      (∃ l, link first x = .ok l) ∧ ∃ more, links link false xs = .ok more := by
  constructor
  · rintro ⟨ls, hls⟩
    obtain ⟨l, more, hl, hmore, _⟩ := links_cons_eq_ok_iff.mp hls
    exact ⟨⟨l, hl⟩, more, hmore⟩
  · rintro ⟨⟨l, hl⟩, more, hmore⟩
    exact ⟨l :: more, links_cons_eq_ok_iff.mpr ⟨l, more, hl, hmore, rfl⟩⟩

theorem links_append_eq_ok_iff {first : Bool} {x : α} {xs ys : List α} {ls : List Link} :
    links link first (x :: xs ++ ys) = .ok ls ↔
      ∃ front back, links link first (x :: xs) = .ok front ∧ links link false ys = .ok back ∧
        ls = front ++ back := by
  induction xs generalizing first x ls with
  | nil =>
    rw [List.cons_append, links_cons_eq_ok_iff]
    constructor
    · rintro ⟨l, back, hl, hback, rfl⟩
      exact ⟨[l], back, links_cons_eq_ok_iff.mpr ⟨l, [], hl, rfl, rfl⟩, hback, rfl⟩
    · rintro ⟨front, back, hfront, hback, rfl⟩
      obtain ⟨l, none, hl, hnone, rfl⟩ := links_cons_eq_ok_iff.mp hfront
      cases hnone
      exact ⟨l, back, hl, hback, rfl⟩
  | cons x' xs ih =>
    rw [List.cons_append, links_cons_eq_ok_iff]
    constructor
    · rintro ⟨l, more, hl, hmore, rfl⟩
      obtain ⟨front, back, hfront, hback, rfl⟩ := ih.mp hmore
      exact ⟨l :: front, back, links_cons_eq_ok_iff.mpr ⟨l, front, hl, hfront, rfl⟩, hback, rfl⟩
    · rintro ⟨front, back, hfront, hback, rfl⟩
      obtain ⟨l, rest, hl, hrest, rfl⟩ := links_cons_eq_ok_iff.mp hfront
      exact ⟨l, rest ++ back, hl, ih.mpr ⟨rest, back, hrest, hback, rfl⟩, rfl⟩

end Links

namespace Outline

theorem foldl_attach_of_ne_nil {acc : Outline} (hacc : acc ≠ []) (ls : List Link) :
    ls.foldl attach acc = acc ++ ls.flatMap fun l => ofText l.1 ++ l.2 := by
  induction ls generalizing acc with
  | nil => simp
  | cons l ls ih =>
    have hstep : attach acc l = acc ++ (ofText l.1 ++ l.2) := by simp [attach, hacc]
    have hne : acc ++ (ofText l.1 ++ l.2) ≠ [] := by simp [hacc]
    rw [List.foldl_cons, hstep, ih hne, List.flatMap_cons, List.append_assoc]

theorem chain_cons {l : Link} (hl : l.2 ≠ []) (ls : List Link) :
    chain (l :: ls) = l.2 ++ ls.flatMap fun l => ofText l.1 ++ l.2 :=
  foldl_attach_of_ne_nil hl ls

/-- The separator at the cut comes before the chain of the back, which has none at its start. -/
theorem chain_append {a b : Link} (ha : a.2 ≠ []) (hb : b.2 ≠ []) (as bs : List Link)
    (separator : String) :
    chain (a :: as ++ (separator, b.2) :: bs) =
      chain (a :: as) ++ (ofText separator ++ chain (b :: bs)) := by
  rw [List.cons_append, chain_cons ha, chain_cons ha, chain_cons hb, List.flatMap_append,
    List.flatMap_cons]
  simp only [List.append_assoc]

end Outline

/-! ### The same element in front and behind -/

/-- Behind others an element has the link that it has in front, with its word for a separator, if it is
admitted there at all. -/
structure Joins {α : Type} (link : Bool → α → Checked Link) (admits : α → Prop) (word : α → String) :
    Prop where
  ne_nil : ∀ first a l, link first a = .ok l → l.2 ≠ []
  behind : ∀ a l, link false a = .ok l ↔
    ∃ front, link true a = .ok front ∧ admits a ∧ l = (" " ++ word a ++ " ", front.2)

namespace Joins

variable {α : Type} {link : Bool → α → Checked Link} {admits : α → Prop} {word : α → String}

theorem chain_eq_ok_iff (h : Joins link admits word) {x : α} {xs : List α} {y : α} {ys : List α}
    {o : Outline} :
    Outline.chain <$> links link true (x :: xs ++ y :: ys) = .ok o ↔
      ∃ front back, Outline.chain <$> links link true (x :: xs) = .ok front ∧
        Outline.chain <$> links link true (y :: ys) = .ok back ∧ admits y ∧
        o = front ++ (.ofText (" " ++ word y ++ " ") ++ back) := by
  simp only [map_eq_ok_iff]
  constructor
  · rintro ⟨ls, hls, rfl⟩
    obtain ⟨as, bs, has, hbs, rfl⟩ := links_append_eq_ok_iff.mp hls
    obtain ⟨a, as, ha, _, rfl⟩ := links_cons_eq_ok_iff.mp has
    obtain ⟨b, bs, hb, hmore, rfl⟩ := links_cons_eq_ok_iff.mp hbs
    obtain ⟨first, hfirst, hadmits, rfl⟩ := (h.behind y b).mp hb
    have hback := links_cons_eq_ok_iff.mpr ⟨first, bs, hfirst, hmore, rfl⟩
    refine ⟨_, _, ⟨a :: as, has, rfl⟩, ⟨first :: bs, hback, rfl⟩, hadmits, ?_⟩
    exact Outline.chain_append (h.ne_nil true x a ha) (h.ne_nil true y first hfirst) as bs _
  · rintro ⟨_, _, ⟨as, has, rfl⟩, ⟨bs, hbs, rfl⟩, hadmits, rfl⟩
    obtain ⟨a, as, ha, _, rfl⟩ := links_cons_eq_ok_iff.mp has
    obtain ⟨first, bs, hfirst, hmore, rfl⟩ := links_cons_eq_ok_iff.mp hbs
    have hbehind := (h.behind y _).mpr ⟨first, hfirst, hadmits, rfl⟩
    have hback := links_cons_eq_ok_iff.mpr ⟨_, bs, hbehind, hmore, rfl⟩
    refine ⟨_, links_append_eq_ok_iff.mpr ⟨_, _, has, hback, rfl⟩, ?_⟩
    exact Outline.chain_append (h.ne_nil true x a ha) (h.ne_nil true y first hfirst) as bs _

theorem chain_ne_nil (h : Joins link admits word) {x : α} {xs : List α} {o : Outline}
    (ho : Outline.chain <$> links link true (x :: xs) = .ok o) : o ≠ [] := by
  obtain ⟨ls, hls, rfl⟩ := map_eq_ok_iff.mp ho
  obtain ⟨l, ls, hl, _, rfl⟩ := links_cons_eq_ok_iff.mp hls
  have hne : l.2 ≠ [] := h.ne_nil true x l hl
  simp [Outline.chain_cons hne, hne]

end Joins

/-! ### Fragments in two parts -/

namespace Fragment

/-- One fragment, a word, and another fragment. -/
def join (front : Fragment) (word : String) (back : Fragment) : Fragment :=
  ⟨front.sql ++ " " ++ word ++ " " ++ back.sql, front.params ++ back.params⟩

/-- A fragment in parentheses. -/
def enclosed (inside : Fragment) : Fragment :=
  ⟨"(" ++ inside.sql ++ ")", inside.params⟩

theorem enclosed_injective {a b : Fragment} (h : a.enclosed = b.enclosed) : a = b := by
  obtain ⟨sql, params⟩ := a
  obtain ⟨sql', params'⟩ := b
  obtain ⟨hsql, rfl⟩ := Fragment.mk.inj h
  have hsame : sql = sql' := by
    rw [← String.toList_inj] at hsql ⊢
    simpa using hsql
  rw [hsame]

end Fragment

namespace Compiler

/-- The fragment of an outline behind the given number of bound values. -/
def fragment (c : Compiler) (offset : Nat) (o : Outline) : Fragment :=
  ⟨o.text (c.options.mode.filling c.options.dialect) offset, c.options.mode.kept o.holes⟩

/-- A run fills the outline of what is written. -/
theorem run_eq (c : Compiler) (offset : Nat) {writing : Writing String} {outline : Checked Outline}
    (h : Writes writing outline) : c.run offset writing = c.fragment offset <$> outline := by
  rw [run, h]
  cases outline <;> rfl

theorem run_eq_ok_iff (c : Compiler) (offset : Nat) {writing : Writing String}
    {outline : Checked Outline} (h : Writes writing outline) {found : Fragment} :
    c.run offset writing = .ok found ↔ ∃ o, outline = .ok o ∧ c.fragment offset o = found := by
  rw [c.run_eq offset h, map_eq_ok_iff]

theorem fragment_join (c : Compiler) (offset : Nat) (front back : Outline) (word : String) :
    c.fragment offset (front ++ (.ofText (" " ++ word ++ " ") ++ back)) =
      (c.fragment offset front).join word
        (c.fragment (offset + (c.fragment offset front).params.length) back) := by
  have hnumbered : back.text (c.options.mode.filling c.options.dialect)
      (offset + (c.options.mode.kept front.holes).length) =
        back.text (c.options.mode.filling c.options.dialect) (offset + front.holes.length) :=
    Writer.text_eq c.options.mode c.options.dialect offset front.holes back
  simp only [fragment, Fragment.join, Outline.text_append, Outline.text_ofText, Outline.holes_append,
    Outline.holes_ofText, Mode.kept_append, hnumbered, List.length_nil, Nat.add_zero,
    List.nil_append, String.append_assoc]

end Compiler

/-- A loop that writes filters as one fragment in a frame. From a list it makes the fragment of the front,
the word of the first filter behind the cut, and the fragment of the back behind the values of the front.
It is refused where one of the two is, or where that filter may not stand behind others. -/
def Compositional {α : Type} (render : List α → Writing String) (frame : Fragment → Fragment)
    (admits : α → Prop) (word : α → String) : Prop :=
  ∀ (c : Compiler) (offset : Nat) (x : α) (xs : List α) (y : α) (ys : List α) (whole : Fragment),
    c.run offset (render (x :: xs ++ y :: ys)) = .ok whole ↔
      ∃ front back, c.run offset (render (x :: xs)) = .ok (frame front) ∧
        c.run (offset + front.params.length) (render (y :: ys)) = .ok (frame back) ∧ admits y ∧
        whole = frame (front.join (word y) back)

namespace Joins

variable {α : Type} {link : Bool → α → Checked Link} {admits : α → Prop} {word : α → String}

/-- What is put around a chain in the outline is put around its fragment. -/
theorem compositional_framed (h : Joins link admits word) {render : List α → Writing String}
    {wrap : Outline → Outline} {frame : Fragment → Fragment}
    (hw : ∀ as, Writes (render as) (wrap <$> Outline.chain <$> links link true as))
    (hframe : ∀ (c : Compiler) offset o, o ≠ [] →
      c.fragment offset (wrap o) = frame (c.fragment offset o))
    (hinjective : ∀ a b, frame a = frame b → a = b) :
    Compositional render frame admits word := by
  intro c offset x xs y ys whole
  -- A part is written in its frame just where it has a chain.
  have hpart : ∀ (offset : Nat) (a : α) (as : List α) (part : Fragment),
      c.run offset (render (a :: as)) = .ok (frame part) ↔
        ∃ o, Outline.chain <$> links link true (a :: as) = .ok o ∧ c.fragment offset o = part := by
    intro offset a as part
    rw [c.run_eq_ok_iff offset (hw (a :: as))]
    constructor
    · rintro ⟨_, hwrapped, hpart⟩
      obtain ⟨o, ho, rfl⟩ := map_eq_ok_iff.mp hwrapped
      rw [hframe c offset o (h.chain_ne_nil ho)] at hpart
      exact ⟨o, ho, hinjective _ _ hpart⟩
    · rintro ⟨o, ho, rfl⟩
      exact ⟨wrap o, map_eq_ok_iff.mpr ⟨o, ho, rfl⟩, hframe c offset o (h.chain_ne_nil ho)⟩
  simp only [hpart]
  constructor
  · intro hwhole
    obtain ⟨_, hwrapped, rfl⟩ := (c.run_eq_ok_iff offset (hw _)).mp hwhole
    obtain ⟨o, ho, rfl⟩ := map_eq_ok_iff.mp hwrapped
    obtain ⟨front, back, hfront, hback, hadmits, rfl⟩ := h.chain_eq_ok_iff.mp ho
    refine ⟨_, _, ⟨front, hfront, rfl⟩, ⟨back, hback, rfl⟩, hadmits, ?_⟩
    rw [hframe c offset _ (h.chain_ne_nil ho), c.fragment_join]
  · rintro ⟨_, _, ⟨front, hfront, rfl⟩, ⟨back, hback, rfl⟩, hadmits, rfl⟩
    have ho := h.chain_eq_ok_iff.mpr ⟨front, back, hfront, hback, hadmits, rfl⟩
    refine (c.run_eq_ok_iff offset (hw _)).mpr ⟨_, map_eq_ok_iff.mpr ⟨_, ho, rfl⟩, ?_⟩
    rw [hframe c offset _ (h.chain_ne_nil ho), c.fragment_join]

theorem compositional (h : Joins link admits word) {render : List α → Writing String}
    (hw : ∀ as, Writes (render as) (Outline.chain <$> links link true as)) :
    Compositional render id admits word := by
  have hbare : ∀ as, Writes (render as) (id <$> Outline.chain <$> links link true as) := by
    simpa only [id_map] using hw
  exact h.compositional_framed hbare (fun _ _ _ _ => rfl) fun _ _ => id

/-- Links that are the same in front and behind join everything. -/
theorem of_uniform (huniform : ∀ a, link false a = link true a)
    (hne : ∀ first a l, link first a = .ok l → l.2 ≠ [])
    (hword : ∀ a l, link true a = .ok l → l.1 = " " ++ word a ++ " ") :
    Joins link (fun _ => True) word where
  ne_nil := hne
  behind a l := by
    rw [huniform]
    constructor
    · intro hl
      exact ⟨l, hl, trivial, by rw [← hword a l hl]⟩
    · rintro ⟨front, hfront, -, rfl⟩
      rw [← hword a front hfront]
      exact hfront

end Joins

/-! ### Words in front of a filter -/

theorem Connective.read_eq_ok_iff {s : String} {connective : Connective} :
    read s = .ok connective ↔ Text.trim s = connective.keyword := by
  unfold read
  by_cases hand : Text.trim s = "AND"
  · rw [if_pos hand, hand]
    cases connective <;> simp [keyword]
  · rw [if_neg hand]
    by_cases hor : Text.trim s = "OR"
    · rw [if_pos hor, hor]
      cases connective <;> simp [keyword]
    · rw [if_neg hor]
      cases connective <;> simp [keyword, hand, hor]

/-- The word of an equality filter: its connective, or `AND` when it has none. Among texts an empty one is
none. -/
def Conjunction.word (filterType : FilterType) (filter : Equality) : String :=
  match filter.connective with
  | none => "AND"
  | some given => if filterType = .texts ∧ given = "" then "AND" else Text.trim given

theorem Conjunction.keyword_eq_word {filterType : FilterType} {filter : Equality}
    {connective : Connective} (h : readConnective filterType filter = .ok connective) :
    connective.keyword = word filterType filter := by
  unfold readConnective looksInside at h
  unfold word
  cases hgiven : filter.connective with
  | none =>
    cases filterType <;> rw [hgiven] at h <;> cases h <;> rfl
  | some given =>
    rw [hgiven] at h
    cases filterType with
    | numbers => exact (Connective.read_eq_ok_iff.mp h).symm
    | texts =>
      by_cases hempty : given = ""
      · subst hempty
        cases h
        rfl
      · simp only [Option.getD_some, hempty, decide_true, decide_false, Bool.and_false,
          Bool.false_eq_true, if_false, and_false] at h ⊢
        exact (Connective.read_eq_ok_iff.mp h).symm

/-- Holds of a connective that may stand between two conditions. -/
def Connective.Given (connective : Option String) : Prop :=
  ∃ s, connective = some s ∧ (Text.trim s = "AND" ∨ Text.trim s = "OR")

/-- A connective as it is given, without white space at its ends. -/
def Connective.givenWord (connective : Option String) : String :=
  Text.trim (connective.getD "")

theorem Group.readConnective_eq_ok_iff {given : Option String} {field : String}
    {connective : Connective} :
    readConnective given field = .ok connective ↔
      Connective.Given given ∧ connective.keyword = Connective.givenWord given := by
  constructor
  · intro h
    cases given with
    | none => exact nomatch h
    | some s =>
      have htrim := Connective.read_eq_ok_iff.mp (withField_eq_ok_iff.mp h)
      refine ⟨⟨s, rfl, ?_⟩, htrim.symm⟩
      rw [htrim]
      cases connective
      · exact .inl rfl
      · exact .inr rfl
  · rintro ⟨⟨s, rfl, _⟩, hkeyword⟩
    exact withField_eq_ok_iff.mpr (Connective.read_eq_ok_iff.mpr hkeyword.symm)

theorem Group.readConnective_of_given {given : Option String} (field : String)
    (h : Connective.Given given) : ∃ connective, readConnective given field = .ok connective := by
  obtain ⟨s, rfl, hand | hor⟩ := h
  · exact ⟨.and, withField_eq_ok_iff.mpr (Connective.read_eq_ok_iff.mpr hand)⟩
  · exact ⟨.or, withField_eq_ok_iff.mpr (Connective.read_eq_ok_iff.mpr hor)⟩

/-! ### The categories -/

theorem Conjunction.joins (filterType : FilterType) (columns : Columns) :
    Joins (link filterType columns) (fun _ => True) fun entry => word filterType entry.2 := by
  refine .of_uniform (fun _ => rfl) (fun _ _ _ hl => (hasHole_of_link hl).ne_nil) ?_
  intro entry l hl
  obtain ⟨⟨connective, t⟩, hcondition, rfl⟩ := map_eq_ok_iff.mp hl
  obtain ⟨_, _, hconnective, _⟩ := of_condition hcondition
  exact congrArg (" " ++ · ++ " ") (keyword_eq_word hconnective)

theorem Range.joins : Joins link (fun _ => True) fun _ => "AND" := by
  refine .of_uniform (fun _ => rfl) (fun _ _ _ hl => (of_link hl).1.ne_nil) ?_
  intro entry l hl
  obtain ⟨t, _, rfl⟩ := map_eq_ok_iff.mp hl
  rfl

theorem NotEqual.joins : Joins link (fun _ => True) fun _ => "AND" := by
  refine .of_uniform (fun _ => rfl) (fun _ _ _ hl => (hasHole_of_link hl).ne_nil) ?_
  intro entry l hl
  obtain ⟨t, _, rfl⟩ := map_eq_ok_iff.mp hl
  rfl

theorem Period.joins : Joins link (fun _ => True) fun _ => "AND" := by
  refine .of_uniform (fun _ => rfl) (fun _ _ _ hl => (hasHole_of_link hl).ne_nil) ?_
  intro period l hl
  obtain ⟨t, _, rfl⟩ := map_eq_ok_iff.mp hl
  rfl

theorem Extra.joins : Joins link (fun _ => True) fun group =>
    Connective.givenWord group.filter.connective := by
  refine .of_uniform (fun _ => rfl) (fun _ _ _ hl => (hasHole_of_link hl).ne_nil) ?_
  intro group l hl
  obtain ⟨⟨connective, t⟩, hcondition, rfl⟩ := map_eq_ok_iff.mp hl
  obtain ⟨_, _, hconnective, _⟩ := of_condition hcondition
  exact congrArg (" " ++ · ++ " ") (Group.readConnective_eq_ok_iff.mp hconnective).2

/-- In front the connective of a group is not looked at. -/
theorem Special.joins (columns : Columns) :
    Joins (link columns) (fun group => Connective.Given group.filter.connective) fun group =>
      Connective.givenWord group.filter.connective where
  ne_nil _ _ _ hl := (hasHole_of_link hl).ne_nil
  behind group l := by
    constructor
    · intro hl
      obtain ⟨key, t, hcondition, htemplate, ⟨hfirst, _⟩ | ⟨_, connective, hread, hword⟩⟩ := of_link hl
      · exact nomatch hfirst
      · obtain ⟨hgiven, hkeyword⟩ := Group.readConnective_eq_ok_iff.mp hread
        refine ⟨("", .ofTemplate t), by rw [link, hcondition]; rfl, hgiven, Prod.ext ?_ htemplate⟩
        rw [hword, Connective.separator, hkeyword]
    · rintro ⟨front, hfront, hgiven, rfl⟩
      obtain ⟨key, t, hcondition, htemplate, _⟩ := of_link hfront
      obtain ⟨connective, hread⟩ := Group.readConnective_of_given key hgiven
      have hkeyword := (Group.readConnective_eq_ok_iff.mp hread).2
      rw [link, hcondition, ok_bind]
      dsimp only
      rw [if_neg Bool.false_ne_true, hread, htemplate, ← hkeyword]
      rfl

theorem Period.writes_enclosed (periods : List Period) :
    Writes (render periods) (enclose <$> Outline.chain <$> links link true periods) := by
  have houtline : outline periods = enclose <$> Outline.chain <$> links link true periods := by
    rw [outline]
    cases links link true periods <;> rfl
  exact houtline ▸ render_writes periods

theorem Period.fragment_enclose (c : Compiler) (offset : Nat) (o : Outline) (ho : o ≠ []) :
    c.fragment offset (enclose o) = (c.fragment offset o).enclosed := by
  have hsome : o.isEmpty = false := by simpa using ho
  simp only [enclose, hsome, Bool.false_eq_true, if_false, Compiler.fragment, Fragment.enclosed,
    Outline.text_append, Outline.text_ofText, Outline.holes_append, Outline.holes_ofText,
    List.length_nil, Nat.add_zero, List.nil_append, List.append_nil]

/-- Every category writes a list in two parts as it writes the parts. -/
theorem categories_compositional :
    (∀ filterType columns,
      Compositional (Conjunction.render filterType columns) id (fun _ => True)
        fun entry => Conjunction.word filterType entry.2) ∧
    Compositional Range.render id (fun _ => True) (fun _ => "AND") ∧
    (∀ columns,
      Compositional (Special.render columns) id
        (fun group => Connective.Given group.filter.connective)
        fun group => Connective.givenWord group.filter.connective) ∧
    Compositional Extra.render id (fun _ => True)
      (fun group => Connective.givenWord group.filter.connective) ∧
    Compositional NotEqual.render id (fun _ => True) (fun _ => "AND") ∧
    Compositional Period.render Fragment.enclosed (fun _ => True) (fun _ => "AND") := by
  refine ⟨fun filterType columns => ?_, ?_, fun columns => ?_, ?_, ?_, ?_⟩
  · exact (Conjunction.joins filterType columns).compositional (Conjunction.render_writes filterType columns)
  · exact Range.joins.compositional Range.render_writes
  · exact (Special.joins columns).compositional (Special.render_writes columns)
  · exact Extra.joins.compositional Extra.render_writes
  · exact NotEqual.joins.compositional NotEqual.render_writes
  · exact Period.joins.compositional_framed Period.writes_enclosed Period.fragment_enclose
      fun _ _ => Fragment.enclosed_injective

end FilterClause
