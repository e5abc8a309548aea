import FilterClause.Compiler
import FilterClause.Proofs.JsonWriting

/-!
A request that is written out and read again. In whatever form it came, a request holds categories that
are not null and columns with different names, and its object form names each field once. So each field
is read back from its own member, and a field without a member keeps its default.
-/
namespace FilterClause.Request

/-- The categories that are present. -/
def categories (r : Request) : List Json :=
  [r.equality, r.special, r.range, r.extra, r.within, r.without, r.notEqual, r.period].filterMap id

theorem mem_categories {r : Request} {v : Json} :
    v ∈ r.categories ↔ r.equality = some v ∨ r.special = some v ∨ r.range = some v ∨
      r.extra = some v ∨ r.within = some v ∨ r.without = some v ∨ r.notEqual = some v ∨
      r.period = some v := by
  simp [categories, eq_comm]

/-! ### What is read -/

/-- Holds of the requests that come of a text. -/
structure Readable (r : Request) : Prop where
  categories : ∀ v ∈ r.categories, v.isNull = false ∧ Json.Fits (Json.depthLimit - 1) v
  columns : (Entries.names r.columns).Nodup

/-- Holds of a field that sets no more than its own part of a request. -/
def Shape.Local : Shape → Prop
  | .category set => ∀ r x, (∀ v ∈ (set r x).categories, x = some v ∨ v ∈ r.categories) ∧
      (set r x).columns = r.columns
  | .text set => ∀ r x, (set r x).categories = r.categories ∧ (set r x).columns = r.columns
  | .columns => True

theorem local_of_mem_fields : ∀ field ∈ fields, field.2.Local := by
  unfold fields
  simp only [List.forall_mem_cons]
  refine ⟨?_, fun _ _ => ⟨rfl, rfl⟩, ?_, ?_, ?_, ?_, ?_, ?_, ?_, fun _ _ => ⟨rfl, rfl⟩, trivial,
    by simp⟩
  all_goals
    intro r x
    refine ⟨fun v hv => ?_, rfl⟩
    rw [mem_categories] at hv ⊢
    grind

theorem nodup_of_readColumns {cs rest : List Char} {columns : Columns}
    (h : readColumns cs = .ok (columns, rest)) : (Entries.names columns).Nodup := by
  unfold readColumns at h
  split at h
  · have hkeeps : ∀ name, Json.Keeps
        (fun columns => (Entries.names columns).Nodup ∧ ∀ column ∈ columns, True)
        fun columns => Json.readEntry readText columns name := Json.Keeps.readEntry fun _ => trivial
    exact (Json.Keeps.members hkeeps ⟨by simp [Entries.names], by simp⟩ h).1
  · exact absurd h (Json.unexpected_ne_ok _ _ _)

theorem keeps_readField {shape : Shape} (h : shape.Local) : Json.Keeps Readable (readField shape) := by
  intro r cs r' rest hr hread
  cases shape with
  | category set =>
    obtain ⟨⟨v, after⟩, hv, hread⟩ := bind_eq_ok_iff.mp hread
    cases hread
    obtain ⟨hcategories, hcolumns⟩ := h r (present v)
    refine ⟨fun other hother => ?_, hcolumns ▸ hr.columns⟩
    rcases hcategories other hother with hnew | hold
    · unfold present at hnew
      split at hnew
      · exact nomatch hnew
      · rename_i hnull
        cases hnew
        exact ⟨Bool.eq_false_iff.mpr hnull, Json.fits_of_value hv⟩
    · exact hr.categories other hold
  | text set =>
    obtain ⟨⟨s, after⟩, -, hread⟩ := bind_eq_ok_iff.mp hread
    cases hread
    obtain ⟨hcategories, hcolumns⟩ := h r s
    exact ⟨hcategories ▸ hr.categories, hcolumns ▸ hr.columns⟩
  | columns =>
    obtain ⟨⟨columns, after⟩, hcolumns, hread⟩ := bind_eq_ok_iff.mp hread
    cases hread
    exact ⟨hr.categories, nodup_of_readColumns hcolumns⟩

theorem keeps_readMember (name : String) :
    Json.Keeps (fun state => state.2.Readable) fun state => readMember state name := by
  intro state cs state' rest hstate hread
  obtain ⟨seen, r⟩ := state
  unfold readMember at hread
  split at hread
  · obtain ⟨_, -, hread⟩ := bind_eq_ok_iff.mp hread
    obtain ⟨_, -, hread⟩ := bind_eq_ok_iff.mp hread
    cases hread
    exact hstate
  · rename_i shape hshape
    obtain ⟨front, back, hfields, -⟩ := List.lookup_eq_some_iff.mp hshape
    have hlocal : shape.Local := local_of_mem_fields (name, shape) (by simp [hfields])
    dsimp only at hread
    split at hread
    · exact nomatch hread
    · obtain ⟨_, -, hread⟩ := bind_eq_ok_iff.mp hread
      obtain ⟨⟨next, after⟩, hfield, hread⟩ := bind_eq_ok_iff.mp hread
      cases hread
      exact keeps_readField hlocal hstate hfield

theorem readable_of_read {cs rest : List Char} {r : Request} (h : read cs = .ok (r, rest)) :
    r.Readable := by
  have hstart : Readable {} := ⟨by simp [mem_categories], by simp [Entries.names]⟩
  unfold read at h
  split at h
  · obtain ⟨⟨⟨seen, r'⟩, after⟩, hmembers, h⟩ := bind_eq_ok_iff.mp h
    cases h
    exact Json.Keeps.members keeps_readMember hstart hmembers
  · have hkeeps : ∀ reader ∈ fields.map fun field => readField field.2, Json.Keeps Readable reader := by
      intro reader hreader
      obtain ⟨field, hfield, rfl⟩ := List.mem_map.mp hreader
      exact keeps_readField (local_of_mem_fields field hfield)
    exact Json.Keeps.fields hkeeps hstart h
  · exact absurd h (Json.unexpected_ne_ok _ _ _)

/-! ### What is written -/

/-- Reads a field under its name, without a look at the names before it. -/
def readNamed (r : Request) (name : String) (cs : List Char) : Except Json.Fault (Json.Cut Request) :=
  match fields.lookup name with
  | none => .error .malformed
  | some shape => do readField shape r (← Json.colon cs)

/-- Members with different names are read as they are by themselves. -/
theorem reads_readMember {r last : Request} {members : List (String × Json)}
    (h : Json.Reads readNamed r members last) (seen : List String)
    (hnames : (Entries.names members).Nodup) (hseen : ∀ name ∈ Entries.names members, name ∉ seen) :
    ∃ seen', Json.Reads readMember (seen, r) members (seen', last) := by
  induction h generalizing seen with
  | nil r => exact ⟨seen, .nil _⟩
  | @cons r next last name value members hfirst _ ih =>
    obtain ⟨hnew, hrest⟩ := List.nodup_cons.mp hnames
    -- No later member has this name, so none of them is taken for a second one.
    obtain ⟨seen', hmore⟩ := ih (name :: seen) hrest fun other hother => by
      rw [List.mem_cons, not_or]
      refine ⟨?_, hseen other (List.mem_cons_of_mem _ hother)⟩
      rintro rfl
      exact hnew hother
    refine ⟨seen', .cons (fun {rest} hend => ?_) hmore⟩
    have hread := hfirst hend
    unfold readNamed at hread
    unfold readMember
    cases hshape : fields.lookup name with
    | none =>
      rw [hshape] at hread
      exact nomatch hread
    | some shape =>
      rw [hshape] at hread
      have hfresh : ¬ seen.contains name = true := by
        simpa using hseen name List.mem_cons_self
      dsimp only at hread ⊢
      rw [if_neg hfresh]
      obtain ⟨after, hcolon, hfield⟩ := bind_eq_ok_iff.mp hread
      exact bind_eq_ok_iff.mpr ⟨after, hcolon, bind_eq_ok_iff.mpr ⟨_, hfield, rfl⟩⟩

/-- The members of some fields: they have the names of these fields, each at most once, and reading them
puts their values into a request. -/
structure Restores (names : List String) (r : Request) (members : List (String × Json))
    (next : Request) : Prop where
  names : (Entries.names members).Sublist names
  reads : Json.Reads readNamed r members next

theorem Restores.append {names more : List String} {r middle next : Request}
    {members others : List (String × Json)} (h : Restores names r members middle)
    (hmore : Restores more middle others next) :
    Restores (names ++ more) r (members ++ others) next where
  names := by
    rw [Entries.names, List.map_append]
    exact h.names.append hmore.names
  reads := h.reads.append hmore.reads

section Members

variable {name : String} {r : Request}

theorem restores_none (name : String) (r : Request) : Restores [name] r [] r :=
  ⟨List.nil_sublist _, .nil r⟩

theorem restores_member {shape : Shape} (hfield : fields.lookup name = some shape) {value : Json}
    {next : Request}
    (h : ∀ {rest}, Json.Ends rest → readField shape r (value.chars ++ rest) = .ok (next, rest)) :
    Restores [name] r [(name, value)] next := by
  refine ⟨List.Sublist.refl _, .cons (fun hend => ?_) (.nil next)⟩
  unfold readNamed
  rw [hfield]
  exact h hend

/-- A category is read back from its member. One without a member stays as it is. -/
theorem restores_category {set : Request → Option Json → Request}
    (hfield : fields.lookup name = some (.category set)) {x : Option Json}
    (hvalue : ∀ v, x = some v → v.isNull = false ∧ Json.Fits (Json.depthLimit - 1) v ∧ v.isWhole = true)
    (hnone : set r none = r) : Restores [name] r (categoryMember name x) (set r x) := by
  cases x with
  | none =>
    rw [hnone]
    exact restores_none name r
  | some v =>
    obtain ⟨hnull, hfits, hwhole⟩ := hvalue v rfl
    have hpresent : set r (present v) = set r (some v) := by simp [present, hnull]
    refine restores_member hfield fun {rest} hend => ?_
    rw [← hpresent]
    exact bind_eq_ok_iff.mpr ⟨_, Json.value_chars hfits hwhole hend, rfl⟩

theorem readText_chars (s : String) (rest : List Char) :
    readText ((Json.text s).chars ++ rest) = .ok (s, rest) := by
  rw [Json.chars_text_append]
  exact Json.string?_stringChars s rest

theorem restores_text {set : Request → Option String → Request}
    (hfield : fields.lookup name = some (.text set)) (x : Option String) (hnone : set r none = r) :
    Restores [name] r (categoryMember name (x.map .text)) (set r x) := by
  cases x with
  | none =>
    rw [hnone]
    exact restores_none name r
  | some s =>
    refine restores_member hfield fun {rest} _ => ?_
    have hoptional : readOptionalText ((Json.text s).chars ++ rest) = .ok (some s, rest) :=
      bind_eq_ok_iff.mpr ⟨_, readText_chars s rest, rfl⟩
    exact bind_eq_ok_iff.mpr ⟨_, hoptional, rfl⟩

theorem restores_columns (hnone : r.columns = []) {columns : Columns}
    (hnames : (Entries.names columns).Nodup) :
    Restores ["columnas_extra"] r
      (if columns.isEmpty then []
        else [("columnas_extra", .object (columns.map fun (name, s) => (name, .text s)))])
      { r with columns } := by
  cases columns with
  | nil =>
    have hsame : { r with columns := [] } = r := by rw [← hnone]
    rw [hsame]
    exact restores_none _ r
  | cons column columns =>
    refine restores_member rfl fun {rest} _ => ?_
    have hreads : Json.Reads (Json.readEntry readText) [] _ (column :: columns) :=
      Json.reads_readEntry hnames fun entry _ rest _ => readText_chars entry.2 rest
    exact bind_eq_ok_iff.mpr ⟨_, hreads.members_memberChars rest, rfl⟩

end Members

/-- The object form of a request restores it field by field. -/
theorem exists_members_toJson {r : Request} (h : r.Readable)
    (hwhole : ∀ v ∈ r.categories, v.isWhole = true) :
    ∃ members, r.toJson = .object members ∧ Restores (fields.map Prod.fst) {} members r := by
  have hvalue : ∀ v ∈ r.categories,
      v.isNull = false ∧ Json.Fits (Json.depthLimit - 1) v ∧ v.isWhole = true := fun v hv =>
    ⟨(h.categories v hv).1, (h.categories v hv).2, hwhole v hv⟩
  simp only [mem_categories] at hvalue
  refine ⟨_, rfl, ?_⟩
  simp only [List.append_assoc]
  -- One step for each field, in order. The request behind a step is the one before it with that field set,
  -- so a field that is still to come has its default.
  refine (restores_category rfl (fun v hv => hvalue v (by simp [hv])) rfl).append ?_
  refine (restores_text rfl r.filterType rfl).append ?_
  refine (restores_category rfl (fun v hv => hvalue v (by simp [hv])) rfl).append ?_
  refine (restores_category rfl (fun v hv => hvalue v (by simp [hv])) rfl).append ?_
  refine (restores_category rfl (fun v hv => hvalue v (by simp [hv])) rfl).append ?_
  refine (restores_category rfl (fun v hv => hvalue v (by simp [hv])) rfl).append ?_
  refine (restores_category rfl (fun v hv => hvalue v (by simp [hv])) rfl).append ?_
  refine (restores_category rfl (fun v hv => hvalue v (by simp [hv])) rfl).append ?_
  refine (restores_category rfl (fun v hv => hvalue v (by simp [hv])) rfl).append ?_
  refine (restores_text rfl r.rawSql rfl).append ?_
  exact restores_columns rfl h.columns

theorem read_object {members : List (String × Json)} {r : Request}
    (h : Restores (fields.map Prod.fst) {} members r) :
    read (Json.object members).chars = .ok (r, []) := by
  have hnames : (Entries.names members).Nodup := h.names.nodup (by decide)
  obtain ⟨seen, hreads⟩ := reads_readMember h.reads [] hnames fun _ _ => List.not_mem_nil
  have hmembers := hreads.members_memberChars []
  rw [List.append_nil] at hmembers
  exact bind_eq_ok_iff.mpr ⟨_, hmembers, rfl⟩

theorem ofText_eq_ok_iff {text : String} {r : Request} :
    ofText text = .ok r ↔ Json.finish (read text.toList) = .ok r := by
  unfold ofText
  cases Json.finish (read text.toList) with
  | error fault => exact ⟨nofun, nofun⟩
  | ok r' =>
    constructor
    · intro h
      exact congrArg Except.ok (Except.ok.inj (show (.ok r' : Checked Request) = .ok r from h))
    · rintro ⟨⟩
      rfl

/-- A request without fractions that is read from a text, in whatever form, is read back from its own
text. Numbers are whole where they are written without fraction and exponent, are in range and no minus
zero. -/
theorem ofText_compact_toJson {text : String} {r : Request} (h : ofText text = .ok r)
    (hwhole : ∀ v ∈ r.categories, v.isWhole = true) :
    ofText r.toJson.compact = .ok r ∧
      ∀ c : Compiler, ofText r.toJson.compact >>= c.compile = ofText text >>= c.compile := by
  obtain ⟨⟨r', rest⟩, hread, hfinish⟩ := bind_eq_ok_iff.mp (ofText_eq_ok_iff.mp h)
  have hsame : r' = r := by
    dsimp only at hfinish
    split at hfinish
    · exact Except.ok.inj hfinish
    · exact nomatch hfinish
  subst hsame
  obtain ⟨members, hobject, hrestores⟩ := exists_members_toJson (readable_of_read hread) hwhole
  have hagain : ofText r'.toJson.compact = .ok r' := by
    rw [ofText_eq_ok_iff, hobject, Json.compact, String.toList_ofList, read_object hrestores]
    rfl
  exact ⟨hagain, fun c => by rw [hagain, h]⟩

/-- A request with a null category, an unknown field, a repeated name, escapes and the numbers at the ends
of the range. -/
def sampleText : String :=
  "\x7b \"sql_extra\":\"a\\u000ab\", \"filtro\":null, \"x\":[1.5], \"in\":\x7b\"llave\":1, " ++
    "\"values\":[-9223372036854775808, 18446744073709551615], \"llave\":\"t.é\"\x7d, " ++
    "\"columnas_extra\":\x7b\"b\":\"1\", \"a\":\"2\", \"b\":\"\\\"\"\x7d \x7d"

theorem ofText_compact_toJson_of_sampleText :
    ∃ r, ofText sampleText = .ok r ∧ (∀ v ∈ r.categories, v.isWhole = true) ∧
      r.toJson.compact = "\x7b\"in\":\x7b\"llave\":\"t.é\"," ++
        "\"values\":[-9223372036854775808,18446744073709551615]\x7d," ++
        "\"sql_extra\":\"a\\nb\",\"columnas_extra\":\x7b\"b\":\"\\\"\",\"a\":\"2\"\x7d\x7d" ∧
      ofText r.toJson.compact = .ok r := by
  have hrun : (match ofText sampleText with
      | .ok r => r.categories.all Json.isWhole && r.toJson.compact ==
          "\x7b\"in\":\x7b\"llave\":\"t.é\"," ++
            "\"values\":[-9223372036854775808,18446744073709551615]\x7d," ++
            "\"sql_extra\":\"a\\nb\",\"columnas_extra\":\x7b\"b\":\"\\\"\",\"a\":\"2\"\x7d\x7d"
      | .error _ => false) = true := by
    decide +kernel
  cases hread : ofText sampleText with
  | error failure =>
    rw [hread] at hrun
    exact nomatch hrun
  | ok r =>
    rw [hread] at hrun
    simp only [Bool.and_eq_true, List.all_eq_true, beq_iff_eq] at hrun
    exact ⟨r, rfl, hrun.1, hrun.2, (ofText_compact_toJson hread hrun.1).1⟩

end FilterClause.Request
