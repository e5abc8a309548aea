import FilterClause.Proofs.JsonReading
import FilterClause.Proofs.WrittenNumbers

/-!
Values are read back from their compact text. Behind each part of an array or object stands what ends
it, a comma or a closing mark, so its reader stops where it was written to.
-/
namespace FilterClause.Json

mutual

/-- Whether all numbers in a value are whole. -/
def isWhole : Json → Bool
  | null => true
  | boolean _ => true
  | number (.integer _) => true
  | number (.float _) => false
  | text _ => true
  | array items => areWhole items
  | object members => haveWhole members

def areWhole : List Json → Bool
  | [] => true
  | item :: items => item.isWhole && areWhole items

def haveWhole : List (String × Json) → Bool
  | [] => true
  | (_, value) :: members => value.isWhole && haveWhole members

end

theorem isWhole_of_mem_array {items : List Json} (h : (array items).isWhole = true) :
    ∀ item ∈ items, item.isWhole = true := by
  rw [isWhole] at h
  induction items with
  | nil => simp
  | cons item items ih =>
    rw [areWhole, Bool.and_eq_true] at h
    exact List.forall_mem_cons.mpr ⟨h.1, ih h.2⟩

theorem isWhole_of_mem_object {members : List (String × Json)} (h : (object members).isWhole = true) :
    ∀ member ∈ members, member.2.isWhole = true := by
  rw [isWhole] at h
  induction members with
  | nil => simp
  | cons member members ih =>
    rw [haveWhole, Bool.and_eq_true] at h
    exact List.forall_mem_cons.mpr ⟨h.1, ih h.2⟩

/-! ### Scalars -/

theorem skipSpace_cons {c : Char} (h : isSpace c = false) (cs : List Char) :
    skipSpace (c :: cs) = c :: cs := by
  rw [skipSpace, List.dropWhile_cons, h]
  rfl

theorem chars_text_append (s : String) (rest : List Char) :
    chars (.text s) ++ rest = '"' :: (s.toList.flatMap escapeChar ++ '"' :: rest) := by
  simp [chars, stringChars]

theorem value_quote (depth : Nat) (cs : List Char) :
    value depth ('"' :: cs) = (do
      let (s, rest) ← string? cs
      .ok (.text s, rest)) := by
  unfold value
  rfl

theorem value_minus (depth : Nat) (cs : List Char) :
    value depth ('-' :: cs) = (do
      let (n, rest) ← number? true cs
      .ok (.number n, rest)) := by
  unfold value
  rfl

theorem value_bracket (depth : Nat) (cs : List Char) :
    value (depth + 1) ('[' :: cs) = (do
      let (items, rest) ← elements (readItem depth) [] cs
      .ok (.array items, rest)) := by
  rfl

theorem value_brace (depth : Nat) (cs : List Char) :
    value (depth + 1) ('\x7b' :: cs) = (do
      let (entries, rest) ← members (readEntry (value depth)) [] cs
      .ok (.object entries, rest)) := by
  rfl

theorem isSpace_of_isDigit {c : Char} (h : c.isDigit = true) : isSpace c = false := by
  rw [Bool.eq_false_iff]
  intro hspace
  simp only [isSpace, Bool.or_eq_true, beq_iff_eq] at hspace
  rcases hspace with ((rfl | rfl) | rfl) | rfl <;> exact absurd h (by decide)

theorem value_of_isDigit (depth : Nat) {c : Char} (h : c.isDigit = true) (cs : List Char) :
    value depth (c :: cs) = (do
      let (n, rest) ← number? false (c :: cs)
      .ok (.number n, rest)) := by
  unfold value
  rw [skipSpace_cons (isSpace_of_isDigit h)]
  split
  case h_1 hcs => exact nomatch hcs
  case h_9 hcs =>
    cases hcs
    rw [if_pos h]
  all_goals
    rename_i hcs
    cases hcs
    exact absurd h (by decide)

theorem value_integer (depth : Nat) {i : Int} (h : (Number.integer i).InRange) {rest : List Char}
    (hrest : Ends rest) :
    value depth ((toString i).toList ++ rest) = .ok (.number (.integer i), rest) := by
  rw [Decimal.toList_toString]
  obtain ⟨hlow, hhigh⟩ := h
  split
  · rename_i hsign
    have hrange : if false then 0 < i.toNat ∧ i.toNat ≤ Nat.pow 2 63 else i.toNat < Nat.pow 2 64 := by
      simp only [Bool.false_eq_true, if_false]
      omega
    have hnumber := number?_toDigits hrange hrest
    obtain ⟨c, more, hcons, hdigit⟩ := exists_toDigits_cons i.toNat
    rw [hcons, List.cons_append] at hnumber ⊢
    rw [value_of_isDigit depth hdigit, hnumber]
    have hsame : (i.toNat : Int) = i := Int.toNat_of_nonneg hsign
    simp only [Bool.false_eq_true, if_false, hsame]
    rfl
  · rename_i hsign
    have hrange : if true then 0 < (-i).toNat ∧ (-i).toNat ≤ Nat.pow 2 63 else (-i).toNat < Nat.pow 2 64 := by
      simp only [if_true]
      omega
    have hnumber := number?_toDigits hrange hrest
    have hsame : (-((-i).toNat : Int)) = i := by omega
    rw [List.cons_append, value_minus, hnumber]
    simp only [if_true, hsame]
    rfl

/-- A written value starts with a mark of its own, never with white space or the end of an array. -/
theorem chars_start {v : Json} (h : v.isWhole = true) :
    ∃ c more, chars v = c :: more ∧ isSpace c = false ∧ c ≠ ']' := by
  cases v with
  | null => exact ⟨'n', _, rfl, rfl, by decide⟩
  | boolean b =>
    cases b
    · exact ⟨'f', _, rfl, rfl, by decide⟩
    · exact ⟨'t', _, rfl, rfl, by decide⟩
  | number n =>
    cases n with
    | float x => simp [isWhole] at h
    | integer i =>
      rw [chars, Number.text, Decimal.toList_toString]
      split
      · obtain ⟨c, more, hcons, hdigit⟩ := exists_toDigits_cons i.toNat
        refine ⟨c, more, hcons, isSpace_of_isDigit hdigit, ?_⟩
        rintro rfl
        exact absurd hdigit (by decide)
      · exact ⟨'-', _, rfl, rfl, by decide⟩
  | text s => exact ⟨'"', _, rfl, rfl, by decide⟩
  | array items => exact ⟨'[', _, rfl, rfl, by decide⟩
  | object members => exact ⟨'\x7b', _, rfl, rfl, by decide⟩

/-! ### Arrays -/

theorem following_comma {c : Char} (hspace : isSpace c = false) (hclose : c ≠ ']') (cs : List Char) :
    following (',' :: c :: cs) = .ok (.element (c :: cs)) := by
  have hcomma : skipSpace (',' :: c :: cs) = ',' :: c :: cs := rfl
  simp only [following, hcomma, skipSpace_cons hspace]
  split
  · exact nomatch ‹c :: cs = []›
  · exact absurd (List.cons.inj ‹c :: cs = ']' :: _›).1 hclose
  · rfl

theorem elements_cons {σ : Type} (element : σ → List Char → Except Fault (Cut σ)) (state : σ) {c : Char}
    (hspace : isSpace c = false) (hclose : c ≠ ']') (cs : List Char) :
    elements element state (c :: cs) = (do
      let (state, rest) ← element state (c :: cs)
      moreElements element state (rest.length + 1) rest) := by
  rw [elements, skipSpace_cons hspace]
  split
  · exact nomatch ‹c :: cs = []›
  · exact absurd (List.cons.inj ‹c :: cs = ']' :: _›).1 hclose
  · rfl

/-- What is written behind an element of an array. -/
def itemTail (items : List Json) : List Char :=
  if items.isEmpty then [']'] else ',' :: itemChars items

theorem itemChars_cons (item : Json) (items : List Json) :
    itemChars (item :: items) = chars item ++ itemTail items := by
  cases items with
  | nil => rfl
  | cons next items => simp [itemChars, itemTail]

theorem ends_itemTail (items : List Json) (rest : List Char) : Ends (itemTail items ++ rest) := by
  cases items with
  | nil => exact ends_cons (.inr (.inl rfl)) _
  | cons item items => exact ends_cons (.inl rfl) _

theorem length_lt_itemTail (items : List Json) : items.length < (itemTail items).length := by
  induction items with
  | nil => exact Nat.zero_lt_one
  | cons item items ih =>
    have htail : itemTail (item :: items) = ',' :: (chars item ++ itemTail items) := by
      rw [← itemChars_cons]
      rfl
    rw [htail]
    simp only [List.length_cons, List.length_append]
    omega

section Items

variable {depth : Nat} {items : List Json}

theorem readItem_chars {item : Json} {rest : List Char}
    (h : value depth (chars item ++ rest) = .ok (item, rest)) (done : List Json) :
    readItem depth done (chars item ++ rest) = .ok (done ++ [item], rest) := by
  rw [readItem, h]
  rfl

theorem moreElements_itemTail (hwhole : ∀ item ∈ items, item.isWhole = true)
    (h : ∀ item ∈ items, ∀ {rest}, Ends rest →
      value depth (chars item ++ rest) = .ok (item, rest))
    {fuel : Nat} (hfuel : items.length < fuel) (done : List Json) (rest : List Char) :
    moreElements (readItem depth) done fuel (itemTail items ++ rest) = .ok (done ++ items, rest) := by
  induction items generalizing fuel done with
  | nil =>
    obtain ⟨fuel, rfl⟩ := Nat.exists_eq_succ_of_ne_zero (Nat.ne_of_gt hfuel)
    rw [List.append_nil]
    rfl
  | cons item items ih =>
    obtain ⟨fuel, rfl⟩ := Nat.exists_eq_succ_of_ne_zero (Nat.ne_of_gt (Nat.zero_lt_of_lt hfuel))
    obtain ⟨c, more, hstart, hspace, hclose⟩ := chars_start (hwhole item List.mem_cons_self)
    have hnext : following (itemTail (item :: items) ++ rest) =
        .ok (.element (chars item ++ (itemTail items ++ rest))) := by
      have htail : itemTail (item :: items) ++ rest =
          ',' :: (chars item ++ (itemTail items ++ rest)) := by
        rw [← List.append_assoc, ← itemChars_cons]
        rfl
      rw [htail, hstart, List.cons_append, following_comma hspace hclose]
    rw [moreElements, hnext]
    have hitem := h item List.mem_cons_self (ends_itemTail items rest)
    have hmore := ih (fun other hother => hwhole other (List.mem_cons_of_mem _ hother))
      (fun other hother => h other (List.mem_cons_of_mem _ hother))
      (Nat.lt_of_succ_lt_succ hfuel) (done ++ [item])
    rw [List.append_assoc, List.singleton_append] at hmore
    exact bind_eq_ok_iff.mpr ⟨_, rfl, bind_eq_ok_iff.mpr ⟨_, readItem_chars hitem done, hmore⟩⟩

theorem elements_itemChars (hwhole : ∀ item ∈ items, item.isWhole = true)
    (h : ∀ item ∈ items, ∀ {rest}, Ends rest →
      value depth (chars item ++ rest) = .ok (item, rest)) (rest : List Char) :
    elements (readItem depth) [] (itemChars items ++ rest) = .ok (items, rest) := by
  cases items with
  | nil => rfl
  | cons item items =>
    obtain ⟨c, more, hstart, hspace, hclose⟩ := chars_start (hwhole item List.mem_cons_self)
    have hitem := h item List.mem_cons_self (ends_itemTail items rest)
    have hfuel : items.length < (itemTail items ++ rest).length + 1 := by
      have hlength := length_lt_itemTail items
      rw [List.length_append]
      omega
    have hmore := moreElements_itemTail (fun other hother => hwhole other (List.mem_cons_of_mem _ hother))
      (fun other hother => h other (List.mem_cons_of_mem _ hother)) hfuel [item] rest
    have hread : (do
        let (done, after) ← readItem depth [] (chars item ++ (itemTail items ++ rest))
        moreElements (readItem depth) done (after.length + 1) after) = .ok (item :: items, rest) :=
      bind_eq_ok_iff.mpr ⟨([item], itemTail items ++ rest), readItem_chars hitem [], hmore⟩
    rw [itemChars_cons, List.append_assoc]
    rw [hstart, List.cons_append] at hread ⊢
    rw [elements_cons _ _ hspace hclose]
    exact hread

end Items

/-! ### Objects -/

/-- What is written behind a member of an object. -/
def memberTail (members : List (String × Json)) : List Char :=
  if members.isEmpty then ['\x7d'] else ',' :: memberChars members

/-- What is written behind the quote that a member starts with. -/
def memberRest (name : String) (value : Json) (members : List (String × Json)) : List Char :=
  name.toList.flatMap escapeChar ++ '"' :: ':' :: (chars value ++ memberTail members)

theorem memberChars_cons (name : String) (value : Json) (members : List (String × Json)) :
    memberChars ((name, value) :: members) = '"' :: memberRest name value members := by
  cases members with
  | nil => simp [memberChars, memberRest, memberTail, stringChars]
  | cons next members =>
    obtain ⟨other, next⟩ := next
    simp [memberChars, memberRest, memberTail, stringChars]

theorem memberTail_cons (name : String) (value : Json) (members : List (String × Json)) :
    memberTail ((name, value) :: members) = ',' :: '"' :: memberRest name value members := by
  rw [← memberChars_cons]
  rfl

theorem ends_memberTail (members : List (String × Json)) (rest : List Char) :
    Ends (memberTail members ++ rest) := by
  cases members with
  | nil => exact ends_cons (.inr (.inr rfl)) _
  | cons member members => exact ends_cons (.inl rfl) _

theorem length_lt_memberTail (members : List (String × Json)) :
    members.length < (memberTail members).length := by
  induction members with
  | nil => exact Nat.zero_lt_one
  | cons member members ih =>
    obtain ⟨name, value⟩ := member
    rw [memberTail_cons, memberRest]
    simp only [List.length_cons, List.length_append]
    omega

/-- A reader of members goes through written members one after the other, each time from the state that
it is in by then. -/
inductive Reads {σ : Type} (member : σ → String → List Char → Except Fault (Cut σ)) :
    σ → List (String × Json) → σ → Prop
  | nil (state : σ) : Reads member state [] state
  | cons {state next last : σ} {name : String} {value : Json} {members : List (String × Json)}
      (h : ∀ {rest}, Ends rest → member state name (':' :: (chars value ++ rest)) = .ok (next, rest))
      (hmore : Reads member next members last) : Reads member state ((name, value) :: members) last

section Members

variable {σ : Type} {member : σ → String → List Char → Except Fault (Cut σ)} {state last : σ}
  {members : List (String × Json)}

theorem Reads.append {middle : σ} {more : List (String × Json)} (h : Reads member state members middle)
    (hmore : Reads member middle more last) : Reads member state (members ++ more) last := by
  induction h with
  | nil _ => exact hmore
  | cons hfirst _ ih => exact .cons hfirst (ih hmore)

theorem string?_memberRest (name : String) (value : Json) (members : List (String × Json))
    (rest : List Char) : string? (memberRest name value members ++ rest) =
      .ok (name, ':' :: (chars value ++ (memberTail members ++ rest))) := by
  have hquote := string?_stringChars name (':' :: (chars value ++ (memberTail members ++ rest)))
  simpa [memberRest] using hquote

theorem Reads.moreMembers_memberTail (h : Reads member state members last) {fuel : Nat}
    (hfuel : members.length < fuel) (rest : List Char) :
    moreMembers member state fuel (memberTail members ++ rest) = .ok (last, rest) := by
  induction h generalizing fuel with
  | nil state =>
    obtain ⟨fuel, rfl⟩ := Nat.exists_eq_succ_of_ne_zero (Nat.ne_of_gt hfuel)
    rfl
  | @cons state next last name value members hfirst hmore ih =>
    obtain ⟨fuel, rfl⟩ := Nat.exists_eq_succ_of_ne_zero (Nat.ne_of_gt (Nat.zero_lt_of_lt hfuel))
    have hmember := hfirst (ends_memberTail members rest)
    have hmembers := ih (Nat.lt_of_succ_lt_succ hfuel)
    have hread : (do
        let (name, after) ← string? (memberRest name value members ++ rest)
        let (state, after) ← member state name after
        Json.moreMembers member state fuel after) = .ok (last, rest) :=
      bind_eq_ok_iff.mpr ⟨_, string?_memberRest name value members rest,
        bind_eq_ok_iff.mpr ⟨_, hmember, hmembers⟩⟩
    rw [memberTail_cons]
    exact hread

theorem Reads.members_memberChars (h : Reads member state members last) (rest : List Char) :
    Json.members member state (memberChars members ++ rest) = .ok (last, rest) := by
  cases h with
  | nil _ => rfl
  | @cons _ next _ name value members hfirst hmore =>
    have hmember := hfirst (ends_memberTail members rest)
    have hfuel : members.length < (memberTail members ++ rest).length + 1 := by
      have hlength := length_lt_memberTail members
      rw [List.length_append]
      omega
    have hread : (do
        let (name, after) ← string? (memberRest name value members ++ rest)
        let (state, after) ← member state name after
        moreMembers member state (after.length + 1) after) = .ok (last, rest) :=
      bind_eq_ok_iff.mpr ⟨_, string?_memberRest name value members rest,
        bind_eq_ok_iff.mpr ⟨_, hmember, hmore.moreMembers_memberTail hfuel rest⟩⟩
    rw [memberChars_cons]
    exact hread

end Members

/-- Entries with new names are read one after the other, each to the end. -/
theorem reads_readEntry {α : Type} {item : List Char → Except Fault (Cut α)} {write : α → Json}
    {entries done : Entries α} (hnames : (Entries.names (done ++ entries)).Nodup)
    (h : ∀ entry ∈ entries, ∀ {rest}, Ends rest →
      item (chars (write entry.2) ++ rest) = .ok (entry.2, rest)) :
    Reads (readEntry item) done (entries.map fun entry => (entry.1, write entry.2))
      (done ++ entries) := by
  induction entries generalizing done with
  | nil =>
    rw [List.append_nil]
    exact .nil done
  | cons entry entries ih =>
    obtain ⟨name, value⟩ := entry
    have hnew : name ∉ Entries.names done := by
      intro hmem
      rw [Entries.names, List.map_append, List.nodup_append] at hnames
      exact hnames.2.2 name hmem name List.mem_cons_self rfl
    have hsplit : done ++ (name, value) :: entries = done ++ [(name, value)] ++ entries := by simp
    rw [hsplit] at hnames ⊢
    have hmore := ih hnames fun other hother => h other (List.mem_cons_of_mem _ hother)
    refine .cons (fun hrest => ?_) hmore
    rw [← Entries.put_of_notMem value hnew]
    exact bind_eq_ok_iff.mpr ⟨_, rfl, bind_eq_ok_iff.mpr ⟨_, h _ List.mem_cons_self hrest, rfl⟩⟩

/-! ### Values -/

/-- A value that the reader can give is read back from its text, whatever ends it. -/
theorem value_chars {depth : Nat} {v : Json} (hfits : Fits depth v) (hwhole : v.isWhole = true)
    {rest : List Char} (hrest : Ends rest) : value depth (chars v ++ rest) = .ok (v, rest) := by
  induction hfits generalizing rest with
  | null depth =>
    unfold value
    rfl
  | boolean depth b =>
    cases b <;> (unfold value; rfl)
  | number depth hrange =>
    rename_i n
    cases n with
    | integer i => exact value_integer depth hrange hrest
    | float x => simp [isWhole] at hwhole
  | text depth s =>
    rw [chars_text_append, value_quote, string?_stringChars]
    rfl
  | @array depth items hitems ih =>
    have hwholes := isWhole_of_mem_array hwhole
    have hread := elements_itemChars hwholes
      (fun item hitem _ hend => ih item hitem (hwholes item hitem) hend) rest
    rw [chars, List.cons_append, value_bracket, hread]
    rfl
  | @object depth members hnames hmembers ih =>
    have hwholes := isWhole_of_mem_object hwhole
    have hreads : Reads (readEntry (value depth)) [] (members.map fun member => (member.1, id member.2))
        members := reads_readEntry hnames
      fun member hmember _ hend => ih member hmember (hwholes member hmember) hend
    have hsame : (members.map fun member => (member.1, id member.2)) = members := List.map_id' members
    rw [hsame] at hreads
    rw [chars, List.cons_append, value_brace, hreads.members_memberChars rest]
    rfl

end FilterClause.Json
