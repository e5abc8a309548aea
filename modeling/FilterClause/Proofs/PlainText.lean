import FilterClause.Proofs.RawText

/-!
Raw texts that open no literal and raw texts whose parentheses are balanced. Every outline that is
made of such texts opens no literal of its own, or is balanced, in turn.
-/
namespace FilterClause

open Scanner

/-- Holds of texts without quotes, backslashes and NUL. -/
def Text.Plain (s : String) : Prop :=
  ∀ c ∈ s.toList, c ≠ '\'' ∧ c ≠ '"' ∧ c ≠ '\\' ∧ c ≠ '\x00'

/-- Holds of texts in which no parenthesis is left open or closed too early. -/
def Text.Balanced (s : String) : Prop :=
  Scanner.Balanced (s.toList.map .char)

instance (s : String) : Decidable (Text.Plain s) :=
  inferInstanceAs (Decidable (∀ c ∈ s.toList, _))

instance (s : String) : Decidable (Text.Balanced s) :=
  inferInstanceAs (Decidable (Scanner.Balanced _))

namespace Outline

/-- What trimming an outline takes away is white space. -/
theorem exists_strip (o : Outline) :
    ∃ front back : Outline, o = front ++ (o.strip ++ back) ∧
      (∀ mark ∈ front, isBlankMark mark = true) ∧ ∀ mark ∈ back, isBlankMark mark = true := by
  refine ⟨o.takeWhile isBlankMark, (o.dropWhile isBlankMark).rtakeWhile isBlankMark, ?_, ?_, ?_⟩
  · rw [strip, List.rdropWhile_append_rtakeWhile, List.takeWhile_append_dropWhile]
  · exact fun mark hmark => List.mem_takeWhile_imp hmark
  · exact fun mark hmark => List.mem_rtakeWhile_imp hmark

/-! ### Outlines without quotes -/

theorem quoteFree_ofText {s : String} (h : Text.Plain s) : QuoteFree (ofText s) := by
  intro hmem
  obtain ⟨c, hc, hquote⟩ := List.mem_map.mp hmem
  cases hquote
  exact (h '\'' hc).1 rfl

theorem quote_mem_of_escapeChars {cs : List Char} (h : '\'' ∈ Literal.escapeChars cs) :
    '\'' ∈ cs := by
  obtain ⟨c, hc, hquote⟩ := List.mem_flatMap.mp h
  rcases Literal.escapeChar_cases c with ⟨hplain, _⟩ | ⟨d, hescaped, rfl, _⟩
  · rw [hplain, List.mem_singleton] at hquote
    rwa [hquote]
  · rw [hescaped, List.mem_cons, List.mem_singleton] at hquote
    obtain rfl := hquote.resolve_left (by decide)
    exact hc

theorem law_quoteFree : Law QuoteFree where
  append ha hb hmem := (List.mem_append.mp hmem).elim ha hb
  hole _ hmem := by cases List.mem_singleton.mp hmem
  word s hs hmem := by
    obtain ⟨c, hc, hquote⟩ := List.mem_map.mp hmem
    cases hquote
    exact (hs '\'' hc).1 rfl
  enclose {o} ho hmem := by
    rcases List.mem_append.mp hmem with hfront | hclose
    · rcases List.mem_append.mp hfront with hopen | hinner
      · simp [ofText] at hopen
      · exact ho hinner
    · simp [ofText] at hclose
  strip {o} ho hmem := by
    obtain ⟨front, back, hsplit, _, _⟩ := o.exists_strip
    apply ho
    rw [hsplit]
    simp [hmem]
  escape {s} hs hmem := by
    obtain ⟨c, hc, hquote⟩ := List.mem_map.mp hmem
    cases hquote
    rw [Literal.escape, String.toList_ofList] at hc
    exact hs (List.mem_map_of_mem (quote_mem_of_escapeChars hc))

/-! ### Balanced outlines -/

/-- Holds of outlines whose own parentheses are balanced. -/
def Balanced (o : Outline) : Prop :=
  Scanner.Balanced o.tokens

@[simp]
theorem tokens_append (a b : Outline) : tokens (a ++ b) = tokens a ++ tokens b :=
  List.map_append

theorem tokens_ofText (s : String) : tokens (ofText s) = s.toList.map .char := by
  simp [tokens, ofText]

theorem flat_word {s : String} (hs : ∀ c ∈ s.toList, c ≠ '\'' ∧ c ≠ '(' ∧ c ≠ ')') :
    Flat (tokens (ofText s)) := by
  intro t ht
  rw [tokens_ofText] at ht
  obtain ⟨c, hc, rfl⟩ := List.mem_map.mp ht
  obtain ⟨_, hopen, hclose⟩ := hs c hc
  exact ⟨fun h => hopen (Token.char.inj h), fun h => hclose (Token.char.inj h)⟩

theorem flat_of_blank {o : Outline} (h : ∀ mark ∈ o, isBlankMark mark = true) : Flat o.tokens := by
  intro t ht
  obtain ⟨mark, hmark, rfl⟩ := List.mem_map.mp ht
  have hblank := h mark hmark
  cases mark with
  | hole v => exact nomatch hblank
  | char c =>
    constructor <;> intro hparen <;> cases Token.char.inj hparen <;> exact nomatch hblank

/-- An outline in parentheses is a parenthesized text. -/
theorem parenthesized_enclosed {o : Outline} (h : o.Balanced) :
    Parenthesized (tokens (.ofText "(" ++ o ++ .ofText ")")) := by
  refine ⟨o.tokens, ?_, h⟩
  simp [tokens_ofText]

/-- Escaping a text changes no parenthesis. -/
theorem depthAfter_escapeChars (cs : List Char) (depth : Nat) :
    depthAfter depth ((Literal.escapeChars cs).map .char) = depthAfter depth (cs.map .char) := by
  induction cs generalizing depth with
  | nil => rfl
  | cons c cs ih =>
    have hchar : ∀ depth, depthAfter depth ((Literal.escapeChar c).map .char) =
        Token.after depth (.char c) := by
      intro depth
      unfold Literal.escapeChar
      split <;> simp [depthAfter, Token.after]
    rw [Literal.escapeChars_cons, List.map_append, depthAfter_append, hchar, List.map_cons, depthAfter]
    cases Token.after depth (.char c) with
    | none => rfl
    | some next => exact ih next

theorem law_balanced : Law Balanced where
  append ha hb := by
    rw [Balanced, tokens_append]
    exact Scanner.Balanced.append ha hb
  hole _ := rfl
  word s hs := (flat_word hs).depthAfter_eq 0
  enclose ho := (parenthesized_enclosed ho).balanced
  strip {o} ho := by
    obtain ⟨front, back, hsplit, hfront, hback⟩ := o.exists_strip
    have hwhole : Scanner.Balanced (front.tokens ++ (o.strip.tokens ++ back.tokens)) := by
      rw [← tokens_append, ← tokens_append, ← hsplit]
      exact ho
    exact hwhole.of_flat_ends (flat_of_blank hfront) (flat_of_blank hback)
  escape {s} hs := by
    rw [Balanced, tokens_ofText] at hs ⊢
    rw [Literal.escape, String.toList_ofList, Scanner.Balanced, depthAfter_escapeChars]
    exact hs

theorem balanced_ofText {s : String} (h : Text.Balanced s) : Balanced (ofText s) := by
  rw [Balanced, tokens_ofText]
  exact h

end Outline

end FilterClause
