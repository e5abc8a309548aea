import FilterClause.Proofs.Writing

/-!
Reading conditions as a database does: outside of literals character by character, and each quoted
literal as a whole, with the text that its escapes stand for. An outline without quotes of its own is
read, once it is filled with literals, as its characters and the texts of its values.
-/
namespace FilterClause

inductive Token
  | char (c : Char)
  | literal (content : String)
deriving DecidableEq, Repr

namespace Scanner

inductive State
  | outside
  /-- In a literal, with what has been read of it. -/
  | inside (content : List Char)
  /-- Behind a backslash in a literal. -/
  | escaped (content : List Char)
deriving DecidableEq, Repr

/-- Reads on from a state. There are no tokens when the text ends within a literal. -/
def readFrom : State → List Char → Option (List Token)
  | .outside, [] => some []
  | .outside, c :: cs =>
    if c = '\'' then readFrom (.inside []) cs else (readFrom .outside cs).map (.char c :: ·)
  | .inside _, [] => none
  | .inside content, c :: cs =>
    if c = '\'' then (readFrom .outside cs).map (.literal (String.ofList content) :: ·)
    else if c = '\\' then readFrom (.escaped content) cs
    else readFrom (.inside (content ++ [c])) cs
  | .escaped _, [] => none
  | .escaped content, c :: cs => readFrom (.inside (content ++ [Literal.unescapeChar c])) cs

/-- The tokens of a text, which has to end outside of any literal. -/
def tokens (sql : String) : Option (List Token) :=
  readFrom .outside sql.toList

/-- The texts of the literals, in order. -/
def literals (ts : List Token) : List String :=
  ts.filterMap fun
    | .char _ => none
    | .literal content => some content

/-- What stands outside of the literals, with a gap where each of them is. -/
def outside (ts : List Token) : List (Option Char) :=
  ts.map fun
    | .char c => some c
    | .literal _ => none

/-! ### Literals -/

/-- An escaped character is read as the character itself. -/
theorem read_escapeChar (content : List Char) (c : Char) (rest : List Char) :
    readFrom (.inside content) (Literal.escapeChar c ++ rest) = readFrom (.inside (content ++ [c])) rest := by
  rcases Literal.escapeChar_cases c with ⟨hplain, hquote, _, hslash, _⟩ | ⟨d, hescaped, rfl, _⟩
  · rw [hplain, List.singleton_append, readFrom, if_neg hquote, if_neg hslash]
  · rw [hescaped]
    rfl

theorem read_escapeChars (content cs rest : List Char) :
    readFrom (.inside content) (Literal.escapeChars cs ++ rest) =
      readFrom (.inside (content ++ cs)) rest := by
  induction cs generalizing content with
  | nil => simp
  | cons c cs ih =>
    rw [Literal.escapeChars_cons, List.append_assoc, read_escapeChar, ih, List.append_assoc,
      List.singleton_append]

/-- The literal of a text is read as one token that holds the text, whatever follows it. -/
theorem read_ofText (s : String) (rest : List Char) :
    readFrom .outside ((Literal.ofText s).toList ++ rest) =
      (readFrom .outside rest).map (.literal s :: ·) := by
  have htext : (Literal.ofText s).toList ++ rest =
      '\'' :: (Literal.escapeChars s.toList ++ '\'' :: rest) := by
    simp [Literal.ofText, Literal.quote, Literal.escape]
  have hclose : readFrom (.inside s.toList) ('\'' :: rest) =
      (readFrom .outside rest).map (.literal s :: ·) := by
    rw [readFrom, if_pos rfl, String.ofList_toList]
  rw [htext, readFrom, if_pos rfl, read_escapeChars, List.nil_append, hclose]

end Scanner

/-! ### Outlines -/

namespace Outline

open Scanner

/-- The tokens of an outline that is filled with literals. -/
def tokens (o : Outline) : List Token :=
  o.map fun
    | .char c => .char c
    | .hole v => .literal v.asText

/-- Holds of outlines that open no literal of their own. -/
def QuoteFree (o : Outline) : Prop :=
  .char '\'' ∉ o

theorem read_fill {o : Outline} (h : o.QuoteFree) (dialect : Dialect) (index : Nat) :
    readFrom .outside (o.fill (Mode.literal.filling dialect) index) = some o.tokens := by
  induction o generalizing index with
  | nil => rfl
  | cons mark o ih =>
    have hrest : QuoteFree o := fun hmem => h (List.mem_cons_of_mem _ hmem)
    cases mark with
    | char c =>
      have hc : c ≠ '\'' := by
        rintro rfl
        exact h List.mem_cons_self
      rw [fill, readFrom, if_neg hc, ih hrest]
      rfl
    | hole v =>
      rw [fill, Mode.filling, read_ofText]
      have hmore := ih hrest (index + 1)
      rw [Mode.filling] at hmore
      rw [hmore]
      rfl

theorem tokens_text {o : Outline} (h : o.QuoteFree) (dialect : Dialect) (index : Nat) :
    Scanner.tokens (o.text (Mode.literal.filling dialect) index) = some o.tokens := by
  rw [Scanner.tokens, Outline.text, String.toList_ofList]
  exact read_fill h dialect index

/-- The literals of an outline are the texts of its values. -/
theorem literals_tokens (o : Outline) : literals o.tokens = o.holes.map Scalar.asText := by
  induction o with
  | nil => rfl
  | cons mark o ih =>
    cases mark with
    | char c => exact ih
    | hole v => exact congrArg (v.asText :: ·) ih

end Outline

end FilterClause
