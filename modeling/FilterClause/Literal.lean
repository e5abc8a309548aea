/-!
Text inside a quoted SQL literal. A backslash stands before each quote and backslash and, with the
digit zero, for NUL, so the quote that closes the literal is the first one without a backslash.
-/
namespace FilterClause.Literal

def escapeChar (c : Char) : List Char :=
  match c with
  | '\'' => ['\\', '\'']
  | '"' => ['\\', '"']
  | '\\' => ['\\', '\\']
  | '\x00' => ['\\', '0']
  | c => [c]

def escapeChars (cs : List Char) : List Char :=
  cs.flatMap escapeChar

def escape (s : String) : String :=
  String.ofList (escapeChars s.toList)

/-- Puts quotes around a text that is escaped already. -/
def quote (escaped : String) : String :=
  "'" ++ escaped ++ "'"

def ofText (s : String) : String :=
  quote (escape s)

/-- The character that a backslash and this one stand for. -/
def unescapeChar (c : Char) : Char :=
  if c = '0' then '\x00' else c

/-- Reads a literal after its opening quote: its content, and what follows the closing quote. -/
def scan : List Char → Option (List Char × List Char)
  | [] => none
  | '\'' :: rest => some ([], rest)
  | ['\\'] => none
  | '\\' :: c :: rest => (scan rest).map fun (content, rest) => (unescapeChar c :: content, rest)
  | c :: rest => (scan rest).map fun (content, rest) => (c :: content, rest)

/-- A character is escaped by a backslash in front of what stands for it, or it is written as it is. -/
theorem escapeChar_cases (c : Char) :
    (escapeChar c = [c] ∧ c ≠ '\'' ∧ c ≠ '"' ∧ c ≠ '\\' ∧ c ≠ '\x00') ∨
      ∃ d, escapeChar c = ['\\', d] ∧ unescapeChar d = c ∧ d ≠ '\x00' := by
  unfold escapeChar
  split
  · exact .inr ⟨'\'', rfl, rfl, by decide⟩
  · exact .inr ⟨'"', rfl, rfl, by decide⟩
  · exact .inr ⟨'\\', rfl, rfl, by decide⟩
  · exact .inr ⟨'0', rfl, rfl, by decide⟩
  · rename_i hquote hdouble hslash hnul
    exact .inl ⟨rfl, hquote, hdouble, hslash, hnul⟩

@[simp]
theorem escapeChars_nil : escapeChars [] = [] := rfl

@[simp]
theorem escapeChars_cons (c : Char) (cs : List Char) :
    escapeChars (c :: cs) = escapeChar c ++ escapeChars cs := rfl

theorem escapeChars_append (a b : List Char) :
    escapeChars (a ++ b) = escapeChars a ++ escapeChars b := by
  simp [escapeChars]

end FilterClause.Literal
