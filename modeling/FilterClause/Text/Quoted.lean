import FilterClause.Text.Unprintable

/-!
A text displayed between double quotes, so that every character of it can be told apart in a message.
-/
namespace FilterClause.Text

def hexadecimal (n : Nat) : String :=
  String.ofList (Nat.toDigits 16 n)

/-- How one character is displayed. A single quote needs no mark, since the text stands between
double ones. -/
def displayChar (c : Char) : String :=
  match c with
  | '"' => "\\\""
  | '\\' => "\\\\"
  | '\n' => "\\n"
  | '\r' => "\\r"
  | '\t' => "\\t"
  | '\x00' => "\\0"
  | c =>
    if isUnprintable c then "\\u\x7b" ++ hexadecimal c.toNat ++ "\x7d" else String.singleton c

def quoted (s : String) : String :=
  "\"" ++ String.join (s.toList.map displayChar) ++ "\""

end FilterClause.Text
