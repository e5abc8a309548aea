import FilterClause.Json.Value

/-!
The text of a JSON value: compact, without any blank, or laid out with two spaces for each level.
-/
namespace FilterClause.Json

def hexDigit (n : Nat) : Char :=
  Nat.digitChar n

/-- How one character stands in a string. Control characters are written by name or number. -/
def escapeChar (c : Char) : List Char :=
  match c with
  | '"' => ['\\', '"']
  | '\\' => ['\\', '\\']
  | '\x08' => ['\\', 'b']
  | '\x0c' => ['\\', 'f']
  | '\n' => ['\\', 'n']
  | '\r' => ['\\', 'r']
  | '\t' => ['\\', 't']
  | c =>
    if c.toNat < 0x20 then ['\\', 'u', '0', '0', hexDigit (c.toNat / 16), hexDigit (c.toNat % 16)]
    else [c]

def stringChars (s : String) : List Char :=
  '"' :: s.toList.flatMap escapeChar ++ ['"']

mutual

def chars : Json → List Char
  | null => "null".toList
  | boolean true => "true".toList
  | boolean false => "false".toList
  | number n => n.text.toList
  | text s => stringChars s
  | array items => '[' :: itemChars items
  | object members => '\x7b' :: memberChars members

/-- The elements of an array with commas between them, and the closing bracket. -/
def itemChars : List Json → List Char
  | [] => [']']
  | [item] => chars item ++ [']']
  | item :: items => chars item ++ ',' :: itemChars items

/-- The members of an object with commas between them, and the closing brace. -/
def memberChars : List (String × Json) → List Char
  | [] => ['\x7d']
  | [(name, value)] => stringChars name ++ ':' :: (chars value ++ ['\x7d'])
  | (name, value) :: members =>
    stringChars name ++ ':' :: (chars value ++ ',' :: memberChars members)

end

/-- The compact text of a value. -/
def compact (value : Json) : String :=
  String.ofList (chars value)

def newline (level : Nat) : List Char :=
  '\n' :: List.replicate (2 * level) ' '

mutual

def prettyChars (level : Nat) : Json → List Char
  | array (item :: items) => '[' :: prettyItems level (item :: items)
  | object (member :: members) => '\x7b' :: prettyMembers level (member :: members)
  | value => chars value

def prettyItems (level : Nat) : List Json → List Char
  | [] => [']']
  | [item] => newline (level + 1) ++ prettyChars (level + 1) item ++ newline level ++ [']']
  | item :: items =>
    newline (level + 1) ++ prettyChars (level + 1) item ++ ',' :: prettyItems level items

def prettyMembers (level : Nat) : List (String × Json) → List Char
  | [] => ['\x7d']
  | [(name, value)] =>
    newline (level + 1) ++ stringChars name ++ ':' :: ' ' ::
      (prettyChars (level + 1) value ++ newline level ++ ['\x7d'])
  | (name, value) :: members =>
    newline (level + 1) ++ stringChars name ++ ':' :: ' ' ::
      (prettyChars (level + 1) value ++ ',' :: prettyMembers level members)

end

/-- The text of a value with every element and member on a line of its own. -/
def pretty (value : Json) : String :=
  String.ofList (prettyChars 0 value)

end FilterClause.Json
