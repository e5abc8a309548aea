import FilterClause.Json.Reader

/-!
What TOML texts are made of below its values: white space and comments, strings of the four kinds,
and keys. A reader takes the characters that are left and gives what it read and the rest, if it can.
-/
namespace FilterClause.Toml

/-- What was read, and the characters after it. -/
abbrev Cut (α : Type) := α × List Char

/-! ### White space and comments -/

def isBlank (c : Char) : Bool :=
  c == ' ' || c == '\t'

/-- Holds of the characters that stand for themselves: all but the control characters, and the tab. -/
def isShown (c : Char) : Bool :=
  c == '\t' || (0x20 ≤ c.toNat && c != '\x7f')

def skipBlank (cs : List Char) : List Char :=
  cs.dropWhile isBlank

/-- Reads the end of a line. A carriage return needs a line feed. -/
def newline? : List Char → Option (List Char)
  | '\n' :: rest => some rest
  | '\r' :: '\n' :: rest => some rest
  | _ => none

/-- Passes over a comment, if there is one here. -/
def skipComment : List Char → List Char
  | '#' :: rest => rest.dropWhile isShown
  | cs => cs

/-- Reads what may stand after the last thing on a line, and the end of the line or of the text. -/
def lineEnd? (cs : List Char) : Option (List Char) :=
  match skipComment (skipBlank cs) with
  | [] => some []
  | rest => newline? rest

/-- Passes over white space, ends of lines and comments. The flag tells whether a comment goes on. -/
def skipLines (comment : Bool) : List Char → List Char
  | [] => []
  | '\n' :: rest => skipLines false rest
  | '\r' :: '\n' :: rest => skipLines false rest
  | c :: rest =>
    if comment then if isShown c then skipLines true rest else c :: rest
    else if isBlank c then skipLines false rest
    else if c = '#' then skipLines true rest
    else c :: rest

/-- Reads exactly the given characters. -/
def expect? : List Char → List Char → Option (List Char)
  | [], cs => some cs
  | _ :: _, [] => none
  | w :: ws, c :: cs => if c = w then expect? ws cs else none

/-! ### Strings -/

/-- The character that a backslash and this one stand for. -/
def namedEscape : Char → Option Char
  | '"' => some '"'
  | '\\' => some '\\'
  | 'b' => some '\x08'
  | 'f' => some '\x0c'
  | 'n' => some '\n'
  | 'r' => some '\r'
  | 't' => some '\t'
  | _ => none

/-- The character with a number in hexadecimal digits. Surrogates are no characters. -/
def coded (digits : List Char) : Option Char := do
  let n ← digits.foldlM (fun n c => do return 16 * n + (← Json.hexValue c)) 0
  if n.isValidChar then some (Char.ofNat n) else none

/-- Puts characters before the string read from the rest. -/
def prepend (cs : List Char) (read : Option (Cut (List Char))) : Option (Cut (List Char)) :=
  read.map fun (more, rest) => (cs ++ more, rest)

/-- Where the characters of a string stand. -/
inductive Place
  /-- On the one line of the string. -/
  | line
  /-- On one of its lines. -/
  | lines
  /-- On one of its lines, where white space does not count. -/
  | gap
deriving DecidableEq

/-- The place after a character that counts. -/
def Place.next : Place → Place
  | line => line
  | _ => lines

/-- Reads the characters of a string between double quotes, the opening ones already read. A string
of several lines ends with three quotes, before which two more may stand, and a backslash at the end
of a line takes all white space after it away. -/
def quoted (place : Place) : List Char → Option (Cut (List Char))
  | [] => none
  | '\n' :: rest =>
    match place with
    | .line => none
    | .lines => prepend ['\n'] (quoted .lines rest)
    | .gap => quoted .gap rest
  | '\r' :: '\n' :: rest =>
    match place with
    | .line => none
    | .lines => prepend ['\n'] (quoted .lines rest)
    | .gap => quoted .gap rest
  | '"' :: '"' :: '"' :: rest =>
    if place = .line then some ([], '"' :: '"' :: rest)
    else
      match rest with
      | '"' :: '"' :: rest => some (['"', '"'], rest)
      | '"' :: rest => some (['"'], rest)
      | rest => some ([], rest)
  | '"' :: rest => if place = .line then some ([], rest) else prepend ['"'] (quoted .lines rest)
  | '\\' :: 'u' :: a :: b :: c :: d :: rest =>
    match coded [a, b, c, d] with
    | some e => prepend [e] (quoted place.next rest)
    | none => none
  | '\\' :: 'U' :: a :: b :: c :: d :: e :: f :: g :: h :: rest =>
    match coded [a, b, c, d, e, f, g, h] with
    | some e => prepend [e] (quoted place.next rest)
    | none => none
  | '\\' :: c :: rest =>
    match namedEscape c with
    | some e => prepend [e] (quoted place.next rest)
    | none =>
      if place ≠ .line && (newline? (skipBlank (c :: rest))).isSome then quoted .gap (c :: rest)
      else none
  | c :: rest =>
    if place = .gap && isBlank c then quoted .gap rest
    else if isShown c && c != '\\' then prepend [c] (quoted place.next rest)
    else none

/-- Reads the characters of a string between single quotes, the opening ones already read. Nothing
has a special meaning in it. -/
def verbatim (severalLines : Bool) : List Char → Option (Cut (List Char))
  | [] => none
  | '\n' :: rest => if severalLines then prepend ['\n'] (verbatim true rest) else none
  | '\r' :: '\n' :: rest => if severalLines then prepend ['\n'] (verbatim true rest) else none
  | '\'' :: '\'' :: '\'' :: rest =>
    if severalLines then
      match rest with
      | '\'' :: '\'' :: rest => some (['\'', '\''], rest)
      | '\'' :: rest => some (['\''], rest)
      | rest => some ([], rest)
    else some ([], '\'' :: '\'' :: rest)
  | '\'' :: rest => if severalLines then prepend ['\''] (verbatim true rest) else some ([], rest)
  | c :: rest => if isShown c then prepend [c] (verbatim severalLines rest) else none

/-- The characters of a string of several lines, which may start on the next line. -/
def skipFirstNewline (cs : List Char) : List Char :=
  (newline? cs).getD cs

/-- Reads a string of any kind. -/
def string? (cs : List Char) : Option (Cut String) := do
  let (s, rest) ←
    match cs with
    | '"' :: '"' :: '"' :: rest => quoted .lines (skipFirstNewline rest)
    | '"' :: rest => quoted .line rest
    | '\'' :: '\'' :: '\'' :: rest => verbatim true (skipFirstNewline rest)
    | '\'' :: rest => verbatim false rest
    | _ => none
  return (String.ofList s, rest)

/-! ### Keys -/

def isBare (c : Char) : Bool :=
  c.isAlphanum || c == '-' || c == '_'

/-- Reads one part of a key: bare, or a string on one line. -/
def simpleKey? (cs : List Char) : Option (Cut String) :=
  match cs with
  | '"' :: rest => (quoted .line rest).map fun (s, rest) => (String.ofList s, rest)
  | '\'' :: rest => (verbatim false rest).map fun (s, rest) => (String.ofList s, rest)
  | cs =>
    let bare := cs.takeWhile isBare
    if bare.isEmpty then none else some (String.ofList bare, cs.dropWhile isBare)

/-- Reads a key of at most as many parts as given, with points between them. White space may stand
around each part. -/
def parts? : Nat → List Char → Option (Cut (List String))
  | 0, _ => none
  | most + 1, cs => do
    let (part, rest) ← simpleKey? (skipBlank cs)
    match skipBlank rest with
    | '.' :: rest =>
      let (more, rest) ← parts? most rest
      return (part :: more, rest)
    | rest => return ([part], rest)

/-- How deep anything may be nested, and how many parts a key may have. -/
def depthLimit : Nat := 79

def key? (cs : List Char) : Option (Cut (List String)) :=
  parts? depthLimit cs

end FilterClause.Toml
