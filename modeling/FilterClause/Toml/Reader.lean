import FilterClause.Toml.Moment
import FilterClause.Toml.Number
import FilterClause.Toml.Table

/-!
Reading a TOML text: its values, its lines, and the table that the lines make together. A text either
can be read as a whole or it cannot.
-/
namespace FilterClause.Toml

/-! ### Values -/

/-- Reads the elements of an array, its opening bracket already read, with the given reader for each;
`fuel` bounds their number. A comma may follow the last one. -/
def elements? (element : List Char → Option (Cut Toml)) :
    Nat → List Char → Option (Cut (List Toml))
  | 0, _ => none
  | fuel + 1, cs =>
    match skipLines false cs with
    | ']' :: rest => some ([], rest)
    | rest => do
      let (item, rest) ← element rest
      match skipLines false rest with
      | ',' :: rest => do
        let (items, rest) ← elements? element fuel rest
        return (item :: items, rest)
      | ']' :: rest => return ([item], rest)
      | _ => none

/-- Reads a key, the sign after it and the value, with the given reader for the value. -/
def assignment? (value : List Char → Option (Cut Toml)) (cs : List Char) :
    Option (Cut Assignment) := do
  let (parts, rest) ← key? cs
  let rest ← expect? ['='] rest
  let (value, rest) ← value (skipBlank rest)
  let key ← parts.getLast?
  return ({ path := parts.dropLast, key, value }, rest)

/-- Reads the assignments of a table in braces after the first one. -/
def moreAssignments? (value : List Char → Option (Cut Toml)) :
    Nat → List Char → Option (Cut (List Assignment))
  | 0, _ => none
  | fuel + 1, cs =>
    match skipBlank cs with
    | '\x7d' :: rest => some ([], rest)
    | ',' :: rest => do
      let (first, rest) ← assignment? value rest
      let (more, rest) ← moreAssignments? value fuel rest
      return (first :: more, rest)
    | _ => none

/-- Reads the assignments of a table in braces, the opening one already read. They stand on one line
and no comma follows the last one. -/
def assignments? (value : List Char → Option (Cut Toml)) (cs : List Char) :
    Option (Cut (List Assignment)) :=
  match skipBlank cs with
  | '\x7d' :: rest => some ([], rest)
  | rest => do
    let (first, rest) ← assignment? value rest
    let (more, rest) ← moreAssignments? value (rest.length + 1) rest
    return (first :: more, rest)

/-- Reads a value that holds no more than `depth` arrays and tables inside each other. -/
def value? (depth : Nat) (cs : List Char) : Option (Cut Toml) :=
  match cs with
  | [] => none
  | '"' :: _ => (string? cs).map fun (s, rest) => (.text s, rest)
  | '\'' :: _ => (string? cs).map fun (s, rest) => (.text s, rest)
  | 't' :: rest => (expect? ['r', 'u', 'e'] rest).map fun rest => (.boolean true, rest)
  | 'f' :: rest => (expect? ['a', 'l', 's', 'e'] rest).map fun rest => (.boolean false, rest)
  | '[' :: rest =>
    match depth with
    | 0 => none
    | depth + 1 => do
      let (items, rest) ← elements? (value? depth) (rest.length + 1) rest
      return (.array items, rest)
  | '\x7b' :: rest =>
    match depth with
    | 0 => none
    | depth + 1 => do
      let (assignments, rest) ← assignments? (value? depth) rest
      return (.table .inline (← insertAll [] assignments), rest)
  | cs =>
    match moment? cs with
    | some (shown, rest) => some (.moment shown, rest)
    | none => number? cs

/-! ### Lines -/

/-- What a line says, if it says anything. -/
inductive Line
  | header (h : Header)
  | assignment (a : Assignment)

/-- Reads the key of a header and the brackets that close it. -/
def headerKey? (closing : List Char) (cs : List Char) : Option (Cut (List String × String)) := do
  let (parts, rest) ← key? cs
  let rest ← expect? closing rest
  let key ← parts.getLast?
  return ((parts.dropLast, key), rest)

/-- Reads one line with what ends it. -/
def line? (cs : List Char) : Option (Cut (Option Line)) := do
  let (line, rest) ←
    match skipBlank cs with
    | [] => some (none, [])
    | '#' :: rest => some (none, '#' :: rest)
    | '\n' :: rest => some (none, '\n' :: rest)
    | '\r' :: rest => some (none, '\r' :: rest)
    | '[' :: '[' :: rest =>
      (headerKey? [']', ']'] rest).map fun ((path, key), rest) => (some (.header (.row path key)), rest)
    | '[' :: rest =>
      (headerKey? [']'] rest).map fun ((path, key), rest) => (some (.header (.table path key)), rest)
    | rest =>
      (assignment? (value? depthLimit) rest).map fun (a, rest) => (some (.assignment a), rest)
  return (line, ← lineEnd? rest)

/-- Reads all lines; `fuel` bounds their number. -/
def lines? : Nat → List Char → Option (List Line)
  | _, [] => some []
  | 0, _ => none
  | fuel + 1, cs => do
    let (line, rest) ← line? cs
    let lines ← lines? fuel rest
    return line.toList ++ lines

/-! ### Documents -/

/-- The assignments before the first header, and after each header. -/
def sections : List Line → List Assignment × List (Header × List Assignment)
  | [] => ([], [])
  | .assignment a :: lines =>
    let (first, more) := sections lines
    (a :: first, more)
  | .header h :: lines =>
    let (first, more) := sections lines
    ([], (h, first) :: more)

/-- The table that the lines of a text make together. -/
def assemble (lines : List Line) : Option Fields := do
  let (first, more) := sections lines
  more.foldlM (fun root (header, assignments) => addSection root header assignments)
    (← insertAll [] first)

/-- The characters of a text without the mark that it may start with. -/
def withoutMark : List Char → List Char
  | '\ufeff' :: rest => rest
  | cs => cs

/-- Reads a whole text as one table. -/
def read? (text : String) : Option Fields := do
  let cs := withoutMark text.toList
  assemble (← lines? (cs.length + 1) cs)

end FilterClause.Toml
