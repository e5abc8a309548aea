/-!
Variables in the text of settings. A name in braces after a dollar sign stands for the value of the
variable with that name.
-/
namespace FilterClause.Settings

/-- What is left of a name that the braces have been opened for, read backwards, or nothing outside of
braces. -/
abbrev Opened := Option (List Char)

/-- The names in braces, in order. A name is as long as there is no closing brace, and not empty. -/
def names : Opened → List Char → List (List Char)
  | _, [] => []
  | none, '$' :: '\x7b' :: rest => names (some []) rest
  | none, _ :: rest => names none rest
  | some name, c :: rest =>
    if c = '\x7d' then
      if name.isEmpty then names none rest else name.reverse :: names none rest
    else names (some (c :: name)) rest

/-- How a variable is written in a text. -/
def reference (name : List Char) : List Char :=
  ['$', '\x7b'] ++ name ++ ['\x7d']

/-- The text with a value in place of each occurrence of a mark, after `skip` characters that belong
to the last occurrence. -/
def replaceFrom (mark value : List Char) : Nat → List Char → List Char
  | _, [] => []
  | skip + 1, _ :: rest => replaceFrom mark value skip rest
  | 0, c :: rest =>
    if mark.isPrefixOf (c :: rest) then value ++ replaceFrom mark value (mark.length - 1) rest
    else c :: replaceFrom mark value 0 rest

/-- Puts in the value of one variable. A variable that is not set stays as it is written. -/
def substitute (vars : String → Option String) (cs name : List Char) : List Char :=
  match vars (String.ofList name) with
  | some value => replaceFrom (reference name) value.toList 0 cs
  | none => cs

/-- Puts in the values of all variables that the text names, one after the other. -/
def expand (vars : String → Option String) (text : String) : String :=
  String.ofList ((names none text.toList).foldl (substitute vars) text.toList)

end FilterClause.Settings
