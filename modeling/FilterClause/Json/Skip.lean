import FilterClause.Json.Reader

/-!
Passing over a value that nobody asks for. Only its form is checked: numbers may have any size,
escapes any number, and arrays and objects may stand inside each other to any depth.
-/
namespace FilterClause.Json

inductive Container
  | array
  | object
deriving DecidableEq, Repr

/-- Where the passing over of a value stands. -/
inductive Stage
  /-- A value comes next. -/
  | value
  /-- A container was opened. -/
  | opened
  /-- A value is behind. -/
  | after

/-- Passes over the digits of an exponent, its mark already read. -/
def skipExponent (cs : List Char) : Except Fault (List Char) :=
  let cs :=
    match cs with
    | '+' :: cs => cs
    | '-' :: cs => cs
    | cs => cs
  if (cs.takeWhile Char.isDigit).isEmpty then .error .malformed else .ok (cs.dropWhile Char.isDigit)

def skipScale : List Char → Except Fault (List Char)
  | 'e' :: cs => skipExponent cs
  | 'E' :: cs => skipExponent cs
  | cs => .ok cs

def skipFraction : List Char → Except Fault (List Char)
  | '.' :: cs =>
    if (cs.takeWhile Char.isDigit).isEmpty then .error .malformed
    else skipScale (cs.dropWhile Char.isDigit)
  | cs => skipScale cs

/-- Passes over a number, its minus sign already read. -/
def skipNumber : List Char → Except Fault (List Char)
  | '0' :: cs => if (cs.takeWhile Char.isDigit).isEmpty then skipFraction cs else .error .malformed
  | cs =>
    if (cs.takeWhile Char.isDigit).isEmpty then .error .malformed
    else skipFraction (cs.dropWhile Char.isDigit)

/-- Passes over a string, its opening quote already read. -/
def skipString : List Char → Except Fault (List Char)
  | [] => .error .cutShort
  | '"' :: rest => .ok rest
  | ['\\'] => .error .cutShort
  | '\\' :: 'u' :: a :: b :: c :: d :: rest =>
    match hexCode a b c d with
    | none => .error (shortEscape (a :: b :: c :: d :: rest))
    | some _ => skipString rest
  | '\\' :: 'u' :: rest => .error (shortEscape rest)
  | '\\' :: c :: rest => if (namedEscape c).isSome then skipString rest else .error .malformed
  | c :: rest => if c.toNat < 0x20 then .error .malformed else skipString rest

/-- Passes over the name of a member and the colon after it. -/
def skipName (cs : List Char) : Except Fault (List Char) :=
  match skipSpace cs with
  | [] => .error .cutShort
  | '"' :: rest => do
    match skipSpace (← skipString rest) with
    | [] => .error .cutShort
    | ':' :: rest => .ok rest
    | _ => .error .malformed
  | _ => .error .malformed

/-- Passes over the name that an element of a container has, if it has one. -/
def skipLabel : Container → List Char → Except Fault (List Char)
  | .array, cs => .ok cs
  | .object, cs => skipName cs

def closes : Container → Char → Bool
  | .array, c => c == ']'
  | .object, c => c == '\x7d'

/-- Passes over what is left of a value inside the given containers, innermost first; `fuel` bounds
the number of stages. -/
def skipStages : Nat → Stage → List Container → List Char → Except Fault (List Char)
  | 0, _, _, _ => .error .malformed
  | _ + 1, .after, [], cs => .ok cs
  | fuel + 1, .after, container :: outer, cs =>
    match skipSpace cs with
    | [] => .error .cutShort
    | c :: rest =>
      if c = ',' then do skipStages fuel .value (container :: outer) (← skipLabel container rest)
      else if closes container c then skipStages fuel .after outer rest
      else .error .malformed
  | fuel + 1, .opened, [], cs => skipStages fuel .value [] cs
  | fuel + 1, .opened, container :: outer, cs =>
    match skipSpace cs with
    | [] => .error .cutShort
    | c :: rest =>
      if closes container c then skipStages fuel .after outer rest
      else do skipStages fuel .value (container :: outer) (← skipLabel container (c :: rest))
  | fuel + 1, .value, outer, cs =>
    match skipSpace cs with
    | [] => .error .cutShort
    | 'n' :: rest => do skipStages fuel .after outer (← expect ['u', 'l', 'l'] rest)
    | 't' :: rest => do skipStages fuel .after outer (← expect ['r', 'u', 'e'] rest)
    | 'f' :: rest => do skipStages fuel .after outer (← expect ['a', 'l', 's', 'e'] rest)
    | '"' :: rest => do skipStages fuel .after outer (← skipString rest)
    | '-' :: rest => do skipStages fuel .after outer (← skipNumber rest)
    | '[' :: rest => skipStages fuel .opened (.array :: outer) rest
    | '\x7b' :: rest => skipStages fuel .opened (.object :: outer) rest
    | c :: rest =>
      if c.isDigit then do skipStages fuel .after outer (← skipNumber (c :: rest))
      else .error .malformed

/-- Passes over one value. Each stage reads a character or is followed by one that does. -/
def skip (cs : List Char) : Except Fault (List Char) :=
  skipStages (3 * cs.length + 3) .value [] cs

end FilterClause.Json
