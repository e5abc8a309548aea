import FilterClause.Decimal.Leading
import FilterClause.Json.Value

/-!
Reading JSON from the characters of a text. A reader takes the characters that are left and gives
what it read and the rest. It stops at the first fault, and tells a text that ends too early from one
that no continuation would mend.
-/
namespace FilterClause.Json

inductive Fault
  /-- The text ends before the value does. -/
  | cutShort
  /-- The text is not JSON, whatever follows. -/
  | malformed
  /-- The text is JSON so far, and holds a value of the wrong kind. -/
  | mismatch (m : Mismatch)
deriving DecidableEq, Repr

def Fault.message : Fault → String
  | cutShort => "the text ends inside a value"
  | malformed => "the text is not valid JSON"
  | mismatch m => m.message

/-- What was read, and the characters after it. -/
abbrev Cut (α : Type) := α × List Char

def isSpace (c : Char) : Bool :=
  c == ' ' || c == '\n' || c == '\t' || c == '\r'

def skipSpace (cs : List Char) : List Char :=
  cs.dropWhile isSpace

/-- Reads exactly the given characters. -/
def expect : List Char → List Char → Except Fault (List Char)
  | [], cs => .ok cs
  | _ :: _, [] => .error .cutShort
  | w :: ws, c :: cs => if c = w then expect ws cs else .error .malformed

/-! ### Numbers -/

/-- A number written with a fraction or an exponent, or too large to be kept whole. -/
def floating (negative : Bool) (l : Decimal.Leading) (rest : List Char) : Except Fault (Cut Number) :=
  match l.toBinary64? negative with
  | none => .error .malformed
  | some x => .ok (.float x, rest)

/-- Reads an exponent, its mark already read. -/
def exponent (cs : List Char) : Except Fault (Cut Int) :=
  let (negative, cs) :=
    match cs with
    | '+' :: cs => (false, cs)
    | '-' :: cs => (true, cs)
    | cs => (false, cs)
  match cs with
  | [] => .error .cutShort
  | c :: _ =>
    if c.isDigit then
      let n : Int := Decimal.valueOf (cs.takeWhile Char.isDigit)
      .ok (if negative then -n else n, cs.dropWhile Char.isDigit)
    else .error .malformed

/-- Reads the exponent that may follow the digits of a number. -/
def scaled (negative : Bool) (l : Decimal.Leading) (cs : List Char) : Except Fault (Cut Number) :=
  let marked (cs : List Char) : Except Fault (Cut Number) := do
    let (e, rest) ← exponent cs
    floating negative (l.shift e) rest
  match cs with
  | 'e' :: cs => marked cs
  | 'E' :: cs => marked cs
  | cs => floating negative l cs

/-- A whole number that is in range, else a binary64 one. There is no whole minus zero. -/
def whole (negative : Bool) (digits rest : List Char) : Except Fault (Cut Number) :=
  let n := Decimal.valueOf digits
  let inRange := if negative then decide (0 < n ∧ n ≤ Nat.pow 2 63) else decide (n < Nat.pow 2 64)
  if inRange then .ok (.integer (if negative then -n else n), rest)
  else floating negative (.ofDigits digits []) rest

/-- Reads what follows the whole part of a number. -/
def afterWhole (negative : Bool) (digits : List Char) (cs : List Char) : Except Fault (Cut Number) :=
  match cs with
  | '.' :: rest =>
    let fraction := rest.takeWhile Char.isDigit
    let after := rest.dropWhile Char.isDigit
    if fraction.isEmpty then .error (if after.isEmpty then .cutShort else .malformed)
    else scaled negative (.ofDigits digits fraction) after
  | c :: _ =>
    if c == 'e' || c == 'E' then scaled negative (.ofDigits digits []) cs
    else whole negative digits cs
  | [] => whole negative digits cs

/-- Reads a number, its minus sign already read. A leading zero stands alone. -/
def number? (negative : Bool) (cs : List Char) : Except Fault (Cut Number) :=
  match cs with
  | [] => .error .cutShort
  | '0' :: rest =>
    if (rest.takeWhile Char.isDigit).isEmpty then afterWhole negative ['0'] rest
    else .error .malformed
  | c :: _ =>
    if c.isDigit then afterWhole negative (cs.takeWhile Char.isDigit) (cs.dropWhile Char.isDigit)
    else .error .malformed

/-! ### Strings -/

def hexValue (c : Char) : Option Nat :=
  if c.isDigit then some (c.toNat - '0'.toNat)
  else if 'a' ≤ c && c ≤ 'f' then some (c.toNat - 'a'.toNat + 10)
  else if 'A' ≤ c && c ≤ 'F' then some (c.toNat - 'A'.toNat + 10)
  else none

def hexCode (a b c d : Char) : Option Nat := do
  some ((((← hexValue a) * 16 + (← hexValue b)) * 16 + (← hexValue c)) * 16 + (← hexValue d))

/-- The fault of a numbered escape without four hexadecimal digits: the text counts as ended when
fewer than four bytes are left of it. -/
def shortEscape (rest : List Char) : Fault :=
  if (String.ofList rest).utf8ByteSize < 4 then .cutShort else .malformed

def isHighSurrogate (n : Nat) : Bool :=
  0xD800 ≤ n && n ≤ 0xDBFF

def isLowSurrogate (n : Nat) : Bool :=
  0xDC00 ≤ n && n ≤ 0xDFFF

/-- The fault of a high surrogate that is not followed by the escape of a low one. -/
def loneSurrogate : List Char → Fault
  | [] => .cutShort
  | ['\\'] => .cutShort
  | '\\' :: 'u' :: rest => shortEscape rest
  | _ => .malformed

def joinSurrogates (high low : Nat) : Char :=
  Char.ofNat (0x10000 + (high - 0xD800) * 0x400 + (low - 0xDC00))

/-- The character that a backslash and this one stand for. -/
def namedEscape : Char → Option Char
  | '"' => some '"'
  | '\\' => some '\\'
  | '/' => some '/'
  | 'b' => some '\x08'
  | 'f' => some '\x0c'
  | 'n' => some '\n'
  | 'r' => some '\r'
  | 't' => some '\t'
  | _ => none

/-- Puts a character before the string read from the rest. -/
def prepend (c : Char) (read : Except Fault (Cut (List Char))) : Except Fault (Cut (List Char)) :=
  read.map fun (cs, rest) => (c :: cs, rest)

/-- Reads the characters of a string and its closing quote, the opening one already read. -/
def string : List Char → Except Fault (Cut (List Char))
  | [] => .error .cutShort
  | '"' :: rest => .ok ([], rest)
  | ['\\'] => .error .cutShort
  | '\\' :: 'u' :: a :: b :: c :: d :: rest =>
    match hexCode a b c d with
    | none => .error (shortEscape (a :: b :: c :: d :: rest))
    | some n =>
      if isLowSurrogate n then .error .malformed
      else if isHighSurrogate n then
        match rest with
        | '\\' :: 'u' :: e :: f :: g :: h :: rest' =>
          match hexCode e f g h with
          | none => .error .malformed
          | some low =>
            if isLowSurrogate low then prepend (joinSurrogates n low) (string rest')
            else .error .malformed
        | rest => .error (loneSurrogate rest)
      else prepend (Char.ofNat n) (string rest)
  | '\\' :: 'u' :: rest => .error (shortEscape rest)
  | '\\' :: c :: rest =>
    match namedEscape c with
    | some c => prepend c (string rest)
    | none => .error .malformed
  | c :: rest => if c.toNat < 0x20 then .error .malformed else prepend c (string rest)

def string? (cs : List Char) : Except Fault (Cut String) := do
  let (s, rest) ← string cs
  .ok (String.ofList s, rest)

/-! ### Arrays and objects -/

/-- What follows an element of an array. -/
inductive Following
  /-- Another element, which starts with the given characters. -/
  | element (cs : List Char)
  /-- The end of the array, and the characters after it. -/
  | close (rest : List Char)

/-- Reads what follows an element of an array, up to the element after it. -/
def following (cs : List Char) : Except Fault Following :=
  match skipSpace cs with
  | [] => .error .cutShort
  | ']' :: rest => .ok (.close rest)
  | ',' :: rest =>
    match skipSpace rest with
    | [] => .error .cutShort
    | ']' :: _ => .error .malformed
    | rest => .ok (.element rest)
  | _ => .error .malformed

/-- Reads what follows an element of an array, with the given reader for each other element; `fuel`
bounds their number. -/
def moreElements {σ : Type} (element : σ → List Char → Except Fault (Cut σ)) (state : σ) :
    Nat → List Char → Except Fault (Cut σ)
  | 0, _ => .error .malformed
  | fuel + 1, cs => do
    match ← following cs with
    | .close rest => .ok (state, rest)
    | .element rest =>
      let (state, rest) ← element state rest
      moreElements element state fuel rest

/-- Reads the elements of an array, its opening bracket already read. -/
def elements {σ : Type} (element : σ → List Char → Except Fault (Cut σ)) (state : σ) (cs : List Char) :
    Except Fault (Cut σ) :=
  match skipSpace cs with
  | [] => .error .cutShort
  | ']' :: rest => .ok (state, rest)
  | rest => do
    let (state, rest) ← element state rest
    moreElements element state (rest.length + 1) rest

/-- Reads what follows an element of an array that has room for one other element for each of the
given readers. Where there is no room left, a comma is one too many whatever follows it. -/
def moreFields {σ : Type} :
    List (σ → List Char → Except Fault (Cut σ)) → σ → List Char → Except Fault (Cut σ)
  | [], state, cs =>
    match skipSpace cs with
    | [] => .error .cutShort
    | ']' :: rest => .ok (state, rest)
    | _ => .error .malformed
  | field :: fields, state, cs => do
    match ← following cs with
    | .close rest => .ok (state, rest)
    | .element rest =>
      let (state, rest) ← field state rest
      moreFields fields state rest

/-- Reads an array with no more elements than there are readers, its opening bracket already read. -/
def fields {σ : Type} (readers : List (σ → List Char → Except Fault (Cut σ))) (state : σ)
    (cs : List Char) : Except Fault (Cut σ) :=
  match readers, skipSpace cs with
  | _, [] => .error .cutShort
  | _, ']' :: rest => .ok (state, rest)
  | [], _ => .error .malformed
  | field :: fields, rest => do
    let (state, rest) ← field state rest
    moreFields fields state rest

/-- Reads the colon between the name of a member and its value. -/
def colon (cs : List Char) : Except Fault (List Char) :=
  match skipSpace cs with
  | [] => .error .cutShort
  | ':' :: rest => .ok rest
  | _ => .error .malformed

/-- Reads what follows a member of an object, with the given reader for what follows each name;
`fuel` bounds their number. -/
def moreMembers {σ : Type} (member : σ → String → List Char → Except Fault (Cut σ)) (state : σ) :
    Nat → List Char → Except Fault (Cut σ)
  | 0, _ => .error .malformed
  | fuel + 1, cs =>
    match skipSpace cs with
    | [] => .error .cutShort
    | '\x7d' :: rest => .ok (state, rest)
    | ',' :: rest =>
      match skipSpace rest with
      | [] => .error .cutShort
      | '"' :: rest => do
        let (name, rest) ← string? rest
        let (state, rest) ← member state name rest
        moreMembers member state fuel rest
      | _ => .error .malformed
    | _ => .error .malformed

/-- Reads the members of an object, its opening brace already read. -/
def members {σ : Type} (member : σ → String → List Char → Except Fault (Cut σ)) (state : σ) (cs : List Char) :
    Except Fault (Cut σ) :=
  match skipSpace cs with
  | [] => .error .cutShort
  | '\x7d' :: rest => .ok (state, rest)
  | '"' :: rest => do
    let (name, rest) ← string? rest
    let (state, rest) ← member state name rest
    moreMembers member state (rest.length + 1) rest
  | _ => .error .malformed

/-! ### Values -/

/-- Reads a value that holds no more than `depth` arrays and objects inside each other. -/
def value (depth : Nat) (cs : List Char) : Except Fault (Cut Json) :=
  match skipSpace cs with
  | [] => .error .cutShort
  | 'n' :: rest => do .ok (.null, ← expect ['u', 'l', 'l'] rest)
  | 't' :: rest => do .ok (.boolean true, ← expect ['r', 'u', 'e'] rest)
  | 'f' :: rest => do .ok (.boolean false, ← expect ['a', 'l', 's', 'e'] rest)
  | '"' :: rest => do
    let (s, rest) ← string? rest
    .ok (.text s, rest)
  | '-' :: rest => do
    let (n, rest) ← number? true rest
    .ok (.number n, rest)
  | '[' :: rest =>
    match depth with
    | 0 => .error .malformed
    | depth + 1 => do
      let (items, rest) ← elements (fun items cs => do
        let (item, rest) ← value depth cs
        .ok (items ++ [item], rest)) [] rest
      .ok (.array items, rest)
  | '\x7b' :: rest =>
    match depth with
    | 0 => .error .malformed
    | depth + 1 => do
      let (entries, rest) ← members (fun entries name cs => do
        let (item, rest) ← value depth (← colon cs)
        .ok (Entries.put entries name item, rest)) [] rest
      .ok (.object entries, rest)
  | c :: rest =>
    if c.isDigit then do
      let (n, rest) ← number? false (c :: rest)
      .ok (.number n, rest)
    else .error .malformed

/-- The arrays and objects that may stand inside each other in one text. -/
def depthLimit : Nat := 127

/-- Accepts the end of a text, with white space before it. -/
def finish {α : Type} (read : Except Fault (Cut α)) : Except Fault α := do
  let (a, rest) ← read
  if (skipSpace rest).isEmpty then .ok a else .error .malformed

/-- Reads a whole text as one value. -/
def read (text : String) : Except Fault Json :=
  finish (value depthLimit text.toList)

/-! ### Values of the wrong kind -/

/-- The fault of a value that stands where something else was expected. Only as much of the value is
read as is needed to describe it. -/
def unexpected {α : Type} (expected : String) (cs : List Char) : Except Fault α :=
  let refuse (found : Found) : Except Fault α := .error (.mismatch (.wrongType found expected))
  match skipSpace cs with
  | [] => .error .cutShort
  | '[' :: _ => refuse .sequence
  | '\x7b' :: _ => refuse .map
  | rest => do
    let (found, _) ← value 0 rest
    refuse found.found

end FilterClause.Json
