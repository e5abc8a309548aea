/-!
Texts for a terminal, with marks for colours and weight.
-/
namespace FilterClause.Command.Terminal

def mark (code : String) : String :=
  "\x1b[" ++ code ++ "m"

/-- A text in a colour. -/
def coloured (colour text : String) : String :=
  mark colour ++ text ++ mark "39"

def red : String → String := coloured "31"

def green : String → String := coloured "32"

def blue : String → String := coloured "34"

def cyan : String → String := coloured "36"

def white : String → String := coloured "37"

def bold (text : String) : String :=
  mark "1" ++ text ++ mark "0"

def dimmed (text : String) : String :=
  mark "2" ++ text ++ mark "0"

/-! ### Lines -/

/-- A title with a rule of its length below it, between empty lines. -/
def header (title : String) : String :=
  "\n" ++ cyan (bold title) ++ "\n" ++
    dimmed (String.ofList (title.toList.map fun _ => '─')) ++ "\n\n"

def property (name value : String) : String :=
  "  " ++ dimmed name ++ ": " ++ value ++ "\n"

def heading (title : String) : String :=
  white (bold title) ++ "\n"

def item (text : String) : String :=
  "  " ++ dimmed "•" ++ " " ++ text ++ "\n"

def success (text : String) : String :=
  bold (green "✔") ++ " " ++ green text ++ "\n"

def remark (text : String) : String :=
  bold (blue "ℹ") ++ " " ++ text ++ "\n"

def error (text : String) : String :=
  bold (red "✖") ++ " " ++ red text ++ "\n"

def advice (text : String) : String :=
  "  " ++ bold (cyan "help:") ++ " " ++ text ++ "\n"

end FilterClause.Command.Terminal
