import FilterClause.Command.Loading
import FilterClause.Command.Terminal
import FilterClause.Log.Settings

/-!
What the commands print: compiled requests, the report of a check, the version, and errors.
-/
namespace FilterClause.Command

/-- The comment lines for the values to bind, the first one numbered `offset + 1`. -/
def paramLines (offset : Nat) : List Scalar → String
  | [] => ""
  | param :: params =>
    "-- param " ++ toString (offset + 1) ++ ": " ++ param.asText ++ "\n" ++
      paramLines (offset + 1) params

def shownCompiled (output : Output) (options : Options) (compiled : Compiled) : String :=
  match output with
  | .json => compiled.toJson.pretty ++ "\n"
  | .sql => compiled.bundle.whereClause ++ "\n" ++ paramLines options.offset compiled.params

/-- What a check prints before it looks at anything. -/
def checkHeader (source : Source) : String :=
  Terminal.header "Check Filter Request" ++ Terminal.property "Source" source.shown

/-- What a check prints of a request that compiles. -/
def checkReport (source : Source) (compiled : Compiled) : String :=
  let categories := compiled.bundle.populated
  "\n" ++
    (if categories.isEmpty then Terminal.remark "Request compiles to no conditions"
      else Terminal.heading "Categories" ++ String.join (categories.map Terminal.item) ++ "\n") ++
    Terminal.success (source.shown ++ " is valid")

def versionNumber : String :=
  "0.3.0"

def versionReport (vars : String → Option String) : String :=
  Terminal.header "Criba" ++ Terminal.property "Version" versionNumber ++
    Terminal.property "Binary" "criba" ++ Terminal.property "Build" "debug" ++
    Terminal.property "Dialects" (", ".intercalate (dialects.map Prod.fst)) ++
    Terminal.property "Log Level" (Log.Settings.ofVariables vars).directive

def usage : String :=
  "Usage: criba <compile|check|version|help> [options] [input]\n"

/-- What is printed of an error. -/
def Error.shown (error : Error) : String :=
  "\n" ++ Terminal.error error.text ++ (error.help?.map Terminal.advice).getD ""

end FilterClause.Command
