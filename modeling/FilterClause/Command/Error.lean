import FilterClause.Failure

/-!
Why a command ends without having done its work, and what is shown of it.
-/
namespace FilterClause.Command

/-- What keeps a file from being read. -/
inductive Obstacle
  | missing
  /-- A file stands where the path needs a directory. -/
  | notDirectory
  | isDirectory
  /-- The path, or a name in it, has more bytes than may be. -/
  | nameTooLong
  | other (description : String)
deriving DecidableEq, Repr

def Obstacle.describe : Obstacle → String
  | missing => "No such file or directory (os error 2)"
  | notDirectory => "Not a directory (os error 20)"
  | isDirectory => "Is a directory (os error 21)"
  | nameTooLong => "File name too long (os error 36)"
  | other description => description

inductive Error
  | unreadable (obstacle : Obstacle)
  | configurationNotFound (path : String)
  | refused (failure : Failure)
deriving DecidableEq, Repr

namespace Error

/-- A configuration failure names the file that it was found in. -/
def ofConfiguration (failure : Failure) : String :=
  failure.outer.message ++
    match failure.outer.context.operation with
    | none => ""
    | some path => " (" ++ path ++ ")"

/-- The messages of a failure with its code, the category it came from and the data of its root. -/
def ofCompilation (failure : Failure) : String :=
  let operation :=
    match failure.outer.context.operation with
    | none => ""
    | some operation => " (in `" ++ operation ++ "`)"
  let data := failure.root.context.data.getD ""
  "[" ++ failure.outer.code.label ++ "] " ++ ": ".intercalate failure.chain ++ operation ++
    (if data = "" then "" else "\n  data: " ++ data)

def text : Error → String
  | unreadable obstacle => "IO error: " ++ obstacle.describe
  | configurationNotFound path => "Configuration error: Config file not found: " ++ path
  | refused failure =>
    if failure.outer.code = .invalidConfiguration then
      "Configuration error: " ++ ofConfiguration failure
    else ofCompilation failure

/-- Advice on how to mend it. -/
def help? : Error → Option String
  | refused failure =>
    if failure.outer.code = .invalidConfiguration then none else failure.root.context.help
  | _ => none

end Error

end FilterClause.Command
