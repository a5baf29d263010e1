import Calculator.Path

/-!
# Environment

Environment variables say where histories are kept and whose history is meant when no user is named.
-/

namespace Calculator

/-- Environment variables with their values. -/
abbrev Environment := List (String × String)

namespace Environment

/-- The variable that names the folder of the histories. -/
def homeVariable : String := "SAFECALC_HOME"

/-- The variable that names the user. -/
def userVariable : String := "SAFECALC_USER"

/-- The value of a variable that is set and not empty. -/
def value? (env : Environment) (name : String) : Option String :=
  (env.lookup name).filter (· ≠ "")

/-- The user whose history is meant when no user is named. -/
def defaultUser (env : Environment) : String :=
  ((env.value? userVariable).or (env.value? "USER")).getD "guest"

end Environment

/-- Why no home folder is found. -/
inductive HomeError where
  /-- No home folder is known. -/
  | unknown
  /-- The name of the user holds a zero character. -/
  | zeroCharacter
deriving DecidableEq, Repr

/-- What is said when no home folder is found. -/
def HomeError.message : HomeError → String
  | .unknown => "Could not determine home directory."
  | .zeroCharacter => "embedded null byte"

/-- The home folders of a system: that of the current user, and those of users by name. -/
structure Homes where
  own : String
  ofUser : List (String × String)

namespace Homes

/-- A home folder without slashes at its end. -/
def trimmed (home : String) : String :=
  .ofList (home.toList.reverse.dropWhile (· = '/')).reverse

/-- The home folder that a name beginning with a tilde stands for. The tilde alone stands for that of
the current user, and the name of an unknown user for itself. No user is looked up by a name that holds
a zero character. -/
def folder (homes : Homes) (name : String) : Except HomeError String :=
  match name.toList.drop 1 with
  | [] => .ok (if trimmed homes.own = "" then "/" else trimmed homes.own)
  | user =>
    if '\x00' ∈ user then .error .zeroCharacter
    else match homes.ofUser.lookup (.ofList user) with
      | some home => .ok (if trimmed home = "" then "/" else trimmed home)
      | none => .ok name

/-- The path with its first name replaced by a home folder if it is relative and begins with a tilde.
A home folder that itself begins with a tilde is none. -/
def expand (homes : Homes) (path : Path) : Except HomeError Path :=
  match path.root, path.names with
  | "", name :: rest =>
    if name.toList.head? = some '~' then
      match homes.folder name with
      | .error e => .error e
      | .ok home =>
        if home.toList.head? = some '~' then .error .unknown
        else .ok ((Path.ofText home).below rest)
    else .ok path
  | _, _ => .ok path

end Homes

namespace Environment

/-- The folder of the histories: the one that is named, or a hidden folder in the home folder. -/
def historyRoot (env : Environment) (homes : Homes) : Except HomeError Path :=
  match env.value? homeVariable with
  | some home => homes.expand (.ofText home)
  | none => (homes.expand (.ofText "~")).map (·.below [".safecalc"])

end Environment

end Calculator
