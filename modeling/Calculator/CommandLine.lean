import Calculator.Command
import Calculator.Decimal.Reading

/-!
# Command lines

The words of a command line as a command. Options may stand anywhere before a word of two hyphens;
after it every word is an argument.
-/

namespace Calculator

/-- Why a command line is refused. -/
inductive UsageError where
  /-- A word that begins with a hyphen is no option, or lacks its value. -/
  | unknownOption (word : String)
  | unknownFunction (name : String)
  | unreadableNumber (text : String)
  /-- The category is missing or unknown. -/
  | noCategory
  /-- No command has these arguments. -/
  | noCommand
deriving DecidableEq, Repr

/-- What is said of a command line that is refused. -/
def UsageError.message : UsageError → String
  | .unknownOption word => "No such option: " ++ word
  | .unknownFunction name => ScientificFunction.unknownMessage "function" name
  | .unreadableNumber text => Double.unreadableMessage text
  | .noCategory =>
    "Missing or unknown category: choose " ++ ", ".intercalate (Category.all.map (·.name))
  | .noCommand =>
    "Usage: eval | preview | sci | convert | units | history | clear-history | repl, with arguments"

/-- The options and arguments of a command line. -/
structure CommandLine where
  user : Option String
  record : Option Bool
  term : Option String
  category : Option String
  /-- The arguments in reverse. -/
  words : List String

namespace CommandLine

/-- A command line without words. -/
def empty : CommandLine := ⟨none, none, none, none, []⟩

/-- Whether a word stands in the place of an option. -/
def isOption (word : String) : Bool := word.startsWith "-" && word ≠ "-"

/-- Takes words onto a command line. -/
def take (line : CommandLine) : List String → Except UsageError CommandLine
  | [] => .ok line
  | "--" :: rest => .ok { line with words := rest.reverse ++ line.words }
  | "--record" :: rest => take { line with record := some true } rest
  | "--no-record" :: rest => take { line with record := some false } rest
  | word :: value :: rest =>
    if word = "--user" ∨ word = "-u" then take { line with user := some value } rest
    else if word = "--search" ∨ word = "-s" then take { line with term := some value } rest
    else if word = "--category" ∨ word = "-c" then take { line with category := some value } rest
    else if isOption word then .error (.unknownOption word)
    else take { line with words := word :: line.words } (value :: rest)
  | [word] =>
    if isOption word then .error (.unknownOption word)
    else .ok { line with words := word :: line.words }

/-- The number that an argument denotes. -/
def number (text : String) : Except UsageError Double :=
  match Double.ofText? text with
  | some x => .ok x
  | none => .error (.unreadableNumber text)

/-- The category that an argument names. -/
def unitCategory (name : Option String) : Except UsageError Category :=
  match name.bind Category.ofName? with
  | some category => .ok category
  | none => .error .noCategory

/-- The command of a command line. -/
def command (line : CommandLine) : Except UsageError Command :=
  let recording : Recording := ⟨line.user, line.record.getD false⟩
  match line.words.reverse with
  | ["eval", expression] => .ok (.evaluate expression recording)
  | ["preview", expression] => .ok (.preview expression)
  | ["sci", name, value] =>
    match ScientificFunction.ofName? name with
    | none => .error (.unknownFunction name)
    | some f => (number value).map fun x => .scientific f x recording
  | ["convert", value, source, target] =>
    (number value).bind fun x =>
      (unitCategory line.category).map fun category => .convert x category source target recording
  | ["units", name] => (unitCategory (some name)).map .units
  | ["history"] =>
    .ok (.history line.user (line.term.getD "") (line.category.getD Entry.anyCategory))
  | ["clear-history"] => .ok (.clearHistory line.user)
  | ["repl"] => .ok (.interactive ⟨line.user, line.record.getD true⟩ [])
  | _ => .error .noCommand

/-- The command of the words of a command line. -/
def read (words : List String) : Except UsageError Command :=
  (take empty words).bind command

end CommandLine

namespace Command

/-- The user whose history a command reads or writes. -/
def named : Command → Option String
  | .evaluate _ recording | .scientific _ _ recording | .convert _ _ _ _ recording
  | .interactive recording _ => recording.user
  | .history user _ _ | .clearHistory user => user
  | .preview _ | .units _ => none

end Command

end Calculator
