import Crosstab.CommandLine.Help
import Crosstab.Options

/-!
# Invocations

What the words of a command line ask for. The first word is a command; options may stand before
or behind the directive, as `--name value` or `--name=value`, each at most once; behind a lone
`--` every word is a directive. A command line that breaks a rule is refused as a whole, unless
help is asked for in front of that.

    parse DIRECTIVE
    sql   [--db PATH] [--dialect NAME] [--column-naming NAME] DIRECTIVE
    run   [--db PATH] [--dialect NAME] [--column-naming NAME] [--show] DIRECTIVE
    grammar
    help  [COMMAND]
-/

namespace Crosstab.CommandLine

open Sql (Dialect ColumnNaming)

/-- What the options of a command line set. -/
structure Settings where
  /-- The path of the database. -/
  database : Option String
  dialect : Option Dialect
  naming : Option ColumnNaming
  /-- Print the rows of the created table. -/
  showRows : Bool
deriving DecidableEq, Repr

/-- A command with what it needs. -/
inductive Invocation where
  /-- Print the spec of a directive. -/
  | parse (directive : String)
  /-- Print the statement of a directive and create nothing. -/
  | sql (directive : String) (settings : Settings)
  /-- Run a directive. -/
  | run (directive : String) (settings : Settings)
  /-- Describe directives. -/
  | grammar
  /-- Describe the program or a command. -/
  | help (topic : Topic)
deriving DecidableEq, Repr

/-! ### Options -/

/-- An option of a command. -/
inductive Flag where
  | database
  | dialect
  | naming
  | showRows
deriving DecidableEq, Repr

/-- The option as it is written. -/
def Flag.name : Flag → String
  | .database => "--db"
  | .dialect => "--dialect"
  | .naming => "--column-naming"
  | .showRows => "--show"

/-- The option is followed by a value. -/
def Flag.takesValue : Flag → Bool
  | .showRows => false
  | _ => true

namespace Settings

/-- No option is given. -/
def unset : Settings := ⟨none, none, none, false⟩

/-- Takes an option with its value, if the value suits it and the option is new. -/
def give (settings : Settings) (flag : Flag) (value : String) : Option Settings :=
  match flag with
  | .database =>
    if settings.database.isSome || value.isEmpty then none
    else some { settings with database := some value }
  | .dialect =>
    match settings.dialect, parseDialect value with
    | none, .ok dialect => some { settings with dialect := some dialect }
    | _, _ => none
  | .naming =>
    match settings.naming, parseNaming value with
    | none, .ok naming => some { settings with naming := some naming }
    | _, _ => none
  | .showRows => if settings.showRows then none else some { settings with showRows := true }

end Settings

/-! ### Words -/

/-- What a command line says behind its command. -/
structure Arguments where
  settings : Settings
  directives : List String
deriving DecidableEq, Repr

/-- Why the reading of words ends early. -/
inductive Halt where
  | refused
  | helpAsked
deriving DecidableEq, Repr

/-- A word that looks like an option; a lone minus does not. -/
def isOption (word : String) : Bool :=
  match word.toList with
  | '-' :: _ :: _ => true
  | _ => false

/-- A word that asks for help. -/
def asksForHelp (word : String) : Bool := word == "--help" || word.toList.take 2 == ['-', 'h']

/-- A word before its first `=`, and what stands behind that. -/
def splitValue (word : String) : String × Option String :=
  let name := word.toList.takeWhile (· != '=')
  match word.toList.dropWhile (· != '=') with
  | [] => (word, none)
  | _ :: value => (String.ofList name, some (String.ofList value))

/-- Takes an option. -/
def Arguments.give (arguments : Arguments) (flag : Flag) (value : String) :
    Except Halt Arguments :=
  match arguments.settings.give flag value with
  | some settings => .ok { arguments with settings }
  | none => .error .refused

/-- Takes directives, of which there may be at most `limit`. -/
def Arguments.direct (limit : Nat) (arguments : Arguments) (directives : List String) :
    Except Halt Arguments :=
  let directives := arguments.directives ++ directives
  if directives.length ≤ limit then .ok { arguments with directives } else .error .refused

/-- Reads words, behind those read so far, for a command that accepts some options and up to
`limit` directives. -/
def Arguments.read (accepted : List Flag) (limit : Nat) (soFar : Arguments) :
    List String → Except Halt Arguments
  | [] => .ok soFar
  | word :: rest =>
    if word = "--" then soFar.direct limit rest
    else if asksForHelp word then .error .helpAsked
    else if isOption word then
      let (name, attached) := splitValue word
      match accepted.find? fun flag => flag.name == name with
      | none => .error .refused
      | some flag =>
        match flag.takesValue, attached, rest with
        | true, some value, rest => do
          Arguments.read accepted limit (← soFar.give flag value) rest
        | true, none, value :: rest => do
          if isOption value then throw .refused
          Arguments.read accepted limit (← soFar.give flag value) rest
        | false, none, rest => do Arguments.read accepted limit (← soFar.give flag "") rest
        | _, _, _ => .error .refused
    else do Arguments.read accepted limit (← soFar.direct limit [word]) rest

/-- Reads the directives and options behind a command, and makes an invocation of them if there are
as many directives as the command takes. -/
def readCommand (topic : Topic) (accepted : List Flag) (count : Nat) (words : List String)
    (make : List String → Settings → Option Invocation) : Option Invocation :=
  match Arguments.read accepted count ⟨.unset, []⟩ words with
  | .ok arguments => make arguments.directives arguments.settings
  | .error .helpAsked => some (.help topic)
  | .error .refused => none

/-- Reads the name of a command to tell about. -/
def readTopic : List String → Option Topic
  | [] => some .program
  | [name] => Topic.commands.lookup name
  | _ => none

/-- Reads a command line; there is no invocation if it is refused. -/
def Invocation.read? : List String → Option Invocation
  | "parse" :: words =>
    readCommand .parse [] 1 words fun directives _ =>
      match directives with
      | [directive] => some (.parse directive)
      | _ => none
  | "sql" :: words =>
    readCommand .sql [.database, .dialect, .naming] 1 words fun directives settings =>
      match directives with
      | [directive] => some (.sql directive settings)
      | _ => none
  | "run" :: words =>
    readCommand .run [.database, .dialect, .naming, .showRows] 1 words fun directives settings =>
      match directives with
      | [directive] => some (.run directive settings)
      | _ => none
  | "grammar" :: words => readCommand .grammar [] 0 words fun _ _ => some .grammar
  | "help" :: words => (readTopic words).map .help
  | word :: _ => if asksForHelp word then some (.help .program) else none
  | [] => none

/-- What is shown when a command line is refused. -/
def usage : String :=
  String.intercalate "\n"
    ["usage:",
      "    parse DIRECTIVE",
      "    sql [--db PATH] [--dialect NAME] [--column-naming NAME] DIRECTIVE",
      "    run [--db PATH] [--dialect NAME] [--column-naming NAME] [--show] DIRECTIVE",
      "    grammar",
      "    help [COMMAND]"]

end Crosstab.CommandLine
