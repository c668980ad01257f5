import Crosstab.Options

/-!
# Help

What the program tells about itself and about its commands: what each is for, how it is called,
and its arguments and options in columns.
-/

namespace Crosstab.CommandLine

/-- What help can be asked about. -/
inductive Topic where
  /-- The program as a whole. -/
  | program
  | parse
  | sql
  | run
  | grammar
  /-- Help itself. -/
  | help
deriving DecidableEq, Repr

namespace Topic

/-- The commands with their names. -/
def commands : List (String × Topic) :=
  [("parse", .parse), ("sql", .sql), ("run", .run), ("grammar", .grammar), ("help", .help)]

/-- What a command is for. -/
def purpose : Topic → String
  | .program => "Generate and run pivot queries from a directive"
  | .parse => "Parse a directive and print its parameters as JSON"
  | .sql => "Discover pivot values and print the generated SQL (nothing is created)"
  | .run => "Drop, discover, build and execute"
  | .grammar => "Show the directive grammar"
  | .help => "Print this message or the help of the given subcommand(s)"

/-- What stands behind the name of the program in a call. -/
def call : Topic → String
  | .program => "<COMMAND>"
  | .parse => "parse <DIRECTIVE>"
  | .sql => "sql [OPTIONS] <DIRECTIVE>"
  | .run => "run [OPTIONS] <DIRECTIVE>"
  | .grammar => "grammar"
  | .help => "help [COMMAND]..."

/-- Texts in two columns, two blanks apart. -/
def columns (rows : List (String × String)) : List String :=
  let width := rows.foldl (fun most row => max most row.1.length) 0
  rows.map fun row =>
    "  " ++ row.1 ++ String.ofList (List.replicate (width + 2 - row.1.length) ' ') ++ row.2

/-- The options that say which database is meant and how it is spoken to. -/
def targetOptions : List (String × String) :=
  [("    --db <DB>", "SQLite database file (default: $" ++ Options.databaseVariable ++ ")"),
    ("    --dialect <DIALECT>", "SQL dialect used for quoting (sqlite, postgres)"),
    ("    --column-naming <COLUMN_NAMING>", "Column naming policy (quoted, sanitized, raw)")]

/-- The arguments of a command. -/
def arguments : Topic → List (String × String)
  | .parse => [("<DIRECTIVE>", "Directive, e.g. \"table t from src row id col cat val amt\"")]
  | .sql => [("<DIRECTIVE>", "Directive")]
  | .run => [("<DIRECTIVE>", "Directive")]
  | .help => [("[COMMAND]...", "Print help for the subcommand(s)")]
  | _ => []

/-- The options of a command. -/
def options : Topic → List (String × String)
  | .sql => targetOptions ++ [("-h, --help", "Print help")]
  | .run =>
    targetOptions ++
      [("    --show", "Print the rows of the created table as JSON"), ("-h, --help", "Print help")]
  | .help => []
  | _ => [("-h, --help", "Print help")]

/-- Rows under a heading, behind an empty line; nothing if there are no rows. -/
def block (heading : String) (rows : List (String × String)) : List String :=
  if rows.isEmpty then [] else "" :: heading :: columns rows

/-- The commands and what they are for. -/
def overview : Topic → List (String × String)
  | .program => commands.map fun entry => (entry.1, entry.2.purpose)
  | _ => []

/-- The help about a topic. -/
def text (topic : Topic) : String :=
  let lines := [topic.purpose, "", "Usage: pivotgen " ++ topic.call] ++
    block "Commands:" topic.overview ++ block "Arguments:" topic.arguments ++
    block "Options:" topic.options
  String.join (lines.map fun line => line ++ "\n")

end Topic

end Crosstab.CommandLine
