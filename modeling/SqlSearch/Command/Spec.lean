/-! The command line's commands and flags. `elseql` has the commands `search`, `shell`,
`keywords`, `run` and `stats`, besides `help` and `completion`; the flags `--debug`,
`--profile` and `--output`/`-o` apply to every command, and every command has `--help`/`-h`. -/
namespace SqlSearch.Command

/-- A flag: its name, its one-letter name, whether it is a switch, and its usage line. -/
structure FlagSpec where
  name : String
  short : Option Char := none
  switch : Bool
  usage : String
  deriving Repr, Inhabited

/-- How a command checks its arguments. -/
inductive ArgRule where
  /-- Any arguments, but a command with subcommands takes none at the top. -/
  | legacy
  | noArgs
  | atLeast (n : Nat)
  | exactly (n : Nat)
  deriving Repr, DecidableEq, Inhabited

/-- A command. -/
structure CommandSpec where
  name : String
  use : String
  short : String
  long : String := ""
  rule : ArgRule
  flags : List FlagSpec := []
  runnable : Bool := true
  hidden : Bool := false
  subcommands : List String := []
  deriving Repr, Inhabited

/-- The program's name. -/
def programName : String := "elseql"

/-- The flags every command takes. -/
def globalFlags : List FlagSpec :=
  [⟨"debug", none, true, "Echo each request and response"⟩,
   ⟨"profile", none, false, "Connection profile from the profiles file"⟩,
   ⟨"output", some 'o', false, "Write results to a file or s3://bucket/key instead of stdout"⟩]

/-- The text of the shell command's description, also shown by the shell's `help`. -/
def shellLong : String :=
  "\nStart an interactive shell. Each line is one or more statements separated by ';'.\n\n" ++
  "Shell commands:\n" ++
  "  explain <query>    run with score explanations\n" ++
  "  validate <query>   validate without running\n" ++
  "  keywords           list completion keywords\n" ++
  "  reload             refetch the index mapping\n" ++
  "  debug [on|off]     show or toggle the request/response echo\n" ++
  "  help               show this help\n" ++
  "  exit, quit         leave the shell\n"

/-- The top command. -/
def rootSpec : CommandSpec where
  name := programName
  use := programName
  short := "elseql - SQL-like queries for OpenSearch and Elasticsearch"
  long := "elseql translates SELECT statements into search-engine requests and prints\n" ++
    "the results as CSV.\n\n" ++
    "  SELECT [FACETS f, ...] [SCRIPT name = 'body'] fields\n" ++
    "  FROM index [WHERE expr] [FILTER expr] [ORDER BY f [ASC|DESC], ...]\n" ++
    "  [LIMIT [offset,] size]\n\n" ++
    "Connection settings come from ELSEQL_* environment variables, a .env file, or a\n" ++
    "named profile in ~/.elseql.yaml."
  rule := .legacy
  runnable := false
  subcommands := ["search", "shell", "keywords", "run", "stats", "help", "completion"]

/-- The subcommands of the top command. -/
def subcommandSpecs : List CommandSpec :=
  [{ name := "search", use := "search <query>"
     short := "Run one statement and print the result as CSV"
     long := "\nRun a single SELECT statement against the configured engine.\n\n" ++
       "Examples:\n" ++
       "  elseql search \"select * from logs where level = error limit 10\"\n\n" ++
       "  # Ask the engine to explain the scoring of each hit\n" ++
       "  elseql search --explain \"select title from docs where body = 'search'\"\n\n" ++
       "  # Only check that the engine accepts the query\n" ++
       "  elseql search --validate \"select * from logs where ts > 2024-01-01\"\n\n" ++
       "  # Write the CSV to S3\n" ++
       "  elseql search -o s3://reports/daily.csv \"select * from logs order by ts desc\"\n"
     rule := .atLeast 1
     flags := [⟨"explain", none, true, "Request score explanations"⟩,
       ⟨"validate", none, true, "Validate the query instead of running it"⟩] },
   { name := "shell", use := "shell"
     short := "Interactive shell with keyword completion and history"
     long := shellLong, rule := .noArgs },
   { name := "keywords", use := "keywords"
     short := "List the completion keywords for the connected engine"
     long := "\nPrint the statement keywords followed by every index, type and field name\n" ++
       "found in the engine's mapping, one per line."
     rule := .noArgs },
   { name := "run", use := "run <file|dir|s3://bucket/key>"
     short := "Run the statements in a script"
     long := "\nRun every statement in a script. Statements are separated by ';' and lines\n" ++
       "starting with '--' are comments. A directory or an S3 prefix ending in '/'\n" ++
       "runs every .sql file beneath it in path order.\n\n" ++
       "Examples:\n" ++
       "  elseql run reports.sql\n" ++
       "  elseql run s3://team-queries/daily/\n" ++
       "  elseql run --stop-on-error -o s3://reports/out.csv checks.sql\n"
     rule := .exactly 1
     flags := [⟨"stop-on-error", none, true, "Stop at the first statement that fails"⟩,
       ⟨"explain", none, true, "Request score explanations"⟩,
       ⟨"validate", none, true, "Validate each statement instead of running it"⟩] },
   { name := "stats", use := "stats", short := "Show invocation counts per mode", rule := .noArgs },
   { name := "help", use := "help [command]", short := "Help about any command"
     long := "Help provides help for any command in the application.\n" ++
       "Simply type elseql help [path to command] for full details."
     rule := .legacy },
   { name := "completion", use := "completion"
     short := "Generate the autocompletion script for the specified shell"
     long := "Generate the autocompletion script for elseql for the specified shell.\n" ++
       "See each sub-command's help for details on how to use the generated script.\n"
     rule := .noArgs, runnable := false
     subcommands := ["bash", "fish", "powershell", "zsh"] }]

/-- The subcommands of `completion`. -/
def completionSpecs : List CommandSpec :=
  [{ name := "bash", use := "bash", short := "Generate the autocompletion script for bash"
     rule := .noArgs
     flags := [⟨"no-descriptions", none, true, "disable completion descriptions"⟩] },
   { name := "fish", use := "fish", short := "Generate the autocompletion script for fish"
     rule := .noArgs
     flags := [⟨"no-descriptions", none, true, "disable completion descriptions"⟩] },
   { name := "powershell", use := "powershell"
     short := "Generate the autocompletion script for powershell", rule := .noArgs
     flags := [⟨"no-descriptions", none, true, "disable completion descriptions"⟩] },
   { name := "zsh", use := "zsh", short := "Generate the autocompletion script for zsh"
     rule := .noArgs
     flags := [⟨"no-descriptions", none, true, "disable completion descriptions"⟩] }]

/-- The spec of a command path: the top command, a subcommand, or a `completion` subcommand. -/
def specOf : List String → Option CommandSpec
  | [] => some rootSpec
  | [n] => subcommandSpecs.find? (·.name = n)
  | ["completion", n] => completionSpecs.find? (·.name = n)
  | _ => none

/-- The help flag of a command. -/
def helpFlag (name : String) : FlagSpec := ⟨"help", some 'h', true, "help for " ++ name⟩

/-- The flags a command takes at a path: its own, the global ones and help. -/
def flagsAt (path : List String) : List FlagSpec :=
  let spec := (specOf path).getD rootSpec
  let own := if path.isEmpty then [] else spec.flags
  own ++ globalFlags ++ [helpFlag spec.name]

end SqlSearch.Command
