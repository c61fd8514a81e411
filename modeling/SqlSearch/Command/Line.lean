import SqlSearch.Command.Spec
import SqlSearch.Config.Value
import SqlSearch.Json.Syntax
import SqlSearch.Text.Lower
/-! Reading a command line. The command is found first: words that are not flags (nor the
values of flags that take one) name subcommands in turn. Then the command's flags are read,
anywhere among its arguments and up to `--`: `--name`, `--name=value`, `--name value`, `-o
value`, `-ovalue`, `-o=value`; a switch takes `true` unless given `=value`. Last come the checks
of the number of arguments. An unknown command at the top is reported with the commands whose
names are close to it. -/
namespace SqlSearch.Command

/-- What a command line asks for. -/
inductive Request where
  /-- Runs a command (by its path) with its arguments and the flags given, by name. -/
  | run (path : List String) (args : List String) (flags : List (String × String))
  /-- Shows the help of a command. -/
  | help (path : List String)
  /-- Shows the help of the command a `help` command names, or says it knows no such topic. -/
  | helpTopic (args : List String)
  deriving Repr, Inhabited

/-- The flag of a name. -/
def findFlag (flags : List FlagSpec) (name : String) : Option FlagSpec :=
  flags.find? (·.name = name)

/-- The flag of a one-letter name. -/
def findShort (flags : List FlagSpec) (c : Char) : Option FlagSpec :=
  flags.find? (·.short = some c)

/-- Whether a long flag needs no value. -/
def longIsSwitch (flags : List FlagSpec) (name : String) : Bool :=
  ((findFlag flags name).map (·.switch)).getD false

/-- Whether a one-letter flag needs no value. -/
def shortIsSwitch (flags : List FlagSpec) (s : String) : Bool :=
  match s.toList with
  | [c] => ((findShort flags c).map (·.switch)).getD false
  | _ => false

/-- Whether a word is a flag that takes the next word as its value. -/
def takesValue (flags : List FlagSpec) (s : String) : Bool :=
  let noEq := !(s.any (· = '='))
  (s.startsWith "--" && noEq && !longIsSwitch flags (s.drop 2).toString) ||
    (s.startsWith "-" && noEq && s.length = 2 && !shortIsSwitch flags (s.drop 1).toString)

/-- The words of a command line that are not flags or their values. -/
def stripFlags (flags : List FlagSpec) : List String → List String
  | [] => []
  | s :: rest =>
    if s = "--" then []
    else if takesValue flags s then
      match rest with
      | [] | [_] => []
      | _ :: more => stripFlags flags more
    else if s ≠ "" ∧ !s.startsWith "-" then s :: stripFlags flags rest
    else stripFlags flags rest
termination_by ws => ws.length

/-- The words without the first occurrence of `x` that is not a flag value. -/
def withoutFirst (flags : List FlagSpec) (x : String) : List String → List String
  | [] => []
  | s :: rest =>
    if s = "--" then s :: rest
    else if takesValue flags s then
      match rest with
      | [] => [s]
      | v :: more => s :: v :: withoutFirst flags x more
    else if !s.startsWith "-" ∧ s = x then rest
    else s :: withoutFirst flags x rest
termination_by ws => ws.length

/-- The command a command line names, from a path, and the words left for it. -/
def findCommand : Nat → List String → List String → List String × List String
  | 0, path, ws => (path, ws)
  | fuel + 1, path, ws =>
    match stripFlags (flagsAt path) ws with
    | [] => (path, ws)
    | next :: _ =>
      let spec := (specOf path).getD rootSpec
      if spec.subcommands.contains next ∧ (specOf (path ++ [next])).isSome then
        findCommand fuel (path ++ [next]) (withoutFirst (flagsAt path) next ws)
      else (path, ws)

/-- The edit distance of two texts, ignoring case. -/
def editDistance (a b : String) : Nat :=
  let s := (Text.lower a).toList
  let t := (Text.lower b).toList
  let first := List.range (t.length + 1)
  let last := s.foldl (fun (row : List Nat) (c : Char) =>
    let start := row.head! + 1
    let (cells, _) := (t.zip (row.zip row.tail)).foldl (fun (acc : List Nat × Nat) step =>
      let (d, (diag, up)) := step
      let (cells, left) := acc
      let cost := if c = d then 0 else 1
      let v := min (min (up + 1) (left + 1)) (diag + cost)
      (cells ++ [v], v)) ([start], start)
    cells) first
  last.getLast?.getD 0

/-- The commands whose names are close to a mistyped one, as the hint after the error. -/
def suggestions (typed : String) : String :=
  let close := (subcommandSpecs.filter fun c => c.name ≠ "help" ∧ !c.hidden).filter fun c =>
    editDistance typed c.name ≤ 2 ∨ (Text.lower c.name).startsWith (Text.lower typed)
  if close.isEmpty then ""
  else "\n\nDid you mean this?\n" ++ String.join (close.map fun c => "\t" ++ c.name ++ "\n")

/-- The path of a command as shown: the program name and the subcommand names. -/
def commandPath (path : List String) : String := " ".intercalate (programName :: path)

/-- Records a flag's value, checking a switch's value. -/
def setFlag (f : FlagSpec) (value : String) (given : List (String × String)) :
    Except String (List (String × String)) :=
  if f.switch then
    match Config.readBool value with
    | .ok b => .ok (given ++ [(f.name, if b then "true" else "false")])
    | .error e =>
      let shown := match f.short with
        | some c => "-" ++ c.toString ++ ", --" ++ f.name
        | none => "--" ++ f.name
      .error ("invalid argument " ++ Text.quote value ++ " for " ++ Text.quote shown ++ " flag: " ++ e)
  else .ok (given ++ [(f.name, value)])

/-- Reads the one-letter flags of a word such as `-o`, `-ofile`, `-o=file`; gives the words
left after the flag values it took. -/
def readShorts (flags : List FlagSpec) (word : String) (rest : List String) :
    Nat → List Char → List (String × String) → Except String (List String × List (String × String))
  | 0, _, given => .ok (rest, given)
  | _, [], given => .ok (rest, given)
  | fuel + 1, c :: more, given =>
    match findShort flags c with
    | none => .error ("unknown shorthand flag: " ++ Json.shownChar c ++ " in " ++ word)
    | some f =>
      match more with
      | '=' :: v :: vs => (fun g => (rest, g)) <$> setFlag f (String.ofList (v :: vs)) given
      | _ =>
        if f.switch then do readShorts flags word rest fuel more (← setFlag f "true" given)
        else if !more.isEmpty then (fun g => (rest, g)) <$> setFlag f (String.ofList more) given
        else match rest with
          | v :: vs => (fun g => (vs, g)) <$> setFlag f v given
          | [] => .error ("flag needs an argument: " ++ Json.shownChar c ++ " in " ++ word)

/-- Reads the flags of a command among its words: the arguments and the flags given. -/
def parseFlags (flags : List FlagSpec) : Nat → List String → List String → List (String × String) →
    Except String (List String × List (String × String))
  | 0, args, _, given => .ok (args, given)
  | _, args, [], given => .ok (args, given)
  | fuel + 1, args, s :: rest, given =>
    if s.length < 2 ∨ !s.startsWith "-" then parseFlags flags fuel (args ++ [s]) rest given
    else if s = "--" then .ok (args ++ rest, given)
    else if s.startsWith "--" then
      let body := (s.drop 2).toString
      if body.startsWith "-" ∨ body.startsWith "=" then .error ("bad flag syntax: " ++ s)
      else
        let name := (body.splitOn "=").head!
        match findFlag flags name with
        | none => .error ("unknown flag: --" ++ name)
        | some f =>
          if (body.splitOn "=").length > 1 then do
            let value := "=".intercalate (body.splitOn "=").tail
            parseFlags flags fuel args rest (← setFlag f value given)
          else if f.switch then do
            parseFlags flags fuel args rest (← setFlag f "true" given)
          else match rest with
            | v :: more => do parseFlags flags fuel args more (← setFlag f v given)
            | [] => .error ("flag needs an argument: " ++ s)
    else do
      let (rest, given) ← readShorts flags s rest (s.length + 1) (s.toList.drop 1) given
      parseFlags flags fuel args rest given

/-- Checks the number of arguments of a command. -/
def checkArgs (path : List String) (rule : ArgRule) (args : List String) : Except String Unit :=
  match rule with
  | .legacy =>
    if path.isEmpty then
      match args with
      | a :: _ => .error ("unknown command " ++ Text.quote a ++ " for " ++
          Text.quote (commandPath path) ++ suggestions a)
      | [] => .ok ()
    else .ok ()
  | .noArgs =>
    match args with
    | a :: _ => .error ("unknown command " ++ Text.quote a ++ " for " ++ Text.quote (commandPath path))
    | [] => .ok ()
  | .atLeast n =>
    if args.length < n then
      .error ("requires at least " ++ toString n ++ " arg(s), only received " ++ toString args.length)
    else .ok ()
  | .exactly n =>
    if args.length ≠ n then
      .error ("accepts " ++ toString n ++ " arg(s), received " ++ toString args.length)
    else .ok ()

/-- Whether a switch was given as true. -/
def flagOn (given : List (String × String)) (name : String) : Bool :=
  match given.reverse.find? (·.1 = name) with
  | some (_, v) => v = "true"
  | none => false

/-- Reads a command line. -/
def readCommandLine (words : List String) : Except String Request := do
  let (path, rest) := findCommand 4 [] words
  let spec := (specOf path).getD rootSpec
  if spec.rule = .legacy ∧ path.isEmpty then
    checkArgs path .legacy (stripFlags (flagsAt path) rest)
  let (args, given) ← parseFlags (flagsAt path) (rest.length + 1) [] rest []
  if flagOn given "help" then return .help path
  if !spec.runnable then return .help path
  checkArgs path spec.rule args
  if path = ["help"] then return .helpTopic args
  return .run path args given

end SqlSearch.Command
