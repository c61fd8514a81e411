import SqlSearch.Command.Line
/-! Help texts. A command's help is its description (or its summary) followed by its usage:
how it is called, its subcommands with their summaries, its own flags and the flags it shares
with every command, each flag list in name order with the descriptions lined up. -/
namespace SqlSearch.Command

/-- The text without trailing blanks. -/
def trimEndBlank (s : String) : String :=
  String.ofList (s.toList.reverse.dropWhile (fun c => c = ' ' || c = '\t' || c = '\n' || c = '\r')).reverse

/-- The text padded with spaces to a width. -/
def padRight (s : String) (width : Nat) : String :=
  s ++ String.ofList (List.replicate (width - s.length) ' ')

/-- The usage lines of flags, in name order, descriptions lined up after the widest flag. -/
def flagUsages (flags : List FlagSpec) : String :=
  let sorted := flags.mergeSort fun a b => a.name ≤ b.name
  let heads := sorted.map fun f =>
    let lead := match f.short with
      | some c => "  -" ++ c.toString ++ ", --" ++ f.name
      | none => "      --" ++ f.name
    (if f.switch then lead else lead ++ " string", f.usage)
  let width := (heads.map (·.1.length + 1)).foldl max 0
  String.join (heads.map fun (h, u) =>
    h ++ " " ++ String.ofList (List.replicate (width - h.length) ' ') ++ " " ++ u ++ "\n")

/-- The summary a help text starts with: the description, else the summary line. -/
def CommandSpec.about (c : CommandSpec) : String := if c.long.isEmpty then c.short else c.long

/-- The subcommands of a command, in name order. -/
def subcommandsOf (path : List String) : List CommandSpec :=
  let spec := (specOf path).getD rootSpec
  (spec.subcommands.filterMap fun n => specOf (path ++ [n])).mergeSort fun a b => a.name ≤ b.name

/-- How a command is called. -/
def useLine (path : List String) (c : CommandSpec) : String :=
  let parent := commandPath path.dropLast
  let use := if path.isEmpty then c.use else parent ++ " " ++ c.use
  use ++ " [flags]"

/-- The usage text of a command. -/
def usageText (path : List String) : String :=
  let c := (specOf path).getD rootSpec
  let subs := subcommandsOf path
  let usage := "Usage:" ++
    (if c.runnable then "\n  " ++ useLine path c else "") ++
    (if subs.isEmpty then "" else "\n  " ++ commandPath path ++ " [command]")
  let width := max 11 ((subs.map (·.name.length)).foldl max 0)
  let available := if subs.isEmpty then ""
    else "\n\nAvailable Commands:" ++
      String.join (subs.map fun s => "\n  " ++ padRight s.name width ++ " " ++ s.short)
  let own := (if path.isEmpty then globalFlags else c.flags) ++ [helpFlag c.name]
  let local_ := "\n\nFlags:\n" ++ trimEndBlank (flagUsages own)
  let inherited := if path.isEmpty then ""
    else "\n\nGlobal Flags:\n" ++ trimEndBlank (flagUsages globalFlags)
  let more := if subs.isEmpty then ""
    else "\n\nUse \"" ++ commandPath path ++ " [command] --help\" for more information about a command."
  usage ++ available ++ local_ ++ inherited ++ more ++ "\n"

/-- The help text of a command. -/
def helpText (path : List String) : String :=
  let c := (specOf path).getD rootSpec
  let about := c.about
  let head := if about.isEmpty then "" else trimEndBlank about ++ "\n\n"
  head ++ (if c.runnable ∨ !c.subcommands.isEmpty then usageText path else "")

/-- What the `help` command writes for its arguments. -/
def helpTopicText (args : List String) : String :=
  let (path, rest) := findCommand 4 [] args
  let unknown := path.isEmpty ∧ !(stripFlags (flagsAt path) rest).isEmpty
  if unknown then
    "Unknown help topic [" ++ " ".intercalate (args.map fun a => "\x60" ++ a ++ "\x60") ++ "]\n" ++
      usageText []
  else helpText path

end SqlSearch.Command
