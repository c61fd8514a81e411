import SqlSearch.Text.Lower
import SqlSearch.Text.Quoted
/-! Logger settings. The environment picks a preset: `prod` logs from info up in production
form, `dev` and `local` from debug up in development form, and `cli` (or nothing) only
warnings and above, without caller or time. A level given by name replaces the preset's; names
are read as written or in lower case. -/
namespace SqlSearch

/-- Severity levels, least severe first. -/
inductive Level where
  | debug
  | info
  | warn
  | error
  | dpanic
  | panic
  | fatal
  deriving Repr, DecidableEq, Inhabited

/-- The level a name stands for exactly; the empty name is info. -/
def Level.ofExactName? (s : String) : Option Level :=
  if s = "debug" ∨ s = "DEBUG" then some .debug
  else if s = "info" ∨ s = "INFO" ∨ s = "" then some .info
  else if s = "warn" ∨ s = "WARN" then some .warn
  else if s = "error" ∨ s = "ERROR" then some .error
  else if s = "dpanic" ∨ s = "DPANIC" then some .dpanic
  else if s = "panic" ∨ s = "PANIC" then some .panic
  else if s = "fatal" ∨ s = "FATAL" then some .fatal
  else none

/-- The level a name stands for, as written or in lower case. -/
def Level.ofName (s : String) : Except String Level :=
  match Level.ofExactName? s <|> Level.ofExactName? (Text.lower s) with
  | some l => .ok l
  | none => .error ("unrecognized level: " ++ Text.quote s)

/-- How a logger writes. -/
structure LoggerSettings where
  level : Level
  development : Bool
  showCaller : Bool
  showTime : Bool
  deriving Repr, Inhabited

/-- The settings for an environment and an optional level name (empty for none). -/
def loggerSettings (env level : String) : Except String LoggerSettings := do
  let preset ← match env with
    | "prod" => pure ⟨.info, false, true, true⟩
    | "dev" | "local" => pure ⟨.debug, true, true, true⟩
    | "cli" | "" => pure ⟨.warn, true, false, false⟩
    | other => throw ("unknown environment " ++ Text.quote other ++ " for logger")
  if level.isEmpty then return preset
  match Level.ofName level with
  | .ok l => return { preset with level := l }
  | .error e => throw ("invalid log level " ++ Text.quote level ++ ": " ++ e)

end SqlSearch
