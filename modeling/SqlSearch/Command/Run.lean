import SqlSearch.Command.Setup
import SqlSearch.Command.Live
import SqlSearch.Command.Help
import SqlSearch.Scripts.Scan
import SqlSearch.Shell.Loop
import SqlSearch.Query.Script
/-! Running the commands. `search` runs one statement (its arguments joined by spaces), `run`
every statement of a script, `keywords` lists the completion keywords, `shell` starts the
interactive shell and `stats` prints the invocation counts. Output goes to the sink `--output`
names; a failure to write ends the command with `failed to write output`. A statement that fails
makes `search` fail with its status, and `run` with the count of failed statements. -/
namespace SqlSearch.Command

open SqlSearch.Host SqlSearch.Response

variable {m : Type → Type} [Monad m]

/-- The counter's mode of a search: validation, then explanation, else search. -/
def searchMode (explain validate : Bool) : String :=
  if validate then "validate" else if explain then "explain" else "search"

/-- Runs one statement. -/
def runSearch (h : Host m) (app : App) (given : List (String × String)) (args : List String) :
    m (Except String Unit) := do
  let explain := flagOn given "explain"
  let validate := flagOn given "validate"
  match ← Export.openSink h true app.config.region ((flagValue given "output").getD "") with
  | .error e => return .error e
  | .ok sink =>
    app.metrics.record h (searchMode explain validate)
    let (live, sink) ← openLive h app.client app.config.debug sink
    let (status, written, sink) ← live.search h sink (" ".intercalate args) explain validate
    let (closed, _) ← sink.close h
    let written := match written with
      | .ok () => closed
      | .error e => .error e
    match written with
    | .error e => return .error ("failed to write output: " ++ e)
    | .ok () =>
      if status.failed then return .error ("query failed: " ++ status.name) else return .ok ()

/-- Runs statements one after another: `search` runs one on the sink and says how it ended and
whether its lines were written. The run stops after a statement whose lines could not be
written, and, when `stopOnError` is set, after a statement that failed. Gives the counts of
failed and of run statements, the failure to write and the sink. -/
def runStatements (search : Export.Sink → String → m (Status × Except String Unit × Export.Sink))
    (stopOnError : Bool) : List String → Nat → Nat → Export.Sink →
      m (Nat × Nat × Option String × Export.Sink)
  | [], failed, total, sink => return (failed, total, none, sink)
  | stmt :: rest, failed, total, sink => do
    let (status, written, sink) ← search sink stmt
    match written with
    | .error e => return (failed, total + 1, some e, sink)
    | .ok () =>
      if status.failed then
        if stopOnError then return (failed + 1, total + 1, none, sink)
        else runStatements search stopOnError rest (failed + 1) (total + 1) sink
      else runStatements search stopOnError rest failed (total + 1) sink

/-- How a script run ends: with the failure to write, the run's before the close's, else with the
count of failed statements when one failed. -/
def scriptAnswer (failed total : Nat) (writeError : Option String) (closed : Except String Unit) :
    Except String Unit :=
  match writeError, closed with
  | some e, _ | none, .error e => .error ("failed to write output: " ++ e)
  | none, .ok () =>
    if failed > 0 then .error (toString failed ++ " of " ++ toString total ++ " statements failed")
    else .ok ()

/-- Runs the statements of the scripts on an open sink, script after script and statement after
statement, then closes the sink once. -/
def runOnSink (search : Export.Sink → String → m (Status × Except String Unit × Export.Sink))
    (close : Export.Sink → m (Except String Unit × Export.Sink)) (stopOnError : Bool)
    (scripts : List Scripts.Script) (sink : Export.Sink) : m (Except String Unit) := do
  let (failed, total, writeError, sink) ← runStatements search stopOnError
    (scripts.flatMap fun sc => Query.splitStatements sc.content) 0 0 sink
  let (closed, _) ← close sink
  return scriptAnswer failed total writeError closed

/-- Runs the statements of a script. -/
def runScript (h : Host m) (app : App) (given : List (String × String)) (path : String) :
    m (Except String Unit) := do
  let explain := flagOn given "explain"
  let validate := flagOn given "validate"
  let stopOnError := flagOn given "stop-on-error"
  let client ← if Scripts.isObjectPath path then h.objectClient app.config.region
    else pure (.ok ())
  match client with
  | .error e => return .error ("failed to create S3 client: " ++ e)
  | .ok () =>
    match ← Scripts.scan h true path with
    | .error e => return .error e
    | .ok scripts =>
      match ← Export.openSink h true app.config.region ((flagValue given "output").getD "") with
      | .error e => return .error e
      | .ok sink =>
        app.metrics.record h "run"
        let (live, sink) ← openLive h app.client app.config.debug sink
        runOnSink (fun sink stmt => live.search h sink stmt explain validate) (·.close h)
          stopOnError scripts sink

/-- Lists the completion keywords. -/
def runKeywords (h : Host m) (app : App) (given : List (String × String)) : m (Except String Unit) := do
  match ← Export.openSink h true app.config.region ((flagValue given "output").getD "") with
  | .error e => return .error e
  | .ok sink =>
    let (live, sink) ← openLive h app.client app.config.debug sink
    let (ks, _) ← live.keywords h
    let step (acc : Except String Export.Sink) (k : String) : m (Except String Export.Sink) := do
      match acc with
      | .error e => return .error e
      | .ok sink => return (← sink.write h (k ++ "\n"))
    match ← ks.foldlM step (.ok sink) with
    | .error e =>
      let _ ← sink.close h
      return .error ("failed to write output: " ++ e)
    | .ok sink => return (← sink.close h).1

/-- Prints the invocation counts. -/
def runStats (h : Host m) (loaded : Except String Config.Config) : m (Except String Unit) := do
  match loaded with
  | .error e => return .error ("failed to load configuration: " ++ e)
  | .ok cfg =>
    match ← Stats.Store.openAt h cfg.statsDb with
    | .error e => return .error ("failed to open stats store: " ++ e)
    | .ok store =>
      match ← store.totals h with
      | .error e => return .error ("failed to read stats: " ++ e)
      | .ok totals =>
        let today ← h.today
        let _ ← h.writeOut "mode,total,today\n"
        Stats.modes.foldlM (fun acc md => do
          match acc with
          | .error e => return .error e
          | .ok () =>
            match ← store.countByDate h md today with
            | .error e => return .error ("failed to read stats: " ++ e)
            | .ok n =>
              let total := ((totals.find? (·.1 = md)).map Prod.snd).getD 0
              let _ ← h.writeOut (md ++ "," ++ toString total ++ "," ++ toString n ++ "\n")
              return .ok ()) (.ok ())

/-- Runs a command line with the configuration `load` gives; the failure the command ends
with, if any. -/
def execute (h : Host m) (load : m (Except String Config.Config)) (words : List String) :
    m (Option String) := do
  match readCommandLine words with
  | .error e => return some e
  | .ok (.help path) =>
    let _ ← h.writeOut (helpText path)
    return none
  | .ok (.helpTopic args) =>
    let _ ← h.writeOut (helpTopicText args)
    return none
  | .ok (.run path args given) =>
    if path = ["stats"] then
      match ← runStats h (← load) with
      | .ok () => return none
      | .error e => return some e
    let loaded ← load
    match ← setupApp h loaded given {} with
    | .error e => return some e
    | .ok app =>
      let result ← match path with
        | ["search"] => runSearch h app given args
        | ["run"] => runScript h app given (args.headD "")
        | ["keywords"] => runKeywords h app given
        | ["shell"] => do
          app.metrics.record h "shell"
          let (live, _) ← openLive h app.client app.config.debug ⟨.output, "", false⟩
          Shell.runShell h live (← Shell.historyPath h app.config.historyFile)
          pure (.ok ())
        | _ => pure (.ok ())
      match result with
      | .ok () => return none
      | .error e => return some e

end SqlSearch.Command
