import SqlSearch.Config.Load
import SqlSearch.Config.Profile
import SqlSearch.Config.Secret
import SqlSearch.Engine.Client
import SqlSearch.Telemetry.Settings
import SqlSearch.Stats.Metrics
import SqlSearch.Logging
import SqlSearch.Command.Line
/-! Preparing a command: the configuration is loaded (from the `.env` file and the
environment), the flags `--profile` and `--debug` are laid over it, the profile is applied, the
logger settings are checked, the password is fetched from the secret store when a secret is
named, telemetry is set up (a failure there only warns), the invocation counter is opened and
the engine client is created. -/
namespace SqlSearch.Command

open SqlSearch.Host

/-- A prepared command: the configuration, the engine client and the invocation counter. -/
structure App where
  config : Config.Config
  client : Engine.Client
  metrics : Stats.Metrics

variable {m : Type → Type} [Monad m]

/-- Loads the configuration from the `.env` file and the environment. -/
def loadConfig (h : Host m) : m (Except String Config.Config) := do
  match ← readIfPresent h ".env" with
  | .error e => return .error ("failed to load .env: " ++ e.message)
  | .ok dotenv =>
    let env ← Config.settings.foldlM (fun acc s => do
      match ← h.getEnv s.name with
      | some v => return acc ++ [(s.name, v)]
      | none => return acc) []
    return Config.load env dotenv

/-- The profiles file: the configured one, else `.elseql.yaml` in the home directory, else
here. -/
def profilesPath (h : Host m) (configured : String) : m String := do
  if !configured.isEmpty then return configured
  match ← h.getEnv "HOME" with
  | some home => return if home.isEmpty then ".elseql.yaml" else joinPath home ".elseql.yaml"
  | none => return ".elseql.yaml"

/-- Applies the selected profile from the profiles file. -/
def applyProfileFile (h : Host m) (c : Config.Config) : m (Except String Config.Config) := do
  let path ← profilesPath h c.profilesFile
  match ← readIfPresent h path with
  | .error e => return .error ("failed to read profiles file: " ++ e.message)
  | .ok text => return Config.applyProfile c text ""

/-- The value of a flag that takes one, the last given. -/
def flagValue (given : List (String × String)) (name : String) : Option String :=
  (given.reverse.find? (·.1 = name)).map Prod.snd

/-- Prepares a command from the loaded configuration and the flags given. -/
def setupApp (h : Host m) (loaded : Except String Config.Config) (given : List (String × String))
    (mt : Stats.Metrics) : m (Except String App) := do
  match loaded with
  | .error e => return .error ("failed to load configuration: " ++ e)
  | .ok cfg =>
    let cfg := match flagValue given "profile" with
      | some p => if p.isEmpty then cfg else { cfg with profile := p }
      | none => cfg
    let cfg := match flagValue given "debug" with
      | some _ => { cfg with debug := flagOn given "debug" }
      | none => cfg
    match ← applyProfileFile h cfg with
    | .error e => return .error ("failed to apply profile: " ++ e)
    | .ok cfg =>
      match loggerSettings cfg.logEnv cfg.logLevel with
      | .error e => return .error ("failed to create logger: " ++ e)
      | .ok _ =>
        let secret ← match cfg.secretToFetch? with
          | none => pure (.ok cfg)
          | some id => do
            let fetched ← h.fetchSecret cfg.region id
            pure (Config.applySecret cfg id fetched)
        match secret with
        | .error e => return .error e
        | .ok cfg =>
          match Telemetry.Settings.load (some cfg) with
          | .error e => h.warn ("telemetry disabled: " ++ e)
          | .ok _ => pure ()
          let (_, mt) ← mt.init h cfg.statsDb
          match (Engine.Settings.ofConfig cfg).validate with
          | .error e => return .error ("failed to create OpenSearch client: " ++ e)
          | .ok s => return .ok ⟨cfg, ⟨s⟩, mt⟩

end SqlSearch.Command
