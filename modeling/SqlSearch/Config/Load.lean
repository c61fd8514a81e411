import SqlSearch.Config.Basic
import SqlSearch.Config.Value
import SqlSearch.Config.Dotenv
/-! Loading the configuration from the environment. Each setting has its variable and perhaps
a default, used only when the variable is not set at all (a variable set to the empty text
keeps the empty text). Settings are read in a fixed order and the first value that cannot be
read is the failure. Variables from an environment file are added for names the environment
does not already have. -/
namespace SqlSearch.Config

/-- A setting: its variable, its default, and how its text sets it. -/
structure Setting where
  name : String
  default : Option String
  assign : String → Config → Except String Config

/-- A text setting. -/
def textSetting (v : String) (d : Option String) (set : Config → String → Config) : Setting :=
  ⟨v, d, fun s c => .ok (set c s)⟩

/-- A boolean setting. -/
def boolSetting (v : String) (d : Option String) (set : Config → Bool → Config) : Setting :=
  ⟨v, d, fun s c => (set c ·) <$> readBool s⟩

/-- An integer setting. -/
def intSetting (v : String) (d : Option String) (set : Config → Int → Config) : Setting :=
  ⟨v, d, fun s c => (set c ·) <$> readInt s⟩

/-- A double setting. -/
def floatSetting (v : String) (d : Option String) (set : Config → Float → Config) : Setting :=
  ⟨v, d, fun s c => (set c ·) <$> readFloat s⟩

/-- A duration setting. -/
def durationSetting (v : String) (d : Option String) (set : Config → Int → Config) : Setting :=
  ⟨v, d, fun s c => (set c ·) <$> readDuration s⟩

/-- The settings in the order they are read. -/
def settings : List Setting :=
  [textSetting "ELSEQL_ENDPOINT" (some "http://localhost:9200") fun c x => { c with endpoint := x },
   textSetting "ELSEQL_REGION" none fun c x => { c with region := x },
   textSetting "ELSEQL_USERNAME" none fun c x => { c with username := x },
   textSetting "ELSEQL_PASSWORD" none fun c x => { c with password := x },
   textSetting "ELSEQL_PASSWORD_SECRET_ID" none fun c x => { c with passwordSecretId := x },
   boolSetting "ELSEQL_INSECURE_SKIP_TLS" (some "false") fun c x => { c with insecureSkipTls := x },
   floatSetting "ELSEQL_RATE_LIMIT" (some "10.0") fun c x => { c with rateLimit := x },
   intSetting "ELSEQL_RATE_BURST" (some "20") fun c x => { c with rateBurst := x },
   durationSetting "ELSEQL_CONNECTION_TIMEOUT" (some "30s") fun c x => { c with connectionTimeout := x },
   durationSetting "ELSEQL_REQUEST_TIMEOUT" (some "60s") fun c x => { c with requestTimeout := x },
   intSetting "ELSEQL_MAX_RETRIES" (some "3") fun c x => { c with maxRetries := x },
   durationSetting "ELSEQL_RETRY_DELAY" (some "1s") fun c x => { c with retryDelay := x },
   intSetting "ELSEQL_MAX_CONNECTIONS" (some "100") fun c x => { c with maxConnections := x },
   intSetting "ELSEQL_MAX_IDLE_CONNS" (some "10") fun c x => { c with maxIdleConns := x },
   durationSetting "ELSEQL_IDLE_CONN_TIMEOUT" (some "90s") fun c x => { c with idleConnTimeout := x },
   boolSetting "ELSEQL_DEBUG" (some "false") fun c x => { c with debug := x },
   textSetting "ELSEQL_PROFILE" none fun c x => { c with profile := x },
   textSetting "ELSEQL_PROFILES_FILE" none fun c x => { c with profilesFile := x },
   textSetting "ELSEQL_HISTORY_FILE" none fun c x => { c with historyFile := x },
   textSetting "ELSEQL_STATS_DB" none fun c x => { c with statsDb := x },
   textSetting "LOG_ENV" (some "cli") fun c x => { c with logEnv := x },
   textSetting "LOG_LEVEL" none fun c x => { c with logLevel := x },
   boolSetting "OTEL_ENABLED" (some "false") fun c x => { c with otelEnabled := x },
   textSetting "OTEL_SERVICE_NAME" (some "elseql") fun c x => { c with otelServiceName := x },
   textSetting "OTEL_EXPORTER_OTLP_ENDPOINT" none fun c x => { c with otelExporterOtlpEndpoint := x },
   textSetting "OTEL_EXPORTER_OTLP_PROTOCOL" (some "http/protobuf")
     fun c x => { c with otelExporterOtlpProtocol := x },
   textSetting "OTEL_RESOURCE_ATTRIBUTES" none fun c x => { c with otelResourceAttributes := x },
   textSetting "OTEL_TRACES_SAMPLER" (some "always_on") fun c x => { c with otelTracesSampler := x },
   floatSetting "OTEL_TRACES_SAMPLER_ARG" (some "1.0") fun c x => { c with otelTracesSamplerArg := x }]

/-- An environment: the value of each variable that is set. -/
abbrev Environment := List (String × String)

/-- The value of a variable; the last entry of a name counts. -/
def Environment.get? (env : Environment) (name : String) : Option String :=
  env.foldl (fun acc (k, v) => if k = name then some v else acc) none

/-- Reads the settings from an environment. -/
def readEnvironment (env : Environment) : Except String Config :=
  settings.foldlM (fun c s =>
    match env.get? s.name <|> s.default with
    | some text => s.assign text c
    | none => .ok c) {}

/-- The environment with the assignments of an environment file added for names it lacks. -/
def Environment.withFile (env : Environment) (file : List (String × String)) : Environment :=
  env ++ file.filter fun (k, _) => (env.get? k).isNone

/-- Loads the configuration: the environment file's text, if there is one, is read first. -/
def load (env : Environment) (dotenv : Option String) : Except String Config := do
  let env ← match dotenv with
    | some text =>
      match parseDotenv text with
      | .ok file => pure (env.withFile file)
      | .error e => throw ("failed to load .env: " ++ e)
    | none => pure env
  let c ← (readEnvironment env).mapError ("failed to parse environment variables: " ++ ·)
  (c.validate).mapError ("configuration validation failed: " ++ ·)

end SqlSearch.Config
