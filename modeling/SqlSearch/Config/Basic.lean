import SqlSearch.Url.Basic
import SqlSearch.Text.Blank
/-! The program's configuration: the engine endpoint and credentials, rate and connection
limits, timeouts (in nanoseconds), session files, logging and telemetry settings. An endpoint
is valid when it is a URL with scheme `http` or `https` and a host. -/
namespace SqlSearch.Config

/-- The configuration. Durations are in nanoseconds. -/
structure Config where
  endpoint : String := ""
  region : String := ""
  username : String := ""
  password : String := ""
  passwordSecretId : String := ""
  insecureSkipTls : Bool := false
  rateLimit : Float := 0
  rateBurst : Int := 0
  connectionTimeout : Int := 0
  requestTimeout : Int := 0
  maxRetries : Int := 0
  retryDelay : Int := 0
  maxConnections : Int := 0
  maxIdleConns : Int := 0
  idleConnTimeout : Int := 0
  debug : Bool := false
  profile : String := ""
  profilesFile : String := ""
  historyFile : String := ""
  statsDb : String := ""
  logEnv : String := ""
  logLevel : String := ""
  otelEnabled : Bool := false
  otelServiceName : String := ""
  otelExporterOtlpEndpoint : String := ""
  otelExporterOtlpProtocol : String := ""
  otelResourceAttributes : String := ""
  otelTracesSampler : String := ""
  otelTracesSamplerArg : Float := 0
  deriving Inhabited

/-- Checks an endpoint: present, a URL, with scheme `http` or `https` and a host. -/
def validateEndpoint (endpoint : String) : Except String Unit :=
  if endpoint.isEmpty then .error "ELSEQL_ENDPOINT is required"
  else match Url.parse endpoint with
    | .error e => .error ("invalid ELSEQL_ENDPOINT URL format: " ++ e.message)
    | .ok u =>
      if u.scheme ≠ "http" ∧ u.scheme ≠ "https" then
        .error "ELSEQL_ENDPOINT scheme must be http or https"
      else if u.host.isEmpty then .error "ELSEQL_ENDPOINT must include a valid host"
      else .ok ()

/-- The text without trailing slashes. -/
def trimTrailingSlashes (s : String) : String :=
  String.ofList (s.toList.reverse.dropWhile (· = '/')).reverse

/-- Checks a loaded configuration and brings it into range: the endpoint loses surrounding
blanks and trailing slashes and must be valid, the rate limit lies in (0, 1000], the burst
and both timeouts are positive, retries are clamped to 0–10, and a user name and a region
exclude each other. -/
def Config.validate (c : Config) : Except String Config := do
  let c := { c with endpoint := trimTrailingSlashes (Text.trimBlank c.endpoint) }
  validateEndpoint c.endpoint
  if c.rateLimit ≤ 0 then throw "ELSEQL_RATE_LIMIT must be greater than 0"
  if c.rateLimit > 1000 then throw "ELSEQL_RATE_LIMIT cannot exceed 1000 requests/second"
  if c.rateBurst ≤ 0 then throw "ELSEQL_RATE_BURST must be greater than 0"
  if c.connectionTimeout ≤ 0 then throw "ELSEQL_CONNECTION_TIMEOUT must be greater than 0"
  if c.requestTimeout ≤ 0 then throw "ELSEQL_REQUEST_TIMEOUT must be greater than 0"
  let c := { c with maxRetries := max 0 (min 10 c.maxRetries) }
  if c.username ≠ "" ∧ c.region ≠ "" then
    throw "ELSEQL_USERNAME and ELSEQL_REGION are mutually exclusive: use basic auth or SigV4, not both"
  return c

end SqlSearch.Config
