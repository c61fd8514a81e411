import SqlSearch.Config.Basic
import SqlSearch.Engine.Failure
/-! The settings of an engine client, taken from the configuration. Checking them requires an
`http` or `https` endpoint with a host, and brings the tuning values into range: the rate limit
into (0, 1000], the burst into (0, 10000], the connection timeout into (0, 300 s], the request
timeout into (0, 600 s]; a value that is not positive takes its default. -/
namespace SqlSearch.Engine

/-- The settings of a client. Durations are in nanoseconds. -/
structure Settings where
  endpoint : String := ""
  region : String := ""
  username : String := ""
  password : String := ""
  insecureSkipTls : Bool := false
  rateLimit : Float := 0
  rateBurst : Int := 0
  connectionTimeout : Int := 0
  requestTimeout : Int := 0
  maxRetries : Int := 0
  retryDelay : Int := 0
  maxConnections : Int := 0
  maxIdleConns : Int := 0
  idleConnTimeout : Int := 0
  deriving Inhabited

/-- The client settings of a configuration. -/
def Settings.ofConfig (c : Config.Config) : Settings :=
  { endpoint := c.endpoint, region := c.region, username := c.username, password := c.password,
    insecureSkipTls := c.insecureSkipTls, rateLimit := c.rateLimit, rateBurst := c.rateBurst,
    connectionTimeout := c.connectionTimeout, requestTimeout := c.requestTimeout,
    maxRetries := c.maxRetries, retryDelay := c.retryDelay, maxConnections := c.maxConnections,
    maxIdleConns := c.maxIdleConns, idleConnTimeout := c.idleConnTimeout }

/-- A positive value capped at `hi`, or `dflt` when it is not positive. -/
def clampPositive (dflt hi v : Int) : Int :=
  if v ≤ 0 then dflt else min v hi

/-- Checks the endpoint and brings the tuning values into range. -/
def Settings.validate (s : Settings) : Except String Settings := do
  if s.endpoint = "" then throw "endpoint is required"
  let u ← (Url.parse s.endpoint).mapError ("invalid endpoint: " ++ ·.message)
  if u.scheme ≠ "http" ∧ u.scheme ≠ "https" then
    throw ("endpoint scheme must be http or https: " ++ s.endpoint)
  if u.host.isEmpty then throw ("endpoint must include a host: " ++ s.endpoint)
  let rate := if s.rateLimit ≤ 0 then 10 else s.rateLimit
  let rate := if rate > 1000 then 1000 else rate
  return { s with
    rateLimit := rate
    rateBurst := clampPositive 20 10000 s.rateBurst
    connectionTimeout := clampPositive (30 * second) (300 * second) s.connectionTimeout
    requestTimeout := clampPositive (60 * second) (600 * second) s.requestTimeout
    maxRetries := max 0 s.maxRetries
    retryDelay := if s.retryDelay ≤ 0 then second else s.retryDelay
    maxConnections := if s.maxConnections ≤ 0 then 100 else s.maxConnections
    maxIdleConns := if s.maxIdleConns ≤ 0 then 10 else s.maxIdleConns
    idleConnTimeout := if s.idleConnTimeout ≤ 0 then 90 * second else s.idleConnTimeout }

end SqlSearch.Engine
