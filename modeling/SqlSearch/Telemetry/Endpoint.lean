import SqlSearch.Url.Basic
import SqlSearch.Text.Blank
import SqlSearch.Text.Quoted
/-! Collector endpoints. Over HTTP each signal has its own path under the endpoint
(`/v1/traces`, `/v1/metrics`), appended unless the endpoint's path already ends with it; the
query survives. Over gRPC the endpoint is `host:4317`, or a URL whose scheme says whether the
connection is plain (`http`, `grpc`) or secured (`https`, `grpcs`). -/
namespace SqlSearch.Telemetry

/-- The bytes without the given byte at either end. -/
def trimByte (b : UInt8) (bs : List UInt8) : List UInt8 :=
  ((bs.dropWhile (· = b)).reverse.dropWhile (· = b)).reverse

/-- The URL of one signal under an HTTP collector endpoint. -/
def signalUrl (endpoint suffix : String) : Except String String := do
  if (Text.trimBlank endpoint).isEmpty then throw "endpoint cannot be empty"
  let u ← (Url.parse endpoint).mapError ("parse endpoint: " ++ ·.message)
  let suffix : List UInt8 := 47 :: trimByte 47 (Text.utf8Bytes suffix)
  let path := if u.path.getLast? = some 47 then u.path.dropLast else u.path
  let path := if path.drop (path.length - suffix.length) = suffix ∧ suffix.length ≤ path.length
    then path else path ++ suffix
  return { u with path := path }.text

/-- A gRPC collector endpoint: the address to dial and whether the connection is plain. -/
def grpcEndpoint (raw : String) : Except String (String × Bool) := do
  let endpoint := Text.trimBlank raw
  if endpoint.isEmpty then throw "endpoint cannot be empty"
  if (endpoint.splitOn "://").length > 1 then
    let u ← (Url.parse endpoint).mapError (·.message)
    if u.host.isEmpty then throw "endpoint must include host"
    if u.scheme = "http" ∨ u.scheme = "grpc" then return (u.hostText, true)
    else if u.scheme = "https" ∨ u.scheme = "grpcs" then return (u.hostText, false)
    else throw ("unsupported scheme " ++ Text.quote u.scheme)
  else if endpoint.any (· = ':') then return (endpoint, true)
  else throw "endpoint should be host:port"

end SqlSearch.Telemetry
