import SqlSearch.Config.Basic
import SqlSearch.Config.Profile
import SqlSearch.Telemetry.Endpoint
import SqlSearch.Text.Lower
import SqlSearch.Decimal.Format
/-! Telemetry settings, taken from the configuration. Resource attributes are written
`key=value,key=value`; blanks around pairs, keys and values are dropped, empty pairs skipped,
and a later key replaces an earlier one. Checking fills the defaults (service name, protocol,
sampler, export interval, the `service.name` attribute) and, when telemetry is on, requires an
exporter endpoint that suits the protocol and a sampling ratio in (0, 1]. -/
namespace SqlSearch.Telemetry

/-- The HTTP exporter protocol. -/
def httpProtocol : String := "http/protobuf"

/-- The gRPC exporter protocol. -/
def grpcProtocol : String := "grpc"

/-- The resource attribute that names the service. -/
def serviceNameKey : String := "service.name"

/-- Reads one resource attribute into the map read so far: a blank item is skipped, any other
is cut at its first `=` into a key that must not be blank and a value. -/
def addResourceAttribute (attrs : List (String × String)) (item : String) :
    Except String (List (String × String)) :=
  let item := Text.trimBlank item
  if item.isEmpty then .ok attrs
  else match Url.cut item '=' with
    | (_, none) => .error ("invalid resource attribute " ++ Text.quote item)
    | (k, some v) =>
      let key := Text.trimBlank k
      if key.isEmpty then .error "resource attribute key cannot be empty"
      else .ok (Config.setEntry attrs key (Text.trimBlank v))

/-- Reads resource attributes, item by item between the commas. -/
def parseResourceAttributes (input : String) : Except String (List (String × String)) :=
  ((input.toList.splitOn ',').map String.ofList).foldlM addResourceAttribute []

/-- Telemetry settings; the export interval is in nanoseconds, and the attributes are none when
there is no map of them. -/
structure Settings where
  enabled : Bool := false
  serviceName : String := ""
  exporterEndpoint : String := ""
  exporterProtocol : String := ""
  resourceAttributes : Option (List (String × String)) := none
  tracesSampler : String := ""
  tracesSamplerArg : Float := 0
  metricExportInterval : Int := 0
  deriving Inhabited

/-- Fills the defaults and checks the exporter when telemetry is on. -/
def Settings.validate (s : Settings) : Except String Settings := do
  let serviceName := if s.serviceName.isEmpty then "elseql" else s.serviceName
  let attrs := s.resourceAttributes.getD []
  let attrs := if attrs.any (·.1 = serviceNameKey) then attrs else attrs ++ [(serviceNameKey, serviceName)]
  let s := { s with
    serviceName := serviceName
    exporterProtocol := if s.exporterProtocol.isEmpty then httpProtocol else s.exporterProtocol
    tracesSampler := if s.tracesSampler.isEmpty then "always_on" else s.tracesSampler
    metricExportInterval :=
      if s.metricExportInterval ≤ 0 then 60 * 1000000000 else s.metricExportInterval
    resourceAttributes := some attrs }
  if !s.enabled then return s
  if s.exporterEndpoint.isEmpty then
    throw "observability: OTEL_EXPORTER_OTLP_ENDPOINT is required when OTEL_ENABLED is true"
  if s.exporterProtocol = httpProtocol then
    let u ← (Url.parse s.exporterEndpoint).mapError
      ("observability: invalid OTLP exporter endpoint: " ++ ·.message)
    if (u.scheme ≠ "http" ∧ u.scheme ≠ "https") ∨ u.host.isEmpty then
      throw "observability: OTLP http endpoint must look like http(s)://host[:port]"
  else if s.exporterProtocol = grpcProtocol then
    match grpcEndpoint s.exporterEndpoint with
    | .error e => throw ("observability: invalid OTLP grpc endpoint: " ++ e)
    | .ok _ => pure ()
  else
    throw ("observability: unsupported OTLP exporter protocol " ++ Text.quote s.exporterProtocol)
  if s.tracesSampler = "traceidratio" ∧ (s.tracesSamplerArg ≤ 0 ∨ s.tracesSamplerArg > 1) then
    throw "observability: traceidratio sampler needs an argument in (0, 1]"
  return s

/-- Loads the telemetry settings of a configuration, none standing for a missing one. -/
def Settings.load (c : Option Config.Config) : Except String Settings := do
  let some c := c | throw "observability: nil root configuration provided"
  let attrs ← (parseResourceAttributes c.otelResourceAttributes).mapError
    ("observability: failed to parse resource attributes: " ++ ·)
  Settings.validate {
    enabled := c.otelEnabled
    serviceName := Text.trimBlank c.otelServiceName
    exporterEndpoint := Text.trimBlank c.otelExporterOtlpEndpoint
    exporterProtocol := Text.lower (Text.trimBlank c.otelExporterOtlpProtocol)
    resourceAttributes := some attrs
    tracesSampler := Text.lower (Text.trimBlank c.otelTracesSampler)
    tracesSamplerArg := c.otelTracesSamplerArg }

/-- How traces are sampled. -/
inductive Sampler where
  | alwaysOn
  | alwaysOff
  /-- A share of the traces, chosen by trace id. -/
  | ratio (share : Float)
  /-- Follows the parent span's decision, and `root` for spans without one. -/
  | parentBased (root : Sampler)
  deriving Inhabited

/-- The sampler of a ratio: all traces from 1 up, none from 0 down. -/
def Sampler.ofRatio (share : Float) : Sampler :=
  if share ≥ 1 then .alwaysOn else if share ≤ 0 then .alwaysOff else .ratio share

/-- The sampler the settings ask for. -/
def Settings.sampler (s : Settings) : Sampler :=
  if s.tracesSampler = "always_off" then .alwaysOff
  else if s.tracesSampler = "traceidratio" then .parentBased (.ofRatio s.tracesSamplerArg)
  else if s.tracesSampler = "parentbased_always_on" then .parentBased .alwaysOn
  else .alwaysOn

/-- A sampler's description. -/
def Sampler.description : Sampler → String
  | .alwaysOn => "AlwaysOnSampler"
  | .alwaysOff => "AlwaysOffSampler"
  | .ratio x => "TraceIDRatioBased\x7b" ++ Decimal.Style.general.text x ++ "\x7d"
  | .parentBased root =>
    "ParentBased\x7broot:" ++ root.description ++ ",remoteParentSampled:AlwaysOnSampler" ++
      ",remoteParentNotSampled:AlwaysOffSampler,localParentSampled:AlwaysOnSampler" ++
      ",localParentNotSampled:AlwaysOffSampler\x7d"

end SqlSearch.Telemetry
