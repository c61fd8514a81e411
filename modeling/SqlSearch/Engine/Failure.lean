/-! Failures talking to the engine, classified. An HTTP status says what went wrong: 401 and
403 are authentication failures, 404 a missing index or endpoint, 408 a timeout, 429 rate
limiting, 500, 502, 503 and 504 server errors, anything else unexpected (and retryable from
500 up). A failure to connect is classified by its text: a timeout, a refused connection, an
unknown host, or anything else. Retryable failures say how long to wait, in nanoseconds. -/
namespace SqlSearch.Engine

/-- The kinds of failure. -/
inductive FailureKind where
  | networkTimeout
  | connection
  | rateLimit
  | validation
  | authentication
  | notFound
  | server
  | unknown
  /-- A kind known only by its name. -/
  | named (name : String)
  deriving Repr, DecidableEq, Inhabited

namespace FailureKind

/-- The kinds with a constructor of their own. -/
def known : List FailureKind :=
  [.networkTimeout, .connection, .rateLimit, .validation, .authentication, .notFound, .server,
    .unknown]

/-- The name of a kind. -/
def name : FailureKind → String
  | .networkTimeout => "network_timeout"
  | .connection => "connection"
  | .rateLimit => "rate_limit"
  | .validation => "validation"
  | .authentication => "authentication"
  | .notFound => "not_found"
  | .server => "server"
  | .unknown => "unknown"
  | .named n => n

/-- The kind of a name. -/
def ofName (n : String) : FailureKind :=
  (known.find? (·.name = n)).getD (.named n)

end FailureKind

/-- One second, in nanoseconds. -/
def second : Nat := 1000000000

/-- A classified failure. -/
structure Failure where
  kind : FailureKind
  message : String
  /-- The HTTP status, `0` when there was none. -/
  statusCode : Int := 0
  retryable : Bool := false
  /-- How long to wait before retrying, in nanoseconds. -/
  retryAfter : Nat := 0
  suggestion : String := ""
  /-- The text of the underlying failure, when there is one. -/
  cause : Option String := none
  deriving Repr, DecidableEq, Inhabited

/-- How a failure is shown: `[kind] message`, with `(HTTP n)` after a positive status. -/
def Failure.text (f : Failure) : String :=
  "[" ++ f.kind.name ++ "] " ++ f.message ++
    (if f.statusCode > 0 then " (HTTP " ++ toString f.statusCode ++ ")" else "")

/-- A failure that is not retried. -/
def Failure.plain (kind : FailureKind) (message : String) : Failure := ⟨kind, message, 0, false, 0, "", none⟩

/-- A failure that is retried after `wait` nanoseconds. -/
def Failure.retryAfterWait (kind : FailureKind) (message : String) (wait : Nat) : Failure :=
  ⟨kind, message, 0, true, wait, "", none⟩

/-- Whether `part` occurs in `s`. -/
def containsText (s part : String) : Bool := (s.splitOn part).length > 1

/-- Classifies an HTTP status with the response body. -/
def classifyStatus (status : Int) (body : String) : Failure :=
  if status = 401 then
    { kind := .authentication, message := "authentication failed", statusCode := status,
      suggestion := "check ELSEQL_USERNAME and ELSEQL_PASSWORD, or the AWS credentials when ELSEQL_REGION is set" }
  else if status = 403 then
    { kind := .authentication, message := "access denied", statusCode := status,
      suggestion := "check that the credentials are allowed to search this index" }
  else if status = 404 then
    { kind := .notFound, message := "index or endpoint not found", statusCode := status,
      suggestion := "check the endpoint URL and the index name" }
  else if status = 408 then
    { kind := .networkTimeout, message := "request timed out", statusCode := status,
      retryable := true, retryAfter := 5 * second }
  else if status = 429 then
    { kind := .rateLimit, message := "rate limited by the engine", statusCode := status,
      retryable := true,
      retryAfter := (if containsText body "retry after" then 30 else 10) * second,
      suggestion := "lower ELSEQL_RATE_LIMIT" }
  else if status = 500 ∨ status = 502 ∨ status = 503 ∨ status = 504 then
    { kind := .server, message := "engine server error", statusCode := status, retryable := true,
      retryAfter := 10 * second, suggestion := "check the cluster health" }
  else
    { kind := .unknown, message := "unexpected HTTP status: " ++ body, statusCode := status,
      retryable := status ≥ 500, retryAfter := 5 * second }

/-- Classifies a failure to reach the engine by its text. -/
def classifyConnection (text : String) : Failure :=
  if containsText text "timeout" then
    { kind := .networkTimeout, message := text, retryable := true, retryAfter := 5 * second,
      suggestion := "check the network and the endpoint", cause := some text }
  else if containsText text "connection refused" then
    { kind := .connection, message := text, suggestion := "check the endpoint host and port",
      cause := some text }
  else if containsText text "no such host" then
    { kind := .connection, message := text, suggestion := "check the endpoint host name",
      cause := some text }
  else
    { kind := .unknown, message := text, retryable := true, retryAfter := 10 * second,
      suggestion := "check the network", cause := some text }

end SqlSearch.Engine
