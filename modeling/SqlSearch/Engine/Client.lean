import SqlSearch.Engine.Settings
import SqlSearch.Engine.Failure
import SqlSearch.Host.Basic
import SqlSearch.Json.Record
import SqlSearch.Json.Writer
import SqlSearch.Text.Blank
/-! The engine client. A request is sent with its parameters, its JSON body and the basic
credentials when both user name and password are set. A reply with status 429 or from 500 up
is a failure classified by its status; a failure to reach the engine is classified by its text.
Retryable failures are tried again, up to the configured number of retries, each retry after
twice the wait of the one before, starting from the configured delay and multiplied as 64-bit
integers; after the last attempt the failure is wrapped with the operation and the number of
attempts. When the engine
did answer, its body is given back even after failures, so that its own error can be shown; a
body that is not JSON is wrapped in the engine's error shape. -/
namespace SqlSearch.Engine

open SqlSearch.Host

/-- The reason phrase of an HTTP status. -/
def statusText (status : Nat) : String :=
  match status with
  | 100 => "Continue" | 101 => "Switching Protocols" | 102 => "Processing" | 103 => "Early Hints"
  | 200 => "OK" | 201 => "Created" | 202 => "Accepted" | 203 => "Non-Authoritative Information"
  | 204 => "No Content" | 205 => "Reset Content" | 206 => "Partial Content"
  | 207 => "Multi-Status" | 208 => "Already Reported" | 226 => "IM Used"
  | 300 => "Multiple Choices" | 301 => "Moved Permanently" | 302 => "Found"
  | 303 => "See Other" | 304 => "Not Modified" | 305 => "Use Proxy"
  | 307 => "Temporary Redirect" | 308 => "Permanent Redirect"
  | 400 => "Bad Request" | 401 => "Unauthorized" | 402 => "Payment Required"
  | 403 => "Forbidden" | 404 => "Not Found" | 405 => "Method Not Allowed"
  | 406 => "Not Acceptable" | 407 => "Proxy Authentication Required"
  | 408 => "Request Timeout" | 409 => "Conflict" | 410 => "Gone" | 411 => "Length Required"
  | 412 => "Precondition Failed" | 413 => "Request Entity Too Large"
  | 414 => "Request URI Too Long" | 415 => "Unsupported Media Type"
  | 416 => "Requested Range Not Satisfiable" | 417 => "Expectation Failed"
  | 418 => "I'm a teapot" | 421 => "Misdirected Request" | 422 => "Unprocessable Entity"
  | 423 => "Locked" | 424 => "Failed Dependency" | 425 => "Too Early"
  | 426 => "Upgrade Required" | 428 => "Precondition Required" | 429 => "Too Many Requests"
  | 431 => "Request Header Fields Too Large" | 451 => "Unavailable For Legal Reasons"
  | 500 => "Internal Server Error" | 501 => "Not Implemented" | 502 => "Bad Gateway"
  | 503 => "Service Unavailable" | 504 => "Gateway Timeout"
  | 505 => "HTTP Version Not Supported" | 506 => "Variant Also Negotiates"
  | 507 => "Insufficient Storage" | 508 => "Loop Detected" | 510 => "Not Extended"
  | 511 => "Network Authentication Required"
  | _ => ""

/-- The body the caller sees: JSON as it is, anything else wrapped with the status. -/
def engineBody (status : Nat) (data : String) : String :=
  if (Json.parse? data).isSome then data
  else
    let msg := Text.trimBlank data
    let msg := if msg.isEmpty then statusText status else msg
    Json.render true (.obj [("error", .str ("HTTP " ++ toString status ++ ": " ++ msg)),
      ("status", .int status)])

/-- A failed call: its message and the classified failure it carries, if any. -/
structure CallError where
  message : String
  failure : Option Failure := none
  deriving Repr, Inhabited

/-- An engine client: its checked settings. -/
structure Client where
  settings : Settings
  deriving Inhabited

/-- The engine's address. -/
def Client.url (c : Client) : String := c.settings.endpoint

/-- The request for a path with parameters and an optional JSON body. -/
def Client.request (c : Client) (path : String) (params : List (String × String))
    (body : Option String) : HttpRequest :=
  let s := c.settings
  { path := "/" ++ (if path.startsWith "/" then (path.drop 1).toString else path)
    query := params, body := body
    contentType := body.map fun _ => "application/json"
    opaqueId := true
    basicAuth := if s.region.isEmpty ∧ !s.username.isEmpty ∧ !s.password.isEmpty
      then some (s.username, s.password) else none }

/-- A call fails with a classified failure carried as the cause. -/
def Failure.toCallError (f : Failure) : CallError := { message := f.text, failure := some f }

/-- Whether the retry loop tries a call again: its failure is classified and retryable. -/
def CallError.retryable (e : CallError) : Bool :=
  match e.failure with
  | some f => f.retryable
  | none => false

/-- The failure after the last allowed attempt: the operation, the number of attempts and the
last failure's text; the last failure stays its cause. -/
def CallError.afterAttempts (name : String) (attempts : Int) (e : CallError) : CallError :=
  { message := name ++ " operation failed after " ++ toString attempts ++ " attempts, last error: " ++
      e.message
    failure := e.failure }

/-- `2 ^ k` taken from a double to a 64-bit integer: exact below `2 ^ 63`; a larger power is out
of range and converts, as on amd64, to the least 64-bit integer. -/
def powerOfTwo (k : Nat) : Int :=
  if k < 63 then Nat.pow 2 k else -9223372036854775808

/-- The wait before attempt `attempt` (counted from 0), in nanoseconds: `2 ^ (attempt - 1)`
times the retry delay, multiplied as 64-bit integers, which wrap. -/
def Settings.backoff (s : Settings) (attempt : Nat) : Int :=
  Int.bmod (powerOfTwo (attempt - 1) * s.retryDelay) 18446744073709551616

variable {m : Type → Type} [Monad m] {α : Type}

/-- The tries of an operation from attempt `attempt` on, with `left` more allowed after it. Each
attempt but the first waits its backoff; a success or a failure that is not retryable ends the
tries, and a retryable failure with none left is wrapped with the number of attempts. -/
def Client.retryFrom (c : Client) (wait : Int → m Unit) (name : String)
    (op : m (α × Option CallError)) (attempt left : Nat) : m (α × Option CallError) := do
  if attempt > 0 then wait (c.settings.backoff attempt)
  let (a, err) ← op
  match err with
  | none => return (a, none)
  | some e =>
    if !e.retryable then return (a, some e)
    else
      match left with
      | 0 => return (a, some (e.afterAttempts name (c.settings.maxRetries + 1)))
      | left + 1 => c.retryFrom wait name op (attempt + 1) left
termination_by structural left

/-- Runs an operation until it succeeds or fails for good, at most `maxRetries + 1` times; gives
what the last run gave and the failure that ended the tries, if any. -/
def Client.executeWithRetry (c : Client) (wait : Int → m Unit) (name : String)
    (op : m (α × Option CallError)) : m (α × Option CallError) :=
  c.retryFrom wait name op 0 c.settings.maxRetries.toNat

/-- What an attempt of a GET makes of the engine's answer: the reply, if there is one, and the
failure: a failure to connect classified by its text, a reply with status 429 or from 500 up
classified by its status. -/
def attemptOutcome (answer : Except String Reply) : Option Reply × Option CallError :=
  match answer with
  | .error e => (none, some (classifyConnection e).toCallError)
  | .ok r =>
    if r.status = 429 ∨ r.status ≥ 500 then (some r, some (classifyStatus r.status r.body).toCallError)
    else (some r, none)

/-- Sends a GET request and gives the engine's body. -/
def Client.get (h : Host m) (c : Client) (path : String) (params : List (String × String))
    (body : Option Json) : m (Except CallError String) := do
  let req := c.request path params (body.map fun b => Json.render true (Json.sortKeys b))
  let (last, err) ← c.executeWithRetry h.sleep ("GET " ++ path) (attemptOutcome <$> h.send c.url req)
  match err, last with
  | none, some r => return .ok (engineBody r.status r.body)
  | none, none => return .ok ""
  | some e, some r =>
    match e.failure with
    | some f => if f.statusCode > 0 then return .ok (engineBody r.status r.body) else return .error e
    | none => return .error e
  | some e, none => return .error e

/-- The member `error` of a mapping reply, as source text, when the reply is an object. -/
def mappingError? (raw : String) : Option String :=
  let read := Json.readRecord {} "struct"
    [("error", fun (_ : Option String) v => pure (some v))] none raw
  match read.result with
  | .ok (some e) => if e.isEmpty then none else some e
  | _ => none

/-- Fetches the mapping of every index. -/
def Client.getMapping (h : Host m) (c : Client) : m (Except CallError String) := do
  match ← c.get h "_mapping" [] none with
  | .error e => return .error e
  | .ok raw =>
    match mappingError? raw with
    | some e =>
      let f := Failure.plain .notFound ("mapping request failed: " ++ e)
      return .error { message := f.text, failure := some f }
    | none => return .ok raw

/-- Checks that the engine answers its health endpoint. -/
def Client.healthCheck (h : Host m) (c : Client) : m (Except String Unit) := do
  match ← h.send c.url (c.request "/_cluster/health" [] none) with
  | .error e => return .error ("health check failed: " ++ e)
  | .ok r =>
    if r.status ≥ 400 then
      return .error ("health check failed: status: " ++ toString r.status ++ ", " ++ r.body)
    else return .ok ()

end SqlSearch.Engine
