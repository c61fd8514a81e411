import SqlSearch.Query.Parser
import SqlSearch.Query.Request
import SqlSearch.Response.Render
import SqlSearch.Schema.Cache
import SqlSearch.Json.Writer
/-! Running statements. A session holds the engine link (none in local echo mode), the mapping
cache and the debug flag; without a link debug is always on and nothing is sent. A search
reads the statement, translates it, echoes the request when debugging (a request without
parameters is then sent with `pretty=true`), sends it, echoes the response when debugging and
prints the rendered outcome. Opening a session checks the engine's health first, falling back
to local echo mode with the failure printed, and fetches the mapping. -/
namespace SqlSearch

open SqlSearch.Query SqlSearch.Response

/-- A connection to the engine: its address and where its mappings come from. -/
structure Link where
  url : String
  mappings : Schema.MappingSource

/-- A session. -/
structure Session where
  link : Option Link
  cache : Schema.Cache
  debug : Bool

/-- What a search did: the lines it wrote, how it ended, and the request it sent. -/
structure SearchRun where
  written : List String
  status : Status
  sent : Option Request

namespace Session

/-- A new session; without a link it echoes locally with debug on. -/
def create (link : Option Link) : Session :=
  ⟨link, { source := link.map (·.mappings) }, link.isNone⟩

/-- Opens a session: a failed health check is printed and leaves the session without link;
with a link the mapping is fetched at once. Gives the lines written. -/
def start (link : Option Link) (health : Option (Except String Unit)) : Session × List String :=
  let (link, written) := match link, health with
    | some l, some (.error e) => (none, (transportFailure l.url (some e)).lines)
    | l, _ => (l, [])
  let s := create link
  if s.link.isSome then ({ s with cache := s.cache.mapping.2 }, written) else (s, written)

/-- Whether requests are sent. -/
def connected (s : Session) : Bool := s.link.isSome

/-- The engine's address, empty without a link. -/
def url (s : Session) : String := (s.link.map (·.url)).getD ""

/-- Turns the echo on or off; it stays on without a link. -/
def setDebug (s : Session) (on : Bool) : Session := { s with debug := on || s.link.isNone }

/-- The completion keywords. -/
def keywords (s : Session) : List String × Session :=
  let (ks, c) := s.cache.keywordList
  (ks, { s with cache := c })

/-- Forgets the cached mapping. -/
def reload (s : Session) : Session := { s with cache := s.cache.invalidate }

end Session

/-- Parameters as the request echo shows them: `{k=v, k=v}`, keys in increasing order. -/
def formatParams (ps : List (String × String)) : String :=
  let sorted := ps.mergeSort fun a b => a.1 ≤ b.1
  "\x7b" ++ ", ".intercalate (sorted.map fun (k, v) => k ++ "=" ++ v) ++ "\x7d"

/-- The echo of a request: a blank line, the method and path with the parameters, and the
body as indented JSON. -/
def requestEcho (r : Request) : List String :=
  let line := match r.params with
    | some (p :: ps) => "GET " ++ r.path ++ " " ++ formatParams (p :: ps)
    | _ => "GET " ++ r.path
  ["", line, "    " ++ Json.renderIndented "    " "  " (Json.sortKeys r.body)]

/-- The echo of a response: its text indented when it is JSON, between blank lines. -/
def responseEcho (raw : String) : List String :=
  ["", "RESPONSE: " ++ (Json.indentText "" "  " raw).getD raw, ""]

/-- A statement read and translated: the query, the request, the request as it is sent (with
`pretty=true` when debugging a request without parameters) and the request echo. -/
structure Ready where
  statement : Statement
  request : Request
  sent : Request
  echo : List String

/-- Reads and translates a statement; a statement that fails gives what the search wrote and
how it ended. -/
def Session.prepare (s : Session) (text : String) (explain validate : Bool) : Except SearchRun Ready :=
  match parse text with
  | .error e => .error ⟨e.caret ++ ["", "ERROR: " ++ e.message], .parseError, none⟩
  | .ok q =>
    match translate q explain validate with
    | .error e => .error ⟨["ERROR: " ++ e.message], .translateError, none⟩
    | .ok req =>
      let echo := if s.debug then requestEcho req else []
      let params := if s.debug && req.params.isNone then some [("pretty", "true")] else req.params
      .ok ⟨q, req, { req with params := params }, echo⟩

/-- What follows the request echo once the engine answered (or could not be reached): the
lines and how the search ended. -/
def Session.answer (s : Session) (r : Ready) (reply : Except String String) : List String × Status :=
  match reply with
  | .error e =>
    let out := transportFailure s.url (some e)
    (out.lines, out.status)
  | .ok raw =>
    let out := render raw (r.statement.projection.getD []) r.statement.facets
    ((if s.debug then responseEcho raw else []) ++ out.lines, out.status)

/-- Runs one statement. `reply` is the engine's answer to the request, or why it could not be
reached. -/
def Session.search (s : Session) (text : String) (explain validate : Bool)
    (reply : Except String String) : SearchRun :=
  match s.prepare text explain validate with
  | .error run => run
  | .ok r =>
    if s.link.isNone then ⟨r.echo, .notSent, none⟩
    else
      let (lines, status) := s.answer r reply
      ⟨r.echo ++ lines, status, some r.sent⟩

end SqlSearch
