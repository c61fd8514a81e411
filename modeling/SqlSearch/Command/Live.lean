import SqlSearch.Session
import SqlSearch.Engine.Client
import SqlSearch.Export.Sink
/-! A session talking to the engine through the host. Opening it checks the engine's health:
on failure the failure is written (ignoring write failures) and the session echoes locally;
on success the mapping is fetched at once. Searches write their lines to a sink, a line at a
time, and stop at the first line that cannot be written. -/
namespace SqlSearch.Command

open SqlSearch.Host SqlSearch.Response

/-- A session and, when it is connected, the client it sends requests with. -/
structure Live where
  session : Session
  client : Option Engine.Client

variable {m : Type → Type} [Monad m]

/-- Writes lines to a sink, stopping at the first failure. -/
def writeLines (h : Host m) (sink : Export.Sink) : List String → m (Except String Unit × Export.Sink)
  | [] => return (.ok (), sink)
  | l :: ls => do
    match ← sink.write h (l ++ "\n") with
    | .error e => return (.error ("failed to write line: " ++ e), sink)
    | .ok sink => writeLines h sink ls

/-- Makes sure the session's mapping was fetched, fetching it through the client if needed. -/
def Live.fetchMapping (h : Host m) (live : Live) : m Live := do
  match live.client with
  | none => return live
  | some c =>
    if live.session.cache.populated then return live
    let reply ← c.getMapping h
    let reply : Except String String := reply.mapError (·.message)
    let cache := { live.session.cache with source := some fun _ => reply }
    let (_, cache) := cache.mapping
    return { live with session := { live.session with cache := cache } }

/-- The completion keywords, fetching the mapping if needed. -/
def Live.keywords (h : Host m) (live : Live) : m (List String × Live) := do
  let live ← live.fetchMapping h
  let (ks, s) := live.session.keywords
  return (ks, { live with session := s })

/-- Opens a session on a client, writing a failed health check to the sink. -/
def openLive (h : Host m) (client : Engine.Client) (debug : Bool) (sink : Export.Sink) :
    m (Live × Export.Sink) := do
  match ← client.healthCheck h with
  | .error e =>
    let (_, sink) ← writeLines h sink (transportFailure client.url (some e)).lines
    let s := Session.create none
    return (⟨if debug then s.setDebug true else s, none⟩, sink)
  | .ok () =>
    let s := Session.create (some ⟨client.url, fun _ => .error "not fetched"⟩)
    let live ← Live.fetchMapping h ⟨{ s with cache := { s.cache with source := none } }, some client⟩
    return ({ live with session := if debug then live.session.setDebug true else live.session }, sink)

/-- Runs one statement, writing its lines to the sink: how it ended, and the failure to write
if there was one. -/
def Live.search (h : Host m) (live : Live) (sink : Export.Sink) (text : String)
    (explain validate : Bool) : m (Status × Except String Unit × Export.Sink) := do
  match live.session.prepare text explain validate with
  | .error run =>
    let (w, sink) ← writeLines h sink run.written
    return (run.status, w, sink)
  | .ok r =>
    let (w, sink) ← writeLines h sink r.echo
    match w with
    | .error e => return (.notSent, .error e, sink)
    | .ok () =>
      match live.client with
      | none => return (.notSent, .ok (), sink)
      | some c =>
        let reply ← c.get h r.sent.path (r.sent.params.getD []) (some r.sent.body)
        let (lines, status) := live.session.answer r (reply.mapError (·.message))
        let (w, sink) ← writeLines h sink lines
        return (status, w, sink)

end SqlSearch.Command
