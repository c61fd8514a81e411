import SqlSearch.Host.Files
import SqlSearch.Scripts.Scan
/-! Where output goes. The target `-` (or nothing) is the command's output; `s3://bucket/key`
is an object, written in one upload when the sink is closed; any other target is a local file,
created with its directory. An object target needs a key that does not end in `/`. Writing to a
closed sink fails; closing an object sink a second time does nothing, closing a file twice
fails. -/
namespace SqlSearch.Export

open SqlSearch.Host

/-- The content type of uploaded output. -/
def csvContentType : String := "text/csv; charset=utf-8"

/-- Where a sink writes. -/
inductive Target where
  | output
  | file (path : String)
  | object (bucket key : String)
  deriving Repr, DecidableEq, Inhabited

/-- The name of a target. -/
def Target.text : Target → String
  | .output => "-"
  | .file path => path
  | .object bucket key => "s3://" ++ bucket ++ "/" ++ key

/-- An open sink: its target, what an object sink holds until it is closed, and whether it
is closed. -/
structure Sink where
  target : Target
  buffer : String := ""
  closed : Bool := false
  deriving Repr, Inhabited

variable {m : Type → Type} [Monad m]

/-- Opens the sink of a target. `objects` says whether object store clients can be made, and
`region` is the region they are made for. -/
def openSink (h : Host m) (objects : Bool) (region target : String) : m (Except String Sink) := do
  if target = "" ∨ target = "-" then return .ok ⟨.output, "", false⟩
  if Scripts.isObjectPath target then
    match Scripts.parseObjectPath target with
    | .error e => return .error e
    | .ok (bucket, key) =>
      if key.isEmpty ∨ key.endsWith "/" then
        return .error ("S3 output needs an object key: " ++ target)
      if !objects then return .error ("no S3 client configured for " ++ target)
      match ← h.objectClient region with
      | .error e => return .error ("failed to create S3 client: " ++ e)
      | .ok () => return .ok ⟨.object bucket key, "", false⟩
  let dir := dirPath target
  if dir ≠ "." then
    match ← mkdirAll h dir with
    | .error e => return .error ("failed to create directory " ++ dir ++ ": " ++ e.message)
    | .ok () => pure ()
  match ← h.createFile target with
  | .error e => return .error ("failed to create " ++ target ++ ": " ++ e.message)
  | .ok () => return .ok ⟨.file target, "", false⟩

/-- Writes text to a sink. -/
def Sink.write (h : Host m) (s : Sink) (text : String) : m (Except String Sink) := do
  match s.target with
  | .output => return (fun () => s) <$> ((← h.writeOut text).mapError (·.message))
  | .file path =>
    if s.closed then return .error (IoError.message ⟨"write", path, .closed⟩)
    return (fun () => s) <$> ((← h.appendFile path text).mapError (·.message))
  | .object _ _ =>
    if s.closed then return .error ("write to closed sink " ++ s.target.text)
    return .ok { s with buffer := s.buffer ++ text }

/-- Closes a sink; an object sink uploads what it holds. -/
def Sink.close (h : Host m) (s : Sink) : m (Except String Unit × Sink) := do
  match s.target with
  | .output => return (.ok (), s)
  | .file path =>
    if s.closed then return (.error (IoError.message ⟨"close", path, .closed⟩), s)
    return (.ok (), { s with closed := true })
  | .object bucket key =>
    if s.closed then return (.ok (), s)
    let s := { s with closed := true }
    match ← h.putObject bucket key s.buffer csvContentType with
    | .ok () => return (.ok (), s)
    | .error e => return (.error ("failed to upload " ++ s.target.text ++ ": " ++ e), s)

end SqlSearch.Export
