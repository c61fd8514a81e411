import SqlSearch.Command.Run
import Std.Time.Format
/-! The command line on the running system. The host reads the process environment, the
files under the working directory and the standard streams; it has no secret store, object
store or network transport, so those operations fail with a message that says so, and
directories can be told apart from files but not listed. A command that fails prints its
error after a timestamp on the diagnostic stream and exits with status 1. -/
namespace SqlSearch.Host

/-- A system message as failures write it: its first letter in lowercase. -/
def lowerFirst (s : String) : String :=
  match s.toList with
  | c :: cs => String.ofList (c.toLower :: cs)
  | [] => s

/-- The reason a system call failed, from the error the runtime reports. -/
def problemOf (e : IO.Error) : Problem :=
  match e with
  | .noFileOrDirectory _ _ _ => .notFound
  | .inappropriateType _ code details =>
    if code = 20 then .notDirectory
    else if code = 21 then .isDirectory
    else .other (lowerFirst details)
  | .alreadyExists _ _ _ => .alreadyExists
  | .resourceExhausted _ code details =>
    if code = 28 then .noSpace else .other (lowerFirst details)
  | .permissionDenied _ _ details => .other (lowerFirst details)
  | e => .other (toString e)

/-- Runs a system action, turning a failure into the failed operation on a path. -/
def guarded {α : Type} (op path : String) (act : IO α) : IO (Except IoError α) := do
  try
    let a ← act
    return .ok a
  catch e =>
    return .error ⟨op, path, problemOf e⟩

/-- What a path names: a path that opens but cannot be read from is a directory. -/
def statPath (p : String) : IO (Except IoError Kind) := do
  match ← guarded "stat" p (IO.FS.Handle.mk p .read) with
  | .error e => return .error e
  | .ok handle =>
    match ← guarded "read" p (handle.read 1) with
    | .ok _ => return .ok .file
    | .error _ => return .ok .directory

/-- Appends text to a file, creating it when it is missing. -/
def appendText (p text : String) : IO (Except IoError Unit) := do
  match ← guarded "open" p (IO.FS.Handle.mk p .append) with
  | .error e => return .error e
  | .ok handle => guarded "write" p (do handle.putStr text; handle.flush)

/-- Writes text to standard output at once. -/
def writeStdout (text : String) : IO Unit := do
  let out ← IO.getStdout
  out.putStr text
  out.flush

/-- Why the services this build does not reach fail. -/
def unreachable (service : String) : String := "no " ++ service ++ " is reachable from this host"

/-- The running system. -/
def system : Host IO where
  getEnv name := IO.getEnv name
  stat p := statPath p
  readFile p := guarded "open" p (IO.FS.readFile p)
  readDir p := return .error ⟨"open", p, .other "directory listing is not supported"⟩
  mkdir p := guarded "mkdir" p (IO.FS.createDir p)
  createFile p := guarded "open" p (IO.FS.writeFile p "")
  appendFile p text := appendText p text
  readLine := do
    let line ← (← IO.getStdin).getLine
    return if line.isEmpty then none else some line
  prompt text := writeStdout text
  writeOut text := guarded "write" "/dev/stdout" (writeStdout text)
  warn text := do (← IO.getStderr).putStrLn text
  today := do return toString (← Std.Time.PlainDate.now)
  fetchSecret _ _ := return .error (unreachable "secret store")
  objectClient _ := return .error (unreachable "object store")
  listObjects _ _ _ := return .error (unreachable "object store")
  getObject _ _ := return .error (unreachable "object store")
  putObject _ _ _ _ := return .error (unreachable "object store")
  send url _ := return .error ("dial tcp " ++ url ++ ": " ++ unreachable "network transport")
  sleep d := if d > 0 then IO.sleep (min (d / 1000000) 4294967295).toNat.toUInt32 else pure ()

/-- The timestamp a fatal message starts with, `YYYY/MM/DD hh:mm:ss`, from a date-time
written as `YYYY-MM-DDThh:mm:ss.fraction`. -/
def stamp (now : String) : String :=
  match now.splitOn "T" with
  | [date, time] => "/".intercalate (date.splitOn "-") ++ " " ++ String.ofList (time.toList.take 8)
  | _ => now

end SqlSearch.Host

open SqlSearch in
/-- Runs the command the arguments name; a failure is reported and gives status 1. -/
def main (args : List String) : IO UInt32 := do
  match ← Command.execute Host.system (Command.loadConfig Host.system) args with
  | none => return 0
  | some e =>
    let now ← Std.Time.PlainDateTime.now
    (← IO.getStderr).putStrLn (Host.stamp (toString now) ++ " " ++ e)
    return 1
