import SqlSearch.Host.Basic
import SqlSearch.Host.Path
/-! A model of the system: a tree of files and directories kept as a table of absolute paths,
the environment, standard input and output, a secret store, an object store and the engine,
with a record of the calls made to the stores and the engine and of the waits. `World.host`
runs the program's logic on it in the state monad. A path is resolved against the working directory; every
directory above it must exist, else the operation fails as the system does (`no such file or
directory`, `not a directory`). A device entry accepts being opened and fails every write. -/
namespace SqlSearch.Host

/-- What a path holds. -/
inductive Entry where
  | file (content : String)
  | directory
  /-- A device whose writes fail. -/
  | device (problem : Problem)
  deriving Repr, Inhabited

/-- An object kept by the object store. -/
structure StoredObject where
  bucket : String
  key : String
  content : String
  deriving Repr, Inhabited

/-- An upload made to the object store. -/
structure Upload where
  bucket : String
  key : String
  body : String
  contentType : String
  deriving Repr, Inhabited

/-- The model of the system. -/
structure World where
  cwd : String := "/"
  env : List (String × String) := []
  entries : List (String × Entry) := [("/", .directory)]
  input : List Char := []
  prompts : String := ""
  out : String := ""
  warnings : List String := []
  date : String := "1970-01-01"
  secret : Except String (Option String) := .error "no secret configured"
  secretCalls : List String := []
  objectClientError : Option String := none
  objectClientCalls : Nat := 0
  buckets : Option (List String) := none
  objects : List StoredObject := []
  pageSize : Nat := 1000
  listError : Option String := none
  getErrors : List (String × String) := []
  putError : Option String := none
  listCalls : List (String × String × Option String) := []
  getCalls : List (String × String) := []
  uploads : List Upload := []
  /-- When set, every request to the engine fails with this text for the address. -/
  connectFailure : Option (String → String) := none
  replies : List Reply := []
  requests : List HttpRequest := []
  /-- The waits made, in nanoseconds, in order. -/
  waits : List Int := []
  deriving Inhabited

namespace World

/-- The entry at an absolute path. -/
def lookup (w : World) (abs : String) : Option Entry :=
  (w.entries.find? (·.1 = abs)).map Prod.snd

/-- Sets the entry at an absolute path. -/
def put (w : World) (abs : String) (e : Entry) : World :=
  { w with entries := (w.entries.filter (·.1 ≠ abs)) ++ [(abs, e)] }

/-- Checks that every directory above an absolute path exists. -/
def checkParents (w : World) (op path abs : String) : Except IoError Unit :=
  (ancestors abs).foldlM (fun () a =>
    match w.lookup a with
    | some .directory => .ok ()
    | some _ => .error ⟨op, path, .notDirectory⟩
    | none => .error ⟨op, path, .notFound⟩) ()

/-- The entry a path names, for an operation. -/
def locate (w : World) (op path : String) : Except IoError (String × Entry) := do
  if path.isEmpty then throw ⟨op, path, .notFound⟩
  let abs := absolutePath w.cwd path
  w.checkParents op path abs
  match w.lookup abs with
  | some e => return (abs, e)
  | none => throw ⟨op, path, .notFound⟩

/-- Adds a file with its content, creating the directories above it. -/
def addFile (w : World) (path content : String) : World :=
  let abs := absolutePath w.cwd path
  let w := (ancestors abs).foldl (fun w a =>
    match w.lookup a with
    | some .directory => w
    | _ => w.put a .directory) w
  w.put abs (.file content)

/-- Adds a directory and the directories above it. -/
def addDirectory (w : World) (path : String) : World :=
  let abs := absolutePath w.cwd path
  (ancestors abs ++ [abs]).foldl (fun w a =>
    match w.lookup a with
    | some .directory => w
    | _ => w.put a .directory) w

/-- The content of a file, none when the path holds no file. -/
def fileContent? (w : World) (path : String) : Option String :=
  match w.lookup (absolutePath w.cwd path) with
  | some (.file c) => some c
  | _ => none

/-- The next line of input, with its line feed when it has one. -/
def nextLine (w : World) : Option String × World :=
  match w.input with
  | [] => (none, w)
  | cs =>
    let line := cs.takeWhile (· ≠ '\n')
    let rest := cs.drop line.length
    match rest with
    | _ :: after => (some (String.ofList (line ++ ['\n'])), { w with input := after })
    | [] => (some (String.ofList line), { w with input := [] })

/-- The keys of a bucket, in the order they are kept. -/
def bucketKeys (w : World) (bucket : String) : List String :=
  (w.objects.filter (·.bucket = bucket)).map (·.key)

/-- Whether a bucket exists. -/
def hasBucket (w : World) (bucket : String) : Bool :=
  match w.buckets with
  | some bs => bs.contains bucket
  | none => true

/-- The model's operations, in the state monad over the world. -/
def host : Host (StateM World) where
  getEnv name := do
    let w ← get
    return (w.env.find? (·.1 = name)).map Prod.snd
  stat path := do
    let w ← get
    return (w.locate "stat" path).map fun (_, e) =>
      match e with
      | .directory => .directory
      | _ => .file
  readFile path := do
    let w ← get
    return match w.locate "open" path with
      | .error e => .error e
      | .ok (_, .file c) => .ok c
      | .ok (_, .directory) => .error ⟨"read", path, .isDirectory⟩
      | .ok (_, .device _) => .ok ""
  readDir path := do
    let w ← get
    return match w.locate "open" path with
      | .error e => .error e
      | .ok (abs, .directory) =>
        let children := w.entries.filterMap fun (p, e) =>
          if p ≠ abs ∧ dirPath p = abs then
            some (basePath p, match e with
              | .directory => Kind.directory
              | _ => Kind.file)
          else none
        .ok (children.mergeSort fun a b => a.1 ≤ b.1)
      | .ok _ => .error ⟨"readdirent", path, .notDirectory⟩
  mkdir path := do
    let w ← get
    let abs := absolutePath w.cwd path
    match w.checkParents "mkdir" path abs with
    | .error e => return .error e
    | .ok () =>
      match w.lookup abs with
      | some _ => return .error ⟨"mkdir", path, .alreadyExists⟩
      | none =>
        set (w.put abs .directory)
        return .ok ()
  createFile path := do
    let w ← get
    let abs := absolutePath w.cwd path
    match w.checkParents "open" path abs with
    | .error e => return .error e
    | .ok () =>
      match w.lookup abs with
      | some .directory => return .error ⟨"open", path, .isDirectory⟩
      | some (.device _) => return .ok ()
      | _ =>
        set (w.put abs (.file ""))
        return .ok ()
  appendFile path text := do
    let w ← get
    let abs := absolutePath w.cwd path
    match w.lookup abs with
    | some (.file c) =>
      set (w.put abs (.file (c ++ text)))
      return .ok ()
    | some (.device p) => return .error ⟨"write", path, p⟩
    | _ => return .error ⟨"write", path, .closed⟩
  readLine := do
    let w ← get
    let (line, w) := w.nextLine
    set w
    return line
  prompt text := modify fun w => { w with prompts := w.prompts ++ text }
  writeOut text := do
    modify fun w => { w with out := w.out ++ text }
    return .ok ()
  warn text := modify fun w => { w with warnings := w.warnings ++ [text] }
  today := do return (← get).date
  fetchSecret _ id := do
    modify fun w => { w with secretCalls := w.secretCalls ++ [id] }
    return (← get).secret
  objectClient _ := do
    modify fun w => { w with objectClientCalls := w.objectClientCalls + 1 }
    return match (← get).objectClientError with
      | some e => .error e
      | none => .ok ()
  listObjects bucket pre token := do
    modify fun w => { w with listCalls := w.listCalls ++ [(bucket, pre, token)] }
    let w ← get
    match w.listError with
    | some e => return .error e
    | none =>
      if !w.hasBucket bucket then return .error "NoSuchBucket"
      let keys := (w.bucketKeys bucket).filter (·.startsWith pre)
      let start := (token.bind String.toNat?).getD 0
      let size := max w.pageSize 1
      let next := if start + size < keys.length then some (toString (start + size)) else none
      return .ok ⟨(keys.drop start).take size, next⟩
  getObject bucket key := do
    modify fun w => { w with getCalls := w.getCalls ++ [(bucket, key)] }
    let w ← get
    match (w.getErrors.find? (·.1 = key)).map Prod.snd with
    | some e => return .error e
    | none =>
      if !w.hasBucket bucket then return .error "NoSuchBucket"
      match w.objects.find? (fun o => o.bucket = bucket ∧ o.key = key) with
      | some o => return .ok o.content
      | none => return .error "NoSuchKey"
  putObject bucket key body contentType := do
    modify fun w => { w with uploads := w.uploads ++ [⟨bucket, key, body, contentType⟩] }
    let w ← get
    match w.putError with
    | some e => return .error e
    | none =>
      if !w.hasBucket bucket then return .error "NoSuchBucket"
      let kept := w.objects.filter fun (o : StoredObject) => !(o.bucket = bucket ∧ o.key = key)
      set { w with objects := kept ++ [({ bucket := bucket, key := key, content := body } : StoredObject)] }
      return .ok ()
  send url req := do
    let w ← get
    match w.connectFailure with
    | some f => return .error (f url)
    | none =>
      let k := w.requests.length
      set { w with requests := w.requests ++ [req] }
      match w.replies[k]? <|> w.replies.getLast? with
      | some r => return .ok r
      | none => return .ok ⟨200, "\x7b\x7d"⟩
  sleep d := modify fun w => { w with waits := w.waits ++ [d] }

end World

end SqlSearch.Host
