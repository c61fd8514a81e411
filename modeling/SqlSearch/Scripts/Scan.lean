import SqlSearch.Host.Files
/-! Finding scripts. A script path is a local file, a local directory, or an object store path
`s3://bucket/key`. A file is read whatever its name; a directory gives every file beneath it
whose extension is `.sql` in any case, ordered by path. An object key is downloaded; a key that
is empty or ends in `/` is a prefix, and every script under it is listed page by page and
downloaded in increasing key order. -/
namespace SqlSearch.Scripts

open SqlSearch.Host

/-- A script: where it was found and its text. -/
structure Script where
  path : String
  content : String
  deriving Repr, Inhabited

/-- Whether a character folds to `s`: `s`, `S` and the long s. -/
def foldsToS (c : Char) : Bool := c = 's' || c = 'S' || c = 'ſ'

/-- Whether a path names a script: its extension is `.sql` up to case folding. -/
def isScriptFile (path : String) : Bool :=
  match (extension path).toList with
  | ['.', s, q, l] => foldsToS s && (q = 'q' || q = 'Q') && (l = 'l' || l = 'L')
  | _ => false

/-- Whether a path is an object store path. -/
def isObjectPath (path : String) : Bool := path.startsWith "s3://"

/-- The bucket and key of an object store path. -/
def parseObjectPath (path : String) : Except String (String × String) :=
  if !isObjectPath path then .error ("invalid S3 path format: " ++ path)
  else
    let rest := (path.drop 5).toString
    let bucket := String.ofList (rest.toList.takeWhile (· ≠ '/'))
    let key := String.ofList ((rest.toList.dropWhile (· ≠ '/')).drop 1)
    if bucket.isEmpty then .error ("S3 bucket name is required: " ++ path) else .ok (bucket, key)

variable {m : Type → Type} [Monad m]

/-- The keys of the scripts under a prefix, following continuation tokens for at most
`fuel` pages, in increasing order. -/
def listScriptsFuel (h : Host m) (bucket pre : String) :
    Nat → Option String → List String → m (Except String (List String))
  | 0, _, found => return .ok (found.mergeSort (· ≤ ·))
  | fuel + 1, token, found => do
    match ← h.listObjects bucket pre token with
    | .error e => return .error ("failed to list objects in s3://" ++ bucket ++ "/" ++ pre ++ ": " ++ e)
    | .ok page =>
      let keys := page.keys.filter fun k => !k.endsWith "/" && isScriptFile k
      match page.next with
      | some t =>
        if t.isEmpty then return .ok ((found ++ keys).mergeSort (· ≤ ·))
        else listScriptsFuel h bucket pre fuel (some t) (found ++ keys)
      | none => return .ok ((found ++ keys).mergeSort (· ≤ ·))

/-- The keys of the scripts under a prefix, in increasing order. -/
def listScripts (h : Host m) (bucket pre : String) : m (Except String (List String)) :=
  listScriptsFuel h bucket pre 100000 none []

/-- The text of an object. -/
def download (h : Host m) (bucket key : String) : m (Except String String) := do
  match ← h.getObject bucket key with
  | .ok text => return .ok text
  | .error e => return .error ("failed to download s3://" ++ bucket ++ "/" ++ key ++ ": " ++ e)

/-- The scripts of an object store path. -/
def scanObjects (h : Host m) (path : String) : m (Except String (List Script)) := do
  match parseObjectPath path with
  | .error e => return .error e
  | .ok (bucket, key) =>
    if !key.isEmpty ∧ !key.endsWith "/" then
      return (fun text => [⟨path, text⟩]) <$> (← download h bucket key)
    match ← listScripts h bucket key with
    | .error e => return .error e
    | .ok keys =>
      keys.foldlM (fun acc k => do
        match acc with
        | .error e => return .error e
        | .ok found =>
          match ← download h bucket k with
          | .ok text => return .ok (found ++ [⟨"s3://" ++ bucket ++ "/" ++ k, text⟩])
          | .error e => return .error e) (.ok [])

/-- The scripts under a local directory, by path. -/
def scanDirectory (h : Host m) (dir : String) : m (Except String (List Script)) := do
  let failed (e : String) := "failed to scan directory " ++ dir ++ ": " ++ e
  match ← walkFiles h dir with
  | .error e => return .error (failed e.message)
  | .ok paths =>
    let found ← (paths.filter isScriptFile).foldlM (fun (acc : Except String (List Script)) p => do
      match acc with
      | .error e => return .error e
      | .ok found =>
        match ← h.readFile p with
        | .ok text => return .ok (found ++ [⟨p, text⟩])
        | .error e => return .error (failed ("failed to read " ++ p ++ ": " ++ e.message)))
      (.ok [])
    return found.map fun ss => ss.mergeSort fun a b => a.path ≤ b.path

/-- The scripts of a local path. -/
def scanLocal (h : Host m) (path : String) : m (Except String (List Script)) := do
  match ← h.stat path with
  | .error e =>
    return .error (if e.notExist then "script does not exist: " ++ path
      else "cannot access " ++ path ++ ": " ++ e.message)
  | .ok .directory => scanDirectory h path
  | .ok .file =>
    match ← h.readFile path with
    | .ok text => return .ok [⟨path, text⟩]
    | .error e => return .error ("failed to read " ++ path ++ ": " ++ e.message)

/-- The scripts of a path; `objects` says whether an object store client is at hand. -/
def scan (h : Host m) (objects : Bool) (path : String) : m (Except String (List Script)) :=
  if isObjectPath path then
    if objects then scanObjects h path
    else return .error ("no S3 client configured for " ++ path)
  else scanLocal h path

end SqlSearch.Scripts
