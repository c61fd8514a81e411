/-! What the program needs from the system it runs on: environment variables, files and
directories, the standard streams, the date, a secret store, an object store, the network
path to the engine and a clock to wait on. The program's logic is written against `Host m` for
any monad `m`, so the same definitions run on the real system and on a model of it. File operations fail with the
operation, the path as given and the reason, as the system reports them. -/
namespace SqlSearch.Host

/-- Why a file operation failed. -/
inductive Problem where
  | notFound
  | notDirectory
  | isDirectory
  | noSpace
  | closed
  | alreadyExists
  /-- Any other reason, by its text. -/
  | other (text : String)
  deriving Repr, DecidableEq, Inhabited

/-- The system's text for a reason. -/
def Problem.text : Problem → String
  | .notFound => "no such file or directory"
  | .notDirectory => "not a directory"
  | .isDirectory => "is a directory"
  | .noSpace => "no space left on device"
  | .closed => "file already closed"
  | .alreadyExists => "file exists"
  | .other t => t

/-- A failed file operation: the operation, the path as given and the reason. -/
structure IoError where
  op : String
  path : String
  problem : Problem
  deriving Repr, DecidableEq, Inhabited

/-- The message of a failed file operation. -/
def IoError.message (e : IoError) : String := e.op ++ " " ++ e.path ++ ": " ++ e.problem.text

/-- Whether the failure says the file does not exist. -/
def IoError.notExist (e : IoError) : Bool := e.problem = .notFound

/-- What a path names. -/
inductive Kind where
  | file
  | directory
  deriving Repr, DecidableEq, Inhabited

/-- An HTTP request to the engine. -/
structure HttpRequest where
  method : String := "GET"
  path : String
  query : List (String × String) := []
  body : Option String := none
  contentType : Option String := none
  opaqueId : Bool := false
  basicAuth : Option (String × String) := none
  deriving Repr, Inhabited

/-- An HTTP reply: status and body. -/
structure Reply where
  status : Nat
  body : String
  deriving Repr, Inhabited

/-- One page of an object listing: the keys and the token of the next page, if any. -/
structure ObjectPage where
  keys : List String
  next : Option String
  deriving Repr, Inhabited

/-- The operations of the system, in a monad `m`. -/
structure Host (m : Type → Type) where
  /-- The value of an environment variable, none when it is not set. -/
  getEnv : String → m (Option String)
  /-- What a path names. -/
  stat : String → m (Except IoError Kind)
  /-- The content of a file. -/
  readFile : String → m (Except IoError String)
  /-- The entries of a directory with their kinds, by increasing name. -/
  readDir : String → m (Except IoError (List (String × Kind)))
  /-- Creates a directory whose parent exists. -/
  mkdir : String → m (Except IoError Unit)
  /-- Creates a file, or empties an existing one. -/
  createFile : String → m (Except IoError Unit)
  /-- Appends text to a file. -/
  appendFile : String → String → m (Except IoError Unit)
  /-- The next line of standard input with its line feed when it has one, none at the end. -/
  readLine : m (Option String)
  /-- Writes a prompt to standard output. -/
  prompt : String → m Unit
  /-- Writes to the command's output. -/
  writeOut : String → m (Except IoError Unit)
  /-- Reports a warning on the diagnostic stream. -/
  warn : String → m Unit
  /-- Today's date, `YYYY-MM-DD`. -/
  today : m String
  /-- The secret of an id, from the store of a region: none when it has no text. -/
  fetchSecret : String → String → m (Except String (Option String))
  /-- Prepares an object store client for a region. -/
  objectClient : String → m (Except String Unit)
  /-- Lists a page of the keys of a bucket with a prefix, after a continuation token. -/
  listObjects : String → String → Option String → m (Except String ObjectPage)
  /-- The content of an object. -/
  getObject : String → String → m (Except String String)
  /-- Stores an object: bucket, key, body and content type. -/
  putObject : String → String → String → String → m (Except String Unit)
  /-- Sends a request to the engine at an address and gives its reply. -/
  send : String → HttpRequest → m (Except String Reply)
  /-- Waits a number of nanoseconds; a wait that is not positive ends at once. -/
  sleep : Int → m Unit

end SqlSearch.Host
