import SqlSearch.Host.Files
import SqlSearch.Json.Writer
/-! Invocation counts: how many times each mode (search, validate, explain, shell, run) was
used on each day. The counts live in a file, one row per mode and day, each row a JSON array
`[mode, date, count]`; the file is created with its directory when the store is opened. A
closed store fails every operation. -/
namespace SqlSearch.Stats

open SqlSearch.Host

/-- The modes counted, in the order they are shown. -/
def modes : List String := ["search", "validate", "explain", "shell", "run"]

/-- A row: a mode, a day and the count of that day. -/
structure Row where
  mode : String
  date : String
  count : Nat
  deriving Repr, DecidableEq, Inhabited

/-- The text of a row. -/
def Row.text (r : Row) : String :=
  Json.render false (.arr [.str r.mode, .str r.date, .int r.count])

/-- Reads a row from its text. -/
def Row.ofText? (line : String) : Option Row :=
  match Json.parse? line with
  | some (.arr [.str mode, .str date, .num n]) => (fun c => ⟨mode, date, c⟩) <$> n.toNat?
  | _ => none

/-- The rows of a store file. -/
def readRows (text : String) : List Row :=
  ((text.toList.splitOn '\n').map String.ofList).filterMap Row.ofText?

/-- The text of a store file. -/
def writeRows (rows : List Row) : String :=
  String.join (rows.map (·.text ++ "\n"))

/-- Adds one to the count of a mode on a day. -/
def bump (mode date : String) (rows : List Row) : List Row :=
  if rows.any fun r => r.mode = mode ∧ r.date = date then
    rows.map fun r => if r.mode = mode ∧ r.date = date then { r with count := r.count + 1 } else r
  else rows ++ [⟨mode, date, 1⟩]

/-- The total of a mode over all days. -/
def totalOf (mode : String) (rows : List Row) : Nat :=
  (rows.filter (·.mode = mode)).foldl (fun n r => n + r.count) 0

/-- The totals of every counted mode and of every mode with rows, the counted modes first. -/
def totalsOf (rows : List Row) : List (String × Nat) :=
  let extra := (rows.map (·.mode)).foldl (fun acc md =>
    if modes.contains md ∨ acc.contains md then acc else acc ++ [md]) []
  (modes ++ extra).map fun md => (md, totalOf md rows)

/-- The count of a mode on a day. -/
def countOn (mode date : String) (rows : List Row) : Nat :=
  (rows.filter fun r => r.mode = mode ∧ r.date = date).foldl (fun n r => n + r.count) 0

/-- An open or closed store and the file it keeps its rows in. -/
structure Store where
  path : String
  isOpen : Bool := true
  deriving Repr, Inhabited

/-- The failure of an operation on a closed store. -/
def closedMessage : String := "sql: database is closed"

variable {m : Type → Type} [Monad m]

/-- The store's default file, under the home directory. -/
def defaultPath (h : Host m) : m (Except String String) := do
  match ← h.getEnv "HOME" with
  | some home =>
    if home.isEmpty then return .error "failed to get user home directory: $HOME is not defined"
    else return .ok (joinPath home ".elseql/stats.db")
  | none => return .error "failed to get user home directory: $HOME is not defined"

/-- Opens the store of a file, the default one when the path is empty. -/
def Store.openAt (h : Host m) (path : String) : m (Except String Store) := do
  let path ← match path with
    | "" => defaultPath h
    | p => pure (.ok p)
  match path with
  | .error e => return .error e
  | .ok path =>
    match ← mkdirAll h (dirPath path) with
    | .error e => return .error ("failed to create stats directory: " ++ e.message)
    | .ok () =>
      match ← readIfPresent h path with
      | .ok (some _) => return .ok ⟨path, true⟩
      | .ok none =>
        match ← h.createFile path with
        | .ok () => return .ok ⟨path, true⟩
        | .error e => return .error ("failed to create table: unable to open database file: " ++
            e.problem.text)
      | .error e => return .error ("failed to create table: unable to open database file: " ++
          e.problem.text)

/-- The rows of an open store. -/
def Store.rows (h : Host m) (s : Store) (context : String) : m (Except String (List Row)) := do
  if !s.isOpen then return .error (context ++ ": " ++ closedMessage)
  match ← readIfPresent h s.path with
  | .ok text => return .ok (readRows (text.getD ""))
  | .error e => return .error (context ++ ": " ++ e.message)

/-- Adds one to today's count of a mode. -/
def Store.increment (h : Host m) (s : Store) (mode : String) : m (Except String Unit) := do
  let context := "failed to increment count"
  match ← s.rows h context with
  | .error e => return .error e
  | .ok rows =>
    let date ← h.today
    let write ← h.createFile s.path
    match write with
    | .error e => return .error (context ++ ": " ++ e.message)
    | .ok () =>
      return (← h.appendFile s.path (writeRows (bump mode date rows))).mapError
        (context ++ ": " ++ ·.message)

/-- The total of a mode. -/
def Store.total (h : Host m) (s : Store) (mode : String) : m (Except String Nat) := do
  return (totalOf mode) <$> (← s.rows h ("failed to get total for mode " ++ mode))

/-- The totals of all modes. -/
def Store.totals (h : Host m) (s : Store) : m (Except String (List (String × Nat))) := do
  return totalsOf <$> (← s.rows h "failed to query totals")

/-- The count of a mode on a day. -/
def Store.countByDate (h : Host m) (s : Store) (mode date : String) : m (Except String Nat) := do
  return (countOn mode date) <$> (← s.rows h "failed to get count")

/-- Closes the store. -/
def Store.close (s : Store) : Store := { s with isOpen := false }

end SqlSearch.Stats
