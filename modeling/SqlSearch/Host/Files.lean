import SqlSearch.Host.Basic
import SqlSearch.Host.Path
/-! File operations built from the host's primitives: creating a directory with all its
parents, and listing the files under a directory in the order a walk of the tree visits them,
entries of each directory by increasing name. -/
namespace SqlSearch.Host

variable {m : Type → Type} [Monad m]

/-- The path without trailing slashes. -/
def dropTrailingSlashes (cs : List Char) : List Char :=
  (cs.reverse.dropWhile (· = '/')).reverse

/-- The parent of a path as written: the text before the slash that precedes its last
element, none when the path has no parent to create. -/
def writtenParent (path : String) : Option String :=
  let cs := dropTrailingSlashes path.toList
  let elemStart := (cs.reverse.dropWhile (· ≠ '/')).length
  if elemStart > 1 then some (String.ofList (cs.take (elemStart - 1))) else none

/-- Creates a directory and any missing parents; succeeds when the directory exists. `fuel`
bounds the depth. -/
def mkdirAllFuel (h : Host m) : Nat → String → m (Except IoError Unit)
  | 0, _ => pure (.ok ())
  | fuel + 1, path => do
    match ← h.stat path with
    | .ok .directory => return .ok ()
    | .ok .file => return .error ⟨"mkdir", path, .notDirectory⟩
    | .error _ =>
      let parentDone ← match writtenParent path with
        | some parent => mkdirAllFuel h fuel parent
        | none => pure (.ok ())
      match parentDone with
      | .error e => return .error e
      | .ok () =>
        match ← h.mkdir path with
        | .ok () => return .ok ()
        | .error e =>
          match ← h.stat path with
          | .ok .directory => return .ok ()
          | _ => return .error e

/-- Creates a directory and any missing parents. -/
def mkdirAll (h : Host m) (path : String) : m (Except IoError Unit) :=
  mkdirAllFuel h (path.length + 1) path

/-- The files under a directory, joined to its path, in walk order. `fuel` bounds the depth. -/
def walkFilesFuel (h : Host m) : Nat → String → m (Except IoError (List String))
  | 0, _ => pure (.ok [])
  | fuel + 1, dir => do
    match ← h.readDir dir with
    | .error e => return .error e
    | .ok entries =>
      entries.foldlM (fun acc (name, kind) => do
        match acc with
        | .error e => return .error e
        | .ok found =>
          let path := joinPath dir name
          match kind with
          | .file => return .ok (found ++ [path])
          | .directory =>
            match ← walkFilesFuel h fuel path with
            | .ok more => return .ok (found ++ more)
            | .error e => return .error e) (.ok [])

/-- The files under a directory, joined to its path, in walk order. -/
def walkFiles (h : Host m) (dir : String) : m (Except IoError (List String)) :=
  walkFilesFuel h 4096 dir

/-- The content of a file, none when it does not exist. -/
def readIfPresent (h : Host m) (path : String) : m (Except IoError (Option String)) := do
  match ← h.readFile path with
  | .ok text => return .ok (some text)
  | .error e => return if e.notExist then .ok none else .error e

end SqlSearch.Host
