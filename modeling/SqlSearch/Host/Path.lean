/-! Slash-separated paths. Cleaning a path is the shortest path naming the same file by
lexical processing: empty and `.` elements are dropped, `..` removes the element before it
(and is dropped at the root of a rooted path, kept at the start of a relative one), and the
empty path cleans to `.`. The directory of a path is everything up to its last slash, cleaned;
its extension is the text from the last dot of its last element. -/
namespace SqlSearch.Host

/-- One element pushed on the stack of cleaned elements (top first). -/
def pushElement (rooted : Bool) (stack : List String) (e : String) : List String :=
  if e = "" ∨ e = "." then stack
  else if e = ".." then
    match stack with
    | top :: rest => if top = ".." then ".." :: stack else rest
    | [] => if rooted then [] else [".."]
  else e :: stack

/-- The cleaned form of a path. -/
def cleanPath (p : String) : String :=
  let rooted := p.startsWith "/"
  let elems := (((p.toList.splitOn '/').map String.ofList).foldl (pushElement rooted) []).reverse
  let body := "/".intercalate elems
  if rooted then "/" ++ body
  else if body.isEmpty then "." else body

/-- Joins two paths and cleans the result; an empty part is left out. -/
def joinPath (a b : String) : String :=
  if a.isEmpty then (if b.isEmpty then "" else cleanPath b)
  else if b.isEmpty then cleanPath a
  else cleanPath (a ++ "/" ++ b)

/-- The directory of a path: all but its last element, cleaned. -/
def dirPath (p : String) : String :=
  let cs := p.toList
  let keep := (cs.reverse.dropWhile (· ≠ '/')).reverse
  cleanPath (String.ofList keep)

/-- The last element of a path; `.` for the empty path and `/` for the root. -/
def basePath (p : String) : String :=
  if p.isEmpty then "."
  else
    let cs := (p.toList.reverse.dropWhile (· = '/')).reverse
    if cs.isEmpty then "/"
    else String.ofList (cs.reverse.takeWhile (· ≠ '/')).reverse

/-- The extension of a path: from the last dot of its last element, empty without one. -/
def extension (p : String) : String :=
  let last := (p.toList.reverse.takeWhile (· ≠ '/'))
  match last.findIdx? (· = '.') with
  | some i => String.ofList (last.take (i + 1)).reverse
  | none => ""

/-- The path relative to a working directory: an absolute path stays, a relative one is
joined to the directory; either way it is cleaned. -/
def absolutePath (cwd p : String) : String :=
  if p.startsWith "/" then cleanPath p else cleanPath (cwd ++ "/" ++ p)

/-- The directories above a cleaned absolute path, nearest last: `/a/b/c` has `/`, `/a`,
`/a/b`. -/
def ancestors (p : String) : List String :=
  let elems := ((p.toList.splitOn '/').map String.ofList).filter (· ≠ "")
  (List.range elems.length).map fun i => "/" ++ "/".intercalate (elems.take i)

end SqlSearch.Host
