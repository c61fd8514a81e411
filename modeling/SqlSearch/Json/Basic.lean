/-! JSON documents. A number keeps the literal it was written with, so that it can be written
back unchanged; an object keeps every member in the order it was read, duplicates included.
`Json.dedup` gives the view a program takes of an object with repeated keys: each key once,
at its first position, with its last value. -/
namespace SqlSearch

/-- A JSON value. -/
inductive Json where
  | null
  | bool (b : Bool)
  /-- A number, as its literal. -/
  | num (literal : String)
  | str (s : String)
  | arr (items : List Json)
  /-- An object, its members in order. -/
  | obj (members : List (String × Json))
  deriving Repr, Inhabited

namespace Json

/-- A number given by an integer. -/
def int (n : Int) : Json := .num (toString n)

/-- A list of strings. -/
def strs (xs : List String) : Json := .arr (xs.map .str)

/-- The last value given to `key` among the members. -/
def lookupLast (key : String) (members : List (String × Json)) : Option Json :=
  members.foldl (fun acc (k, v) => if k = key then some v else acc) none

/-- The member value for `key`, the last one if the key is repeated. -/
def get? (j : Json) (key : String) : Option Json :=
  match j with
  | obj ms => lookupLast key ms
  | _ => none

/-- The keys in order of first appearance. -/
def firstKeys : List (String × Json) → List String
  | [] => []
  | (k, _) :: ms => k :: (firstKeys ms).filter (· ≠ k)

/-- Members with each key once, at its first position, holding its last value. -/
def dedupMembers (ms : List (String × Json)) : List (String × Json) :=
  (firstKeys ms).filterMap fun k => (lookupLast k ms).map (k, ·)

/-- Whether the value is `null`. -/
def isNull : Json → Bool
  | null => true
  | _ => false

end Json

end SqlSearch
