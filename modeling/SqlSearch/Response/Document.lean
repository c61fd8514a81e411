import SqlSearch.Json.Field
/-! Documents of a response kept undecoded: an object as its keys, in the order they first
appear, each with the source text of its last value. A value is read only when a caller asks
for it, so numbers and nested objects are echoed exactly as the engine wrote them. -/
namespace SqlSearch.Response

/-- An object whose member values are kept as source text. -/
structure Document where
  /-- The members in source order, repeated keys included. -/
  members : List (String × String)
  deriving Repr, Inhabited, DecidableEq

namespace Document

/-- The keys in order of first appearance. -/
def keys (d : Document) : List String :=
  d.members.foldl (fun ks (k, _) => if ks.contains k then ks else ks ++ [k]) []

/-- The source text of the last value given to `key`. -/
def lookup (d : Document) (key : String) : Option String :=
  d.members.foldl (fun acc (k, v) => if k = key then some v else acc) none

/-- Whether the key is present, also with a `null` value. -/
def has (d : Document) (key : String) : Bool := d.members.any (·.1 = key)

/-- The value of `key` when it is present and not `null`. -/
def get? (d : Document) (key : String) : Option String :=
  match d.lookup key with
  | some v => if Json.isNullText v then none else some v
  | none => none

/-- The values in key order. -/
def orderedValues (d : Document) : List String :=
  d.keys.map fun k => (d.lookup k).getD ""

/-- Reads an object text; any other value fails with the message that names its first token. -/
def ofText (raw : String) : Except String Document :=
  match Json.rawMembers? raw with
  | some ms => .ok ⟨ms⟩
  | none =>
    match Json.firstTokenText raw with
    | .ok t => .error ("expected JSON object, got " ++ t)
    | .error e => .error e

end Document

end SqlSearch.Response
