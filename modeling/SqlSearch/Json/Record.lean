import SqlSearch.Json.Field
/-! Reading a document into an existing record, member by member:

* a member fills the field whose name its key spells up to case (`Json.keyFills`); members
  that fill no field are skipped, and a repeated member is read again over the first;
* `null` clears a list, a map or an optional record and leaves any other field as it was;
* a list is read element by element over the elements it held before, even those dropped by a
  shorter list read since; an empty list forgets them;
* a map keeps its entries and gains or replaces one per member, each value read afresh;
* an optional record that is read is created if absent and then filled;
* a value of the wrong kind leaves its field unchanged and is remembered as the failure, the
  first one only, while reading goes on; a reader may also stop at once with a failure.

Failures name the kind of value, the record and member path it was read for, and the type of
the field. -/
namespace SqlSearch.Json

/-- A list field as the elements it shows and the elements it still holds past its length. -/
structure Slice (α : Type) where
  backing : List α := []
  len : Nat := 0
  deriving Repr, Inhabited

/-- The elements the list shows. -/
def Slice.items {α : Type} (s : Slice α) : List α := s.backing.take s.len

/-- Reading a response: the first mismatch is kept in the state, a hard failure ends it. -/
abbrev Reading := StateT (Option String) (Except String)

/-- Where a value is read: the record whose field it fills, and the member path from the top. -/
structure Place where
  record : String := ""
  path : List String := []

/-- The message for a value of kind `kind` that cannot fill a field of type `type`. -/
def mismatchMessage (kind : String) (at_ : Place) (type : String) : String :=
  if at_.record.isEmpty && at_.path.isEmpty then
    "json: cannot unmarshal " ++ kind ++ " into Go value of type " ++ type
  else
    "json: cannot unmarshal " ++ kind ++ " into Go struct field " ++ at_.record ++ "." ++
      ".".intercalate at_.path ++ " of type " ++ type

/-- Remembers a mismatch unless one is already remembered. -/
def mismatch (kind : String) (at_ : Place) (type : String) : Reading Unit :=
  modify fun saved => saved <|> some (mismatchMessage kind at_ type)

/-- Reads a list over `s`, each element by `readElem` over the element held before. -/
def readSlice {α : Type} (zero : α) (at_ : Place) (type : String)
    (readElem : α → String → Reading α) (s : Slice α) (raw : String) : Reading (Slice α) :=
  match kindWord raw with
  | "null" => pure {}
  | "array" => do
    let items := (rawItems? raw).getD []
    if items.isEmpty then return {}
    let step (b : List α) (entry : String × Nat) : Reading (List α) := do
      let (item, i) := entry
      let e ← readElem (b.getD i zero) item
      return if i < b.length then b.set i e else b ++ [e]
    let backing ← items.zipIdx.foldlM step s.backing
    return ⟨backing, items.length⟩
  | kind => do
    mismatch kind at_ type
    return s

/-- Reads an object into a record over `cur`: each member is read by the reader of the first
field whose name its key spells. -/
def readRecord {σ : Type} (at_ : Place) (type : String)
    (fields : List (String × (σ → String → Reading σ))) (cur : σ) (raw : String) : Reading σ :=
  match kindWord raw with
  | "null" => pure cur
  | "object" =>
    let step (st : σ) (member : String × String) : Reading σ :=
      match fields.find? (fun f => keyFills member.1 f.1) with
      | some (_, readField) => readField st member.2
      | none => pure st
    ((rawMembers? raw).getD []).foldlM step cur
  | kind => do
    mismatch kind at_ type
    return cur

/-- Reads an optional record: `null` clears it, anything else creates it and fills it. -/
def readOptional {σ : Type} (zero : σ) (read : σ → String → Reading σ) (cur : Option σ)
    (raw : String) : Reading (Option σ) :=
  if kindWord raw = "null" then pure none
  else some <$> read (cur.getD zero) raw

/-- Reads an object into a map over `cur`: each member's value is read by `read` from `zero` and
replaces the entry of its key. -/
def readMap {α : Type} (zero : α) (at_ : Place) (type : String) (read : α → String → Reading α)
    (cur : Option (List (String × α))) (raw : String) : Reading (Option (List (String × α))) :=
  match kindWord raw with
  | "null" => pure none
  | "object" => do
    let step (m : List (String × α)) (member : String × String) : Reading (List (String × α)) := do
      let v ← read zero member.2
      return (m.filter (·.1 ≠ member.1)) ++ [(member.1, v)]
    some <$> ((rawMembers? raw).getD []).foldlM step (cur.getD [])
  | kind => do
    mismatch kind at_ type
    return cur

/-- Runs a reading: the value, or the failure that stopped it, or else the first mismatch. -/
def Reading.result {α : Type} (r : Reading α) : Except String α :=
  match r.run none with
  | .error e => .error e
  | .ok (_, some e) => .error e
  | .ok (a, none) => .ok a

end SqlSearch.Json
