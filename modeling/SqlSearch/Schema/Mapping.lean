import SqlSearch.Json.Record
import SqlSearch.Json.Syntax
import SqlSearch.Json.Writer
/-! Index mappings as the engine reports them: index → document type → type mapping, where a
type mapping says whether `_source` is kept and maps field names to their properties, each
possibly with fields of its own. Three layouts of the report are read:

* `{"idx": {"mappings": {"properties": …}}}`, whose index has no document types (the type
  key is then `""`);
* `{"idx": {"mappings": {"doc": {"properties": …}}}}`, with types under `mappings`;
* `{"idx": {"doc": {"properties": …}}}`, with types right under the index.

An object under `mappings` is a type mapping itself when it is empty or has one of the keys
`properties`, `_source`, `dynamic`, `_meta`, `dynamic_templates`, `_routing`. An index or type
whose value cannot be read is left out; a `mappings` member that is not an object gives an
index without types. A later member of a repeated key replaces the earlier one. -/
namespace SqlSearch.Schema

open SqlSearch.Json

/-- A field's mapping: its type (empty when not given) and the fields under it; a field given
as `null` has no mapping at all. -/
inductive Property where
  | mk (type : String) (properties : List (String × Option Property))
  deriving Repr, Inhabited

namespace Property

/-- The field's type. -/
def type : Property → String
  | .mk t _ => t

/-- The fields under the field. -/
def properties : Property → List (String × Option Property)
  | .mk _ ps => ps

end Property

/-- The mapping of one document type. -/
structure TypeMapping where
  /-- The `_source` setting, when given: its `enabled` flag, if that is given. -/
  source : Option (Option Bool) := none
  /-- The fields, when given. -/
  properties : Option (List (String × Option Property)) := none
  deriving Repr, Inhabited

/-- A whole mapping: indices, each with its document types. -/
abbrev Mapping := List (String × List (String × TypeMapping))

/-- The key of the one type of an index without document types. -/
def typeless : String := ""

/-- Reads a `_source` setting over the current one. -/
def readSource (cur : Option Bool) (raw : String) : Reading (Option Bool) :=
  readRecord {} "schema.SourceToggle"
    [("enabled", fun _ v =>
      match kindWord v with
      | "null" => pure none
      | "bool" => pure (some (v.trimAscii.toString == "true"))
      | kind => do mismatch kind {} "bool"; pure none)]
    cur raw

/-- Reads a field's type: a string, or `null` keeping the current one. -/
def readType (cur : String) (raw : String) : Reading String :=
  match parse? raw with
  | some (.str s) => pure s
  | some .null => pure cur
  | _ => do mismatch (kindWord raw) {} "string"; pure cur

/-- Reads a field's mapping, `fuel` bounding the depth. -/
def readProperty : Nat → Option Property → String → Reading (Option Property)
  | 0, cur, _ => pure cur
  | fuel + 1, cur, raw =>
    if kindWord raw = "null" then pure none
    else do
      let (ty, ps) ← readRecord {} "schema.Property"
        [("type", fun (st : String × Option (List (String × Option Property))) v => do
            return (← readType st.1 v, st.2)),
         ("properties", fun st v => do
            return (st.1, ← readMap none {} "map[string]*schema.Property" (readProperty fuel)
              st.2 v))]
        ((cur.map Property.type).getD "", cur.map Property.properties) raw
      return some (.mk ty (ps.getD []))

/-- Reads a type mapping, failing if any part of it has the wrong kind. -/
def readTypeMapping (raw : String) : Except String TypeMapping :=
  let fuel := raw.length + 1
  Reading.result <| readRecord {} "schema.TypeMapping"
    [("_source", fun (tm : TypeMapping) v => do
        let src ← readOptional none readSource tm.source v
        return { tm with source := src }),
     ("properties", fun tm v => do
        let ps ← readMap none {} "map[string]*schema.Property" (readProperty fuel) tm.properties v
        return { tm with properties := ps })]
    {} raw

/-- The members of an object text, each key once with its last value; `null` has none, and
any other value is not an object. -/
def objectMembers? (raw : String) : Option (List (String × String)) :=
  match kindWord raw with
  | "null" => some []
  | "object" => (rawMembers? raw).map fun ms =>
    ms.foldl (fun acc (k, v) => (acc.filter (·.1 ≠ k)) ++ [(k, v)]) []
  | _ => none

/-- Whether the members under `mappings` are a type mapping rather than types. -/
def isTypeMapping (members : List (String × String)) : Bool :=
  members.isEmpty ||
    ["properties", "_source", "dynamic", "_meta", "dynamic_templates", "_routing"].any
      fun k => members.any (·.1 = k)

/-- The types of the document types of an index, those that can be read. -/
def readTypes (types : List (String × String)) : List (String × TypeMapping) :=
  types.filterMap fun (name, raw) => (readTypeMapping raw).toOption.map (name, ·)

/-- The types of one index, or nothing when the index is left out. -/
def readIndex (raw : String) : Option (List (String × TypeMapping)) := do
  let types ← objectMembers? raw
  match types.find? (·.1 = "mappings") with
  | none => some (readTypes types)
  | some (_, wrapped) =>
    match objectMembers? wrapped with
    | none => some []
    | some inner =>
      if isTypeMapping inner then
        (readTypeMapping wrapped).toOption.map fun tm => [(typeless, tm)]
      else some (readTypes inner)

/-- Reads a mapping report. -/
def parseMapping (raw : String) : Except String Mapping :=
  let fail (e : String) : Except String Mapping := .error ("failed to decode mapping: " ++ e)
  match syntaxError? raw with
  | some e => fail e
  | none =>
    match objectMembers? raw with
    | none =>
      fail ("json: cannot unmarshal " ++ kindWord raw ++
        " into Go value of type map[string]json.RawMessage")
    | some indices => .ok (indices.filterMap fun (name, r) => (readIndex r).map (name, ·))

mutual

/-- A property as JSON: `null` for a field without mapping; type and fields when given. -/
def propertyJson : Option Property → Json
  | none => .null
  | some (.mk ty ps) =>
    .obj ((if ty.isEmpty then [] else [("type", .str ty)]) ++
      (if ps.isEmpty then [] else [("properties", .obj (propertiesJson ps))]))

/-- The fields as JSON members. -/
def propertiesJson : List (String × Option Property) → List (String × Json)
  | [] => []
  | (k, p) :: ps => (k, propertyJson p) :: propertiesJson ps

end

/-- A type mapping as JSON: `_source` and `properties` only when given and not empty. -/
def TypeMapping.toJson (tm : TypeMapping) : Json :=
  let source := match tm.source with
    | none => []
    | some enabled => [("_source", .obj (enabled.toList.map fun b => ("enabled", .bool b)))]
  let props := match tm.properties with
    | some (p :: ps) => [("properties", .obj (propertiesJson (p :: ps)))]
    | _ => []
  .obj (source ++ props)

/-- A mapping as JSON, keys in increasing order at every level. -/
def mappingJson (m : Mapping) : Json :=
  sortKeys (.obj (m.map fun (idx, types) => (idx, .obj (types.map fun (t, tm) => (t, tm.toJson)))))

end SqlSearch.Schema
