import SqlSearch.Query.Statement
import SqlSearch.Json.Basic
/-! Requests: what is sent to the engine for a statement. The path is the index with its dots
turned into slashes, followed by `/search`, or by `/_validate/query` when the statement is only
validated (then with the parameters `pretty` and `explain`). The body holds the query clause
(`match_all` without a WHERE condition, else a `query_string` query), `explain` when asked,
the filter, one terms facet per facet field, the script field, the projection, the sort keys,
and `from`/`size` from LIMIT: one value is the size, two are offset and size, more are an
error. -/
namespace SqlSearch.Query

/-- A request ready for the transport. `params` is absent, not empty, when there are none. -/
structure Request where
  path : String
  params : Option (List (String × String))
  body : Json
  deriving Repr, Inhabited

/-- Why a statement cannot be translated. -/
inductive TranslateError where
  /-- The statement names no index. -/
  | missingIndex
  /-- LIMIT has more than offset and size. -/
  | malformedLimit (values : List Int)
  deriving Repr, DecidableEq, Inhabited

/-- How a list of integers is written in messages: `[1 2 3]`. -/
def showInts (xs : List Int) : String := "[" ++ " ".intercalate (xs.map toString) ++ "]"

/-- The message of a statement that cannot become a request. -/
def TranslateError.message : TranslateError → String
  | .missingIndex => "query has no target index"
  | .malformedLimit vs =>
    "limit accepts at most 2 values (offset, size), got " ++ toString vs.length ++ ": " ++
      showInts vs

/-- The path of a request on an index. -/
def requestPath (index : String) (validate : Bool) : String :=
  String.ofList (index.toList.map fun c => if c = '.' then '/' else c) ++
    (if validate then "/_validate/query" else "/search")

/-- The parameters of a request: only validation has some. -/
def requestParams (validate : Bool) : Option (List (String × String)) :=
  if validate then some [("pretty", "true"), ("explain", "true")] else none

/-- A `query_string` query of a condition's text. -/
def queryString (c : Condition) : Json :=
  .obj [("query_string", .obj [("query", .str c.render)])]

/-- The `from` and `size` members for a LIMIT. -/
def limitMembers : List Int → Except TranslateError (List (String × Json))
  | [] => .ok []
  | [size] => .ok [("size", Json.int size)]
  | [offset, size] => .ok [("from", Json.int offset), ("size", Json.int size)]
  | vs => .error (.malformedLimit vs)

/-- The request for a statement. -/
def translate (q : Statement) (explain validate : Bool) : Except TranslateError Request := do
  if q.index = "" then throw .missingIndex
  let limit ← limitMembers q.limit
  let body : List (String × Json) :=
    [("query", match q.query with
      | some c => queryString c
      | none => .obj [("match_all", .obj [])])] ++
    (if explain then [("explain", .bool true)] else []) ++
    (match q.filter with
      | some c => [("filter", queryString c)]
      | none => []) ++
    (if q.facets.isEmpty then []
      else [("facets", .obj (q.facets.map fun f => (f, .obj [("terms", .obj [("field", .str f)])])))]) ++
    (match q.script with
      | some s => [("script_fields", .obj [(s.name, .obj [("script", .str s.body)])])]
      | none => []) ++
    (match q.projection with
      | some fs => [("fields", Json.strs fs)]
      | none => []) ++
    (if q.order.isEmpty then []
      else [("sort", .arr (q.order.map fun k => .obj [(k.field, .str k.direction)]))]) ++
    limit
  return ⟨requestPath q.index validate, requestParams validate, .obj body⟩

/-- The request for a statement the caller may not have: a missing statement names no index. -/
def translateOption : Option Statement → Bool → Bool → Except TranslateError Request
  | none, _, _ => .error .missingIndex
  | some q, explain, validate => translate q explain validate

end SqlSearch.Query
