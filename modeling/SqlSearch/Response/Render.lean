import SqlSearch.Response.Wire
import SqlSearch.Json.Syntax
import SqlSearch.Response.Outcome
import SqlSearch.Csv.Field
import SqlSearch.Text.Blank
import SqlSearch.Text.Quoted
/-! Classifying a response and printing it. The first shape that fits wins: a validation answer
(the response has a `valid` member), an error of the engine (an `error` member), failed shards
(a non-empty list of shard failures), then hits and facets; a response with none of them is
unrecognized. Hits print as comma-separated lines: a header of the requested fields, or of the
first hit's source keys, then one line per hit, then the total. Facets print in the requested
order, then the others by name, each as a header line and a line per term. -/
namespace SqlSearch.Response

open SqlSearch.Text

/-- One facet: its name and its terms with their counts. -/
structure Facet where
  name : String
  terms : List TermCount
  deriving Repr, Inhabited

/-- The shape of a response. -/
inductive Shape where
  /-- A validation answer and the errors of its explanations. -/
  | validation (valid : String) (errors : List String)
  | engineError (message : String)
  | shardFailure (reasons : List String)
  /-- Hits (their total and documents) when the response has them, and facets. -/
  | rows (hits : Option (String × List (Option Document))) (facets : List Facet)
  | unrecognized
  deriving Repr, Inhabited

/-- The type and reason of an error object, when every member of those names holds a string
or `null`. -/
def typeAndReason (raw : String) : Option (String × String) :=
  if Json.kindWord raw ≠ "object" then none
  else
    let step (acc : String × String) (member : String × String) : Option (String × String) :=
      let (ty, reason) := acc
      let (k, v) := member
      let text : Option (Option String) := match Json.parse? v with
        | some (.str s) => some (some s)
        | some .null => some none
        | _ => none
      if Json.keyFills k "type" then text.map fun t => (t.getD ty, reason)
      else if Json.keyFills k "reason" then text.map fun t => (ty, t.getD reason)
      else some (ty, reason)
    ((Json.rawMembers? raw).getD []).foldlM step ("", "")

/-- An error or reason value as one line: a string as it is, an object by its type and reason,
anything else as compact JSON. -/
def messageText (raw : String) : String :=
  if Json.isNullText raw then ""
  else match Json.parse? raw with
    | some (.str s) => s
    | _ =>
      let compact := (Json.compactText raw).getD (trimBlank raw)
      match typeAndReason raw with
      | some (ty, reason) =>
        if reason.isEmpty then compact else if ty.isEmpty then reason else ty ++ ": " ++ reason
      | none => compact

/-- Whether a text is a JSON number literal. -/
def isNumberText (s : String) : Bool :=
  match Json.readNumber s.toList with
  | some (_, []) => true
  | _ => false

/-- The `value` member of a total object, when every member of that name holds a number, a
string spelling a number, or `null`. -/
def totalValue (raw : String) : Option String :=
  let step (value : String) (member : String × String) : Option String :=
    if Json.keyFills member.1 "value" then
      match Json.parse? member.2 with
      | some (.num lit) => some lit
      | some (.str s) => if isNumberText s then some s else none
      | some .null => some value
      | _ => none
    else some value
  ((Json.rawMembers? raw).getD []).foldlM step ""

/-- The total of hits as text: `0` when absent, the value of a `{value, relation}` object,
else the value's source text. -/
def totalText (raw : Option String) : String :=
  match raw with
  | none => "0"
  | some raw =>
    if Json.isNullText raw then "0"
    else
      let trimmed := trimBlank raw
      if trimmed.startsWith "\x7b" then
        match totalValue raw with
        | some v => if v.isEmpty then trimmed else v
        | none => trimmed
      else trimmed

/-- The facets of a response in their order, each read into its terms. -/
def readFacets (facets : Document) : Except String (List Facet) :=
  facets.keys.mapM fun name =>
    match (readFacet ((facets.lookup name).getD "null")).result with
    | .ok f => .ok ⟨name, f.terms.items⟩
    | .error e => .error ("failed to decode facet " ++ quote name ++ ": " ++ e)

/-- Classifies a response text. -/
def classify (raw : String) : Except String Shape := do
  if let some e := Json.syntaxError? raw then throw ("response is not a JSON object: " ++ e)
  let top ← match Document.ofText raw with
    | .ok d => pure d
    | .error e => throw ("response is not a JSON object: " ++ e)
  let wire ← match (readWire raw).result with
    | .ok w => pure w
    | .error e => throw ("failed to decode response: " ++ e)
  if top.has "valid" then
    let errors := wire.explanations.items.filterMap fun e =>
      e.error.bind fun r => if Json.isNullText r then none else some (messageText r)
    return .validation (trimBlank (wire.valid.getD "")) errors
  if top.has "error" then
    return .engineError (messageText (wire.error.getD ""))
  if let some shards := wire.shards then
    if !shards.failures.items.isEmpty then
      return .shardFailure (shards.failures.items.map fun f => messageText (f.reason.getD ""))
  let hits := wire.hits.map fun h => (totalText h.total, h.hits.items)
  let facets ← match wire.facets with
    | some d => readFacets d
    | none => pure []
  if hits.isNone && wire.facets.isNone then return .unrecognized
  return .rows hits facets

/-- The document's `_source` member when it is an object. -/
def sourceOf (hit : Option Document) : Option Document :=
  (hit.bind (·.get? "_source")).bind fun raw => (Document.ofText raw).toOption

/-- The values of the requested fields of a hit: from the hit itself, else from its `fields`
member when that is an object. -/
def projectHit (hit : Option Document) (fields : List String) : List Csv.Cell :=
  let bucket := (hit.bind (·.get? "fields")).bind fun raw => (Document.ofText raw).toOption
  fields.map fun f =>
    match hit.bind (·.get? f) with
    | some v => .raw v
    | none =>
      match bucket.bind (·.get? f) with
      | some v => .raw v
      | none => .null

/-- The lines of the hits: header, a line per hit, a blank line and the total. -/
def hitLines (total : String) (docs : List (Option Document)) (fields : List String) :
    List String :=
  let body :=
    if !fields.isEmpty then
      Csv.encodeStrings fields :: docs.map fun hit => Csv.encodeRow (projectHit hit fields)
    else
      let header := match docs.head? with
        | some first => (sourceOf first).toList.map fun s => Csv.encodeStrings s.keys
        | none => []
      header ++ docs.map fun hit =>
        match sourceOf hit with
        | some s => Csv.encodeRow (s.orderedValues.map .raw)
        | none => ""
  body ++ ["", "total:  " ++ total]

/-- The facets in the requested order (each once), then the others by name. -/
def orderFacets (facets : List Facet) (requested : List String) : List Facet :=
  let named := requested.foldl (fun acc n => if acc.contains n then acc else acc ++ [n]) []
  let first := named.filterMap fun n => facets.find? (·.name = n)
  let rest := (facets.filter fun f => !named.contains f.name).mergeSort fun a b => a.name ≤ b.name
  first ++ rest

/-- The lines of the facets: per facet a blank line, its header and a line per term. -/
def facetLines (facets : List Facet) (requested : List String) : List String :=
  (orderFacets facets requested).flatMap fun f =>
    ["", Csv.encodeText f.name ++ ",count"] ++ f.terms.map fun t =>
      Csv.encodeField (.raw (t.term.getD "")) ++ "," ++ Csv.encodeField (.raw (t.count.getD ""))

/-- The printed outcome of a classified response, given the requested fields and facets. -/
def Shape.render (shape : Shape) (fields facets : List String) : Outcome :=
  match shape with
  | .validation valid errors => ⟨("valid: " ++ valid) :: errors.map ("ERROR: " ++ ·), .validation⟩
  | .engineError message => ⟨["ERROR: " ++ message], .engineError⟩
  | .shardFailure reasons => ⟨reasons.map ("ERROR: " ++ ·), .shardFailure⟩
  | .rows hits fs =>
    let hitPart := match hits with
      | some (total, docs) => hitLines total docs fields
      | none => []
    ⟨hitPart ++ facetLines fs facets, .rows⟩
  | .unrecognized => ⟨["WARNING: unrecognized response"], .unrecognized⟩

/-- Classifies a response text and prints it. -/
def render (raw : String) (fields facets : List String) : Outcome :=
  match classify raw with
  | .ok shape => shape.render fields facets
  | .error e => ⟨["ERROR: " ++ e], .unrecognized⟩

end SqlSearch.Response
