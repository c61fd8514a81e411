import SqlSearch.Response.Document
import SqlSearch.Json.Record
/-! A response read into the record of the parts the renderer looks at, by the rules of
`Json.Record`. A hit or the facets must be an object when present: anything else stops the
reading at once with the message that names its first token. -/
namespace SqlSearch.Response

open SqlSearch.Json

/-- Reads a document that must be an object, `null` giving none. -/
def readDocument (raw : String) : Reading (Option Document) :=
  if Json.kindWord raw = "null" then pure none
  else match Document.ofText raw with
    | .ok d => pure (some d)
    | .error e => throw e

/-- A validation explanation: its error, as source text. -/
structure Explanation where
  error : Option String := none
  deriving Repr, Inhabited

/-- A failed shard: its reason, as source text. -/
structure Failure where
  reason : Option String := none
  deriving Repr, Inhabited

/-- The shards part of a response. -/
structure Shards where
  failures : Slice Failure := {}
  deriving Repr, Inhabited

/-- The hits part of a response: the total as source text and the hit documents, a `null`
hit being none. -/
structure Hits where
  total : Option String := none
  hits : Slice (Option Document) := {}
  deriving Repr, Inhabited

/-- The parts of a response the renderer looks at. -/
structure Wire where
  valid : Option String := none
  explanations : Slice Explanation := {}
  error : Option String := none
  shards : Option Shards := none
  hits : Option Hits := none
  facets : Option Document := none
  deriving Repr, Inhabited

/-- A term of a facet and its count, as source text. -/
structure TermCount where
  term : Option String := none
  count : Option String := none
  deriving Repr, Inhabited

/-- The terms of one facet. -/
structure FacetTerms where
  terms : Slice TermCount := {}
  deriving Repr, Inhabited

/-- Type names of the fields, as failures name them. -/
def explanationType : String := "struct \x7b Error json.RawMessage \"json:\\\"error\\\"\" \x7d"
def failureType : String := "struct \x7b Reason json.RawMessage \"json:\\\"reason\\\"\" \x7d"
def shardsType : String := "struct \x7b Failures []" ++ failureType ++ " \"json:\\\"failures\\\"\" \x7d"
def hitsType : String :=
  "struct \x7b Total json.RawMessage \"json:\\\"total\\\"\"; Hits []*render.Object \"json:\\\"hits\\\"\" \x7d"
def termType : String :=
  "struct \x7b Term json.RawMessage \"json:\\\"term\\\"\"; Count json.RawMessage \"json:\\\"count\\\"\" \x7d"

/-- Reads a response text into its record. -/
def readWire (raw : String) : Reading Wire :=
  let top : Place := ⟨"wireResponse", []⟩
  let field (name : String) : Place := ⟨"wireResponse", [name]⟩
  let inner (path : List String) : Place := ⟨"", path⟩
  let explanation :=
    readRecord (field "explanations") explanationType
      [("error", fun (e : Explanation) v => pure { e with error := some v })]
  let failure :=
    readRecord (inner ["_shards", "failures"]) failureType
      [("reason", fun (f : Failure) v => pure { f with reason := some v })]
  let shards :=
    readRecord (field "_shards") shardsType
      [("failures", fun (s : Shards) v => do
        let fs ← readSlice {} (inner ["_shards", "failures"]) ("[]" ++ failureType) failure
          s.failures v
        return { s with failures := fs })]
  let hits :=
    readRecord (field "hits") hitsType
      [("total", fun (h : Hits) v => pure { h with total := some v }),
       ("hits", fun (h : Hits) v => do
        let hs ← readSlice none (inner ["hits", "hits"]) "[]*render.Object"
          (fun _ item => readDocument item) h.hits v
        return { h with hits := hs })]
  readRecord top "render.wireResponse"
    [("valid", fun (w : Wire) v => pure { w with valid := some v }),
     ("explanations", fun w v => do
       let es ← readSlice {} (field "explanations") ("[]" ++ explanationType) explanation
         w.explanations v
       return { w with explanations := es }),
     ("error", fun w v => pure { w with error := some v }),
     ("_shards", fun w v => do return { w with shards := ← readOptional {} shards w.shards v }),
     ("hits", fun w v => do return { w with hits := ← readOptional {} hits w.hits v }),
     ("facets", fun w v => do return { w with facets := ← readDocument v })]
    {} raw

/-- Reads the text of one facet into its terms. -/
def readFacet (raw : String) : Reading FacetTerms :=
  let term :=
    readRecord ⟨"wireFacet", ["terms"]⟩ termType
      [("term", fun (t : TermCount) v => pure { t with term := some v }),
       ("count", fun (t : TermCount) v => pure { t with count := some v })]
  readRecord {} "render.wireFacet"
    [("terms", fun (f : FacetTerms) v => do
      let ts ← readSlice {} ⟨"wireFacet", ["terms"]⟩ ("[]" ++ termType) term f.terms v
      return { f with terms := ts })]
    {} raw

end SqlSearch.Response
