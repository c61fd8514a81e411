import SqlSearch.Schema.Mapping
/-! Completion keywords. Without a mapping they are the words of the statement language; with
one they also take `_score`, `_all`, every index name, every document type but the typeless
one, `_source` when some type keeps its source, and every field name at any depth. The list
has each word once, in increasing order. -/
namespace SqlSearch.Schema

/-- The clause names and operators of the statement language. -/
def languageWords : List String :=
  ["facets", "filter", "script", "from", "where", "in", "between", "like", "order by", "limit",
    "and", "or", "not"]

/-- Words in increasing order, each once. -/
def sortedWords (ws : List String) : List String :=
  (ws.mergeSort fun a b => a ≤ b).eraseDups

/-- The language words, in increasing order. -/
def baseKeywords : List String := sortedWords languageWords

/-- The field names of a property tree, parents before children; `fuel` bounds the depth. -/
def propertyNames : Nat → List (String × Option Property) → List String
  | 0, _ => []
  | fuel + 1, ps => ps.flatMap fun (name, p) =>
    name :: match p with
      | some p => propertyNames fuel p.properties
      | none => []

/-- The depth of a property tree, a bound for walking it. -/
def propertyDepth : List (String × Option Property) → Nat
  | [] => 0
  | (_, none) :: ps => propertyDepth ps
  | (_, some (.mk _ sub)) :: ps => max (propertyDepth sub + 1) (propertyDepth ps)

/-- Whether a type keeps the source of its documents: `_source` is given and not disabled. -/
def TypeMapping.keepsSource (tm : TypeMapping) : Bool :=
  match tm.source with
  | some enabled => enabled.getD true
  | none => false

/-- The completion keywords of a mapping, or of the language alone. -/
def keywords : Option Mapping → List String
  | none => baseKeywords
  | some m =>
    let fromIndex (idx : String × List (String × TypeMapping)) : List String :=
      idx.1 :: idx.2.flatMap fun (name, tm) =>
        (if name = typeless then [] else [name]) ++
        (if tm.keepsSource then ["_source"] else []) ++
        (let ps := tm.properties.getD []; propertyNames (propertyDepth ps + 1) ps)
    sortedWords (languageWords ++ ["_score", "_all"] ++ m.flatMap fromIndex)

end SqlSearch.Schema
