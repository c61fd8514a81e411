import SqlSearch.Query.Condition
/-! Statements: what a SELECT asks of the engine. Every part but the index is optional; an
empty list stands for a clause the statement does not have. -/
namespace SqlSearch.Query

/-- A computed field: its name and the engine script that produces it. -/
structure ScriptField where
  name : String
  body : String
  deriving Repr, DecidableEq, Inhabited

/-- One ORDER BY entry; the direction is `asc` or `desc` as written, lower-cased. -/
structure SortKey where
  field : String
  direction : String
  deriving Repr, DecidableEq, Inhabited

/-- The field list that asks for whole documents. -/
def allFields : String := "*"

/-- The field list that asks for a count only. -/
def countField : String := "count(*)"

/-- A parsed SELECT statement. -/
structure Statement where
  index : String
  query : Option Condition := none
  filter : Option Condition := none
  facets : List String := []
  script : Option ScriptField := none
  fields : List String := []
  order : List SortKey := []
  limit : List Int := []
  deriving Repr, DecidableEq, Inhabited

namespace Statement

/-- The fields to request explicitly: none for whole documents or a count. -/
def projection (q : Statement) : Option (List String) :=
  match q.fields with
  | [] => none
  | [f] => if f = allFields ∨ f = countField then none else some [f]
  | fs => some fs

end Statement

end SqlSearch.Query
