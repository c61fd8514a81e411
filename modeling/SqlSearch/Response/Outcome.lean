/-! How a call ended and what it printed. A call ends with rows, a validation answer, an error
from the engine, failed shards, a transport failure, an unrecognized response, a statement
that could not be read or translated, or a statement that was not sent. Rows, validation
answers and unsent statements count as success; the rest as failure. -/
namespace SqlSearch.Response

/-- How a call ended. -/
inductive Status where
  | rows
  | validation
  | engineError
  | shardFailure
  | transportError
  | unrecognized
  | parseError
  | translateError
  | notSent
  deriving Repr, DecidableEq, Inhabited

namespace Status

/-- All ends of a call, in the order of their codes. -/
def all : List Status :=
  [.rows, .validation, .engineError, .shardFailure, .transportError, .unrecognized, .parseError,
    .translateError, .notSent]

/-- The name a status is shown by. -/
def name : Status → String
  | .rows => "rows"
  | .validation => "validation"
  | .engineError => "engine_error"
  | .shardFailure => "shard_failure"
  | .transportError => "transport_error"
  | .unrecognized => "unrecognized"
  | .parseError => "parse_error"
  | .translateError => "translate_error"
  | .notSent => "not_sent"

/-- Whether the call produced diagnostics instead of results. -/
def failed : Status → Bool
  | .rows | .validation | .notSent => false
  | _ => true

/-- The status of a code, if the code names one. -/
def ofCode? (code : Int) : Option Status :=
  if code < 0 then none else all[code.toNat]?

/-- The name shown for a code: the status's name, or `status(N)` for a code naming none. -/
def codeName (code : Int) : String :=
  match ofCode? code with
  | some s => s.name
  | none => "status(" ++ toString code ++ ")"

/-- Whether a code counts as failure; a code naming no status does. -/
def codeFailed (code : Int) : Bool :=
  match ofCode? code with
  | some s => s.failed
  | none => true

end Status

/-- The lines printed for a call and how it ended. -/
structure Outcome where
  lines : List String
  status : Status
  deriving Repr, DecidableEq, Inhabited

/-- The outcome when no response came from `url`; the failure's text follows, if there is one. -/
def transportFailure (url : String) (failure : Option String) : Outcome :=
  ⟨("cannot connect to " ++ url) :: failure.toList, .transportError⟩

end SqlSearch.Response
