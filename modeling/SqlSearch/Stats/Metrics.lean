import SqlSearch.Stats.Store
/-! The process-wide invocation counter. It is initialised once: the first initialisation opens
the store and remembers its failure, later ones give the same result. Recording an invocation
without a store does nothing, and a failure to record is only reported as a warning. The
invocation gauge reports the total of every mode, or zero for each counted mode when there is
no store to read. -/
namespace SqlSearch.Stats

open SqlSearch.Host

/-- The process-wide counter state. -/
structure Metrics where
  initialized : Bool := false
  store : Option Store := none
  initError : Option String := none
  deriving Repr, Inhabited

variable {m : Type → Type} [Monad m]

/-- Initialises the counter with the store of a path, once. -/
def Metrics.init (h : Host m) (mt : Metrics) (path : String) : m (Option String × Metrics) := do
  if mt.initialized then return (mt.initError, mt)
  match ← Store.openAt h path with
  | .ok s => return (none, { mt with initialized := true, store := some s, initError := none })
  | .error e =>
    h.warn ("metrics: failed to initialize store: " ++ e)
    return (some e, { mt with initialized := true, store := none, initError := some e })

/-- Records one invocation of a mode. -/
def Metrics.record (h : Host m) (mt : Metrics) (mode : String) : m Unit := do
  match mt.store with
  | none => pure ()
  | some s =>
    match ← s.increment h mode with
    | .ok () => pure ()
    | .error e => h.warn ("metrics: failed to record invocation: " ++ e)

/-- The totals of all modes, none without a readable store. -/
def Metrics.stats (h : Host m) (mt : Metrics) : m (Option (List (String × Nat))) := do
  match mt.store with
  | none => return none
  | some s =>
    match ← s.totals h with
    | .ok t => return some t
    | .error e => do
      h.warn ("metrics: failed to get stats: " ++ e)
      return none

/-- Closes the store, keeping it installed. -/
def Metrics.close (mt : Metrics) : Metrics := { mt with store := mt.store.map Store.close }

/-- Installs a store. -/
def Metrics.install (mt : Metrics) (s : Store) : Metrics :=
  { mt with store := some s, initialized := true }

/-- The points of the invocation gauge, in increasing order. -/
def gaugePoints (stats : Option (List (String × Nat))) : List String :=
  let values := stats.getD (modes.map (·, 0))
  (values.map fun (md, n) => "elseql.invocations.total:" ++ md ++ "=" ++ toString n).mergeSort
    (· ≤ ·)

end SqlSearch.Stats
