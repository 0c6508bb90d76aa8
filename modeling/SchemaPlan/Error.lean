import SchemaPlan.Text.Quoted

/-!
# Failures

Each part of planning has its own causes of failure.  A cause has a message for people and a code
for programs; a failure that passes through a later part keeps its code and gains a heading.
-/

set_option autoImplicit false

namespace SchemaPlan

/-- Why the catalog gives no answer. -/
inductive CatalogError where
  | queryFailed (operation message : String)
  | unavailable (message : String)
deriving DecidableEq, Repr

/-- Why a source cannot be used. -/
inductive SourceError where
  | readFailed (path message : String)
  | invalidEncoding (path : String)
deriving DecidableEq, Repr

/-- Why stored records cannot be read or written. -/
inductive StorageError where
  | databaseFailed (message : String)
  | migrationFailed (version : Nat) (message : String)
  | corruptRecord (table message : String)
deriving DecidableEq, Repr

/-- Why a configuration cannot be used. -/
inductive ConfigError where
  | fileNotFound (path : String)
  | parseError (path message : String)
  | validationFailed (field message : String)
deriving DecidableEq, Repr

/-- Why a dependency graph is refused. -/
inductive GraphError where
  | invalidShape (edge reason : String)
  | cycleDetected (cycles : List (List String))
deriving DecidableEq, Repr

/-- Why objects cannot be put in order. -/
inductive ScheduleError where
  | cycleDetected (visited total : Nat) (remaining : List String)
deriving DecidableEq, Repr

/-- Why the closure of the roots is not reached. -/
inductive ClosureError where
  | unconverged (names : List String) (repeats : Nat)
  | iterationLimit (maximum : Nat)
  | catalog (cause : CatalogError)
  | source (cause : SourceError)
  | storage (cause : StorageError)
  | cancelled (iterations : Nat)
deriving DecidableEq, Repr

/-- Why there is no plan. -/
inductive PlanError where
  | closure (cause : ClosureError)
  | graph (cause : GraphError)
  | schedule (cause : ScheduleError)
  | storage (cause : StorageError)
  | config (cause : ConfigError)
  | cancelled
deriving DecidableEq, Repr

/-! ## Codes -/

/-- The stable code of a kind of failure. -/
inductive ErrorCode where
  | catalogError
  | sourceError
  | closureUnconverged
  | graphShapeInvalid
  | cycleDetected
  | configError
  | storageError
  | migrationFailed
  | cancelled
deriving DecidableEq, Repr

/-- The name of a code. -/
def ErrorCode.name : ErrorCode → String
  | catalogError => "CATALOG_ERROR"
  | sourceError => "SOURCE_ERROR"
  | closureUnconverged => "CLOSURE_UNCONVERGED"
  | graphShapeInvalid => "GRAPH_SHAPE_INVALID"
  | cycleDetected => "CYCLE_DETECTED"
  | configError => "CONFIG_ERROR"
  | storageError => "STORAGE_ERROR"
  | migrationFailed => "MIGRATION_FAILED"
  | cancelled => "CANCELLED"

/-- The code of a catalog failure. -/
def CatalogError.code (_ : CatalogError) : ErrorCode := .catalogError

/-- The code of a source failure. -/
def SourceError.code (_ : SourceError) : ErrorCode := .sourceError

/-- The code of a storage failure. -/
def StorageError.code : StorageError → ErrorCode
  | migrationFailed _ _ => .migrationFailed
  | databaseFailed _ | corruptRecord _ _ => .storageError

/-- The code of a configuration failure. -/
def ConfigError.code (_ : ConfigError) : ErrorCode := .configError

/-- The code of a graph failure. -/
def GraphError.code : GraphError → ErrorCode
  | invalidShape _ _ => .graphShapeInvalid
  | cycleDetected _ => .cycleDetected

/-- The code of an ordering failure. -/
def ScheduleError.code (_ : ScheduleError) : ErrorCode := .cycleDetected

/-- The code of a closure failure. -/
def ClosureError.code : ClosureError → ErrorCode
  | unconverged _ _ | iterationLimit _ => .closureUnconverged
  | catalog cause => cause.code
  | source cause => cause.code
  | storage cause => cause.code
  | cancelled _ => .cancelled

/-- The code of a planning failure. -/
def PlanError.code : PlanError → ErrorCode
  | closure cause => cause.code
  | graph cause => cause.code
  | schedule cause => cause.code
  | storage cause => cause.code
  | config cause => cause.code
  | cancelled => .cancelled

/-! ## Messages -/

/-- The message of a catalog failure. -/
def CatalogError.message : CatalogError → String
  | queryFailed operation message => "Catalog query " ++ operation ++ " failed: " ++ message
  | unavailable message => "Catalog unavailable: " ++ message

/-- The message of a source failure. -/
def SourceError.message : SourceError → String
  | readFailed path message => "Failed to read source " ++ path ++ ": " ++ message
  | invalidEncoding path => "Source " ++ path ++ " is not valid UTF-8"

/-- The message of a storage failure. -/
def StorageError.message : StorageError → String
  | databaseFailed message => "SQLite error: " ++ message
  | migrationFailed version message =>
    "Migration failed at version " ++ version.repr ++ ": " ++ message
  | corruptRecord table message => "Corrupt record in " ++ table ++ ": " ++ message

/-- The message of a configuration failure. -/
def ConfigError.message : ConfigError → String
  | fileNotFound path => "Config file not found: " ++ path
  | parseError path message => "Config parse error in " ++ path ++ ": " ++ message
  | validationFailed field message =>
    "Config validation failed for " ++ field ++ ": " ++ message

/-- The message of a graph failure. -/
def GraphError.message : GraphError → String
  | invalidShape edge reason => "Invalid graph shape: " ++ edge ++ " (" ++ reason ++ ")"
  | cycleDetected cycles =>
    "Cycle detected in requires edges: " ++ Text.bracketed (cycles.map Text.quotedList)

/-- The message of an ordering failure. -/
def ScheduleError.message : ScheduleError → String
  | cycleDetected visited total remaining =>
    "Cycle detected: visited " ++ visited.repr ++ " of " ++ total.repr ++
      " objects, unvisited: " ++ Text.quotedList remaining

/-- The message of a closure failure. -/
def ClosureError.message : ClosureError → String
  | unconverged names repeats =>
    "Closure did not converge: " ++ Text.quotedList names ++ " still unresolved after " ++
      repeats.repr ++ " iterations"
  | iterationLimit maximum => "Closure exceeded " ++ maximum.repr ++ " iterations"
  | catalog cause => "Catalog error: " ++ cause.message
  | source cause => "Source error: " ++ cause.message
  | storage cause => "Edge log error: " ++ cause.message
  | cancelled iterations => "Closure cancelled after " ++ iterations.repr ++ " iterations"

/-- The message of a planning failure. -/
def PlanError.message : PlanError → String
  | closure cause => "Closure error: " ++ cause.message
  | graph cause => "Graph error: " ++ cause.message
  | schedule cause => "Schedule error: " ++ cause.message
  | storage cause => "Storage error: " ++ cause.message
  | config cause => "Configuration error: " ++ cause.message
  | cancelled => "Pipeline cancelled"

/-- A message with its code in front. -/
def codedMessage (code : ErrorCode) (message : String) : String :=
  "[" ++ code.name ++ "] " ++ message

end SchemaPlan
