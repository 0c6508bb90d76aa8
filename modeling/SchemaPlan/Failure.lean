import SchemaPlan.Error

/-!
# Any failure

The failures of all parts form one type.  A failure has a name, which for a failure that has been
passed on begins with the names of the parts that passed it on, and an origin, which is the
failure as it first arose.
-/

set_option autoImplicit false

namespace SchemaPlan

/-- A failure of any part. -/
inductive Failure where
  | catalog (error : CatalogError)
  | source (error : SourceError)
  | storage (error : StorageError)
  | config (error : ConfigError)
  | graph (error : GraphError)
  | schedule (error : ScheduleError)
  | closure (error : ClosureError)
  | plan (error : PlanError)
deriving DecidableEq, Repr

/-! ## Names -/

/-- The name of a catalog failure. -/
def CatalogError.name : CatalogError → String
  | queryFailed _ _ => "QueryFailed"
  | unavailable _ => "Unavailable"

/-- The name of a source failure. -/
def SourceError.name : SourceError → String
  | readFailed _ _ => "ReadFailed"
  | invalidEncoding _ => "InvalidEncoding"

/-- The name of a storage failure. -/
def StorageError.name : StorageError → String
  | databaseFailed _ => "SqliteError"
  | migrationFailed _ _ => "MigrationFailed"
  | corruptRecord _ _ => "CorruptRecord"

/-- The name of a configuration failure. -/
def ConfigError.name : ConfigError → String
  | fileNotFound _ => "FileNotFound"
  | parseError _ _ => "ParseError"
  | validationFailed _ _ => "ValidationFailed"

/-- The name of a graph failure. -/
def GraphError.name : GraphError → String
  | invalidShape _ _ => "InvalidGraphShape"
  | cycleDetected _ => "CycleDetected"

/-- The name of an ordering failure. -/
def ScheduleError.name (_ : ScheduleError) : String := "CycleDetected"

/-- The name of a closure failure. -/
def ClosureError.name : ClosureError → String
  | unconverged _ _ => "Unconverged"
  | iterationLimit _ => "IterationLimit"
  | catalog cause => "Catalog." ++ cause.name
  | source cause => "Source." ++ cause.name
  | storage cause => "Storage." ++ cause.name
  | cancelled _ => "Cancelled"

/-- The name of a planning failure. -/
def PlanError.name : PlanError → String
  | closure cause => "Closure." ++ cause.name
  | graph cause => "Graph." ++ cause.name
  | schedule cause => "Schedule." ++ cause.name
  | storage cause => "Storage." ++ cause.name
  | config cause => "Config." ++ cause.name
  | cancelled => "Cancelled"

/-! ## Origins -/

/-- The origin of a closure failure. -/
def ClosureError.origin : ClosureError → Failure
  | catalog cause => .catalog cause
  | source cause => .source cause
  | storage cause => .storage cause
  | own => .closure own

/-- The origin of a planning failure. -/
def PlanError.origin : PlanError → Failure
  | closure cause => cause.origin
  | graph cause => .graph cause
  | schedule cause => .schedule cause
  | storage cause => .storage cause
  | config cause => .config cause
  | cancelled => .plan .cancelled

namespace Failure

/-- The name of a failure. -/
def name : Failure → String
  | catalog error => error.name
  | source error => error.name
  | storage error => error.name
  | config error => error.name
  | graph error => error.name
  | schedule error => error.name
  | closure error => error.name
  | plan error => error.name

/-- The code of a failure. -/
def code : Failure → ErrorCode
  | catalog error => error.code
  | source error => error.code
  | storage error => error.code
  | config error => error.code
  | graph error => error.code
  | schedule error => error.code
  | closure error => error.code
  | plan error => error.code

/-- The message of a failure. -/
def message : Failure → String
  | catalog error => error.message
  | source error => error.message
  | storage error => error.message
  | config error => error.message
  | graph error => error.message
  | schedule error => error.message
  | closure error => error.message
  | plan error => error.message

/-- The failure as it first arose. -/
def origin : Failure → Failure
  | closure error => error.origin
  | plan error => error.origin
  | own => own

/-- The file in which a failure arose. -/
def path? (failure : Failure) : Option String :=
  match failure.origin with
  | source (.readFailed path _) | source (.invalidEncoding path)
  | config (.fileNotFound path) | config (.parseError path _) => some path
  | _ => none

end Failure

end SchemaPlan
