import SchemaPlan.Database.CatalogTable
import SchemaPlan.Database.Renewal
import SchemaPlan.Database.PlanStore
import SchemaPlan.Files.Tree
import SchemaPlan.Plan.Planner

/-!
# Workspaces

A workspace is a tree of files together with an open database, if there is one.  The open database
is closed before another one is opened.
-/

set_option autoImplicit false

namespace SchemaPlan

/-- Files and an open database. -/
structure Workspace where
  files : FileTree
  session : Option Session
deriving DecidableEq, Repr

namespace Workspace

/-- The workspace in which nothing but a transient database exists. -/
def initial : Workspace := ⟨FileTree.empty, some (Session.transient none)⟩

/-- The workspace after its open database has been used.  What has been found in the files counts
only if there was an attempt to read them. -/
def withConnection (workspace : Workspace) (found : Session × FileTree) (connection : Connection) :
    Workspace :=
  if connection.isUsed then
    let (session, files) := { found.1 with connection }.keep found.2
    ⟨files, some session⟩
  else workspace

/-! ## Opening -/

/-- The files once no database is open. -/
def closedFiles (workspace : Workspace) : FileTree :=
  match workspace.session with
  | some session => session.finish workspace.files
  | none => workspace.files

/-- Opens a new transient database. -/
def openTransient (workspace : Workspace) : Except StorageError Unit × Workspace :=
  (.ok (), ⟨workspace.closedFiles, some (Session.transient none)⟩)

/-- Opens the database of an address.  When this fails no database is open. -/
def openAddress (workspace : Workspace) (address : String) :
    Except StorageError Unit × Workspace :=
  match (Opening.openAddress address).run workspace.closedFiles with
  | (.ok session, files) => (.ok (), ⟨files, some session⟩)
  | (.error failure, files) => (.error failure, ⟨files, none⟩)

/-- Opens the database that a configuration names. -/
def openConfigured (workspace : Workspace) (config : StorageConfig) :
    Except StorageError Unit × Workspace :=
  workspace.openAddress config.effectiveDatabasePath

/-! ## Using the open database -/

/-- Runs a command on an open database. -/
def run {Value : Type} (workspace : Workspace) (session : Session) (command : Command Value) :
    Except StorageError Value × Workspace :=
  let found := session.renew workspace.files
  let (answer, connection) := command.runOn { found.1.connection with isUsed := false }
  (answer, workspace.withConnection found connection)

/-- The planner over a stored catalog and the configured sources. -/
def planner (files : FileTree) (connection : Connection) (config : Config) (prior : List Edge) :
    Planner where
  config := config
  catalog := CatalogTable.catalog connection
  sources := files.sources config.storage.effectiveSourceRoot
  prior := prior

/-- Plans from roots, or from the configured ones, writing the records to the open database. -/
def plan (workspace : Workspace) (session : Session) (stage : EdgeStage) (config : Config)
    (prior : List Edge) (roots : Option (List ObjectRef)) :
    Except PlanError MigrationPlan × Workspace :=
  let found := session.renew workspace.files
  let planner := planner found.2 found.1.connection config prior
  let (answer, connection) := match roots with
    | some roots => planner.plan (EdgeLog.sink stage) roots found.1.connection
    | none => planner.planConfigured (EdgeLog.sink stage) found.1.connection
  (answer, workspace.withConnection found { connection with isUsed := true })

end Workspace

end SchemaPlan
