import SchemaPlan.Config.Form
import SchemaPlan.Files.Place
import SchemaPlan.Files.Tree

/-!
# Layered configuration

A configuration is made up of layers, each of which overrides the ones before: the file of the
user, the file of the project, the environment and the overrides of the command line.  A file of
the user that cannot be read is left out; a file that can be read has to be well formed.
-/

set_option autoImplicit false

namespace SchemaPlan

/-- Settings given on the command line. -/
structure Overrides where
  maxIterations : Option Nat := none
  minNameLength : Option Nat := none
  installPackages : Option (List String) := none
  databasePath : Option String := none
  sourceRoot : Option String := none
deriving DecidableEq, Repr

/-- The variables of an environment. -/
abbrev Environment : Type := List (String × String)

namespace Environment

/-- The value of a variable. -/
def get? (environment : Environment) (name : String) : Option String :=
  (environment.find? fun entry => entry.1 == name).map (·.2)

/-- The number that a text of digits, with or without a plus, stands for. -/
def number? (greatest : Nat) (text : String) : Option Nat :=
  let digits := match text.toList with
    | '+' :: rest => rest
    | all => all
  if digits.isEmpty || !digits.all Char.isDigit then none
  else
    let value := Json.digitsValue 10 0 digits
    if value ≤ greatest then some value else none

/-- The number that a variable holds.  A variable that holds something else counts as unset. -/
def getNumber? (environment : Environment) (greatest : Nat) (name : String) : Option Nat :=
  (environment.get? name).bind (number? greatest)

/-- The names in a list with commas, in stored form and without blank ones. -/
def list (text : String) : List String :=
  ((Text.splitOn ',' text).map Text.canonical).filter fun name => !name.isEmpty

/-- The home directory. -/
def home? (environment : Environment) : Option String :=
  (environment.get? "HOME").or (environment.get? "USERPROFILE")

/-- The path of the file of the user. -/
def userFile? (environment : Environment) : Option String :=
  environment.home?.map fun home => Path.join (Path.join home ".schemig") "config.toml"

end Environment

namespace Config

/-! ## Layers -/

/-- The list of a layer, unless it is empty, otherwise that of the layers below. -/
def mergeList (below above : List String) : List String :=
  if above.isEmpty then below else above

/-- The configuration with what a file sets. -/
def mergeFile (below above : Config) : Config where
  closure :=
    { maxIterations := above.closure.maxIterations.or below.closure.maxIterations
      maxUnresolvedRepeats :=
        above.closure.maxUnresolvedRepeats.or below.closure.maxUnresolvedRepeats
      extraExclusions := mergeList below.closure.extraExclusions above.closure.extraExclusions
      vendorOpenings := mergeList below.closure.vendorOpenings above.closure.vendorOpenings }
  graph :=
    { minNameLength := above.graph.minNameLength.or below.graph.minNameLength
      customOpenings := mergeList below.graph.customOpenings above.graph.customOpenings }
  targets :=
    { installPackages := mergeList below.targets.installPackages above.targets.installPackages
      skipPackages := mergeList below.targets.skipPackages above.targets.skipPackages
      roots := mergeList below.targets.roots above.targets.roots }
  storage :=
    { databasePath := above.storage.databasePath.or below.storage.databasePath
      sourceRoot := above.storage.sourceRoot.or below.storage.sourceRoot }

/-- The greatest number of 64 bits. -/
def maxLength : Nat := Json.maxUnsigned

/-- The configuration with what the environment sets. -/
def mergeEnvironment (below : Config) (environment : Environment) : Config where
  closure :=
    { below.closure with
      maxIterations :=
        (environment.getNumber? JsonForm.maxUnsigned32 "SCHEMIG_CLOSURE_MAX_ITERATIONS").or
          below.closure.maxIterations
      maxUnresolvedRepeats :=
        (environment.getNumber? JsonForm.maxUnsigned32
          "SCHEMIG_CLOSURE_MAX_UNRESOLVED_REPEATS").or below.closure.maxUnresolvedRepeats }
  graph :=
    { below.graph with
      minNameLength :=
        (environment.getNumber? maxLength "SCHEMIG_GRAPH_MIN_NAME_LENGTH").or
          below.graph.minNameLength }
  targets :=
    { below.targets with
      installPackages :=
        ((environment.get? "SCHEMIG_TARGETS_INSTALL_PACKAGES").map Environment.list).getD
          below.targets.installPackages }
  storage :=
    { databasePath :=
        (environment.get? "SCHEMIG_STORAGE_DATABASE_PATH").or below.storage.databasePath
      sourceRoot := (environment.get? "SCHEMIG_STORAGE_SOURCE_ROOT").or below.storage.sourceRoot }

/-- The configuration with what the command line sets. -/
def mergeOverrides (below : Config) (overrides : Overrides) : Config where
  closure :=
    { below.closure with
      maxIterations := overrides.maxIterations.or below.closure.maxIterations }
  graph :=
    { below.graph with minNameLength := overrides.minNameLength.or below.graph.minNameLength }
  targets :=
    { below.targets with
      installPackages := overrides.installPackages.getD below.targets.installPackages }
  storage :=
    { databasePath := overrides.databasePath.or below.storage.databasePath
      sourceRoot := overrides.sourceRoot.or below.storage.sourceRoot }

/-! ## Files -/

/-- The configuration in a file. -/
def readFile (files : FileTree) (path : String) : Except ConfigError Config :=
  match files.read path with
  | .ok (.text content) => readToml path content
  | _ => .error (.fileNotFound path)

/-- The configuration with what the file of the user sets. -/
def mergeUserFile (below : Config) (files : FileTree) (environment : Environment) :
    Except ConfigError Config :=
  match environment.userFile? with
  | none => .ok below
  | some path =>
    match readFile files path with
    | .ok config => .ok (below.mergeFile config)
    | .error (.parseError path message) => .error (.parseError path message)
    | .error _ => .ok below

/-- The configuration with what the file of the project sets, if there is one. -/
def mergeProjectFile (below : Config) (files : FileTree) (root : String) :
    Except ConfigError Config :=
  let path := Path.join root "schemig.toml"
  if files.exists? path then (readFile files path).map below.mergeFile else .ok below

/-- The configuration of a project. -/
def load (files : FileTree) (environment : Environment) (root : String)
    (overrides : Overrides) : Except ConfigError Config := do
  let withUser ← mergeUserFile {} files environment
  let withProject ← withUser.mergeProjectFile files root
  let config := (withProject.mergeEnvironment environment).mergeOverrides overrides
  config.validate
  return config

end Config

end SchemaPlan
