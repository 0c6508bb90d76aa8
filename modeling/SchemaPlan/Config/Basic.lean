import SchemaPlan.Error
import SchemaPlan.Reference.Extraction

/-!
# Configuration

A configuration has four sections.  A setting that is left out has a default, and every list is
empty unless it is given.
-/

set_option autoImplicit false

namespace SchemaPlan

/-- Settings of the closure. -/
structure ClosureConfig where
  /-- How many iterations the closure may take. -/
  maxIterations : Option Nat := none
  /-- In how many iterations a reference may stay unresolved. -/
  maxUnresolvedRepeats : Option Nat := none
  /-- Names that are never references, besides the built-in ones. -/
  extraExclusions : List String := []
  /-- Openings of names delivered by the vendor, besides the built-in ones. -/
  vendorOpenings : List String := []
deriving DecidableEq, Repr

/-- Settings of the dependency graph. -/
structure GraphConfig where
  /-- The least length of the name of a custom object, in bytes. -/
  minNameLength : Option Nat := none
  /-- How the names of custom objects begin; with no openings every name will do. -/
  customOpenings : List String := []
deriving DecidableEq, Repr

/-- What is to be delivered. -/
structure TargetConfig where
  /-- The packages to deliver; with none, everything is delivered. -/
  installPackages : List String := []
  /-- The packages that are never delivered. -/
  skipPackages : List String := []
  /-- The roots of the plan. -/
  roots : List String := []
deriving DecidableEq, Repr

/-- Where things are kept. -/
structure StorageConfig where
  /-- The file of the database. -/
  databasePath : Option String := none
  /-- The directory of the sources. -/
  sourceRoot : Option String := none
deriving DecidableEq, Repr

/-- A configuration. -/
structure Config where
  closure : ClosureConfig := {}
  graph : GraphConfig := {}
  targets : TargetConfig := {}
  storage : StorageConfig := {}
deriving DecidableEq, Repr

namespace ClosureConfig

/-- The number of iterations that the closure may take. -/
def effectiveMaxIterations (config : ClosureConfig) : Nat := config.maxIterations.getD 100

/-- The number of iterations in which a reference may stay unresolved. -/
def effectiveMaxUnresolvedRepeats (config : ClosureConfig) : Nat :=
  config.maxUnresolvedRepeats.getD 3

/-- The extractor that the settings ask for. -/
def extractor (config : ClosureConfig) : Extractor :=
  Extractor.extended config.extraExclusions config.vendorOpenings

end ClosureConfig

namespace GraphConfig

/-- The least length of the name of a custom object, in bytes. -/
def effectiveMinNameLength (config : GraphConfig) : Nat := config.minNameLength.getD 4

/-- Whether a name is that of a custom object: long enough, and with one of the openings if there
are any. -/
def isCustomName (config : GraphConfig) (name : String) : Bool :=
  decide (config.effectiveMinNameLength ≤ Text.byteLength name.toList) &&
    (config.customOpenings.isEmpty ||
      config.customOpenings.any fun opening =>
        (Text.upper opening).toList.isPrefixOf name.toList)

end GraphConfig

namespace StorageConfig

/-- The file of the database. -/
def effectiveDatabasePath (config : StorageConfig) : String :=
  config.databasePath.getD "schemig.db"

/-- The directory of the sources. -/
def effectiveSourceRoot (config : StorageConfig) : String := config.sourceRoot.getD "sources"

end StorageConfig

namespace Config

/-- The failure of a setting that is zero. -/
def notPositive (field : String) : ConfigError :=
  .validationFailed field "must be greater than 0"

/-- The packages to deliver that are also never delivered, whatever their case. -/
def contradictoryPackages (targets : TargetConfig) : List String :=
  targets.installPackages.filter fun package =>
    targets.skipPackages.any fun skipped => Text.sameIgnoringCase skipped package

/-- Checks the values of a configuration; the first fault is reported. -/
def validate (config : Config) : Except ConfigError Unit :=
  if config.closure.maxIterations = some 0 then
    .error (notPositive "closure.max_iterations")
  else if config.closure.maxUnresolvedRepeats = some 0 then
    .error (notPositive "closure.max_unresolved_repeats")
  else if config.graph.minNameLength = some 0 then
    .error (notPositive "graph.min_name_length")
  else
    let contradictory := contradictoryPackages config.targets
    if contradictory.isEmpty then .ok ()
    else .error (.validationFailed "targets"
      ("packages both installed and skipped: " ++ Text.quotedList contradictory))

end Config

end SchemaPlan
