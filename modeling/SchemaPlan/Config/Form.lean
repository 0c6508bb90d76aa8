import SchemaPlan.Config.Basic
import SchemaPlan.Json.Form
import SchemaPlan.Toml.Reader
import SchemaPlan.Toml.Writer

/-!
# Configurations as JSON and as TOML

As JSON a setting that is left out is written as null, and every section and every setting may
be missing.  As TOML a configuration is read from a document with a table for every section.  An
array may stand for a section and gives its settings in order; items without a setting are left
alone.
-/

set_option autoImplicit false

namespace SchemaPlan.JsonForm

/-- A setting that may be null, with a reader of its own. -/
def nullableWith? {Value : Type} (read : Json → Option Value) (field : Option Json) :
    Option (Option Value) :=
  match field with
  | none | some .null => some none
  | some value => (read value).map some

instance : JsonForm ClosureConfig where
  toJson config :=
    .object [("max_iterations", toJson config.maxIterations),
      ("max_unresolved_repeats", toJson config.maxUnresolvedRepeats),
      ("extra_exclusions", toJson config.extraExclusions),
      ("vendor_prefixes", toJson config.vendorOpenings)]
  ofJson? value := do
    match ← defaultedFields? ["max_iterations", "max_unresolved_repeats", "extra_exclusions",
        "vendor_prefixes"] value with
    | [iterations, repeats, exclusions, openings] =>
      return ⟨← nullableWith? natural32? iterations, ← nullableWith? natural32? repeats,
        ← defaulted? [] exclusions, ← defaulted? [] openings⟩
    | _ => none

instance : JsonForm GraphConfig where
  toJson config :=
    .object [("min_name_length", toJson config.minNameLength),
      ("custom_prefixes", toJson config.customOpenings)]
  ofJson? value := do
    match ← defaultedFields? ["min_name_length", "custom_prefixes"] value with
    | [length, openings] => return ⟨← nullable? length, ← defaulted? [] openings⟩
    | _ => none

instance : JsonForm TargetConfig where
  toJson config :=
    .object [("install_packages", toJson config.installPackages),
      ("skip_packages", toJson config.skipPackages), ("roots", toJson config.roots)]
  ofJson? value := do
    match ← defaultedFields? ["install_packages", "skip_packages", "roots"] value with
    | [install, skip, roots] =>
      return ⟨← defaulted? [] install, ← defaulted? [] skip, ← defaulted? [] roots⟩
    | _ => none

instance : JsonForm StorageConfig where
  toJson config :=
    .object [("database_path", toJson config.databasePath),
      ("source_root", toJson config.sourceRoot)]
  ofJson? value := do
    match ← defaultedFields? ["database_path", "source_root"] value with
    | [path, root] => return ⟨← nullable? path, ← nullable? root⟩
    | _ => none

instance : JsonForm Config where
  toJson config :=
    .object [("closure", toJson config.closure), ("graph", toJson config.graph),
      ("targets", toJson config.targets), ("storage", toJson config.storage)]
  ofJson? value := do
    match ← defaultedFields? ["closure", "graph", "targets", "storage"] value with
    | [closure, graph, targets, storage] =>
      return ⟨← defaulted? {} closure, ← defaulted? {} graph, ← defaulted? {} targets,
        ← defaulted? {} storage⟩
    | _ => none

end SchemaPlan.JsonForm

/-! ## TOML -/

namespace SchemaPlan.Config

/-- The sections with the numbers of their settings. -/
def sectionSizes : List (String × Nat) :=
  [("closure", 4), ("graph", 2), ("targets", 3), ("storage", 2)]

/-- The member of a document without the items that stand for no setting. -/
def clipSection (entry : String × Json) : String × Json :=
  match entry.2, sectionSizes.find? fun size => size.1 == entry.1 with
  | .array items, some size => (entry.1, .array (items.take size.2))
  | _, _ => entry

/-- Reads a configuration from a document of a given path. -/
def readToml (path text : String) : Except ConfigError Config :=
  match (Toml.parse? text).bind fun document =>
      JsonForm.ofJson? (.object (document.members.map clipSection)) with
  | some config => .ok config
  | none => .error (.parseError path "not a configuration")

/-- Reads a configuration from a text. -/
def ofToml (text : String) : Except ConfigError Config := readToml "<string>" text

/-- A number as a setting, which TOML limits to 63 bits. -/
def writtenNumber (value : Option Nat) : Except ConfigError (Option String) :=
  match value with
  | none => .ok none
  | some value =>
    if value ≤ 9223372036854775807 then .ok (some value.repr)
    else .error (.parseError "<serialization>" "out-of-range value")

/-- Writes a configuration, every section in full apart from what is left out. -/
def toml (config : Config) : Except ConfigError String := do
  let iterations ← writtenNumber config.closure.maxIterations
  let repeats ← writtenNumber config.closure.maxUnresolvedRepeats
  let length ← writtenNumber config.graph.minNameLength
  let list (texts : List String) : Option String := some (Toml.writtenList texts)
  return String.intercalate "\n"
    [Toml.writtenSection "closure"
      [("max_iterations", iterations), ("max_unresolved_repeats", repeats),
        ("extra_exclusions", list config.closure.extraExclusions),
        ("vendor_prefixes", list config.closure.vendorOpenings)],
     Toml.writtenSection "graph"
      [("min_name_length", length), ("custom_prefixes", list config.graph.customOpenings)],
     Toml.writtenSection "targets"
      [("install_packages", list config.targets.installPackages),
        ("skip_packages", list config.targets.skipPackages),
        ("roots", list config.targets.roots)],
     Toml.writtenSection "storage"
      [("database_path", config.storage.databasePath.map Toml.writtenString),
        ("source_root", config.storage.sourceRoot.map Toml.writtenString)]]

end SchemaPlan.Config
