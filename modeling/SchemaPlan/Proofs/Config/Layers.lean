import SchemaPlan.Config.Layers
import SchemaPlan.Proofs.Outcome

/-!
# Settings that layers give

A layer gives some of the eleven settings and leaves the others alone.  The settings that
layers come to are told field by field: of the layers that give a setting the first one
counts, and a setting that none of them gives has its default (`Config.ofLayers`).

The command line and the environment are merged in such a way, and so is a file, but for
one thing: a list that a file gives as an empty one is taken as not given, because a
configuration that has been read does not tell the two apart.  So what is loaded are the
settings of the layers without the empty lists in files (`load_eq_ofLayers`).  It is what
the layers come to, unless the file of the project empties a list of the file of the user.
-/

set_option autoImplicit false

namespace SchemaPlan

/-! ## Layers -/

/-- The settings that a layer gives. -/
structure Layer where
  maxIterations : Option Nat := none
  maxUnresolvedRepeats : Option Nat := none
  extraExclusions : Option (List String) := none
  vendorOpenings : Option (List String) := none
  minNameLength : Option Nat := none
  customOpenings : Option (List String) := none
  installPackages : Option (List String) := none
  skipPackages : Option (List String) := none
  roots : Option (List String) := none
  databasePath : Option String := none
  sourceRoot : Option String := none
deriving DecidableEq, Repr

/-- The configuration that layers come to.  The first of them counts first, and what none of
them gives is left out or, if it is a list, empty. -/
def Config.ofLayers (layers : List Layer) : Config where
  closure :=
    { maxIterations := layers.findSome? (·.maxIterations)
      maxUnresolvedRepeats := layers.findSome? (·.maxUnresolvedRepeats)
      extraExclusions := (layers.findSome? (·.extraExclusions)).getD []
      vendorOpenings := (layers.findSome? (·.vendorOpenings)).getD [] }
  graph :=
    { minNameLength := layers.findSome? (·.minNameLength)
      customOpenings := (layers.findSome? (·.customOpenings)).getD [] }
  targets :=
    { installPackages := (layers.findSome? (·.installPackages)).getD []
      skipPackages := (layers.findSome? (·.skipPackages)).getD []
      roots := (layers.findSome? (·.roots)).getD [] }
  storage :=
    { databasePath := layers.findSome? (·.databasePath)
      sourceRoot := layers.findSome? (·.sourceRoot) }

namespace Layer

/-- The settings whose values are lists. -/
def lists : List (Layer → Option (List String)) :=
  [(·.extraExclusions), (·.vendorOpenings), (·.customOpenings), (·.installPackages),
    (·.skipPackages), (·.roots)]

/-- The layer without the lists that it gives as empty ones. -/
def withoutEmptyLists (layer : Layer) : Layer :=
  let given (names : Option (List String)) := names.filter fun names => !names.isEmpty
  { layer with
    extraExclusions := given layer.extraExclusions
    vendorOpenings := given layer.vendorOpenings
    customOpenings := given layer.customOpenings
    installPackages := given layer.installPackages
    skipPackages := given layer.skipPackages
    roots := given layer.roots }

/-- What the command line gives. -/
def ofOverrides (overrides : Overrides) : Layer where
  maxIterations := overrides.maxIterations
  minNameLength := overrides.minNameLength
  installPackages := overrides.installPackages
  databasePath := overrides.databasePath
  sourceRoot := overrides.sourceRoot

/-- What an environment gives: numbers in variables that hold one, and whatever the other
variables hold. -/
def ofEnvironment (environment : Environment) : Layer where
  maxIterations :=
    environment.getNumber? JsonForm.maxUnsigned32 "SCHEMIG_CLOSURE_MAX_ITERATIONS"
  maxUnresolvedRepeats :=
    environment.getNumber? JsonForm.maxUnsigned32 "SCHEMIG_CLOSURE_MAX_UNRESOLVED_REPEATS"
  minNameLength := environment.getNumber? Config.maxLength "SCHEMIG_GRAPH_MIN_NAME_LENGTH"
  installPackages := (environment.get? "SCHEMIG_TARGETS_INSTALL_PACKAGES").map Environment.list
  databasePath := environment.get? "SCHEMIG_STORAGE_DATABASE_PATH"
  sourceRoot := environment.get? "SCHEMIG_STORAGE_SOURCE_ROOT"

end Layer

namespace JsonForm

/-- The value of a field of a record: the member with its name or, when the record is given
as an array, the item at its place. -/
def field? (record : Json) (place : Nat) (name : String) : Option Json :=
  match record with
  | .array items => items[place]?
  | _ => record.member? name

end JsonForm

namespace Layer

/-- What a document says about a setting, told by its section and its place and name there. -/
def said? (document : Json) (part : String) (place : Nat) (name : String) : Option Json :=
  (document.member? part).bind (JsonForm.field? · place name)

/-- What a document gives. -/
def ofDocument (document : Json) : Layer where
  maxIterations := (said? document "closure" 0 "max_iterations").bind JsonForm.natural32?
  maxUnresolvedRepeats :=
    (said? document "closure" 1 "max_unresolved_repeats").bind JsonForm.natural32?
  extraExclusions := (said? document "closure" 2 "extra_exclusions").bind JsonForm.ofJson?
  vendorOpenings := (said? document "closure" 3 "vendor_prefixes").bind JsonForm.ofJson?
  minNameLength := (said? document "graph" 0 "min_name_length").bind JsonForm.ofJson?
  customOpenings := (said? document "graph" 1 "custom_prefixes").bind JsonForm.ofJson?
  installPackages := (said? document "targets" 0 "install_packages").bind JsonForm.ofJson?
  skipPackages := (said? document "targets" 1 "skip_packages").bind JsonForm.ofJson?
  roots := (said? document "targets" 2 "roots").bind JsonForm.ofJson?
  databasePath := (said? document "storage" 0 "database_path").bind JsonForm.ofJson?
  sourceRoot := (said? document "storage" 1 "source_root").bind JsonForm.ofJson?

/-- What a file gives: what its document does, and nothing if there is none to be read. -/
def ofFile (files : FileTree) (path : String) : Layer :=
  match files.read path with
  | .ok (.text content) => ((Toml.parse? content).map ofDocument).getD {}
  | _ => {}

/-- What the file of a project gives. -/
def ofProject (files : FileTree) (root : String) : Layer :=
  ofFile files (Path.join root "schemig.toml")

/-- What the file of the user gives. -/
def ofUser (files : FileTree) (environment : Environment) : Layer :=
  (environment.userFile?.map (ofFile files)).getD {}

end Layer

/-! ## Reading a document -/

namespace JsonForm

variable {Value : Type}

/-- The fields of a record are read by name or by place. -/
theorem defaultedFields?_eq_some {names : List String} {record : Json}
    {fields : List (Option Json)} (read : defaultedFields? names record = some fields) :
    fields = names.mapIdx (field? record) := by
  cases record with
  | object members =>
      rw [defaultedFields?, namedFields?] at read
      split at read
      · cases read
      · obtain rfl := Option.some.inj read
        refine List.ext_getElem? fun place => ?_
        rw [List.getElem?_map, List.getElem?_mapIdx]
        rfl
  | array items =>
      rw [defaultedFields?] at read
      split at read
      · next enough =>
        obtain rfl := Option.some.inj read
        refine List.ext_getElem (by simp; omega) fun place _ isPlace => ?_
        rw [List.length_mapIdx] at isPlace
        rw [List.getElem_mapIdx, field?, List.getElem_append]
        simp only [List.length_map, List.getElem_map, List.getElem_replicate]
        split
        · next given => exact (List.getElem?_eq_getElem given).symm
        · next missing => exact (List.getElem?_eq_none (Nat.le_of_not_lt missing)).symm
      · cases read
  | null | bool _ | integer _ | fraction | string _ | unpaired => cases read

theorem nullableWith?_eq_some {read : Json → Option Value} (null : read .null = none)
    {field : Option Json} {value : Option Value} (done : nullableWith? read field = some value) :
    value = field.bind read := by
  cases field with
  | none => exact (Option.some.inj done).symm
  | some json =>
      cases json with
      | null => exact (Option.some.inj done).symm.trans null.symm
      | bool _ | integer _ | fraction | string _ | unpaired | array _ | object _ =>
          obtain ⟨_, isValue, rfl⟩ := Option.map_eq_some_iff.mp done
          exact isValue.symm

theorem nullable?_eq_some [JsonForm Value] (null : (ofJson? .null : Option Value) = none)
    {field : Option Json} {value : Option Value} (done : nullable? field = some value) :
    value = field.bind ofJson? := by
  have same : nullable? field = nullableWith? (ofJson? : Json → Option Value) field := by
    rcases field with _ | json
    · rfl
    · cases json <;> rfl
  exact nullableWith?_eq_some null (same ▸ done)

theorem defaulted?_eq_some [JsonForm Value] {default : Value} {field : Option Json} {value : Value}
    (done : defaulted? default field = some value) :
    value = (field.bind ofJson?).getD default := by
  cases field with
  | none => exact (Option.some.inj done).symm
  | some json => exact (congrArg (·.getD default) done).symm

end JsonForm

namespace Config

open JsonForm (field? defaulted? defaultedFields?_eq_some nullable?_eq_some nullableWith?_eq_some
  defaulted?_eq_some)

variable {part : Option Json}

theorem closure_eq_of_read {closure : ClosureConfig} (read : defaulted? {} part = some closure) :
    closure =
      { maxIterations := (part.bind (field? · 0 "max_iterations")).bind JsonForm.natural32?
        maxUnresolvedRepeats :=
          (part.bind (field? · 1 "max_unresolved_repeats")).bind JsonForm.natural32?
        extraExclusions :=
          ((part.bind (field? · 2 "extra_exclusions")).bind JsonForm.ofJson?).getD []
        vendorOpenings :=
          ((part.bind (field? · 3 "vendor_prefixes")).bind JsonForm.ofJson?).getD [] } := by
  cases part with
  | none => exact (Option.some.inj read).symm
  | some record =>
      obtain ⟨fields, isFields, read⟩ := Option.bind_eq_some_iff.mp read
      obtain rfl := defaultedFields?_eq_some isFields
      obtain ⟨iterations, isIterations, read⟩ := Option.bind_eq_some_iff.mp read
      obtain ⟨repeats, isRepeats, read⟩ := Option.bind_eq_some_iff.mp read
      obtain ⟨exclusions, isExclusions, read⟩ := Option.bind_eq_some_iff.mp read
      obtain ⟨openings, isOpenings, read⟩ := Option.bind_eq_some_iff.mp read
      obtain rfl := nullableWith?_eq_some rfl isIterations
      obtain rfl := nullableWith?_eq_some rfl isRepeats
      obtain rfl := defaulted?_eq_some isExclusions
      obtain rfl := defaulted?_eq_some isOpenings
      exact (Option.some.inj read).symm

theorem graph_eq_of_read {graph : GraphConfig} (read : defaulted? {} part = some graph) :
    graph =
      { minNameLength := (part.bind (field? · 0 "min_name_length")).bind JsonForm.ofJson?
        customOpenings :=
          ((part.bind (field? · 1 "custom_prefixes")).bind JsonForm.ofJson?).getD [] } := by
  cases part with
  | none => exact (Option.some.inj read).symm
  | some record =>
      obtain ⟨fields, isFields, read⟩ := Option.bind_eq_some_iff.mp read
      obtain rfl := defaultedFields?_eq_some isFields
      obtain ⟨length, isLength, read⟩ := Option.bind_eq_some_iff.mp read
      obtain ⟨openings, isOpenings, read⟩ := Option.bind_eq_some_iff.mp read
      obtain rfl := nullable?_eq_some rfl isLength
      obtain rfl := defaulted?_eq_some isOpenings
      exact (Option.some.inj read).symm

theorem targets_eq_of_read {targets : TargetConfig} (read : defaulted? {} part = some targets) :
    targets =
      { installPackages :=
          ((part.bind (field? · 0 "install_packages")).bind JsonForm.ofJson?).getD []
        skipPackages := ((part.bind (field? · 1 "skip_packages")).bind JsonForm.ofJson?).getD []
        roots := ((part.bind (field? · 2 "roots")).bind JsonForm.ofJson?).getD [] } := by
  cases part with
  | none => exact (Option.some.inj read).symm
  | some record =>
      obtain ⟨fields, isFields, read⟩ := Option.bind_eq_some_iff.mp read
      obtain rfl := defaultedFields?_eq_some isFields
      obtain ⟨install, isInstall, read⟩ := Option.bind_eq_some_iff.mp read
      obtain ⟨skip, isSkip, read⟩ := Option.bind_eq_some_iff.mp read
      obtain ⟨roots, isRoots, read⟩ := Option.bind_eq_some_iff.mp read
      obtain rfl := defaulted?_eq_some isInstall
      obtain rfl := defaulted?_eq_some isSkip
      obtain rfl := defaulted?_eq_some isRoots
      exact (Option.some.inj read).symm

theorem storage_eq_of_read {storage : StorageConfig} (read : defaulted? {} part = some storage) :
    storage =
      { databasePath := (part.bind (field? · 0 "database_path")).bind JsonForm.ofJson?
        sourceRoot := (part.bind (field? · 1 "source_root")).bind JsonForm.ofJson? } := by
  cases part with
  | none => exact (Option.some.inj read).symm
  | some record =>
      obtain ⟨fields, isFields, read⟩ := Option.bind_eq_some_iff.mp read
      obtain rfl := defaultedFields?_eq_some isFields
      obtain ⟨path, isPath, read⟩ := Option.bind_eq_some_iff.mp read
      obtain ⟨root, isRoot, read⟩ := Option.bind_eq_some_iff.mp read
      obtain rfl := nullable?_eq_some rfl isPath
      obtain rfl := nullable?_eq_some rfl isRoot
      exact (Option.some.inj read).symm

/-- A section without the items that stand for no setting. -/
theorem member?_clipSection (document : Json) (part : String) :
    (Json.object (document.members.map clipSection)).member? part =
      (document.member? part).map fun record => (clipSection (part, record)).2 := by
  rw [Json.member?, Json.member?, Json.members]
  generalize document.members = members
  induction members with
  | nil => rfl
  | cons entry rest ih =>
      have sameName : (clipSection entry).1 = entry.1 := by
        rw [clipSection]
        split <;> rfl
      rw [List.map_cons, List.find?_cons, List.find?_cons, sameName]
      split
      · next named =>
        obtain rfl := beq_iff_eq.mp named
        rfl
      · exact ih

/-- The items that stand for settings are read as they are. -/
theorem said?_clipSection (document : Json) {part : String} {place size : Nat} (name : String)
    (isSize : sectionSizes.find? (fun size => size.1 == part) = some (part, size))
    (inside : place < size) :
    ((Json.object (document.members.map clipSection)).member? part).bind (field? · place name) =
      Layer.said? document part place name := by
  rw [member?_clipSection, Layer.said?, Option.bind_map]
  congr 1
  funext record
  rw [Function.comp_apply, clipSection, isSize]
  cases record with
  | array items => exact List.getElem?_take_of_lt inside
  | null | bool _ | integer _ | fraction | string _ | unpaired | object _ => rfl

/-- **What is read from a document** is what the document gives, taken for itself. -/
theorem readToml_eq_ok {path text : String} {config : Config}
    (read : readToml path text = .ok config) :
    ∃ document, Toml.parse? text = some document ∧
      config = ofLayers [Layer.ofDocument document] := by
  rw [readToml] at read
  split at read
  · next config done =>
    obtain rfl := Except.ok.inj read
    obtain ⟨document, isDocument, done⟩ := Option.bind_eq_some_iff.mp done
    refine ⟨document, isDocument, ?_⟩
    obtain ⟨fields, isFields, done⟩ := Option.bind_eq_some_iff.mp done
    obtain rfl := defaultedFields?_eq_some isFields
    obtain ⟨closure, isClosure, done⟩ := Option.bind_eq_some_iff.mp done
    obtain ⟨graph, isGraph, done⟩ := Option.bind_eq_some_iff.mp done
    obtain ⟨targets, isTargets, done⟩ := Option.bind_eq_some_iff.mp done
    obtain ⟨storage, isStorage, done⟩ := Option.bind_eq_some_iff.mp done
    obtain rfl := Option.some.inj done
    have closure := fun place name => @said?_clipSection document "closure" place 4 name rfl
    have graph := fun place name => @said?_clipSection document "graph" place 2 name rfl
    have targets := fun place name => @said?_clipSection document "targets" place 3 name rfl
    have storage := fun place name => @said?_clipSection document "storage" place 2 name rfl
    rw [closure_eq_of_read isClosure, graph_eq_of_read isGraph, targets_eq_of_read isTargets,
      storage_eq_of_read isStorage, Layer.ofDocument, ← closure 0 _ (by decide),
      ← closure 1 _ (by decide), ← closure 2 _ (by decide), ← closure 3 _ (by decide),
      ← graph 0 _ (by decide), ← graph 1 _ (by decide), ← targets 0 _ (by decide),
      ← targets 1 _ (by decide), ← targets 2 _ (by decide), ← storage 0 _ (by decide),
      ← storage 1 _ (by decide)]
    simp only [ofLayers, List.findSome?_singleton]
    rfl
  · cases read

/-! ## Merging -/

/-- A list that is merged is that of the layer above unless it is empty there. -/
theorem mergeList_getD (below : List String) (above : Option (List String)) :
    mergeList below (above.getD []) =
      ((above.filter fun names => !names.isEmpty).getD below) := by
  cases above with
  | none => rfl
  | some names => cases names <;> rfl

theorem findSome?_cons_eq_or {Value : Type} (setting : Layer → Option Value) (layer : Layer)
    (layers : List Layer) :
    (layer :: layers).findSome? setting = (setting layer).or (layers.findSome? setting) := by
  rw [List.findSome?_cons]
  cases setting layer <;> rfl

theorem mergeFile_ofLayers (layers : List Layer) (layer : Layer) :
    (ofLayers layers).mergeFile (ofLayers [layer]) =
      ofLayers (layer.withoutEmptyLists :: layers) := by
  simp only [mergeFile, ofLayers, List.findSome?_singleton, mergeList_getD, findSome?_cons_eq_or,
    Option.getD_or]
  rfl

theorem mergeEnvironment_ofLayers (layers : List Layer) (environment : Environment) :
    (ofLayers layers).mergeEnvironment environment =
      ofLayers (Layer.ofEnvironment environment :: layers) := by
  simp only [mergeEnvironment, ofLayers, findSome?_cons_eq_or, Option.getD_or]
  rfl

theorem mergeOverrides_ofLayers (layers : List Layer) (overrides : Overrides) :
    (ofLayers layers).mergeOverrides overrides =
      ofLayers (Layer.ofOverrides overrides :: layers) := by
  simp only [mergeOverrides, ofLayers, findSome?_cons_eq_or, Option.getD_or]
  rfl

/-- Nothing is below a file that is merged into the defaults. -/
theorem mergeFile_default (above : Config) : ({} : Config).mergeFile above = above := by
  have kept (names : List String) : mergeList [] names = names := by cases names <;> rfl
  simp only [mergeFile, kept, Option.or_none]

/-! ## Loading -/

theorem readFile_eq_ok {files : FileTree} {path : String} {config : Config}
    (read : readFile files path = .ok config) : config = ofLayers [Layer.ofFile files path] := by
  rw [readFile] at read
  split at read
  · next content isContent =>
    obtain ⟨document, isDocument, rfl⟩ := readToml_eq_ok read
    rw [Layer.ofFile, isContent]
    simp only [isDocument, Option.map_some, Option.getD_some]
  · cases read

/-- A file gives nothing when it is the file, and not what it says, that cannot be read. -/
theorem ofFile_eq_of_error {files : FileTree} {path : String} {error : ConfigError}
    (read : readFile files path = .error error)
    (other : ∀ path message, error ≠ .parseError path message) :
    Layer.ofFile files path = {} := by
  rw [readFile] at read
  split at read
  · rw [readToml] at read
    split at read
    · cases read
    · obtain rfl := Except.error.inj read
      exact absurd rfl (other _ _)
  · next notText =>
    rw [Layer.ofFile]
    split
    · next content isContent => exact absurd isContent (notText content)
    · rfl

theorem ofFile_eq_of_not_exists {files : FileTree} {path : String}
    (missing : files.exists? path = false) : Layer.ofFile files path = {} := by
  have notRead (content : FileContent) : files.read path ≠ .ok content := by
    intro read
    obtain ⟨place, isPlace, read⟩ := Outcome.bind_eq_ok.mp read
    rw [FileTree.exists?, isPlace] at missing
    rw [Option.isNone_iff_eq_none.mp (Option.isSome_eq_false_iff.mp missing)] at read
    cases read
  rw [Layer.ofFile]
  split
  · next content isContent => exact absurd isContent (notRead _)
  · rfl

theorem mergeUserFile_eq_ok {files : FileTree} {environment : Environment} {config : Config}
    (merged : mergeUserFile {} files environment = .ok config) :
    config = ofLayers [Layer.ofUser files environment] := by
  rw [mergeUserFile] at merged
  rw [Layer.ofUser]
  split at merged
  · next noFile =>
    rw [noFile]
    exact (Except.ok.inj merged).symm
  · next path isPath =>
    rw [isPath, Option.map_some, Option.getD_some]
    split at merged
    · next above read =>
      obtain rfl := Except.ok.inj merged
      rw [mergeFile_default, readFile_eq_ok read]
    · cases merged
    · next error other read =>
      rw [ofFile_eq_of_error read other]
      exact (Except.ok.inj merged).symm

theorem mergeProjectFile_eq_ok {files : FileTree} {root : String} {layers : List Layer}
    {config : Config} (merged : (ofLayers layers).mergeProjectFile files root = .ok config) :
    config = ofLayers ((Layer.ofProject files root).withoutEmptyLists :: layers) := by
  rw [mergeProjectFile] at merged
  split at merged
  · cases read : readFile files (Path.join root "schemig.toml") with
    | error error =>
        rw [read] at merged
        cases merged
    | ok above =>
        rw [read] at merged
        obtain rfl := Except.ok.inj merged
        rw [readFile_eq_ok read, mergeFile_ofLayers, Layer.ofProject]
  · next missing =>
    obtain rfl := Except.ok.inj merged
    rw [Layer.ofProject, ofFile_eq_of_not_exists (Bool.eq_false_iff.mpr missing)]
    rfl

/-- Of four layers that give a list, the third may as well not give an empty one, unless the
fourth gives another that it would empty. -/
theorem getD_filter_eq_iff (first second third fourth : Option (List String)) :
    (first.or (second.or ((third.filter fun names => !names.isEmpty).or fourth))).getD [] =
        (first.or (second.or (third.or fourth))).getD [] ↔
      (first = none → second = none → third = some [] → fourth.getD [] = []) := by
  rcases first with _ | names
  · rcases second with _ | names
    · rcases third with _ | _ | ⟨name, names⟩ <;> simp [Option.filter_some]
    · simp
  · simp

/-- Emptying lists of a layer above the last one comes to what the layers say, unless a list of
the last layer is emptied. -/
theorem ofLayers_withoutEmptyLists_iff (first second third fourth : Layer) :
    ofLayers [first, second, third.withoutEmptyLists, fourth] =
        ofLayers [first, second, third, fourth] ↔
      ∀ setting ∈ Layer.lists, setting first = none → setting second = none →
        setting third = some [] → (setting fourth).getD [] = [] := by
  simp only [Layer.lists, List.forall_mem_cons, List.not_mem_nil, false_implies, implies_true,
    and_true, ← getD_filter_eq_iff]
  simp only [ofLayers, findSome?_cons_eq_or, List.findSome?_nil, Option.or_none,
    Layer.withoutEmptyLists, Config.mk.injEq, ClosureConfig.mk.injEq, GraphConfig.mk.injEq,
    TargetConfig.mk.injEq, true_and, and_true, and_assoc]

/-- **Layered configuration.**  What is loaded is told setting by setting: the command line
comes first, then the environment, the file of the project and the file of the user, and what
none of them gives has its default.  Only a list that the file of the project gives as an empty
one is taken as not given, and so the layers are followed exactly when it empties no list of the
file of the user, or a layer before it gives that list. -/
theorem load_eq_ofLayers {files : FileTree} {environment : Environment} {root : String}
    {overrides : Overrides} {config : Config}
    (loaded : load files environment root overrides = .ok config) :
    let flags := Layer.ofOverrides overrides
    let exported := Layer.ofEnvironment environment
    let project := Layer.ofProject files root
    let user := Layer.ofUser files environment
    let layers := [flags, exported, project, user]
    config = ofLayers [flags, exported, project.withoutEmptyLists, user] ∧
      config.closure.effectiveMaxIterations = (layers.findSome? (·.maxIterations)).getD 100 ∧
      config.closure.effectiveMaxUnresolvedRepeats =
        (layers.findSome? (·.maxUnresolvedRepeats)).getD 3 ∧
      config.graph.effectiveMinNameLength = (layers.findSome? (·.minNameLength)).getD 4 ∧
      config.storage.effectiveDatabasePath =
        (layers.findSome? (·.databasePath)).getD "schemig.db" ∧
      config.storage.effectiveSourceRoot = (layers.findSome? (·.sourceRoot)).getD "sources" ∧
      config.validate = .ok () ∧
      (config = ofLayers layers ↔
        ∀ setting ∈ Layer.lists, setting flags = none → setting exported = none →
          setting project = some [] → (setting user).getD [] = []) := by
  intro flags exported project user layers
  obtain ⟨withUser, isUser, loaded⟩ := Outcome.bind_eq_ok.mp loaded
  obtain rfl := mergeUserFile_eq_ok isUser
  obtain ⟨withProject, isProject, loaded⟩ := Outcome.bind_eq_ok.mp loaded
  obtain rfl := mergeProjectFile_eq_ok isProject
  rw [mergeEnvironment_ofLayers, mergeOverrides_ofLayers] at loaded
  obtain ⟨⟨⟩, valid, loaded⟩ := Outcome.bind_eq_ok.mp loaded
  obtain rfl := Outcome.pure_eq_ok.mp loaded
  exact ⟨rfl, rfl, rfl, rfl, rfl, rfl, valid, ofLayers_withoutEmptyLists_iff ..⟩

/-- A user who never delivers a package, and a project that leaves no package out. -/
def emptyingFiles : FileTree :=
  ⟨[(["home", ".schemig", "config.toml"],
      .file (.text "[closure]\nmax_iterations = 5\n[targets]\nskip_packages = [\"XX_OLD\"]\n")),
    (["project", "schemig.toml"],
      .file (.text "[closure]\nmax_iterations = 7\n[targets]\nskip_packages = []\n"))]⟩

/-- An environment with the home directory of the user and a setting. -/
def exportedLength : Environment := [("HOME", "home"), ("SCHEMIG_GRAPH_MIN_NAME_LENGTH", "6")]

/-- The path of a database, given on the command line. -/
def pathFlag : Overrides := { databasePath := some "plan.db" }

/-- What is loaded; the package is still never delivered. -/
def emptiedConfig : Config where
  closure := { maxIterations := some 7 }
  graph := { minNameLength := some 6 }
  targets := { skipPackages := ["XX_OLD"] }
  storage := { databasePath := some "plan.db" }

theorem load_emptyingFiles :
    load emptyingFiles exportedLength "project" pathFlag = .ok emptiedConfig := by
  decide +kernel

/-- Each layer gives one of the settings, and the list of the user is not emptied. -/
theorem emptiedConfig_eq_ofLayers :
    load emptyingFiles exportedLength "project" pathFlag = .ok emptiedConfig ∧
      emptiedConfig =
        ofLayers [Layer.ofOverrides pathFlag, Layer.ofEnvironment exportedLength,
          (Layer.ofProject emptyingFiles "project").withoutEmptyLists,
          Layer.ofUser emptyingFiles exportedLength] ∧
      emptiedConfig ≠
        ofLayers [Layer.ofOverrides pathFlag, Layer.ofEnvironment exportedLength,
          Layer.ofProject emptyingFiles "project", Layer.ofUser emptyingFiles exportedLength] := by
  obtain ⟨merged, _, _, _, _, _, _, followed⟩ := load_eq_ofLayers load_emptyingFiles
  refine ⟨load_emptyingFiles, merged, fun isFollowed => ?_⟩
  have emptied := followed.mp isFollowed (·.skipPackages) (by simp [Layer.lists])
    (by decide +kernel) (by decide +kernel) (by decide +kernel)
  exact absurd emptied (by decide +kernel)

/-- Layers are not always followed. -/
theorem not_forall_load_eq_ofLayers :
    ¬ ∀ (files : FileTree) (environment : Environment) (root : String) (overrides : Overrides)
      (config : Config), load files environment root overrides = .ok config →
        config = ofLayers [Layer.ofOverrides overrides, Layer.ofEnvironment environment,
          Layer.ofProject files root, Layer.ofUser files environment] ∧
        config.validate = .ok () := by
  intro followed
  obtain ⟨isFollowed, _⟩ := followed _ _ _ _ _ load_emptyingFiles
  exact absurd isFollowed (by decide +kernel)

end Config

end SchemaPlan
