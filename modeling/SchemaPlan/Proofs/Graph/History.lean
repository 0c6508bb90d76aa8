import Mathlib.Data.Set.Function
import SchemaPlan.Proofs.Graph.Naming

/-!
# The history of a dependency graph

A graph that is made by changes is told by these alone.  A change may name a key, for its own
sake or as a container, and it may give an owner.  What all namings of a key say together is its
summary: the first owner given, and whether the key has been named as a container only.  The
nodes are the summaries of the keys in the order in which each was named first, and the
requirements are the pairs that have been joined, in the order in which each was joined first
(`Recalls`).  One change more adds its naming to a summary, or its pair to the requirements.

The table of numbers that may be kept beside a graph finds the nodes that a search finds
(`Agrees`).  So all that a graph with its table says about its nodes and their neighbours is
read off the changes (`Chronicle`), and no later change takes back a number or an owner
(`Outlasts`).
-/

set_option autoImplicit false

namespace SchemaPlan

/-! ## Namings -/

/-- What a change says about the key that it names. -/
structure Naming where
  key : ObjectKey
  owner : Option String
  /-- The key is named as the container of other objects. -/
  asContainer : Bool
deriving DecidableEq, Repr

namespace Naming

/-- What is known of a key after it has been named again. -/
def andThen (earlier later : Naming) : Naming :=
  ⟨earlier.key, earlier.owner.or later.owner, earlier.asContainer && later.asContainer⟩

/-- The node that a key gets when it is named first. -/
def node (naming : Naming) : Node :=
  ⟨naming.key, naming.owner, none, .skip, naming.asContainer⟩

variable (namings : List Naming)

/-- The keys that are named, in the order in which each is named first. -/
def keys : List ObjectKey := (namings.map (·.key)).eraseDups

/-- The namings of a key. -/
def ofKey (key : ObjectKey) : List Naming := namings.filter fun naming => naming.key == key

/-- What all namings of a key say together. -/
def summary (key : ObjectKey) : Naming :=
  ⟨key, (ofKey namings key).findSome? (·.owner), (ofKey namings key).all (·.asContainer)⟩

/-- What is said about every key that is named. -/
def summaries : List Naming := (keys namings).map (summary namings)

variable {namings}

theorem ofKey_concat {naming : Naming} {key : ObjectKey} :
    ofKey (namings ++ [naming]) key =
      if naming.key = key then ofKey namings key ++ [naming] else ofKey namings key := by
  rw [ofKey, ofKey, List.filter_append]
  by_cases same : naming.key = key
  · simp [same]
  · simp [same]

/-- One naming more adds to the summary of its own key. -/
theorem summary_concat {naming : Naming} {key : ObjectKey} :
    summary (namings ++ [naming]) key =
      if naming.key = key then (summary namings key).andThen naming else summary namings key := by
  rw [summary, ofKey_concat]
  split
  · simp [summary, andThen, List.findSome?_append]
  · rfl

theorem mem_keys {key : ObjectKey} : key ∈ keys namings ↔ key ∈ namings.map (·.key) :=
  List.mem_eraseDups

/-- Of a key that has not been named nothing is said. -/
theorem summary_of_not_mem {key : ObjectKey} (absent : key ∉ keys namings) :
    summary namings key = ⟨key, none, true⟩ := by
  have none : ofKey namings key = [] := by
    refine List.filter_eq_nil_iff.mpr fun naming member same => absent (mem_keys.mpr ?_)
    rw [← beq_iff_eq.mp same]
    exact List.mem_map_of_mem member
  rw [summary, none]
  rfl

theorem keys_concat {naming : Naming} :
    keys (namings ++ [naming]) =
      if naming.key ∈ keys namings then keys namings else keys namings ++ [naming.key] := by
  rw [keys, List.map_append, List.map_singleton, eraseDups_append_singleton]
  simp only [mem_keys]
  rfl

/-- A key that is named again keeps its place, and so do all others. -/
theorem summaries_concat_of_mem {naming : Naming} (known : naming.key ∈ keys namings) :
    summaries (namings ++ [naming]) = (summaries namings).map fun told =>
      if naming.key = told.key then told.andThen naming else told := by
  rw [summaries, keys_concat, if_pos known, summaries, List.map_map]
  exact List.map_congr_left fun key _ => summary_concat

/-- A key that is named first comes after all others. -/
theorem summaries_concat_of_not_mem {naming : Naming} (new : naming.key ∉ keys namings) :
    summaries (namings ++ [naming]) = summaries namings ++ [naming] := by
  have others : (keys namings).map (summary (namings ++ [naming])) = summaries namings := by
    refine List.map_congr_left fun key member => ?_
    have differ : naming.key ≠ key := fun same => new (same ▸ member)
    rw [summary_concat, if_neg differ]
  have own : summary (namings ++ [naming]) naming.key = naming := by
    rw [summary_concat, if_pos rfl, summary_of_not_mem new]
    simp [andThen]
  rw [summaries, keys_concat, if_neg new, List.map_append, others, List.map_singleton, own]

end Naming

namespace Node

/-- What a node tells of the namings of its key. -/
def naming (node : Node) : Naming := ⟨node.key, node.owner, node.isPlaceholder⟩

/-- The node after its key has been named again. -/
def named (node : Node) (naming : Naming) : Node :=
  { node with
    owner := node.owner.or naming.owner
    isPlaceholder := node.isPlaceholder && naming.asContainer }

end Node

/-! ## Changes -/

namespace GraphChange

/-- The naming in a change. -/
def naming? : GraphChange → Option Naming
  | .addObject key owner => some ⟨key, owner, false⟩
  | .addContainer package owner => some ⟨.packageNode package, owner, true⟩
  | .ensureContainer _ _ | .setContainer _ _ | .addRequires _ _ | .setStatus _ _ => none

/-- The key that a change adds, unless it is there already. -/
def key? (change : GraphChange) : Option ObjectKey := change.naming?.map (·.key)

/-- The owner that a change gives for a key. -/
def ownerFor? (key : ObjectKey) (change : GraphChange) : Option String :=
  (change.naming?.filter fun naming => naming.key == key).bind (·.owner)

/-- The pair of nodes that a change joins, if they differ and are among the first `count`. -/
def joins? (count : Nat) : GraphChange → Option (Nat × Nat)
  | .addRequires object dependency =>
    if object ≠ dependency ∧ object < count ∧ dependency < count then some (object, dependency)
    else none
  | .addObject _ _ | .addContainer _ _ | .ensureContainer _ _ | .setContainer _ _
  | .setStatus _ _ => none

/-- The keys that changes add, in the order of first addition. -/
def addedKeys (changes : List GraphChange) : List ObjectKey := (changes.filterMap key?).eraseDups

/-- The pairs that changes join after earlier ones, as often as they do. -/
def joinsAfter (earlier : List GraphChange) : List GraphChange → List (Nat × Nat)
  | [] => []
  | change :: later =>
    (change.joins? (addedKeys earlier).length).toList ++ joinsAfter (earlier ++ [change]) later

/-- The pairs that changes join, as often as they do. -/
def joins (changes : List GraphChange) : List (Nat × Nat) := joinsAfter [] changes

theorem asContainer_iff {change : GraphChange} {naming : Naming}
    (named : change.naming? = some naming) :
    naming.asContainer = true ↔ ∃ package owner, change = .addContainer package owner := by
  cases change with
  | addObject key owner =>
      obtain rfl := Option.some.inj named
      simp
  | addContainer package owner =>
      obtain rfl := Option.some.inj named
      simp
  | ensureContainer id container => cases named
  | setContainer id container => cases named
  | addRequires object dependency => cases named
  | setStatus id status => cases named

end GraphChange

namespace DependencyGraph

open GraphChange (joins addedKeys)

/-- The nodes and requirements of a graph are those that changes tell of. -/
structure Recalls (graph : DependencyGraph) (changes : List GraphChange) : Prop where
  nodes : graph.nodes.map (·.naming) = Naming.summaries (changes.filterMap GraphChange.naming?)
  requires : graph.requires = (joins changes).eraseDups

variable {graph : DependencyGraph} {changes : List GraphChange} {change : GraphChange}
  {naming : Naming}

theorem addedKeys_eq :
    addedKeys changes = Naming.keys (changes.filterMap GraphChange.naming?) := by
  rw [addedKeys, Naming.keys, List.map_filterMap]
  rfl

/-! ## One change -/

/-- A change that names no key leaves everything that is known of the keys. -/
theorem map_naming_apply (silent : change.naming? = none) :
    (graph.apply change).nodes.map (·.naming) = graph.nodes.map (·.naming) := by
  cases change with
  | addObject key owner => cases silent
  | addContainer package owner => cases silent
  | ensureContainer id container => exact map_modify fun _ => rfl
  | setContainer id container => exact map_modify fun _ => rfl
  | setStatus id status => exact map_modify fun _ => rfl
  | addRequires object dependency =>
      rw [apply, addRequires]
      split
      · rfl
      · rfl

/-- A change that names no key leaves the keys as they are. -/
theorem keys_apply (silent : change.naming? = none) : (graph.apply change).keys = graph.keys := by
  have same := congrArg (List.map (·.key)) (@map_naming_apply graph change silent)
  rwa [List.map_map, List.map_map] at same

theorem modify_modify {id : Nat} {put next : Node → Node} :
    (graph.modify id put).modify id next = graph.modify id fun node => next (put node) := by
  rw [modify, modify, modify, List.modify_modify_eq]
  rfl

theorem modify_new {node : Node} {put : Node → Node} :
    ({ graph with nodes := graph.nodes ++ [node] } : DependencyGraph).modify graph.nodes.length
      put = { graph with nodes := graph.nodes ++ [put node] } := by
  simp [modify, List.modify_eq_take_drop]

/-- A change that names a key adds to its node or gives it a new one. -/
theorem apply_cases (named : change.naming? = some naming) :
    (∃ id, graph.key? id = some naming.key ∧
      graph.apply change = graph.modify id (·.named naming)) ∨
    (naming.key ∉ graph.keys ∧
      graph.apply change = { graph with nodes := graph.nodes ++ [naming.node] }) := by
  cases change with
  | addObject key owner =>
      obtain rfl := Option.some.inj named
      rw [apply, addObject_fst]
      have number : (graph.addObject key owner).2 = (graph.intern key owner false).2 := rfl
      -- To add an object is to name its key and then to make its node real, both at one node.
      rcases intern_cases graph key owner false with ⟨id, found, isId, same⟩ | ⟨new, isId, same⟩
      · refine .inl ⟨id, found, ?_⟩
        rw [number, isId, same, modify_modify]
        congr 1
        funext node
        simp [Node.named, Node.ownedBy, Node.asObject]
      · refine .inr ⟨new, ?_⟩
        rw [number, isId, same, modify_new]
        rfl
  | addContainer package owner =>
      obtain rfl := Option.some.inj named
      rw [apply, addContainer]
      rcases intern_cases graph (.packageNode package) owner true with
        ⟨id, found, _, same⟩ | ⟨new, _, same⟩
      · refine .inl ⟨id, found, ?_⟩
        rw [same]
        congr 1
        funext node
        simp [Node.named, Node.ownedBy]
      · exact .inr ⟨new, same⟩
  | ensureContainer id container => cases named
  | setContainer id container => cases named
  | setStatus id status => cases named
  | addRequires object dependency => cases named

/-- A change of the node of a key is a change of what is known of this key. -/
theorem Proper.map_naming_named (proper : graph.Proper) {id : Nat}
    (found : graph.key? id = some naming.key) :
    (graph.modify id (·.named naming)).nodes.map (·.naming) =
      (graph.nodes.map (·.naming)).map fun told =>
        if naming.key = told.key then told.andThen naming else told := by
  refine List.ext_getElem? fun place => ?_
  have here := @node?_modify graph id place (·.named naming)
  rw [List.getElem?_map, List.getElem?_map, List.getElem?_map]
  simp only [node?] at here
  rw [here, Option.map_map, Option.map_map]
  cases isNode : graph.nodes[place]? with
  | none => rfl
  | some node =>
      -- One node only has the key, so its number and its key tell the same node.
      have own : id = place ↔ naming.key = node.naming.key := by
        constructor
        · rintro rfl
          obtain ⟨same, isSame, isKey⟩ := key?_eq_some.mp found
          rw [node?, isNode] at isSame
          rw [← isKey, Option.some.inj isSame]
          rfl
        · exact fun same => proper.eq_of_key? found (key?_eq_some.mpr ⟨node, isNode, same.symm⟩)
      by_cases hit : id = place
      · simp only [Option.map_some, Function.comp_apply]
        rw [if_pos hit, if_pos (own.mp hit)]
        rfl
      · simp only [Option.map_some, Function.comp_apply]
        rw [if_neg hit, if_neg (own.not.mp hit)]

/-! ## Pairs that are joined -/

theorem joinsAfter_concat (earlier : List GraphChange) :
    GraphChange.joinsAfter earlier (changes ++ [change]) =
      GraphChange.joinsAfter earlier changes ++
        (change.joins? (addedKeys (earlier ++ changes)).length).toList := by
  induction changes generalizing earlier with
  | nil => simp [GraphChange.joinsAfter]
  | cons first rest ih =>
      rw [List.cons_append, GraphChange.joinsAfter, ih, GraphChange.joinsAfter,
        List.append_assoc, List.append_assoc]
      rfl

/-- One change more joins its pair, if it joins one, after all others. -/
theorem joins_concat :
    joins (changes ++ [change]) =
      joins changes ++ (change.joins? (addedKeys changes).length).toList :=
  joinsAfter_concat []

theorem requires_apply (graph : DependencyGraph) (change : GraphChange) :
    (graph.apply change).requires =
      match change.joins? graph.nodes.length with
      | some pair => if pair ∈ graph.requires then graph.requires else graph.requires ++ [pair]
      | none => graph.requires := by
  cases change with
  | addObject key owner => exact (addObject_spec graph key owner).1.requires
  | addContainer package owner => exact (keeps_addContainer graph package owner).requires
  | ensureContainer id container => rfl
  | setContainer id container => rfl
  | setStatus id status => rfl
  | addRequires object dependency =>
      rw [apply, addRequires, GraphChange.joins?]
      by_cases joined : object ≠ dependency ∧ object < graph.nodes.length ∧
          dependency < graph.nodes.length
      · obtain ⟨differ, objectInside, dependencyInside⟩ := joined
        have allowed : ¬ graph.nodes.length ≤ object ∧ ¬ graph.nodes.length ≤ dependency :=
          ⟨Nat.not_le.mpr objectInside, Nat.not_le.mpr dependencyInside⟩
        by_cases known : (object, dependency) ∈ graph.requires
        · simp [known, differ, objectInside, dependencyInside]
        · simp [known, differ, objectInside, dependencyInside, allowed]
      · have refused : object = dependency ∨ (object, dependency) ∈ graph.requires ∨
            graph.nodes.length ≤ object ∨ graph.nodes.length ≤ dependency := by
          omega
        rw [if_neg joined, if_pos refused]

/-! ## All changes -/

namespace Recalls

theorem keys (recalls : graph.Recalls changes) : graph.keys = addedKeys changes := by
  have read := congrArg (List.map (·.key)) recalls.nodes
  rw [List.map_map, Naming.summaries, List.map_map] at read
  rw [addedKeys_eq, ← List.map_id (Naming.keys _)]
  exact read

theorem length (recalls : graph.Recalls changes) :
    graph.nodes.length = (addedKeys changes).length := by
  rw [← recalls.keys, DependencyGraph.keys, List.length_map]

theorem nodes_apply (recalls : graph.Recalls changes) (proper : graph.Proper)
    (change : GraphChange) :
    (graph.apply change).nodes.map (·.naming) =
      Naming.summaries ((changes ++ [change]).filterMap GraphChange.naming?) := by
  rw [List.filterMap_append]
  cases named : change.naming? with
  | none =>
      have silent : [change].filterMap GraphChange.naming? = [] := by simp [named]
      rw [map_naming_apply named, silent, List.append_nil, recalls.nodes]
  | some naming =>
      have told : [change].filterMap GraphChange.naming? = [naming] := by simp [named]
      have known : naming.key ∈ graph.keys ↔
          naming.key ∈ Naming.keys (changes.filterMap GraphChange.naming?) := by
        rw [recalls.keys, addedKeys_eq]
      rw [told]
      rcases apply_cases named with ⟨id, found, same⟩ | ⟨new, same⟩
      · have again := known.mp (mem_keys_iff.mpr ⟨id, found⟩)
        rw [same, proper.map_naming_named found, recalls.nodes,
          Naming.summaries_concat_of_mem again]
      · rw [same, List.map_append, recalls.nodes,
          Naming.summaries_concat_of_not_mem (known.not.mp new)]
        rfl

/-- One change more is recalled after all others. -/
theorem apply (recalls : graph.Recalls changes) (proper : graph.Proper) (change : GraphChange) :
    (graph.apply change).Recalls (changes ++ [change]) where
  nodes := recalls.nodes_apply proper change
  requires := by
    rw [requires_apply, recalls.length, joins_concat, recalls.requires]
    cases change.joins? (addedKeys changes).length with
    | none => rw [Option.toList_none, List.append_nil]
    | some pair =>
        rw [Option.toList_some, eraseDups_append_singleton]
        simp only [List.mem_eraseDups]

/-- The keys of the nodes are those that have been added. -/
theorem mem_keys_iff_added (recalls : graph.Recalls changes) {key : ObjectKey} :
    key ∈ graph.keys ↔ ∃ change ∈ changes, change.key? = some key := by
  rw [recalls.keys, addedKeys, List.mem_eraseDups, List.mem_filterMap]

/-- A node tells what the namings of its key have said. -/
theorem naming_eq (recalls : graph.Recalls changes) {id : Nat} {node : Node}
    (found : graph.node? id = some node) :
    node.naming = Naming.summary (changes.filterMap GraphChange.naming?) node.key := by
  have read := congrArg (·[id]?) recalls.nodes
  simp only [Naming.summaries, List.getElem?_map] at read
  rw [node?] at found
  rw [found, Option.map_some, eq_comm, Option.map_eq_some_iff] at read
  obtain ⟨key, _, told⟩ := read
  have same : key = node.key := congrArg Naming.key told
  rw [← told, same]

theorem owner_eq (recalls : graph.Recalls changes) {id : Nat} {node : Node}
    (found : graph.node? id = some node) :
    node.owner = changes.findSome? (GraphChange.ownerFor? node.key) := by
  refine (congrArg Naming.owner (recalls.naming_eq found)).trans ?_
  rw [Naming.summary, Naming.ofKey, List.filter_filterMap, ← List.head?_filterMap,
    ← List.head?_filterMap, List.filterMap_filterMap]
  rfl

theorem isPlaceholder_iff (recalls : graph.Recalls changes) {id : Nat} {node : Node}
    (found : graph.node? id = some node) :
    node.isPlaceholder = true ↔ ∀ change ∈ changes, change.key? = some node.key →
      ∃ package owner, change = .addContainer package owner := by
  have told : node.isPlaceholder =
      (Naming.ofKey (changes.filterMap GraphChange.naming?) node.key).all (·.asContainer) :=
    congrArg Naming.asContainer (recalls.naming_eq found)
  simp only [told, Naming.ofKey, List.all_eq_true, List.mem_filter, List.mem_filterMap,
    beq_iff_eq]
  constructor
  · intro all change member added
    obtain ⟨naming, named, isKey⟩ := Option.map_eq_some_iff.mp added
    exact (GraphChange.asContainer_iff named).mp (all naming ⟨⟨change, member, named⟩, isKey⟩)
  · rintro all naming ⟨⟨change, member, named⟩, isKey⟩
    refine (GraphChange.asContainer_iff named).mpr (all change member ?_)
    rw [GraphChange.key?, named, Option.map_some, isKey]

end Recalls

/-- Graphs that are made by changes recall them all. -/
theorem recalls_ofChanges (changes : List GraphChange) : (ofChanges changes).Recalls changes := by
  induction changes using List.reverseRecOn with
  | nil => exact ⟨rfl, rfl⟩
  | append_singleton before last ih =>
      rw [ofChanges, List.foldl_concat]
      exact ih.apply (proper_ofChanges before) last

/-! ## What a graph tells -/

/-- A number is found for a key exactly when the node of that number has the key. -/
theorem Proper.idOf?_eq_some_iff (proper : graph.Proper) {key : ObjectKey} {id : Nat} :
    graph.idOf? key = some id ↔ graph.key? id = some key := by
  refine ⟨fun found => key?_eq_some.mpr (node?_of_idOf? found), fun found => ?_⟩
  cases known : graph.idOf? key with
  | none => exact absurd (mem_keys_iff.mpr ⟨id, found⟩) (idOf?_eq_none known)
  | some other =>
      rw [proper.eq_of_key? (key?_eq_some.mpr (node?_of_idOf? known)) found]

/-- What is found for a key depends on the keys alone. -/
theorem idOf?_eq_findIdx? (key : ObjectKey) :
    graph.idOf? key = graph.keys.findIdx? fun other => decide (other = key) := by
  rw [idOf?, keys, List.findIdx?_map]
  rfl

theorem idOf?_new {key : ObjectKey} {node : Node} :
    ({ graph with nodes := graph.nodes ++ [node] } : DependencyGraph).idOf? key =
      (graph.idOf? key).or (if node.key = key then some graph.nodes.length else none) := by
  rw [idOf?, List.findIdx?_append, List.findIdx?_singleton]
  by_cases same : node.key = key
  · simp [same, idOf?]
  · simp [same, idOf?]

theorem Recalls.bijOn_idOf? (recalls : graph.Recalls changes) (proper : graph.Proper) :
    Set.BijOn graph.idOf? {key | ∃ change ∈ changes, change.key? = some key}
      (some '' {id | id < graph.nodes.length}) := by
  refine ⟨fun key added => ?_, fun key added other _ same => ?_, ?_⟩
  · obtain ⟨id, found⟩ := mem_keys_iff.mp (recalls.mem_keys_iff_added.mpr added)
    obtain ⟨node, isNode, _⟩ := key?_eq_some.mp found
    exact ⟨id, lt_length_of_node? isNode, (proper.idOf?_eq_some_iff.mpr found).symm⟩
  · obtain ⟨id, found⟩ := mem_keys_iff.mp (recalls.mem_keys_iff_added.mpr added)
    have alsoFound := proper.idOf?_eq_some_iff.mp
      (same.symm.trans (proper.idOf?_eq_some_iff.mpr found))
    exact Option.some.inj (found.symm.trans alsoFound)
  · rintro _ ⟨id, inside, rfl⟩
    obtain ⟨key, found⟩ := exists_key? inside
    exact ⟨key, recalls.mem_keys_iff_added.mp (mem_keys_iff.mpr ⟨id, found⟩),
      proper.idOf?_eq_some_iff.mpr found⟩

/-- The far ends of the pairs with one near end, each where it stands first. -/
theorem map_filter_eraseDups {pairs : List (Nat × Nat)} {near far : Nat × Nat → Nat} {id : Nat}
    (apart : ∀ pair other, near pair = near other → far pair = far other → pair = other) :
    (pairs.eraseDups.filter fun pair => near pair == id).map far =
      (pairs.filterMap fun pair => if near pair = id then some (far pair) else none).eraseDups := by
  rw [eraseDups_filterMap, ← List.filterMap_eq_map, List.filterMap_filter]
  · simp only [beq_iff_eq, Function.comp_apply]
  · intro pair other reading isRead alsoRead
    obtain ⟨isNear, isFar⟩ := Option.ite_none_right_eq_some.mp isRead
    obtain ⟨alsoNear, alsoFar⟩ := Option.ite_none_right_eq_some.mp alsoRead
    exact apart pair other (isNear.trans alsoNear.symm)
      (Option.some.inj (isFar.trans alsoFar.symm))

theorem mem_dependentsOf {object dependency : Nat} :
    object ∈ graph.dependentsOf dependency ↔ (object, dependency) ∈ graph.requires := by
  simp [dependentsOf]

theorem addedKeys_prefix (changes later : List GraphChange) :
    addedKeys changes <+: addedKeys (changes ++ later) := by
  rw [addedKeys, addedKeys, List.filterMap_append, List.eraseDups_append]
  exact List.prefix_append _ _

/-- Later changes leave every node its number and its key. -/
theorem key?_ofChanges_append {changes : List GraphChange} {id : Nat} {key : ObjectKey}
    (found : (ofChanges changes).key? id = some key) (later : List GraphChange) :
    (ofChanges (changes ++ later)).key? id = some key := by
  rw [← getElem?_keys, (recalls_ofChanges _).keys] at found ⊢
  obtain ⟨added, grown⟩ := addedKeys_prefix changes later
  obtain ⟨inside, _⟩ := List.getElem?_eq_some_iff.mp found
  rw [← grown, List.getElem?_append_left inside, found]

end DependencyGraph

/-! ## Numbers beside the nodes -/

namespace IndexedGraph

open DependencyGraph (proper_ofChanges recalls_ofChanges)
open GraphChange (joins addedKeys)

/-- The table holds the numbers of the nodes. -/
def Agrees (indexed : IndexedGraph) : Prop :=
  ∀ key, indexed.indexOf? key = indexed.graph.idOf? key

/-- The graph and its table after a change. -/
def apply (indexed : IndexedGraph) : GraphChange → IndexedGraph
  | .addObject key owner => (indexed.addObject key owner).1
  | .addContainer package owner => (indexed.addContainer package owner).1
  | change => { indexed with graph := indexed.graph.apply change }

/-- The graph that changes make from nothing, with its table. -/
def ofChanges (changes : List GraphChange) : IndexedGraph := changes.foldl apply empty

/-- A step with the table does what another does without it, and keeps the table right. -/
structure Mirrors (step : IndexedGraph × Nat) (plain : DependencyGraph × Nat) : Prop where
  graph : step.1.graph = plain.1
  number : step.2 = plain.2
  agrees : step.1.Agrees

/-- All that a graph tells of the changes that have made it. -/
structure Chronicle (changes : List GraphChange) (indexed : IndexedGraph) : Prop where
  /-- The graph is the same without the table. -/
  graph : indexed.graph = DependencyGraph.ofChanges changes
  /-- Keys that have been added and nodes belong together one to one. -/
  bijection : Set.BijOn indexed.indexOf? {key | ∃ change ∈ changes, change.key? = some key}
    (some '' {id | id < indexed.graph.nodes.length})
  /-- A key that has not been added has no number. -/
  absent : ∀ key, (∀ change ∈ changes, change.key? ≠ some key) → indexed.indexOf? key = none
  /-- The number of a key is that of the node with this key. -/
  found : ∀ key id, indexed.indexOf? key = some id ↔
    ∃ node, indexed.graph.node? id = some node ∧ node.key = key
  /-- Numbers are given in the order of first addition. -/
  numbers : ∀ key id, indexed.indexOf? key = some id ↔ (addedKeys changes)[id]? = some key
  /-- Whoever adds an object is told its number. -/
  object : ∀ key owner, (indexed.addObject key owner).1.indexOf? key =
    some (indexed.addObject key owner).2
  /-- Whoever adds a container is told its number. -/
  container : ∀ package owner,
    (indexed.addContainer package owner).1.indexOf? (.packageNode package) =
      some (indexed.addContainer package owner).2
  /-- No node requires itself. -/
  apart : ∀ id, id ∉ indexed.graph.requiredBy id
  /-- No pair is joined twice. -/
  once : indexed.graph.requires.Nodup
  /-- What a node requires is listed in the order in which it was first joined to it. -/
  required : ∀ id, indexed.graph.requiredBy id =
    ((joins changes).filterMap fun pair => if pair.1 = id then some pair.2 else none).eraseDups
  /-- What requires a node is listed in the order in which it was first joined to it. -/
  dependents : ∀ id, indexed.graph.dependentsOf id =
    ((joins changes).filterMap fun pair => if pair.2 = id then some pair.1 else none).eraseDups
  /-- To require and to be required are converses. -/
  converse : ∀ id other,
    other ∈ indexed.graph.requiredBy id ↔ id ∈ indexed.graph.dependentsOf other
  /-- A placeholder is a node whose key has been added as a container only. -/
  placeholder : ∀ id node, indexed.graph.node? id = some node → (node.isPlaceholder = true ↔
    ∀ change ∈ changes, change.key? = some node.key →
      ∃ package owner, change = .addContainer package owner)
  /-- The owner of a node is the first one that was given for its key. -/
  owner : ∀ id node, indexed.graph.node? id = some node →
    node.owner = changes.findSome? (GraphChange.ownerFor? node.key)

/-- Numbers and owners of one graph are those of another. -/
structure Outlasts (before after : IndexedGraph) : Prop where
  numbers : ∀ key id, before.indexOf? key = some id → after.indexOf? key = some id
  owners : ∀ id node owner, before.graph.node? id = some node → node.owner = some owner →
    ∃ same, after.graph.node? id = some same ∧ same.key = node.key ∧ same.owner = some owner

variable {indexed : IndexedGraph} {changes : List GraphChange}

/-- The table stays right as long as the keys do. -/
theorem Agrees.of_keys (agrees : indexed.Agrees) {graph : DependencyGraph}
    (same : graph.keys = indexed.graph.keys) : Agrees { indexed with graph } := by
  intro key
  rw [DependencyGraph.idOf?_eq_findIdx?, same, ← DependencyGraph.idOf?_eq_findIdx?]
  exact agrees key

/-- To name a key is the same with the table and without it. -/
theorem Agrees.intern (agrees : indexed.Agrees) (key : ObjectKey) (owner : Option String)
    (isPlaceholder : Bool) :
    Mirrors (indexed.intern key owner isPlaceholder)
      (indexed.graph.intern key owner isPlaceholder) := by
  rw [IndexedGraph.intern, DependencyGraph.intern, agrees key]
  cases known : indexed.graph.idOf? key with
  | some id => exact ⟨rfl, rfl, agrees.of_keys (DependencyGraph.keys_modify fun _ => rfl)⟩
  | none =>
      -- The new number stands first in the table and is found for its own key only.
      refine ⟨rfl, rfl, fun other => ?_⟩
      rw [DependencyGraph.idOf?_new, indexOf?, List.lookup_cons]
      by_cases same : key = other
      · subst same
        simp [known]
      · have differ : (other == key) = false := beq_false_of_ne (Ne.symm same)
        simp only [differ, same, if_false, Option.or_none]
        exact agrees other

theorem Agrees.addObject (agrees : indexed.Agrees) (key : ObjectKey) (owner : Option String) :
    Mirrors (indexed.addObject key owner) (indexed.graph.addObject key owner) := by
  obtain ⟨graph, number, right⟩ := agrees.intern key owner false
  refine ⟨?_, number, right.of_keys (DependencyGraph.keys_modify fun _ => rfl)⟩
  have shown : (indexed.addObject key owner).1.graph =
      (indexed.intern key owner false).1.graph.modify (indexed.intern key owner false).2
        Node.asObject := rfl
  rw [shown, graph, number]
  rfl

/-- A change is the same with the table and without it. -/
theorem Agrees.apply (agrees : indexed.Agrees) (change : GraphChange) :
    (indexed.apply change).graph = indexed.graph.apply change ∧
      (indexed.apply change).Agrees := by
  cases change with
  | addObject key owner =>
      exact ⟨(agrees.addObject key owner).graph, (agrees.addObject key owner).agrees⟩
  | addContainer package owner =>
      have named := agrees.intern (.packageNode package) owner true
      exact ⟨named.graph, named.agrees⟩
  | ensureContainer id container => exact ⟨rfl, agrees.of_keys (DependencyGraph.keys_apply rfl)⟩
  | setContainer id container => exact ⟨rfl, agrees.of_keys (DependencyGraph.keys_apply rfl)⟩
  | addRequires object dependency =>
      exact ⟨rfl, agrees.of_keys (DependencyGraph.keys_apply rfl)⟩
  | setStatus id status => exact ⟨rfl, agrees.of_keys (DependencyGraph.keys_apply rfl)⟩

/-- The table is right after any changes, and the graph is the one without the table. -/
theorem agrees_ofChanges (changes : List GraphChange) :
    (ofChanges changes).graph = DependencyGraph.ofChanges changes ∧
      (ofChanges changes).Agrees := by
  induction changes using List.reverseRecOn with
  | nil => exact ⟨rfl, fun _ => rfl⟩
  | append_singleton before last ih =>
      obtain ⟨graph, agrees⟩ := ih
      have step := agrees.apply last
      rw [graph] at step
      rw [ofChanges, DependencyGraph.ofChanges, List.foldl_concat, List.foldl_concat]
      exact step

/-- The table finds exactly the nodes of the graph. -/
theorem Agrees.indexOf?_eq_some_iff (agrees : indexed.Agrees) (proper : indexed.graph.Proper)
    {key : ObjectKey} {id : Nat} :
    indexed.indexOf? key = some id ↔ indexed.graph.key? id = some key := by
  rw [agrees key, proper.idOf?_eq_some_iff]

theorem Mirrors.indexOf? {step : IndexedGraph × Nat} {plain : DependencyGraph × Nat}
    (mirrors : Mirrors step plain) (proper : plain.1.Proper) {key : ObjectKey}
    (found : plain.1.key? plain.2 = some key) : step.1.indexOf? key = some step.2 := by
  have alsoProper : step.1.graph.Proper := mirrors.graph ▸ proper
  rw [mirrors.agrees.indexOf?_eq_some_iff alsoProper, mirrors.graph, mirrors.number, found]

theorem Agrees.chronicle (agrees : indexed.Agrees)
    (graph : indexed.graph = DependencyGraph.ofChanges changes) :
    Chronicle changes indexed := by
  have recalls : indexed.graph.Recalls changes := graph ▸ recalls_ofChanges changes
  have proper : indexed.graph.Proper := graph ▸ proper_ofChanges changes
  have index : indexed.indexOf? = indexed.graph.idOf? := funext agrees
  exact {
    graph
    bijection := index ▸ recalls.bijOn_idOf? proper
    absent := fun key never => by
      by_contra found
      obtain ⟨id, isId⟩ := Option.ne_none_iff_exists'.mp found
      have known := DependencyGraph.mem_keys_iff.mpr
        ⟨id, (agrees.indexOf?_eq_some_iff proper).mp isId⟩
      obtain ⟨change, member, added⟩ := recalls.mem_keys_iff_added.mp known
      exact never change member added
    found := fun key id =>
      (agrees.indexOf?_eq_some_iff proper).trans DependencyGraph.key?_eq_some
    numbers := fun key id => by
      rw [agrees.indexOf?_eq_some_iff proper, ← DependencyGraph.getElem?_keys, recalls.keys]
    object := fun key owner =>
      (agrees.addObject key owner).indexOf?
        (DependencyGraph.proper_apply proper (.addObject key owner))
        (DependencyGraph.key?_addObject indexed.graph key owner)
    container := fun package owner =>
      (agrees.intern (.packageNode package) owner true).indexOf?
        (DependencyGraph.proper_apply proper (.addContainer package owner))
        (DependencyGraph.key?_intern indexed.graph (.packageNode package) owner true)
    apart := fun id required => proper.endsDiffer _ (DependencyGraph.mem_requiredBy.mp required) rfl
    once := proper.once
    required := fun id => by
      rw [DependencyGraph.requiredBy, recalls.requires]
      exact DependencyGraph.map_filter_eraseDups fun _ _ => Prod.ext
    dependents := fun id => by
      rw [DependencyGraph.dependentsOf, recalls.requires]
      exact DependencyGraph.map_filter_eraseDups fun _ _ near far => Prod.ext far near
    converse := fun id other =>
      DependencyGraph.mem_requiredBy.trans DependencyGraph.mem_dependentsOf.symm
    placeholder := fun id node => recalls.isPlaceholder_iff
    owner := fun id node => recalls.owner_eq }

theorem outlasts_ofChanges (changes later : List GraphChange) :
    Outlasts (ofChanges changes) (ofChanges (changes ++ later)) := by
  obtain ⟨graph, agrees⟩ := agrees_ofChanges changes
  obtain ⟨grown, alsoAgrees⟩ := agrees_ofChanges (changes ++ later)
  have stays := @DependencyGraph.key?_ofChanges_append changes
  refine ⟨fun key id found => ?_, fun id node owner found isOwner => ?_⟩
  · rw [agrees key, graph] at found
    rw [alsoAgrees key, grown]
    have isId := (proper_ofChanges changes).idOf?_eq_some_iff.mp found
    exact (proper_ofChanges _).idOf?_eq_some_iff.mpr (stays isId later)
  · rw [graph] at found
    rw [grown]
    have isKey := DependencyGraph.key?_eq_some.mpr ⟨node, found, rfl⟩
    obtain ⟨same, isSame, sameKey⟩ := DependencyGraph.key?_eq_some.mp (stays isKey later)
    refine ⟨same, isSame, sameKey, ?_⟩
    have before := (recalls_ofChanges changes).owner_eq found
    have after := (recalls_ofChanges (changes ++ later)).owner_eq isSame
    rw [after, sameKey, List.findSome?_append, ← before, isOwner, Option.some_or]

/-- **A graph tells the history of its changes**, and later changes take nothing back. -/
theorem chronicle_ofChanges (changes : List GraphChange) :
    Chronicle changes (ofChanges changes) ∧
      ∀ later, Outlasts (ofChanges changes) (ofChanges (changes ++ later)) := by
  obtain ⟨graph, agrees⟩ := agrees_ofChanges changes
  exact ⟨agrees.chronicle graph, outlasts_ofChanges changes⟩

end IndexedGraph

end SchemaPlan
