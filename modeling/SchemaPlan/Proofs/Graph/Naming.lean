import SchemaPlan.Proofs.Collection
import SchemaPlan.Proofs.Graph.Keys
import SchemaPlan.Proofs.Object

/-!
# Taking up objects

To take up an object means the same wherever it is done (`Settles`): the object
gets a node that takes part in delivery, the package that it is in gets a node,
and the object is put into it.  An object that has been taken up before is left
where it is, because the container that it is in suits it already.

A key that is named gets a node after all others, unless it has one.  So the keys
of a graph are those that have been named, in the order in which each was named
first.
-/

set_option autoImplicit false

namespace SchemaPlan

/-- A key with the key of the package that it is in, if it is in one. -/
def ObjectKey.withPackage (key : ObjectKey) : List ObjectKey :=
  key :: (key.package?.map packageNode).toList

/-- A node that stands for an object. -/
def Node.asObject (node : Node) : Node := { node with isPlaceholder := false }

namespace DependencyGraph

variable {graph before after : DependencyGraph} {key other : ObjectKey} {owner : Option String}
  {loose : List Nat} {container : Container} {change : Node → Node}

/-- The object of a key takes part in delivery. -/
def SchedulesKey (graph : DependencyGraph) (key : ObjectKey) : Prop :=
  ∃ id, graph.key? id = some key ∧ graph.isScheduled id = true

/-- A container is the one that a key asks for: the node of its package, or the
root level. -/
def Suits (graph : DependencyGraph) (key : ObjectKey) : Container → Prop
  | .root => key.package? = none
  | .package outer => ∃ package, key.package? = some package ∧
      graph.key? outer = some (.packageNode package)

/-- Every node is in the container that its key asks for and has not been decided
about, except that the nodes of a list may be in no container yet. -/
def Arranged (graph : DependencyGraph) (loose : List Nat) : Prop :=
  ∀ id node, graph.node? id = some node → node.status = .skip ∧
    ((∃ container, node.container = some container ∧ graph.Suits node.key container) ∨
      node.container = none ∧ id ∈ loose)

/-- A change of nodes that puts each into a container, except perhaps those that
are in one. -/
structure Puts (change : Node → Node) (container : Container) : Prop where
  key : ∀ node, (change node).key = node.key
  status : ∀ node, (change node).status = node.status
  isPlaceholder : ∀ node, (change node).isPlaceholder = node.isPlaceholder
  container : ∀ node, (change node).container = some container ∨
    (change node).container = node.container ∧ node.container ≠ none

/-- An object is being taken up: it has a node that takes part in delivery, the keys
of `names` have been named for it in their order, and the nodes of `loose` are in no
container yet. -/
structure TakesUp (before after : DependencyGraph) (key : ObjectKey) (id : Nat)
    (names : List ObjectKey) (loose : List Nat) : Prop where
  keeps : Keeps before after
  keys : ∀ named, before.keys = named.eraseDups → after.keys = (named ++ names).eraseDups
  schedulesKey : ∀ other, after.SchedulesKey other ↔ before.SchedulesKey other ∨ other = key
  arranged : before.Arranged [] → after.Arranged loose
  found : after.key? id = some key
  scheduled : after.isScheduled id = true

/-- An object has been taken up and is in its container. -/
abbrev Settles (before after : DependencyGraph) (key : ObjectKey) (id : Nat) : Prop :=
  TakesUp before after key id key.withPackage []

/-! ## Naming keys -/

/-- What it means to name a key: its node is kept, or there is a new one. -/
theorem intern_cases (graph : DependencyGraph) (key : ObjectKey) (owner : Option String)
    (isPlaceholder : Bool) :
    (∃ id, graph.key? id = some key ∧ (graph.intern key owner isPlaceholder).2 = id ∧
      (graph.intern key owner isPlaceholder).1 = graph.modify id (·.ownedBy owner)) ∨
    (key ∉ graph.keys ∧ (graph.intern key owner isPlaceholder).2 = graph.nodes.length ∧
      (graph.intern key owner isPlaceholder).1 =
        { graph with nodes := graph.nodes ++ [⟨key, owner, none, .skip, isPlaceholder⟩] }) := by
  rw [intern]
  cases known : graph.idOf? key with
  | some id => exact .inl ⟨id, key?_eq_some.mpr (node?_of_idOf? known), rfl, rfl⟩
  | none => exact .inr ⟨idOf?_eq_none known, rfl, rfl⟩

theorem node?_append {node found : Node} {id : Nat} :
    ({ graph with nodes := graph.nodes ++ [node] } : DependencyGraph).node? id = some found ↔
      graph.node? id = some found ∨ id = graph.nodes.length ∧ found = node := by
  simp only [node?]
  rcases Nat.lt_trichotomy id graph.nodes.length with less | same | more
  · rw [List.getElem?_append_left less]
    simp [Nat.ne_of_lt less]
  · subst same
    simp [eq_comm]
  · rw [List.getElem?_append_right (Nat.le_of_lt more)]
    have outside : graph.nodes[id]? = none := List.getElem?_eq_none (Nat.le_of_lt more)
    have beyond : id - graph.nodes.length ≠ 0 := by omega
    simp [outside, Nat.ne_of_gt more, beyond]

/-- A key that is named gets a node after all others, unless it has one. -/
theorem keys_intern {named : List ObjectKey} {isPlaceholder : Bool}
    (isNamed : graph.keys = named.eraseDups) :
    (graph.intern key owner isPlaceholder).1.keys = (named ++ [key]).eraseDups := by
  rw [eraseDups_append_singleton]
  rcases intern_cases graph key owner isPlaceholder with
    ⟨id, found, _, same⟩ | ⟨absent, _, same⟩
  · have present : key ∈ named := by
      rw [← List.mem_eraseDups, ← isNamed]
      exact mem_keys_iff.mpr ⟨id, found⟩
    rw [same, if_pos present, ← isNamed]
    exact keys_modify fun _ => rfl
  · have missing : key ∉ named := by
      rw [← List.mem_eraseDups, ← isNamed]
      exact absent
    rw [same, if_neg missing, ← isNamed]
    simp [DependencyGraph.keys]

theorem key?_intern (graph : DependencyGraph) (key : ObjectKey) (owner : Option String)
    (isPlaceholder : Bool) :
    (graph.intern key owner isPlaceholder).1.key? (graph.intern key owner isPlaceholder).2 =
      some key :=
  key?_eq_some.mpr (intern_spec graph key owner isPlaceholder).2

theorem key?_modify (id : Nat) (change : Node → Node)
    (sameKey : ∀ node, (change node).key = node.key) (place : Nat) :
    (graph.modify id change).key? place = graph.key? place := by
  rw [← getElem?_keys, ← getElem?_keys, keys_modify sameKey]

theorem isScheduled_modify (id : Nat) (change : Node → Node)
    (same : ∀ node, (change node).isPlaceholder = node.isPlaceholder) (place : Nat) :
    (graph.modify id change).isScheduled place = graph.isScheduled place := by
  rw [isScheduled, isScheduled, node?_modify]
  cases graph.node? place with
  | none => rfl
  | some node => by_cases here : id = place <;> simp [here, same]

theorem schedulesKey_modify {id : Nat} (sameKey : ∀ node, (change node).key = node.key)
    (same : ∀ node, (change node).isPlaceholder = node.isPlaceholder) :
    (graph.modify id change).SchedulesKey key ↔ graph.SchedulesKey key := by
  simp only [SchedulesKey, key?_modify id change sameKey, isScheduled_modify id change same]

theorem Keeps.schedulesKey (keeps : Keeps before after) (here : before.SchedulesKey key) :
    after.SchedulesKey key := by
  obtain ⟨id, found, scheduled⟩ := here
  exact ⟨id, keeps.key? found, keeps.scheduled id scheduled⟩

theorem schedulesKey_intern {isPlaceholder : Bool}
    (here : (graph.intern key owner isPlaceholder).1.SchedulesKey other) :
    graph.SchedulesKey other ∨ other = key ∧ isPlaceholder = false := by
  obtain ⟨place, found, scheduled⟩ := here
  rcases intern_cases graph key owner isPlaceholder with ⟨id, _, _, same⟩ | ⟨_, _, same⟩
  · rw [same, key?_modify id (·.ownedBy owner) fun _ => rfl] at found
    rw [same, isScheduled_modify id (·.ownedBy owner) fun _ => rfl] at scheduled
    exact .inl ⟨place, found, scheduled⟩
  · rw [same] at found scheduled
    obtain ⟨node, isNode, real⟩ := isScheduled_iff.mp scheduled
    rw [key?, isNode, Option.map_some, Option.some.injEq] at found
    rcases node?_append.mp isNode with old | ⟨_, rfl⟩
    · exact .inl ⟨place, key?_eq_some.mpr ⟨node, old, found⟩, isScheduled_iff.mpr ⟨node, old, real⟩⟩
    · exact .inr ⟨found.symm, real⟩

/-- The node of a package is not delivered for its own sake. -/
theorem schedulesKey_addContainer {package : String} :
    (graph.addContainer package owner).1.SchedulesKey other ↔ graph.SchedulesKey other := by
  refine ⟨fun here => ?_, (keeps_addContainer graph package owner).schedulesKey⟩
  rcases schedulesKey_intern here with old | ⟨_, real⟩
  · exact old
  · cases real

theorem addObject_fst (graph : DependencyGraph) (key : ObjectKey) (owner : Option String) :
    (graph.addObject key owner).1 =
      (graph.intern key owner false).1.modify (graph.addObject key owner).2 Node.asObject := rfl

theorem key?_addObject (graph : DependencyGraph) (key : ObjectKey) (owner : Option String) :
    (graph.addObject key owner).1.key? (graph.addObject key owner).2 = some key :=
  (key?_modify _ Node.asObject (fun _ => rfl) _).trans (key?_intern graph key owner false)

/-- Adding an object makes its key take part in delivery, and no other one. -/
theorem schedulesKey_addObject :
    (graph.addObject key owner).1.SchedulesKey other ↔ graph.SchedulesKey other ∨ other = key := by
  obtain ⟨keeps, scheduled⟩ := addObject_spec graph key owner
  constructor
  · rintro ⟨place, found, alsoScheduled⟩
    by_cases here : place = (graph.addObject key owner).2
    · rw [here, key?_addObject, Option.some.injEq] at found
      exact .inr found.symm
    · rw [addObject_fst, key?_modify _ Node.asObject fun _ => rfl] at found
      obtain ⟨node, isNode, real⟩ := isScheduled_iff.mp alsoScheduled
      rw [addObject_fst, node?_modify] at isNode
      obtain ⟨old, wasThere, rfl⟩ := Option.map_eq_some_iff.mp isNode
      rw [if_neg (Ne.symm here)] at real
      have before := schedulesKey_intern ⟨place, found, isScheduled_iff.mpr ⟨old, wasThere, real⟩⟩
      exact before.imp_right And.left
  · rintro (old | rfl)
    · exact keeps.schedulesKey old
    · exact ⟨_, key?_addObject graph other owner, scheduled⟩

/-! ## Containers -/

theorem Keeps.suits (keeps : Keeps before after) (suits : before.Suits key container) :
    after.Suits key container := by
  cases container with
  | root => exact suits
  | package outer =>
      obtain ⟨package, isMember, found⟩ := suits
      exact ⟨package, isMember, keeps.key? found⟩

theorem puts_setContainer (container : Container) :
    Puts (fun node => { node with container := some container }) container :=
  ⟨fun _ => rfl, fun _ => rfl, fun _ => rfl, fun _ => .inl rfl⟩

theorem puts_ensureContainer (container : Container) :
    Puts (fun node => { node with container := node.container.or (some container) })
      container := by
  refine ⟨fun _ => rfl, fun _ => rfl, fun _ => rfl, fun node => ?_⟩
  cases held : node.container with
  | none => exact .inl rfl
  | some old => exact .inr ⟨rfl, Option.some_ne_none old⟩

theorem Puts.keeps (puts : Puts change container) (graph : DependencyGraph) (id : Nat) :
    Keeps graph (graph.modify id change) :=
  keeps_modify puts.key fun node real => (puts.isPlaceholder node).trans real

/-- What changes neither keys nor containers nor decisions leaves the nodes in their
places. -/
theorem Arranged.modify (arranged : graph.Arranged loose) (id : Nat) (change : Node → Node)
    (sameKey : ∀ node, (change node).key = node.key)
    (sameStatus : ∀ node, (change node).status = node.status)
    (sameContainer : ∀ node, (change node).container = node.container) :
    (graph.modify id change).Arranged loose := by
  intro place node found
  rw [node?_modify] at found
  obtain ⟨old, wasThere, rfl⟩ := Option.map_eq_some_iff.mp found
  obtain ⟨isSkip, held⟩ := arranged place old wasThere
  have suits : ∀ container, graph.Suits old.key container →
      (graph.modify id change).Suits old.key container := by
    intro container suits
    cases container with
    | root => exact suits
    | package outer => simpa only [Suits, key?_modify id change sameKey] using suits
  split
  · rw [sameKey, sameStatus, sameContainer]
    exact ⟨isSkip, held.imp_left fun ⟨container, isHeld, fits⟩ =>
      ⟨container, isHeld, suits container fits⟩⟩
  · exact ⟨isSkip, held.imp_left fun ⟨container, isHeld, fits⟩ =>
      ⟨container, isHeld, suits container fits⟩⟩

/-- A new node is in no container at first. -/
theorem Arranged.intern (arranged : graph.Arranged loose) (key : ObjectKey)
    (owner : Option String) (isPlaceholder : Bool) :
    (graph.intern key owner isPlaceholder).1.Arranged
      ((graph.intern key owner isPlaceholder).2 :: loose) := by
  have keeps := (intern_spec graph key owner isPlaceholder).1
  rcases intern_cases graph key owner isPlaceholder with
    ⟨id, _, _, same⟩ | ⟨_, isNew, same⟩
  · rw [same]
    intro place node found
    obtain ⟨isSkip, held⟩ := arranged.modify id (·.ownedBy owner) (fun _ => rfl) (fun _ => rfl)
      (fun _ => rfl) place node found
    exact ⟨isSkip, held.imp_right fun ⟨nowhere, isLoose⟩ =>
      ⟨nowhere, List.mem_cons_of_mem _ isLoose⟩⟩
  · rw [same] at keeps ⊢
    rw [isNew]
    intro place node found
    rcases node?_append.mp found with old | ⟨rfl, rfl⟩
    · obtain ⟨isSkip, held⟩ := arranged place node old
      refine ⟨isSkip, held.imp ?_ ?_⟩
      · exact fun ⟨container, isHeld, fits⟩ => ⟨container, isHeld, keeps.suits fits⟩
      · exact fun ⟨nowhere, isLoose⟩ => ⟨nowhere, List.mem_cons_of_mem _ isLoose⟩
    · exact ⟨rfl, .inr ⟨rfl, List.mem_cons_self⟩⟩

theorem Arranged.addObject (arranged : graph.Arranged loose) (key : ObjectKey)
    (owner : Option String) :
    (graph.addObject key owner).1.Arranged ((graph.addObject key owner).2 :: loose) :=
  (arranged.intern key owner false).modify _ Node.asObject (fun _ => rfl) (fun _ => rfl)
    fun _ => rfl

/-- A node that is put into the container that its key asks for is in its place. -/
theorem Arranged.put {id : Nat} (arranged : graph.Arranged (id :: loose))
    (puts : Puts change container) (found : graph.key? id = some key)
    (suits : graph.Suits key container) : (graph.modify id change).Arranged loose := by
  intro place node isNode
  rw [node?_modify] at isNode
  obtain ⟨old, wasThere, rfl⟩ := Option.map_eq_some_iff.mp isNode
  obtain ⟨isSkip, held⟩ := arranged place old wasThere
  have keeps := puts.keeps graph id
  by_cases here : id = place
  · subst here
    rw [key?, wasThere, Option.map_some, Option.some.injEq] at found
    rw [if_pos rfl, puts.status, puts.key]
    refine ⟨isSkip, .inl ?_⟩
    rcases puts.container old with isPut | ⟨stays, somewhere⟩
    · exact ⟨container, isPut, keeps.suits (found ▸ suits)⟩
    · rcases held with ⟨other, isHeld, fits⟩ | ⟨nowhere, _⟩
      · exact ⟨other, stays.trans isHeld, keeps.suits fits⟩
      · exact absurd nowhere somewhere
  · rw [if_neg here]
    rcases held with ⟨other, isHeld, fits⟩ | ⟨nowhere, isLoose⟩
    · exact ⟨isSkip, .inl ⟨other, isHeld, keeps.suits fits⟩⟩
    · exact ⟨isSkip, .inr ⟨nowhere, (List.mem_cons.mp isLoose).resolve_left (Ne.symm here)⟩⟩

/-! ## Taking up objects -/

section

variable {added contained : DependencyGraph} {id outer : Nat} {names : List ObjectKey}
  {package : String}

theorem takesUp_addObject (adding : graph.addObject key owner = (added, id)) :
    TakesUp graph added key id [key] [id] := by
  obtain ⟨keeps, scheduled⟩ := addObject_spec graph key owner
  have schedulesKey := fun other => @schedulesKey_addObject graph key other owner
  have arranged := fun inPlace : graph.Arranged [] => inPlace.addObject key owner
  have found := key?_addObject graph key owner
  have keys : ∀ named, graph.keys = named.eraseDups →
      (graph.addObject key owner).1.keys = (named ++ [key]).eraseDups :=
    fun named isNamed => Eq.trans (keys_modify fun _ => rfl) (keys_intern isNamed)
  rw [adding] at keeps scheduled schedulesKey arranged found keys
  exact ⟨keeps, keys, schedulesKey, arranged, found, scheduled⟩

/-- The package that an object is in may be named for it. -/
theorem TakesUp.addContainer (takes : TakesUp graph added key id names loose)
    (containing : added.addContainer package owner = (contained, outer)) :
    TakesUp graph contained key id (names ++ [.packageNode package]) (outer :: loose) ∧
      contained.key? outer = some (.packageNode package) := by
  have keeps := keeps_addContainer added package owner
  have schedulesKey := fun other => @schedulesKey_addContainer added other owner package
  have arranged := fun inPlace : added.Arranged loose =>
    inPlace.intern (.packageNode package) owner true
  have found := key?_intern added (.packageNode package) owner true
  have keys : ∀ named, added.keys = named.eraseDups →
      (added.addContainer package owner).1.keys = (named ++ [.packageNode package]).eraseDups :=
    fun _ isNamed => keys_intern isNamed
  rw [← DependencyGraph.addContainer] at arranged found
  rw [containing] at keeps schedulesKey arranged found keys
  refine ⟨⟨takes.keeps.trans keeps, fun named isNamed => ?_, fun other => ?_,
    fun inPlace => arranged (takes.arranged inPlace), keeps.key? takes.found,
    keeps.scheduled id takes.scheduled⟩, found⟩
  · rw [← List.append_assoc]
    exact keys _ (takes.keys named isNamed)
  · exact (schedulesKey other).trans (takes.schedulesKey other)

/-- A node in no container may be put into the one that its key asks for. -/
theorem TakesUp.put {place : Nat} (takes : TakesUp graph added key id names (place :: loose))
    (puts : Puts change container) (found : added.key? place = some other)
    (suits : added.Suits other container) :
    TakesUp graph (added.modify place change) key id names loose where
  keeps := takes.keeps.trans (puts.keeps added place)
  keys named isNamed := (keys_modify puts.key).trans (takes.keys named isNamed)
  schedulesKey other :=
    (schedulesKey_modify puts.key puts.isPlaceholder).trans (takes.schedulesKey other)
  arranged inPlace := (takes.arranged inPlace).put puts found suits
  found := (puts.keeps added place).key? takes.found
  scheduled := (puts.keeps added place).scheduled id takes.scheduled

/-- To name a key again changes nothing. -/
theorem TakesUp.again (takes : TakesUp graph added key id names loose)
    (known : other ∈ graph.keys) : TakesUp graph added key id (names ++ [other]) loose := by
  refine { takes with keys := fun named isNamed => ?_ }
  have present : other ∈ named ++ names := by
    refine List.mem_append_left _ ?_
    rwa [← List.mem_eraseDups, ← isNamed]
  rw [← List.append_assoc, eraseDups_append_singleton, if_pos present]
  exact takes.keys named isNamed

theorem withPackage_of_outside (outside : key.package? = none) : key.withPackage = [key] := by
  rw [ObjectKey.withPackage, outside]
  rfl

theorem withPackage_of_inside (inside : key.package? = some package) :
    key.withPackage = [key] ++ [.packageNode package] := by
  rw [ObjectKey.withPackage, inside]
  rfl

/-- An object outside all packages is put at the root level. -/
theorem settles_outside (adding : graph.addObject key owner = (added, id))
    (outside : key.package? = none) : Settles graph (added.setContainer id .root) key id := by
  have takes := takesUp_addObject adding
  rw [Settles, withPackage_of_outside outside]
  exact takes.put (puts_setContainer .root) takes.found outside

/-- A member of a package that has a node already is put into it. -/
theorem settles_beside (adding : graph.addObject key owner = (added, id))
    (inside : key.package? = some package)
    (isPackage : graph.key? outer = some (.packageNode package)) :
    Settles graph (added.setContainer id (.package outer)) key id := by
  have takes := (takesUp_addObject adding).again (mem_keys_iff.mpr ⟨outer, isPackage⟩)
  rw [Settles, withPackage_of_inside inside]
  exact takes.put (puts_setContainer (.package outer)) takes.found
    ⟨package, inside, takes.keeps.key? isPackage⟩

/-- A member of a package is put into the node of the package, which is added if
need be. -/
theorem settles_within {packageOwner : Option String}
    (adding : graph.addObject key owner = (added, id)) (inside : key.package? = some package)
    (containing : added.addContainer package packageOwner = (contained, outer))
    (puts : Puts change (.package outer)) :
    Settles graph ((contained.ensureContainer outer .root).modify id change) key id := by
  obtain ⟨takes, isPackage⟩ := (takesUp_addObject adding).addContainer containing
  have outside : (ObjectKey.packageNode package).package? = none := by
    rw [ObjectKey.package?, if_pos (isRootLevel_packageNode package)]
  have settled := takes.put (puts_ensureContainer .root) isPackage outside
  rw [Settles, withPackage_of_inside inside]
  exact settled.put puts settled.found
    ⟨package, inside, (keeps_ensureContainer contained outer .root).key? isPackage⟩

end

end DependencyGraph

end SchemaPlan
