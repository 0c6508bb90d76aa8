import SchemaPlan.Proofs.Database.PlanStore
import SchemaPlan.Proofs.Plan.StoredNames

/-!
# Reading stored plans

A plan that has been stored is read again as it was.  This asks for more than writing
down what it says.  Keys are made again when they are read, places are cut off at the
greatest one that can be stored, objects are read in the order of their places, and a
record that repeats another one would not be there.  A plan that has been made from names
in stored form loses nothing by any of this (`Planner.plan_isMade`), so it reads back
unchanged, whatever was stored before (`Planner.plan_reads_back`).
-/

set_option autoImplicit false

namespace SchemaPlan

theorem NodeStatus.name_injective {first second : NodeStatus} (same : first.name = second.name) :
    first = second := by
  cases first <;> cases second <;> first | rfl | exact absurd same (by decide)

/-- **The row of an object is read as the object.** -/
theorem OrderRow.toRecord_ofRecord {table : OrderTable} {record : OrderRecord}
    (made : record.key.IsMade) : (ofRecord record).toRecord table = .ok record := by
  refine Outcome.bind_eq_ok.mpr ⟨_, TableName.readType_name _ _, congrArg Except.ok ?_⟩
  rw [ofRecord, made.new_eq]

namespace PlanStore

variable {plan : MigrationPlan} {objects : List ScheduledObject} {connection later : Connection}

/-! ## Places -/

/-- An object as it is to be read. -/
def recordOf (object : ScheduledObject) : OrderRecord :=
  ⟨object.order, object.owner, object.key, object.status.name⟩

/-- Objects whose places can be stored are stored as they are. -/
theorem records_eq (small : ∀ object ∈ objects, object.order ≤ maxOrder) :
    records objects = objects.map recordOf := by
  refine List.map_congr_left fun object member => ?_
  have place : min (object.order : Int) maxOrder = object.order :=
    min_eq_left (Int.ofNat_le.mpr (small object member))
  rw [place, recordOf]

theorem order_le_length (places : objects.map (·.order) = List.range' 1 objects.length)
    {object : ScheduledObject} (member : object ∈ objects) : object.order ≤ objects.length := by
  have inRange : object.order ∈ List.range' 1 objects.length :=
    places ▸ List.mem_map_of_mem (f := (·.order)) member
  rw [List.mem_range'_1] at inRange
  omega

/-- **Places that count from one are stored apart** if all of them can be stored. -/
theorem nodup_records_iff (places : objects.map (·.order) = List.range' 1 objects.length) :
    ((records objects).map (·.order)).Nodup ↔ objects.length ≤ maxOrder := by
  have stored : (records objects).map (·.order) =
      (List.range' 1 objects.length).map fun place : Nat => min (place : Int) maxOrder := by
    rw [← places, List.map_map, records, List.map_map]
    rfl
  rw [stored]
  constructor
  · intro distinct
    by_contra tooLong
    have last : maxOrder ∈ List.range' 1 objects.length := by
      rw [List.mem_range'_1, maxOrder] at *
      omega
    have beyond : maxOrder + 1 ∈ List.range' 1 objects.length := by
      rw [List.mem_range'_1]
      omega
    have same : min (maxOrder : Int) maxOrder = min ((maxOrder + 1 : Nat) : Int) maxOrder := by
      omega
    exact absurd (List.inj_on_of_nodup_map distinct last beyond same) (by omega)
  · intro small
    refine List.Nodup.map_on (fun first inFirst second inSecond same => ?_) List.nodup_range'
    rw [List.mem_range'_1] at inFirst inSecond
    omega

/-- Objects whose places count from one are stored in the order of their places. -/
theorem pairwise_order (places : objects.map (·.order) = List.range' 1 objects.length) :
    objects.Pairwise fun first second => first.order ≤ second.order := by
  have ascending : (objects.map (·.order)).Pairwise (· ≤ ·) := by
    rw [places]
    exact List.pairwise_le_range'
  exact List.pairwise_map.mp ascending

/-! ## Reading the orders -/

/-- The places of the objects in both orders of a plan count from one. -/
def CountsPlaces (plan : MigrationPlan) : Prop :=
  ∀ table, (PlanStore.objects plan.schedule table).map (·.order) =
    List.range' 1 (PlanStore.objects plan.schedule table).length

/-- The objects of one status, or all of them if none is given. -/
def chosen (status : Option NodeStatus) (objects : List ScheduledObject) : List ScheduledObject :=
  objects.filter fun object => status.all fun status => decide (object.status = status)

theorem chosen_none : chosen none objects = objects :=
  List.filter_eq_self.mpr fun _ _ => rfl

/-- The objects of one status are those of the schedule restricted to it. -/
theorem map_key_chosen (schedule : Schedule) (status : NodeStatus) (table : OrderTable) :
    (chosen (some status) (PlanStore.objects schedule table)).map (·.key) =
      (PlanStore.objects (schedule.restrictedTo [status]) table).map (·.key) := by
  have same : ∀ objects, chosen (some status) objects =
      objects.filter fun object => decide (object.status ∈ [status]) :=
    fun objects => List.filter_congr fun object _ => by simp
  cases table with
  | install => exact (congrArg _ (same _)).trans (Schedule.map_key_numbered _).symm
  | rollback => exact (congrArg _ (same _)).trans (Schedule.map_key_numbered _).symm

/-- The rows of one status are those of the objects of this status. -/
theorem filter_map_ofRecord (status : Option NodeStatus) :
    ((objects.map recordOf).map OrderRow.ofRecord).filter (fun row =>
        (status.map (·.name)).all fun status => row.status == status) =
      ((chosen status objects).map recordOf).map OrderRow.ofRecord := by
  rw [List.map_map, List.filter_map, List.map_map]
  refine congrArg (List.map _) (List.filter_congr fun object _ => ?_)
  cases status with
  | none => rfl
  | some status =>
      rw [Option.map_some, Option.all_some, Bool.eq_iff_iff, decide_eq_true_eq]
      exact beq_iff_eq.trans ⟨NodeStatus.name_injective, congrArg NodeStatus.name⟩

/-- The rows of an order that has been stored are those of its objects as they are. -/
theorem Saves.orderRows_eq (saves : Saves plan connection later) (counts : CountsPlaces plan)
    {table : OrderTable} : orderRows plan table =
      ((PlanStore.objects plan.schedule table).map recordOf).map OrderRow.ofRecord := by
  have short := (nodup_records_iff (counts table)).mp (saves.distinct table)
  rw [orderRows, records_eq fun object member =>
    (order_le_length (counts table) member).trans short]

/-- **A stored order reads as the objects of the plan**, those of one status if given. -/
theorem Saves.answer_load (saves : Saves plan connection later)
    (plain : connection.database.relations = none) (counts : CountsPlaces plan)
    {table : OrderTable}
    (made : ∀ object ∈ PlanStore.objects plan.schedule table, object.key.IsMade)
    (status : Option NodeStatus) :
    (table.load (status.map (·.name))).answer later =
      .ok ((chosen status (PlanStore.objects plan.schedule table)).map recordOf) := by
  obtain ⟨database, footing⟩ := Prod.mk.inj saves.content
  have stillPlain : later.database.relations = none := database ▸ plain
  have ascending : (((chosen status (PlanStore.objects plan.schedule table)).map recordOf).map
      OrderRow.ofRecord).Pairwise fun first second =>
        (compare first.order second.order).isLE = true := by
    rw [List.map_map, List.pairwise_map]
    refine ((pairwise_order (counts table)).filter _).imp fun {first second} before => ?_
    exact Std.isLE_compare.mpr (Int.ofNat_le.mpr before)
  rw [OrderTable.load, Command.answer_either stillPlain, Command.answer_query_eq, footing,
    if_pos (saves.readsOrders table), database]
  refine Outcome.bind_eq_ok.mpr ⟨_, orderRows_saved table, ?_⟩
  dsimp only
  rw [saves.orderRows_eq counts, filter_map_ofRecord, Sorting.sortOn_eq_self ascending]
  refine Outcome.mapM_map_eq_ok fun record member => OrderRow.toRecord_ofRecord ?_
  obtain ⟨object, kept, rfl⟩ := List.mem_map.mp member
  exact made object (List.mem_filter.mp kept).1

/-! ## Reading the records -/

theorem lists_inserted {stage : EdgeStage} {rows : List EdgeRow} {known edges : List Edge}
    (lists : EdgeRow.Lists rows stage known) (allMade : ∀ edge ∈ known, edge.IsMade)
    (made : ∀ edge ∈ edges, edge.IsMade) :
    EdgeRow.Lists (EdgeLog.inserted stage edges rows) stage (EdgeList.append known edges) := by
  induction edges generalizing rows known with
  | nil => exact lists
  | cons edge rest ih =>
      have one := made edge List.mem_cons_self
      refine ih (lists.insertInto allMade one) (fun other member => ?_)
        fun other member => made other (List.mem_cons_of_mem _ member)
      rcases EdgeList.mem_add.mp member with old | rfl
      · exact allMade other old
      · exact one

/-- **The classified rows are those of the records of the plan**, none of which has been
taken for another one. -/
theorem rowsOf_classified_saved {before : Database}
    (made : ∀ edge ∈ plan.classifiedEdges, edge.IsMade) (distinct : plan.classifiedEdges.Nodup) :
    EdgeLog.rowsOf .classified (saved plan before) =
      plan.classifiedEdges.map (EdgeRow.ofEdge .classified) := by
  have lists := lists_inserted (EdgeRow.lists_delete (before.edges.getD []) .classified)
    (fun _ member => absurd member List.not_mem_nil) made
  rw [EdgeList.append_eq (by rwa [List.nil_append]), List.nil_append] at lists
  exact lists

/-- **The stored records read as those of the plan.** -/
theorem Saves.answer_load_classified (saves : Saves plan connection later)
    (plain : connection.database.relations = none)
    (made : ∀ edge ∈ plan.classifiedEdges, edge.IsMade) (distinct : plan.classifiedEdges.Nodup) :
    (EdgeLog.load .classified).answer later = .ok plan.classifiedEdges := by
  obtain ⟨database, footing⟩ := Prod.mk.inj saves.content
  have stillPlain : later.database.relations = none := database ▸ plain
  have rows := @rowsOf_classified_saved plan connection.database made distinct
  have reads : connection.footing.Reads
      (EdgeLog.partsToLoad .classified (saved plan connection.database)) := by
    rw [EdgeLog.partsToLoad, rows]
    by_cases nothing : plan.classifiedEdges = []
    · rw [nothing]
      exact saves.readsIndex
    · rw [if_neg (by simpa using nothing)]
      intro part member
      exact saves.readsRecords nothing part (by simp at member ⊢; tauto)
  rw [EdgeLog.load, Command.answer_either stillPlain, Command.answer_query_eq, footing, database,
    if_pos reads]
  refine Outcome.bind_eq_ok.mpr ⟨_, rfl, ?_⟩
  exact (congrArg (List.mapM EdgeRow.toEdge) rows).trans (EdgeRow.mapM_toEdge made)

end PlanStore

/-! ## Plans -/

namespace Planner

open PlanStore (objects recordOf save)

variable {planner : Planner} {plan : MigrationPlan} {connection later : Connection}

theorem PlanIsMade.countsPlaces (made : PlanIsMade plan) : PlanStore.CountsPlaces plan := by
  intro table
  cases table with
  | install => exact made.installPlaces
  | rollback => exact made.rollbackPlaces

theorem PlanIsMade.keys (made : PlanIsMade plan) (table : OrderTable) :
    ∀ object ∈ objects plan.schedule table, object.key.IsMade := by
  cases table with
  | install => exact made.install
  | rollback => exact made.rollback

/-- Both orders of a plan have the same length. -/
theorem PlanIsMade.length_objects (made : PlanIsMade plan) (table : OrderTable) :
    (objects plan.schedule table).length = plan.schedule.size := by
  cases table with
  | install => rfl
  | rollback => exact made.sameLength

/-- **A stored plan reads back unchanged.**  A plan that has been made from names in stored
form can be stored wherever nothing is refused.  Once it has been stored in the four tables,
whatever was there before, both orders read as its two lists, field for field, and the classified
records read as its records, in order; the tables hold the rows of these and no others.
The records of the closure are as they were.  The objects of one status read as those of
the schedule restricted to it. -/
theorem plan_reads_back {Log : Type} {sink : EdgeSink Log} {roots : List ObjectRef}
    {log after : Log} (answers : planner.catalog.AnswersMade)
    (made : ∀ root ∈ roots, root.IsMade) (prior : ∀ edge ∈ planner.prior, edge.IsMade)
    (planned : planner.plan sink roots log = (.ok plan, after))
    (plain : connection.database.relations = none) :
    (connection.footing.Sound → connection.database.TakesPlans →
      plan.schedule.size ≤ PlanStore.maxOrder →
        ∃ later, (save plan).runOn connection = (.ok (), later)) ∧
    ∀ later, (save plan).runOn connection = (.ok (), later) →
      (∀ table : OrderTable, (table.load none).answer later =
        .ok ((objects plan.schedule table).map recordOf)) ∧
      (∀ table : OrderTable, later.database.orderRows table =
        .ok (((objects plan.schedule table).map recordOf).map OrderRow.ofRecord)) ∧
      (EdgeLog.load .classified).answer later = .ok plan.classifiedEdges ∧
      EdgeLog.rowsOf .classified later.database =
        plan.classifiedEdges.map (EdgeRow.ofEdge .classified) ∧
      (EdgeLog.load .closure).answer later = (EdgeLog.load .closure).answer connection ∧
      EdgeLog.rowsOf .closure later.database = EdgeLog.rowsOf .closure connection.database ∧
      ∀ (table : OrderTable) (status : NodeStatus), ∃ records,
        (table.load (some status.name)).answer later = .ok records ∧
        records.map (·.key) =
          (objects (plan.schedule.restrictedTo [status]) table).map (·.key) := by
  have isMade := plan_isMade answers made prior planned
  have counts := isMade.countsPlaces
  refine ⟨fun sound takes small => ?_, fun later done => ?_⟩
  · have distinct : PlanStore.PlacesDistinct plan := fun table =>
      (PlanStore.nodup_records_iff (counts table)).mpr
        ((isMade.length_objects table).trans_le small)
    obtain ⟨later, done, _⟩ := PlanStore.turns_save takes distinct connection sound rfl
    exact ⟨later, done⟩
  · have saves := PlanStore.save_eq_ok plain done
    have database : later.database = PlanStore.saved plan connection.database :=
      congrArg Prod.fst saves.content
    rw [database]
    refine ⟨fun table => ?_, fun table => ?_, ?_, ?_, ?_, ?_, fun table status => ?_⟩
    · have read := saves.answer_load plain counts (isMade.keys table) none
      rwa [PlanStore.chosen_none] at read
    · rw [PlanStore.orderRows_saved, saves.orderRows_eq counts]
    · exact saves.answer_load_classified plain isMade.records isMade.distinct
    · exact PlanStore.rowsOf_classified_saved isMade.records isMade.distinct
    · exact saves.answer_load_closure plain
    · exact PlanStore.rowsOf_closure_saved
    · refine ⟨_, saves.answer_load plain counts (isMade.keys table) (some status), ?_⟩
      rw [List.map_map]
      exact PlanStore.map_key_chosen plan.schedule status table

theorem answersMade_callingPlanner : callingPlanner.catalog.AnswersMade := by
  refine Snapshot.answersMade fun row member => ?_
  rw [Snapshot.mem_rows_ofRows] at member
  revert row
  simp only [List.forall_mem_cons]
  exact ⟨⟨_, _, _, _, rfl⟩, ⟨_, _, _, _, rfl⟩, ⟨_, _, _, _, rfl⟩, ⟨_, _, _, _, rfl⟩, nofun⟩

/-- The plan of the calling procedure is stored in place of another one. -/
theorem callingPlan_reads_back : ∃ plan after earlier stored records,
    callingPlanner.plan EdgeList.sink [callingRoot] [] = (.ok plan, after) ∧
      (save PlanStore.firstPlan).runOn (Session.transient none).connection = (.ok (), earlier) ∧
      (save plan).runOn earlier = (.ok (), stored) ∧
      (OrderTable.install.load (some "INSTALL")).answer stored = .ok records ∧
      records.map (·.key) = [.rootLevel .procedure "HELP", .rootLevel .procedure "MAIN"] ∧
      (EdgeLog.load .classified).answer stored = .ok plan.classifiedEdges := by
  have succeeds : (callingPlanner.plan EdgeList.sink [callingRoot] []).1.toOption.map
        (fun plan => (plan.deliverable.installKeys, plan.schedule.size)) =
      some ([.rootLevel .procedure "HELP", .rootLevel .procedure "MAIN"], 4) := by
    with_unfolding_all rfl
  obtain ⟨plan, after, planned, evaluated⟩ := Outcome.eq_ok_of_reading succeeds
  obtain ⟨keys, size⟩ := Prod.mk.inj evaluated
  have sound : (Session.transient none).connection.footing.Sound := ⟨rfl, rfl, rfl, rfl⟩
  have takes : (Session.transient none).connection.database.TakesPlans :=
    ⟨rfl, rfl, fun table => by cases table <;> rfl⟩
  have distinct : PlanStore.PlacesDistinct PlanStore.firstPlan :=
    fun table => by cases table <;> exact List.nodup_singleton _
  obtain ⟨earlier, first, soundEarlier, isEarlier⟩ :=
    PlanStore.turns_save takes distinct _ sound rfl
  have takesEarlier : earlier.database.TakesPlans := by
    rw [isEarlier]
    exact ⟨rfl, rfl, fun table => by cases table <;> rfl⟩
  have roots : ∀ root ∈ [callingRoot], root.IsMade :=
    fun root member => List.mem_singleton.mp member ▸ ⟨_, _, _, _, rfl⟩
  have prior : ∀ edge ∈ callingPlanner.prior, edge.IsMade :=
    fun edge member => absurd member List.not_mem_nil
  obtain ⟨canBeStored, reads⟩ :=
    plan_reads_back answersMade_callingPlanner roots prior planned takesEarlier.plain
  obtain ⟨stored, second⟩ := canBeStored soundEarlier takesEarlier (by rw [size]; decide)
  obtain ⟨_, _, records, _, _, _, ofStatus⟩ := reads stored second
  obtain ⟨delivered, read, same⟩ := ofStatus .install .install
  exact ⟨plan, after, earlier, stored, delivered, planned, first, second, read, same.trans keys,
    records⟩

end Planner

end SchemaPlan
