import SchemaPlan.Proofs.Database.Command

/-!
# Commands that fail

A command can fail at each of its steps, and what it has done by then stays done.  Only
a transaction takes its changes back.  What can be seen of a connection afterwards is
what it answers, and the answer to a question hangs on two things alone, the database
and the parts of it that can be read (`IsQuestion`).  No command changes which parts
these are (`Keeps`), so a transaction that fails leaves every answer as it was
(`content_of_transaction_eq_error`).

A command that succeeds is taken apart into its steps in the same way on any footing:
whatever has been read could be read, and whatever has been changed is told by the
database that is left.
-/

set_option autoImplicit false

namespace SchemaPlan

/-- The heading and some further parts can be read. -/
def Footing.Reads (footing : Footing) (parts : List Part) : Prop :=
  ∀ part ∈ Part.heading :: parts, part ∉ footing.unreadable

instance (footing : Footing) (parts : List Part) : Decidable (footing.Reads parts) :=
  inferInstanceAs (Decidable (∀ part ∈ Part.heading :: parts, part ∉ footing.unreadable))

theorem Footing.Sound.reads {footing : Footing} (sound : footing.Sound) (parts : List Part) :
    footing.Reads parts := by
  intro part _
  rw [sound.readable]
  exact List.not_mem_nil

/-- The database of a connection and what its files allow. -/
def Connection.content (connection : Connection) : Database × Footing :=
  (connection.database, connection.footing)

namespace Command

variable {First Value Item View : Type} {connection later : Connection}
  {view : Connection → View} {first command : Command Value} {parts : Database → List Part}
  {question : Database → Except StorageError Value}

theorem runOn_bind_eq {first : Command First} {next : First → Command Value} :
    (first >>= next).runOn connection =
      match first.runOn connection with
      | (.ok value, later) => (next value).runOn later
      | (.error failure, later) => (.error failure, later) := by
  simp only [runOn, ExceptT.run_bind, StateT.run_bind]
  rcases StateT.run (ExceptT.run first) connection with ⟨failure | value, later⟩ <;> rfl

/-- A command followed by another one succeeds when both do. -/
theorem runOn_bind_eq_ok {first : Command First} {next : First → Command Value}
    {result : Value} :
    (first >>= next).runOn connection = (.ok result, later) ↔
      ∃ value between, first.runOn connection = (.ok value, between) ∧
        (next value).runOn between = (.ok result, later) := by
  rw [runOn_bind_eq]
  rcases first.runOn connection with ⟨failure | value, between⟩
  · simp
  · simp [and_assoc]

/-! ## What commands leave alone -/

/-- Whether it succeeds or fails, a command leaves what a view shows of a connection. -/
def Keeps (view : Connection → View) (command : Command Value) : Prop :=
  ∀ connection, view (command.runOn connection).2 = view connection

/-- The view of the connection that a command leaves. -/
theorem Keeps.view_eq {outcome : Except StorageError Value} (keeps : command.Keeps view)
    (ran : command.runOn connection = (outcome, later)) : view later = view connection := by
  have kept := keeps connection
  rwa [ran] at kept

theorem keeps_pure (value : Value) : (pure value : Command Value).Keeps view := fun _ => rfl

theorem Keeps.bind {first : Command First} {next : First → Command Value}
    (keeps : first.Keeps view) (further : ∀ value, (next value).Keeps view) :
    (first >>= next).Keeps view := by
  intro connection
  rw [runOn_bind_eq]
  rcases ran : first.runOn connection with ⟨failure | value, between⟩
  · exact keeps.view_eq ran
  · exact (further value between).trans (keeps.view_eq ran)

/-- A command that looks at the connection first has to keep what this one shows. -/
theorem keeps_get_bind {next : Connection → Command Value}
    (keeps : ∀ connection, view ((next connection).runOn connection).2 = view connection) :
    (get >>= next).Keeps view :=
  keeps

theorem keeps_modify {change : Connection → Connection}
    (same : ∀ connection, view (change connection) = view connection) :
    (modify change : Command Unit).Keeps view :=
  same

theorem keeps_forM {step : Item → Command Unit} (steps : ∀ item, (step item).Keeps view)
    (items : List Item) : (items.forM step).Keeps view := by
  induction items with
  | nil => exact keeps_pure ()
  | cons item rest ih => exact (steps item).bind fun _ => ih

theorem keeps_foldlM {step : Value → Item → Command Value}
    (steps : ∀ value item, (step value item).Keeps view) (items : List Item) (value : Value) :
    (items.foldlM step value).Keeps view := by
  induction items generalizing value with
  | nil => exact keeps_pure value
  | cons item rest ih => exact (steps value item).bind ih

theorem Keeps.either {own related : Command Value} (keeps : own.Keeps view)
    (alsoKeeps : related.Keeps view) : (either own related).Keeps view := by
  refine keeps_get_bind fun connection => ?_
  split
  · exact alsoKeeps connection
  · exact keeps connection

/-- What leaves the content alone leaves the footing alone. -/
theorem Keeps.footing (keeps : command.Keeps Connection.content) :
    command.Keeps Connection.footing :=
  fun connection => congrArg Prod.snd (keeps connection)

/-! ### Reading and preparing -/

theorem keeps_touch (part : Part) : (touch part).Keeps Connection.content := by
  refine keeps_get_bind fun connection => ?_
  split <;> rfl

theorem keeps_touchAll (parts : List Part) : (touchAll parts).Keeps Connection.content := by
  refine Keeps.bind (keeps_modify fun _ => ?_) fun _ => keeps_forM keeps_touch _
  rfl

/-- **A question changes nothing** that another question could tell. -/
theorem keeps_query : (query parts question).Keeps Connection.content :=
  keeps_get_bind fun connection =>
    ((keeps_touchAll (parts connection.database)).bind fun _ _ => rfl) connection

theorem keeps_allowChange : allowChange.Keeps Connection.content := by
  refine keeps_get_bind fun connection => ?_
  split <;> rfl

theorem keeps_queryToChange : (queryToChange parts question).Keeps Connection.content :=
  keeps_allowChange.bind fun _ => keeps_query

theorem keeps_write (parts : List Part) : (write parts).Keeps Connection.content := by
  refine (keeps_touchAll parts).bind fun _ => keeps_get_bind fun connection => ?_
  split <;> rfl

theorem keeps_begin : begin.Keeps Connection.content := by
  refine keeps_get_bind fun connection => ?_
  dsimp only
  split
  · rfl
  · exact keeps_write _ connection

theorem keeps_prepare (table : TableName) : (prepare table).Keeps Connection.content := by
  refine keeps_get_bind fun connection => ?_
  split
  · rfl
  · split <;> rfl

/-! ### Changing -/

/-- **A change leaves the footing**: which parts can be read and written stays as it is. -/
theorem keeps_change (parts : List Part) (update : Database → Database) :
    (change parts update).Keeps Connection.footing := by
  refine keeps_allowChange.footing.bind fun _ => keeps_get_bind fun connection => ?_
  refine Keeps.bind (keeps_write _).footing (fun _ => ?_) connection
  exact keeps_modify fun _ => rfl

/-! ## Questions -/

/-- A command whose answer hangs on the content of a connection alone. -/
def IsQuestion (command : Command Value) : Prop :=
  ∀ ⦃connection other : Connection⦄, connection.content = other.content →
    command.answer connection = command.answer other

theorem answer_forM_touch (parts : List Part) :
    (parts.forM touch).answer connection =
      if ∀ part ∈ parts, part ∉ connection.footing.unreadable then .ok ()
      else .error StorageError.unreadable := by
  induction parts generalizing connection with
  | nil => rfl
  | cons part rest ih =>
      have touched : (touch part).runOn connection =
          if part ∈ connection.footing.unreadable then (.error StorageError.unreadable, connection)
          else (.ok (), { connection with remembered := connection.remembered.insert part }) := by
        change runOn (if _ then _ else _) connection = _
        split <;> rfl
      change ((touch part >>= fun _ => rest.forM touch).runOn connection).1 = _
      rw [runOn_bind_eq, touched]
      by_cases unreadable : part ∈ connection.footing.unreadable
      · rw [if_pos unreadable, if_neg fun all => all part List.mem_cons_self unreadable]
      · rw [if_neg unreadable]
        refine ih.trans (ite_congr (propext ?_) (fun _ => rfl) fun _ => rfl)
        rw [List.forall_mem_cons]
        exact (and_iff_right unreadable).symm

/-- **The answer to a question**: that of the database, if its parts can be read. -/
theorem answer_query_eq : (query parts question).answer connection =
    if connection.footing.Reads (parts connection.database) then question connection.database
    else .error StorageError.unreadable := by
  have touched := @answer_forM_touch { connection with
    isUsed := true
    outdated := if (parts connection.database).any (· ≠ Part.heading) then []
      else connection.outdated } (Part.heading :: parts connection.database)
  have unfolded : (query parts question).answer connection =
      ((Part.heading :: parts connection.database).forM touch >>= fun _ =>
        ExceptT.mk (return question connection.database) : Command Value).answer
          { connection with
            isUsed := true
            outdated := if (parts connection.database).any (· ≠ Part.heading) then []
              else connection.outdated } := rfl
  rw [unfolded, answer, runOn_bind_eq]
  rw [answer] at touched
  by_cases reads : connection.footing.Reads (parts connection.database)
  · rw [if_pos reads]
    replace touched := touched.trans (if_pos reads)
    rcases ran : runOn _ _ with ⟨failure | value, later⟩
    · rw [ran] at touched
      cases touched
    · rfl
  · rw [if_neg reads]
    replace touched := touched.trans (if_neg reads)
    rcases ran : runOn _ _ with ⟨failure | value, later⟩
    · rw [ran] at touched
      exact congrArg _ (Except.error.inj touched)
    · rw [ran] at touched
      cases touched

theorem isQuestion_query : (query parts question).IsQuestion := by
  intro connection other same
  obtain ⟨database, footing⟩ := Prod.mk.inj same
  rw [answer_query_eq, answer_query_eq, database, footing]

theorem IsQuestion.either {own related : Command Value} (isQuestion : own.IsQuestion)
    (alsoQuestion : related.IsQuestion) : (either own related).IsQuestion := by
  intro connection other same
  have database : connection.database = other.database := congrArg Prod.fst same
  change answer (if connection.database.relations.isSome then related else own) connection =
    answer (if other.database.relations.isSome then related else own) other
  rw [database]
  split
  · exact alsoQuestion same
  · exact isQuestion same

/-! ## Transactions -/

/-- What is taken back is the database, and the footing has not changed. -/
theorem content_of_atomically_eq_error (keeps : command.Keeps Connection.footing)
    {failure : StorageError}
    (failed : (atomically command).runOn connection = (.error failure, later)) :
    later.content = connection.content := by
  rw [atomically, runOn, ExceptT.run_mk, StateT.run] at failed
  rcases ran : command.runOn connection with ⟨cause | value, after⟩
  · rw [ran] at failed
    have footing : after.footing = connection.footing := keeps.view_eq ran
    obtain rfl := (Prod.mk.inj failed).2
    exact congrArg (Prod.mk connection.database) footing
  · rw [ran] at failed
    cases failed

/-- **A transaction that fails has changed nothing** that a question could tell. -/
theorem content_of_transaction_eq_error (keeps : command.Keeps Connection.footing)
    {failure : StorageError}
    (failed : (transaction command).runOn connection = (.error failure, later)) :
    later.content = connection.content :=
  content_of_atomically_eq_error (keeps_begin.footing.bind fun _ => keeps) failed

/-- **A transaction that succeeds is the command itself**, from the same content. -/
theorem transaction_eq_ok {value : Value}
    (done : (transaction command).runOn connection = (.ok value, later)) :
    ∃ begun, begun.content = connection.content ∧ command.runOn begun = (.ok value, later) := by
  have both : (begin >>= fun _ => command).runOn connection = (.ok value, later) := by
    rw [transaction, atomically, runOn, ExceptT.run_mk, StateT.run] at done
    change (begin *> command).runOn connection = (.ok value, later)
    rcases ran : (begin *> command).runOn connection with ⟨cause | found, after⟩
    · rw [ran] at done
      cases done
    · rwa [ran] at done
  obtain ⟨_, begun, began, rest⟩ := runOn_bind_eq_ok.mp both
  exact ⟨begun, keeps_begin.view_eq began, rest⟩

/-! ## Commands that succeed on any footing -/

/-- A question that has been answered has been asked of parts that can be read. -/
theorem query_eq_ok {value : Value}
    (done : (query parts question).runOn connection = (.ok value, later)) :
    connection.footing.Reads (parts connection.database) ∧
      question connection.database = .ok value ∧ later.content = connection.content := by
  have answered :=
    (congrArg Prod.fst done).symm.trans (@answer_query_eq _ connection parts question)
  have kept : later.content = connection.content := keeps_query.view_eq done
  by_cases reads : connection.footing.Reads (parts connection.database)
  · rw [if_pos reads] at answered
    exact ⟨reads, answered.symm, kept⟩
  · rw [if_neg reads] at answered
    cases answered

theorem queryToChange_eq_ok {value : Value}
    (done : (queryToChange parts question).runOn connection = (.ok value, later)) :
    connection.footing.Reads (parts connection.database) ∧
      question connection.database = .ok value ∧ later.content = connection.content := by
  obtain ⟨_, between, allowed, rest⟩ := runOn_bind_eq_ok.mp done
  have kept : between.content = connection.content := keeps_allowChange.view_eq allowed
  obtain ⟨database, footing⟩ := Prod.mk.inj kept
  obtain ⟨reads, answers, same⟩ := query_eq_ok rest
  rw [database, footing] at reads
  exact ⟨reads, database ▸ answers, same.trans kept⟩

/-- A change that has been made. -/
theorem change_eq_ok {parts : List Part} {update : Database → Database}
    (done : (change parts update).runOn connection = (.ok (), later)) :
    later.content = (update connection.database, connection.footing) := by
  obtain ⟨_, between, allowed, rest⟩ := runOn_bind_eq_ok.mp done
  obtain ⟨_, _, got, rest⟩ := runOn_bind_eq_ok.mp rest
  cases got
  obtain ⟨_, written, wrote, modified⟩ := runOn_bind_eq_ok.mp rest
  have kept : written.content = connection.content :=
    ((keeps_write _).view_eq wrote).trans (keeps_allowChange.view_eq allowed)
  obtain ⟨database, footing⟩ := Prod.mk.inj kept
  cases modified
  change (update written.database, written.footing) = _
  rw [database, footing]

/-- On the four tables the command for these is run. -/
theorem runOn_either {own related : Command Value}
    (plain : connection.database.relations = none) :
    (either own related).runOn connection = own.runOn connection := by
  change runOn (if connection.database.relations.isSome then related else own) connection = _
  rw [plain]
  rfl

end Command

end SchemaPlan
