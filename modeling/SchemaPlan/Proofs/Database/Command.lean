import SchemaPlan.Database.Basic

/-!
# Commands that succeed

A command may fail because of the files of a database, whatever is asked of the
database itself.  On a connection with a sound footing nothing of that kind happens:
all parts can be read, and changes are not refused.  There a command is told by what
it makes of the content of the database (`Turns`), and a command made of others by
what these make of it one after the other.

Where nothing is known of the footing, an answer that has been given still tells what
the database holds (`answer_query`).
-/

set_option autoImplicit false

namespace SchemaPlan

/-- Everything can be read and written. -/
structure Footing.Sound (footing : Footing) : Prop where
  writable : footing.isReadOnly = false
  transactions : footing.refusesTransactions = false
  journal : footing.lacksJournal = false
  readable : footing.unreadable = []

namespace Command

variable {First Value Item : Type} {connection later : Connection}
  {before middle after : Database}

/-! ## Steps of a run -/

theorem runOn_get : (get : Command Connection).runOn connection = (.ok connection, connection) :=
  rfl

/-- After a command that succeeds the next one runs on the connection that it leaves. -/
theorem runOn_bind {first : Command First} {next : First → Command Value} {value : First}
    (done : first.runOn connection = (.ok value, later)) :
    (first >>= next).runOn connection = (next value).runOn later := by
  simp only [runOn, ExceptT.run_bind, StateT.run_bind] at done ⊢
  rw [done]
  rfl

/-! ## What commands make of a database -/

/-- On every connection to a database that has a sound footing, a command succeeds with
a value and leaves a sound footing and another database. -/
def Turns (command : Command Value) (before : Database) (value : Value) (after : Database) :
    Prop :=
  ∀ connection : Connection, connection.footing.Sound → connection.database = before →
    ∃ later : Connection, command.runOn connection = (.ok value, later) ∧
      later.footing.Sound ∧ later.database = after

theorem turns_pure (value : Value) : (pure value : Command Value).Turns before value before :=
  fun connection sound isBefore => ⟨connection, rfl, sound, isBefore⟩

/-- **One command after another.** -/
theorem Turns.bind {first : Command First} {next : First → Command Value} {value : First}
    {result : Value} (turns : first.Turns before value middle)
    (further : (next value).Turns middle result after) :
    (first >>= next).Turns before result after := by
  intro connection sound isBefore
  obtain ⟨between, done, betweenSound, isMiddle⟩ := turns connection sound isBefore
  obtain ⟨later, alsoDone, laterSound, isAfter⟩ := further between betweenSound isMiddle
  exact ⟨later, (runOn_bind done).trans alsoDone, laterSound, isAfter⟩

/-- A command that looks at the connection first may rely on what is known of it. -/
theorem turns_get_bind {next : Connection → Command Value} {value : Value}
    (turns : ∀ connection : Connection, connection.footing.Sound → connection.database = before →
      (next connection).Turns before value after) :
    (get >>= next).Turns before value after := by
  intro connection sound isBefore
  obtain ⟨later, done, laterSound, isAfter⟩ :=
    turns connection sound isBefore connection sound isBefore
  exact ⟨later, (runOn_bind runOn_get).trans done, laterSound, isAfter⟩

theorem turns_set (sound : connection.footing.Sound) :
    (set connection : Command Unit).Turns before () connection.database :=
  fun _ _ _ => ⟨connection, rfl, sound, rfl⟩

theorem turns_modify {change : Connection → Connection} (footing : ∀ connection : Connection,
      (change connection).footing = connection.footing)
    (database : ∀ connection : Connection, connection.database = before →
      (change connection).database = after) :
    (modify change : Command Unit).Turns before () after := by
  intro connection sound isBefore
  exact ⟨change connection, rfl, (footing connection).symm ▸ sound, database connection isBefore⟩

/-! ## Lists -/

section

variable {State : Type} {items : List Item} {next : State → Item → State}
  {holds : Database → State → Prop} {state : State}

/-- A list is worked through item by item, and so is what is known of the database. -/
theorem turns_foldlM {step : Value → Item → Command Value}
    (steps : ∀ item ∈ items, ∀ state database value, holds database state →
      ∃ result after, (step value item).Turns database result after ∧
        holds after (next state item)) (held : holds before state) (value : Value) :
    ∃ result after, (items.foldlM step value).Turns before result after ∧
      holds after (items.foldl next state) := by
  induction items generalizing before state value with
  | nil => exact ⟨value, before, turns_pure value, held⟩
  | cons item rest ih =>
      obtain ⟨result, middle, turns, stillHeld⟩ :=
        steps item List.mem_cons_self state before value held
      obtain ⟨final, after, further, heldAfter⟩ :=
        ih (fun other member => steps other (List.mem_cons_of_mem _ member)) stillHeld result
      exact ⟨final, after, turns.bind further, heldAfter⟩

theorem turns_forM {step : Item → Command Unit}
    (steps : ∀ item ∈ items, ∀ state database, holds database state →
      ∃ after, (step item).Turns database () after ∧ holds after (next state item))
    (held : holds before state) :
    ∃ after, (items.forM step).Turns before () after ∧ holds after (items.foldl next state) := by
  induction items generalizing before state with
  | nil => exact ⟨before, turns_pure (), held⟩
  | cons item rest ih =>
      obtain ⟨middle, turns, stillHeld⟩ := steps item List.mem_cons_self state before held
      obtain ⟨after, further, heldAfter⟩ :=
        ih (fun other member => steps other (List.mem_cons_of_mem _ member)) stillHeld
      exact ⟨after, turns.bind further, heldAfter⟩

end

/-! ## Reading -/

theorem turns_touch (part : Part) : (touch part).Turns before () before := by
  refine turns_get_bind fun connection sound isBefore => ?_
  rw [if_neg (by simp [sound.readable])]
  exact isBefore ▸ turns_set sound

theorem turns_touchAll (parts : List Part) : (touchAll parts).Turns before () before := by
  refine Turns.bind (turns_modify (fun _ => rfl) fun _ isBefore => isBefore) ?_
  obtain ⟨_, turns, rfl⟩ := @turns_forM _ before Unit (Part.heading :: parts) (fun _ _ => ())
    (fun database _ => before = database) () touch
    (fun part _ _ database same => ⟨database, turns_touch part, same⟩) rfl
  exact turns

/-- **A question is answered** and changes nothing. -/
theorem turns_query {parts : Database → List Part}
    {question : Database → Except StorageError Value} {value : Value}
    (answers : question before = .ok value) : (query parts question).Turns before value before := by
  refine turns_get_bind fun connection sound isBefore => ?_
  refine (turns_touchAll _).bind fun other otherSound isOther => ⟨other, ?_, otherSound, isOther⟩
  rw [isBefore, answers]
  rfl

/-! ## Writing -/

theorem turns_allowChange : allowChange.Turns before () before := by
  refine turns_get_bind fun connection sound _ => ?_
  rw [if_neg (by simp [sound.writable])]
  exact turns_pure ()

theorem turns_queryToChange {parts : Database → List Part}
    {question : Database → Except StorageError Value} {value : Value}
    (answers : question before = .ok value) :
    (queryToChange parts question).Turns before value before :=
  turns_allowChange.bind (turns_query answers)

theorem turns_write (parts : List Part) : (write parts).Turns before () before := by
  refine (turns_touchAll parts).bind (turns_get_bind fun connection sound isBefore => ?_)
  rw [if_neg (by simp [sound.journal])]
  exact isBefore ▸ turns_set sound

/-- **A change is made.** -/
theorem turns_change (parts : List Part) (update : Database → Database) :
    (change parts update).Turns before () (update before) := by
  refine turns_allowChange.bind (turns_get_bind fun connection sound isBefore => ?_)
  refine (turns_write _).bind (turns_modify (fun _ => rfl) fun _ same => ?_)
  rw [same]

theorem turns_begin : begin.Turns before () before := by
  refine turns_get_bind fun connection sound _ => ?_
  rw [if_neg (by simp [sound.transactions])]
  exact turns_write _

theorem runOn_atomically {command : Command Value} {value : Value}
    (done : command.runOn connection = (.ok value, later)) :
    (atomically command).runOn connection = (.ok value, later) := by
  rw [atomically, runOn, ExceptT.run_mk, StateT.run, done]

/-- **A transaction that succeeds is the command itself.** -/
theorem Turns.transaction {command : Command Value} {value : Value}
    (turns : command.Turns before value after) :
    (transaction command).Turns before value after := by
  intro connection sound isBefore
  have both : (begin >>= fun _ => command).Turns before value after := turns_begin.bind turns
  obtain ⟨later, done, laterSound, isAfter⟩ := both connection sound isBefore
  exact ⟨later, runOn_atomically done, laterSound, isAfter⟩

/-- On the four tables the command for these is run. -/
theorem Turns.either {own related : Command Value} {value : Value}
    (turns : own.Turns before value after) (plain : before.relations = none) :
    (either own related).Turns before value after := by
  refine turns_get_bind fun connection _ isBefore => ?_
  rw [isBefore, plain]
  exact turns

/-- An insertion into a table that takes rows can be prepared. -/
theorem turns_prepare {table : TableName} (takes : before.takesRows table = true) :
    (prepare table).Turns before () before := by
  refine turns_get_bind fun connection sound isBefore => ?_
  rw [if_pos (by simp [isBefore, takes])]
  exact isBefore ▸ turns_set sound

/-! ## Answers -/

/-- A command that succeeds on every connection answers on each. -/
theorem Turns.answer {command : Command Value} {value : Value}
    (turns : command.Turns before value after) (sound : connection.footing.Sound)
    (isBefore : connection.database = before) : command.answer connection = .ok value := by
  obtain ⟨_, done, _⟩ := turns connection sound isBefore
  exact congrArg Prod.fst done

/-- The answer of one command after another is that of the second on the
connection that the first leaves. -/
theorem answer_bind_eq_ok {first : Command First} {next : First → Command Value} {result : Value} :
    (first >>= next).answer connection = .ok result ↔
      ∃ value later, first.runOn connection = (.ok value, later) ∧
        (next value).answer later = .ok result := by
  simp only [answer, runOn, ExceptT.run_bind, StateT.run_bind]
  rcases StateT.run (ExceptT.run first) connection with ⟨failure | value, later⟩
  · constructor
    · intro failed
      cases failed
    · rintro ⟨_, _, same, _⟩
      cases same
  · constructor
    · exact fun second => ⟨value, later, rfl, second⟩
    · rintro ⟨_, _, same, second⟩
      cases same
      exact second

/-- The answer of one command after another, when the second one answers alike on
every connection. -/
theorem answer_bind {first : Command First} {next : First → Command Value} {value : First}
    {result : Value} (answered : first.answer connection = .ok value)
    (further : ∀ later, (next value).answer later = .ok result) :
    (first >>= next).answer connection = .ok result :=
  answer_bind_eq_ok.mpr
    ⟨value, (first.runOn connection).2, Prod.ext answered rfl, further _⟩

theorem answer_query {parts : Database → List Part}
    {question : Database → Except StorageError Value} {result : Value}
    (answered : (query parts question).answer connection = .ok result) :
    question connection.database = .ok result := by
  obtain ⟨before, _, isBefore, rest⟩ := answer_bind_eq_ok.mp answered
  obtain ⟨_, later, _, last⟩ := answer_bind_eq_ok.mp rest
  obtain rfl := Except.ok.inj (Prod.mk.inj isBefore).1
  exact last

theorem answer_either {own related : Command Value} (plain : connection.database.relations = none) :
    (either own related).answer connection = own.answer connection := by
  change answer (if connection.database.relations.isSome then related else own) connection = _
  rw [plain]
  rfl

end Command

end SchemaPlan
