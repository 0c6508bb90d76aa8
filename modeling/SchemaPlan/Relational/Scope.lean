import SchemaPlan.Relational.Expression
import SchemaPlan.Relational.Meaning

/-!
# Names in scope

On every level a query has sources with columns, whose values stand one after the other in a row.  A
name is looked for on the innermost level first.  Where sources are joined by columns of one name,
the name stands for the joined column.
-/

set_option autoImplicit false

namespace SchemaPlan.Relational

/-- A column of a table or a result. -/
structure Head where
  name : String
  affinity : Option Affinity := none
  collation : Collation := .binary
  /-- Whether the column is only found by its name. -/
  isHidden : Bool := false
  /-- How far behind the value there is another one that tells whether it is a document. -/
  mark : Option Nat := none
deriving DecidableEq, Repr

/-- The names of the number of a row. -/
def numberNames : List String := ["ROWID", "OID", "_ROWID_"]

/-- Whether a name stands for the number of a row where no column has it. -/
def isNumberName (name : String) : Bool := numberNames.any (Text.sameIgnoringCase name)

/-- A source of rows on a level. -/
structure Seat where
  /-- The database of a table. -/
  database : Option String := none
  name : String
  heads : List Head
  /-- The place of the first column in the row. -/
  start : Nat := 0
  /-- Whether the number of the row comes after the columns. -/
  isNumbered : Bool := false
  /-- Whether columns are only found with the name of the source. -/
  isStrict : Bool := false
  /-- The names of the columns that are joined to those of sources before. -/
  joined : List String := []
  join : JoinKind := {}
deriving DecidableEq, Repr

namespace Seat

/-- The number of values that a source has in a row. -/
def width (seat : Seat) : Nat := seat.heads.length + if seat.isNumbered then 1 else 0

/-- The place after the last value of a source. -/
def stop (seat : Seat) : Nat := seat.start + seat.width

/-- The place and the column with a name. -/
def find? (seat : Seat) (name : String) : Option (Nat × Head) :=
  (seat.heads.findIdx? fun head => Text.sameIgnoringCase head.name name).bind fun place =>
    seat.heads[place]?.map (seat.start + place, ·)

/-- Whether a column is joined to one of the sources before. -/
def joins (seat : Seat) (name : String) : Bool := seat.joined.any (Text.sameIgnoringCase name)

/-- Whether a source has a name that is written before a column. -/
def isNamed (seat : Seat) : List String → Bool
  | [] => !seat.isStrict
  | [table] => Text.sameIgnoringCase seat.name table
  | [database, table] =>
    Text.sameIgnoringCase seat.name table &&
      seat.database.any (Text.sameIgnoringCase database)
  | _ => false

/-- The place of the number of a row. -/
def number (seat : Seat) : Nat × Head :=
  (seat.start + seat.heads.length, { name := "rowid", affinity := some .integer })

end Seat

/-! ## Levels -/

/-- A function of all rows of a group. -/
structure Total where
  value : List Stand → Except Trouble Value
  /-- The place of the row from which the function takes its value, if it takes one. -/
  best? : Option (List Stand → Except Trouble (Option Nat)) := none
  /-- Whether the order of the rows makes no difference. -/
  isOrderFree : Bool := false

/-- A function of the rows of a window. -/
structure Outlook where
  /-- The values for some rows. -/
  values : List Stand → Except Trouble (List Value)
  /-- The order in which the window puts the rows. -/
  arrange : List Stand → Except Trouble (List Nat)
  /-- For each key of the window whether it is in descending order. -/
  descents : List Bool

/-- A level of names. -/
structure Level where
  seats : List Seat := []
  /-- The values that the query returns by their names, where they can be asked for. -/
  aliases : List (String × Expression) := []
  /-- The windows of the query by their names. -/
  named : List (String × Window) := []
  /-- The query that the current row of the level comes from, if it takes rows from itself. -/
  origin : Option (String × List Head) := none
  /-- The row of the level, if it is known beforehand. -/
  row? : Option (Array Cell) := none
  totals : Array Total := #[]
  outlooks : Array Outlook := #[]
  /-- Whether functions of all rows can stand here. -/
  allowsTotals : Bool := false
  /-- Whether functions of windows can stand here. -/
  allowsOutlooks : Bool := false
  /-- Whether an expression has looked at this level. -/
  isUsed : Bool := false

/-- Something that is understood from the names in scope. -/
abbrev Scoped (Item : Type) : Type := StateT (List Level) (Except Trouble) Item

/-! ## Columns -/

/-- What a name has been found to stand for among the sources so far. -/
structure Finding where
  count : Nat := 0
  place? : Option (Nat × Head) := none
  /-- The columns that are joined with the one found, of which a row may lack one. -/
  others : List (Nat × Head) := []
  /-- Whether there are columns of the name that are not joined. -/
  isSplit : Bool := false
  numbers : List (Nat × Head) := []

namespace Finding

/-- What a name stands for when a further source is looked at. -/
def extend (path : List String) (name : String) (found : Finding) (seat : Seat) : Finding :=
  if !seat.isNamed path then found
  else
    match seat.find? name with
    | some place =>
      if found.count = 0 then { found with count := 1, place? := some place }
      else if !seat.joins name then
        { found with count := found.count + 1, place? := some place, others := [], isSplit := true }
      else if !seat.join.keepsRight then found
      else if !seat.join.keepsLeft then
        { found with count := 1, place? := some place, others := [], isSplit := false }
      else
        { found with
          count := found.count + 1
          others := found.others ++ found.place?.toList
          place? := some place }
    | none =>
      if found.count = 0 && seat.isNumbered then
        { found with numbers := found.numbers ++ [seat.number] }
      else found

/-- What a name stands for among some sources: the columns of which the first one that is not
missing gives the value. -/
def columns (path : List String) (name : String) (seats : List Seat) :
    Except Trouble (List (Nat × Head)) :=
  let found := seats.foldl (extend path name) {}
  if found.count = 0 then
    if isNumberName name then
      match found.numbers with
      | [] => .ok []
      | [number] => .ok [number]
      | _ => .error (.ambiguousColumn name)
    else .ok []
  else if found.count = 1 || (!found.isSplit && found.others.length + 1 = found.count) then
    .ok (found.others ++ found.place?.toList)
  else .error (.ambiguousColumn name)

end Finding

namespace Scoped

/-- The meaning of a column on a level. -/
def ofColumn (level place : Nat) (head : Head) : Meaning where
  value := fun stand => cellAt (stand.on level).row place
  isDocument := fun stand =>
    match head.mark with
    | some distance => do return (← cellAt (stand.on level).row (place + distance)).isTrue
    | none => .ok false
  affinity := head.affinity
  collation := some head.collation
  kinds := .ofAffinity head.affinity
  levels := [level]

/-- The meaning of the columns on a level of which the first one that is not missing gives the
value. -/
def ofColumns (level : Nat) : List (Nat × Head) → Meaning
  | [] => .constant .null
  | [(place, head)] => ofColumn level place head
  | columns =>
    { value := fun stand => do
        let values ← columns.mapM fun (place, _) => cellAt (stand.on level).row place
        return (values.find? (· != .null)).getD .null
      kinds := .any
      levels := [level] }

/-- The meaning of columns on a level, which is that of constants if the row of the level is known
beforehand. -/
def ofColumnsOn (level : Level) (place : Nat) (columns : List (Nat × Head)) : Meaning :=
  match level.row? with
  | none => ofColumns place columns
  | some row =>
    let meaning := ofColumns 0 columns
    { meaning with value := fun _ => meaning.value [{ row }], levels := [] }

/-- A meaning that stands a number of levels further out, seen from the innermost one. -/
def inward (count : Nat) (meaning : Meaning) : Meaning :=
  if count = 0 then meaning
  else
    { meaning with
      value := fun stand => meaning.value (stand.drop count)
      isDocument := fun stand => meaning.isDocument (stand.drop count)
      levels := meaning.levels.map (· + count)
      test? := meaning.test?.map fun test missing stand => test missing (stand.drop count) }

/-- Understands something as if it stood a number of levels further out. -/
def outward {Item : Type} (count : Nat) (item : Scoped Item) : Scoped Item := do
  let levels ← get
  let (result, after) ← item.run (levels.drop count)
  set (levels.take count ++ after)
  return result

/-- Understands something that does not see the innermost level. -/
def outside {Item : Type} (item : Scoped Item) : Scoped Item := outward 1 item

/-- Understands something without adding to the levels. -/
def trial {Item : Type} (item : Scoped Item) : Scoped Item := do
  let (result, _) ← item.run (← get)
  return result

/-- Notes that an expression looks at a level. -/
def look (level : Nat) : Scoped Unit :=
  modify fun levels => levels.modify level fun level => { level with isUsed := true }

/-- The innermost level. -/
def innermost : Scoped Level := do return (← get).headD {}

/-- Changes the innermost level. -/
def modifyInnermost (change : Level → Level) : Scoped Unit :=
  modify fun levels => levels.modify 0 change

/-- Understands something with a change of the innermost level, which is taken back afterwards as
far as it has not been added to. -/
def withAllowed {Item : Type} (totals outlooks : Bool) (item : Scoped Item) : Scoped Item := do
  let before ← innermost
  modifyInnermost fun level => { level with allowsTotals := totals, allowsOutlooks := outlooks }
  let result ← item
  modifyInnermost fun level => { level with
    allowsTotals := before.allowsTotals
    allowsOutlooks := before.allowsOutlooks }
  return result

/-- Understands something where only some sources are on the innermost level. -/
def withSeats {Item : Type} (seats : List Seat) (item : Scoped Item) : Scoped Item := do
  let before := (← innermost).seats
  modifyInnermost fun level => { level with seats }
  let result ← item
  modifyInnermost fun level => { level with seats := before }
  return result

/-- Understands something on a further level, which is returned with it. -/
def within {Item : Type} (level : Level) (item : Scoped Item) : Scoped (Item × Level) := do
  modify fun levels => level :: levels
  let result ← item
  let after ← innermost
  modify (·.drop 1)
  return (result, after)

/-- Understands something and returns it with the levels that it looks at. -/
def tracked {Item : Type} (item : Scoped Item) : Scoped (Item × List Nat) := do
  let before := (← get).map (·.isUsed)
  modify fun levels => levels.map fun level => { level with isUsed := false }
  let result ← item
  let found := (← get).map (·.isUsed)
  modify fun levels => levels.mapIdx fun place level =>
    { level with isUsed := level.isUsed || before.getD place false }
  return (result, (List.range found.length).filter fun place => found.getD place false)

end Scoped

end SchemaPlan.Relational
