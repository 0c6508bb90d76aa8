import SchemaPlan.Relational.Function.Calendar
import SchemaPlan.Relational.Function.Document
import SchemaPlan.Relational.Function.Format
import SchemaPlan.Relational.Function.Number
import SchemaPlan.Relational.Function.Pattern
import SchemaPlan.Relational.Function.Text

/-!
# Functions of values

The functions that take values and return one.  A function is known by its name and the number of
its arguments.
-/

set_option autoImplicit false

namespace SchemaPlan.Relational

/-- What functions of values depend on. -/
structure Habit where
  encoding : Encoding
  /-- The collation that the arguments bring along. -/
  collation : Collation := .binary
deriving DecidableEq, Repr

namespace Builtin

/-- The version of the rules for databases. -/
def version : String := "3.46.0"

/-- The value of a function of texts, if there is one of this name for as many arguments. -/
def ofTexts? (habit : Habit) (function : String) (arguments : List Value) : Option Value :=
  match function, arguments with
  | "LENGTH", [value] => some (Function.length value)
  | "OCTET_LENGTH", [value] => some (Function.byteLength habit.encoding value)
  | "UPPER", [value] => some (Function.changed value (·.map Char.toUpper))
  | "LOWER", [value] => some (Function.changed value (·.map Char.toLower))
  | "TRIM", [value] =>
    some (Function.trimmed (fun set => Function.trimBack set ∘ Function.trimFront set) value none)
  | "TRIM", [value, set] =>
    some (Function.trimmed (fun set => Function.trimBack set ∘ Function.trimFront set) value set)
  | "LTRIM", [value] => some (Function.trimmed Function.trimFront value none)
  | "LTRIM", [value, set] => some (Function.trimmed Function.trimFront value set)
  | "RTRIM", [value] => some (Function.trimmed Function.trimBack value none)
  | "RTRIM", [value, set] => some (Function.trimmed Function.trimBack value set)
  | "SUBSTR", [value, start] | "SUBSTRING", [value, start] =>
    some (Function.substring value start none)
  | "SUBSTR", [value, start, length] | "SUBSTRING", [value, start, length] =>
    some (Function.substring value start length)
  | "INSTR", [value, pattern] => some (Function.place value pattern)
  | "REPLACE", [value, pattern, other] => some (Function.replace value pattern other)
  | "HEX", [value] => some (Function.hex value)
  | "UNHEX", [value] => some (Function.unhex value none)
  | "UNHEX", [value, ignored] => some (Function.unhex value ignored)
  | "QUOTE", [value] => some (Function.quote value)
  | "CHAR", values => some (Function.characters values)
  | "UNICODE", [value] => some (Function.codeOf value)
  | "SOUNDEX", [value] => some (Function.sound value)
  | "CONCAT", first :: rest => some (Function.concat (first :: rest))
  | "CONCAT_WS", separator :: first :: rest =>
    some (Function.concatWith separator (first :: rest))
  | _, _ => none

/-- The value of a function of any values, if there is one of this name for as many arguments. -/
def ofValues? (habit : Habit) (function : String) (arguments : List Value) : Option Value :=
  match function, arguments with
  | "TYPEOF", [value] => some (.text value.kind)
  | "NULLIF", [first, second] =>
    some (if Value.compareBy habit.collation habit.encoding first second == .eq then .null
      else first)
  | "MIN", first :: second :: rest =>
    some (Function.least habit.collation habit.encoding first (second :: rest))
  | "MAX", first :: second :: rest =>
    some (Function.greatest habit.collation habit.encoding first (second :: rest))
  | "LIKELY", [value] | "UNLIKELY", [value] | "LIKELIHOOD", [value, _] => some value
  | "ROUND", [value] => some (Function.round value none)
  | "ROUND", [value, places] => some (Function.round value places)
  | "SIGN", [value] => some (Function.sign value)
  | "SQLITE_VERSION", [] => some (.text version)
  | "RANDOM", [] => some (.integer 0)
  | "SUBTYPE", [_] | "LAST_INSERT_ROWID", [] | "CHANGES", [] | "TOTAL_CHANGES", [] =>
    some (.integer 0)
  | _, _ => none

/-- The value of a function that does not take all values, if there is one of this name for as many
arguments. -/
def ofSome? (function : String) (arguments : List Value) : Option (Except Trouble Value) :=
  match function, arguments with
  | "ABS", [value] => some (Function.absolute value)
  | "PRINTF", values | "FORMAT", values => some (Format.value values)
  | "LIKE", [pattern, text] => some (Pattern.value pattern text (Pattern.likes none))
  | "LIKE", [pattern, text, escape] => some (Pattern.escapedValue pattern text escape)
  | "GLOB", [pattern, text] => some (Pattern.value pattern text Pattern.globs)
  | "MATCH", [_, _] => some (.error (.unfit function))
  | "ZEROBLOB", [count] | "RANDOMBLOB", [count] => some (Function.zeros count)
  | _, _ => none

/-- The value of a function, if there is one of this name for as many arguments. -/
def invoke? (habit : Habit) (function : String) (arguments : List Value) :
    Option (Except Trouble Value) :=
  (((ofTexts? habit function arguments).or (ofValues? habit function arguments)).or
    (Function.Calendar.invoke? function arguments)).map .ok |>.or (ofSome? function arguments)

end Builtin

end SchemaPlan.Relational
