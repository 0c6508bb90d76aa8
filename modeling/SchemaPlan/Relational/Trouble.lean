/-!
# Troubles

Why a statement has no answer, and what becomes of the changes that it has made by then.
-/

set_option autoImplicit false

namespace SchemaPlan.Relational

/-- What becomes of a change that breaks a rule. -/
inductive Resolution where
  | abort
  | fail
  | rollback
  | ignore
  | replace
deriving DecidableEq, Repr

/-- Why a statement has no answer. -/
inductive Trouble where
  | unknownTable (name : String)
  | unknownColumn (name : String)
  | ambiguousColumn (name : String)
  | unknownFunction (name : String)
  | unknownCollation (name : String)
  /-- Something that is none of the statements of this library. -/
  | unreadable (text : String)
  /-- Something that stands where it makes no sense. -/
  | misplaced (name : String)
  /-- An argument that a function does not take. -/
  | unfit (function : String)
  /-- A result that is too great. -/
  | tooGreat
  /-- Definitions that lead back to themselves. -/
  | circular (name : String)
  /-- A table or an index that is there already. -/
  | taken (name : String)
  /-- A table that cannot be changed in this way. -/
  | fixed (name : String)
  | wrongWidth (name : String)
  | mismatch
  /-- Rows that nobody has asked for, when all changes have been made. -/
  | returned
  | broken (resolution : Resolution) (message : String)
deriving DecidableEq, Repr

namespace Trouble

/-- The text of a trouble. -/
def message : Trouble → String
  | unknownTable name => "no such table: " ++ name
  | unknownColumn name => "no such column: " ++ name
  | ambiguousColumn name => "ambiguous column name: " ++ name
  | unknownFunction name => "no such function: " ++ name
  | unknownCollation name => "no such collation sequence: " ++ name
  | unreadable text => "not understood: " ++ text
  | misplaced name => "misuse of " ++ name
  | unfit function => "wrong arguments of " ++ function
  | tooGreat => "a result is too great"
  | circular name => "circularly defined: " ++ name
  | taken name => "there is already a table or an index named " ++ name
  | fixed name => "cannot modify " ++ name
  | wrongWidth name => "wrong number of values for " ++ name
  | mismatch => "datatype mismatch"
  | returned => "the statement returns rows"
  | broken _ message => message

/-- Whether what has been done before the trouble remains done. -/
def keepsChanges : Trouble → Bool
  | broken .fail _ | returned => true
  | _ => false

end Trouble

end SchemaPlan.Relational
