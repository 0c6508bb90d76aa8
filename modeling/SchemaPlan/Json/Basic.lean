/-!
# JSON values

A JSON value keeps the members of an object in the order in which they were written, with
repetitions.  Numbers are whole wherever they fit into 64 bits; all other numbers are only known
to be numbers.
-/

set_option autoImplicit false

namespace SchemaPlan

/-- A JSON value. -/
inductive Json where
  | null
  | bool (value : Bool)
  /-- A whole number between the least signed and the greatest unsigned 64-bit number. -/
  | integer (value : Int)
  /-- Any other number. -/
  | fraction
  | string (text : String)
  /-- A string with half of a surrogate pair, which is no text, or an object with such a name. -/
  | unpaired
  | array (items : List Json)
  | object (members : List (String × Json))
deriving Repr

namespace Json

/-- The greatest unsigned 64-bit number. -/
def maxUnsigned : Nat := 18446744073709551615

/-- The least signed 64-bit number. -/
def minSigned : Int := -9223372036854775808

/-- A natural number. -/
def natural (value : Nat) : Json := integer value

/-- A text or null. -/
def optionalString (text : Option String) : Json :=
  match text with
  | some text => string text
  | none => null

/-- An array of texts. -/
def strings (texts : List String) : Json := array (texts.map string)

/-! ## Access -/

/-- The members of an object; any other value has none. -/
def members : Json → List (String × Json)
  | object members => members
  | _ => []

/-- The first member with a name. -/
def member? (value : Json) (name : String) : Option Json :=
  (value.members.find? fun entry => entry.1 == name).map (·.2)

/-- The text of a string. -/
def string? : Json → Option String
  | string text => some text
  | _ => none

/-- The truth value of a boolean. -/
def bool? : Json → Option Bool
  | bool value => some value
  | _ => none

/-- The value of a whole number. -/
def integer? : Json → Option Int
  | integer value => some value
  | _ => none

/-- The value of a whole number that is not negative and not above a bound. -/
def natural? (bound : Nat) : Json → Option Nat
  | integer value => if 0 ≤ value ∧ value ≤ bound then some value.toNat else none
  | _ => none

/-- The items of an array. -/
def array? : Json → Option (List Json)
  | array items => some items
  | _ => none

end Json

end SchemaPlan
