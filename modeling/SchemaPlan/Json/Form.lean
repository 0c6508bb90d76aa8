import SchemaPlan.Catalog
import SchemaPlan.Edge.Basic
import SchemaPlan.Json.Basic
import SchemaPlan.Reference.Kind

/-!
# JSON forms

A type with a JSON form can be written as a JSON value and read back.  A record is written as an
object with its fields in order.  It may also be read from an array of its fields in order; as an
object it may hold further members, but no field twice.  A name from a fixed choice is a string,
and may also be read from an object that gives null under that name.
-/

set_option autoImplicit false

namespace SchemaPlan

/-- How values of a type are written as JSON and read back.  What is read is kept as it is, with
no name brought into stored form. -/
class JsonForm (Value : Type) where
  toJson : Value → Json
  ofJson? : Json → Option Value

namespace JsonForm

variable {Value : Type}

/-! ## Simple values -/

instance : JsonForm String where
  toJson := .string
  ofJson? := Json.string?

/-- Natural numbers up to a bound. -/
@[reducible] def bounded (bound : Nat) : JsonForm Nat where
  toJson := Json.natural
  ofJson? := Json.natural? bound

/-- Natural numbers of 64 bits. -/
instance : JsonForm Nat := bounded Json.maxUnsigned

/-- The greatest natural number of 32 bits. -/
def maxUnsigned32 : Nat := 4294967295

/-- A natural number of 32 bits. -/
def natural32? (value : Json) : Option Nat := value.natural? maxUnsigned32

instance [JsonForm Value] : JsonForm (Option Value) where
  toJson
    | some value => toJson value
    | none => .null
  ofJson?
    | .null => some none
    | value => (ofJson? value).map some

instance [JsonForm Value] : JsonForm (List Value) where
  toJson values := .array (values.map toJson)
  ofJson? value := value.array?.bind (·.mapM ofJson?)

instance [Ord Value] [Std.TransOrd Value] [JsonForm Value] : JsonForm (OrderedSet Value) where
  toJson set := .array (set.toList.map toJson)
  ofJson? value := (ofJson? value : Option (List Value)).map OrderedSet.ofList

/-! ## Names from a fixed choice -/

/-- The name that a value gives. -/
def chosenName? : Json → Option String
  | .string name => some name
  | .object [(name, .null)] => some name
  | _ => none

/-- A type whose values are names from a fixed choice. -/
@[reducible] def choice (name : Value → String) (ofName? : String → Option Value) :
    JsonForm Value where
  toJson value := .string (name value)
  ofJson? value := (chosenName? value).bind ofName?

instance : JsonForm ObjectType := choice ObjectType.name ObjectType.ofName?

instance : JsonForm EdgeStatus := choice EdgeStatus.name EdgeStatus.ofName?

instance : JsonForm ReferenceKind := choice ReferenceKind.name ReferenceKind.ofName?

/-! ## Records -/

/-- The values of named fields, read from an object, each at most once. -/
def namedFields? (names : List String) (entries : List (String × Json)) :
    Option (List (Option Json)) :=
  if names.any fun name => decide (1 < (entries.filter fun entry => entry.1 == name).length) then
    none
  else some (names.map fun name => (entries.find? fun entry => entry.1 == name).map (·.2))

/-- The values of the fields of a record, in order.  An array gives every field. -/
def fields? (names : List String) : Json → Option (List (Option Json))
  | .object entries => namedFields? names entries
  | .array items => if items.length = names.length then some (items.map some) else none
  | _ => none

/-- The values of the fields of a record whose fields all have defaults.  An array may end
early. -/
def defaultedFields? (names : List String) : Json → Option (List (Option Json))
  | .object entries => namedFields? names entries
  | .array items =>
    if items.length ≤ names.length then
      some (items.map some ++ List.replicate (names.length - items.length) none)
    else none
  | _ => none

/-- A field that has to be given. -/
def required? [JsonForm Value] (field : Option Json) : Option Value := field.bind ofJson?

/-- A field that is null unless it is given. -/
def nullable? [JsonForm Value] (field : Option Json) : Option (Option Value) :=
  ofJson? (field.getD .null)

/-- A field that has a default. -/
def defaulted? [JsonForm Value] (default : Value) : Option Json → Option Value
  | some value => ofJson? value
  | none => some default

instance : JsonForm ObjectKey where
  toJson key :=
    .object [("object_type", toJson key.objectType), ("package", .string key.package),
      ("name", .string key.name)]
  ofJson? value := do
    match ← fields? ["object_type", "package", "name"] value with
    | [objectType, package, name] =>
      return ⟨← required? objectType, ← required? package, ← required? name⟩
    | _ => none

instance : JsonForm ObjectRef where
  toJson reference :=
    .object [("owner", toJson reference.owner), ("key", toJson reference.key)]
  ofJson? value := do
    match ← fields? ["owner", "key"] value with
    | [owner, key] => return ⟨← nullable? owner, ← required? key⟩
    | _ => none

instance : JsonForm CatalogRow where
  toJson row := .object [("owner", .string row.owner), ("key", toJson row.key)]
  ofJson? value := do
    match ← fields? ["owner", "key"] value with
    | [owner, key] => return ⟨← required? owner, ← required? key⟩
    | _ => none

instance : JsonForm Edge where
  toJson edge :=
    .object [("status", toJson edge.status), ("object", toJson edge.object),
      ("dependency", toJson edge.dependency)]
  ofJson? value := do
    match ← fields? ["status", "object", "dependency"] value with
    | [status, object, dependency] =>
      return ⟨← required? status, ← required? object, ← nullable? dependency⟩
    | _ => none

/-! ## Groups of references -/

/-- Puts a group at its place among groups in ascending order of kind.  A later group of a kind
replaces an earlier one. -/
def placeGroup (group : KindNames) : List KindNames → List KindNames
  | [] => [group]
  | first :: rest =>
    match compare group.kind first.kind with
    | .lt => group :: first :: rest
    | .eq => group :: rest
    | .gt => first :: placeGroup group rest

/-- The group that a member of an object gives. -/
def group? (entry : String × Json) : Option KindNames := do
  return ⟨← ReferenceKind.ofName? entry.1, ← ofJson? entry.2⟩

instance : JsonForm References where
  toJson references :=
    .object [("by_kind", .object (references.byKind.map fun group =>
      (group.kind.name, toJson group.names)))]
  ofJson? value := do
    match ← fields? ["by_kind"] value with
    | [some (.object entries)] =>
      return ⟨(← entries.mapM group?).foldl (fun groups group => placeGroup group groups) []⟩
    | _ => none

end JsonForm

end SchemaPlan
