import SchemaPlan.Text.Basic

/-!
# Addresses of databases

A database is opened under an address.  An address that begins with `file:` is a reference: it has
a path and parameters, in which a percent sign with two digits stands for a byte, and a fragment
after a number sign, which is ignored.  Any other address is a path.
-/

set_option autoImplicit false

namespace SchemaPlan

/-- What the file of a database is opened for. -/
inductive Access where
  /-- An existing file is only read. -/
  | read
  /-- An existing file is read and written. -/
  | write
  /-- A file is read and written, and created where there is none. -/
  | create
  /-- No file is used. -/
  | memory
deriving DecidableEq, Repr

namespace Access

/-- The access with a given name. -/
def ofName? : String → Option Access
  | "ro" => some read
  | "rw" => some write
  | "rwc" => some create
  | "memory" => some memory
  | _ => none

/-- Whether a reference may ask for an access when it has another one so far.  Nothing may be
added to an access to files, except by using none. -/
def allows : Access → Access → Bool
  | memory, _ | _, memory | create, _ | _, read => true
  | write, write => true
  | write, create | read, write | read, create => false

end Access

/-- Where the parts of a database are kept. -/
inductive Medium where
  /-- In a file, a log beside it and an index of the log. -/
  | shared
  /-- In a file and a log beside it. -/
  | exclusive
  /-- In a file alone. -/
  | unlogged
  /-- In a file alone, beside which a directory stands while it is used. -/
  | guarded
  /-- In no file. -/
  | memory
deriving DecidableEq, Repr

/-- The medium with a given name. -/
def Medium.ofName? : String → Option Medium
  | "unix" => some shared
  | "unix-excl" => some exclusive
  | "unix-none" => some unlogged
  | "unix-dotfile" => some guarded
  | "memdb" => some memory
  | _ => none

/-- Why an address cannot be used. -/
inductive AddressError where
  | unknownHost (host : String)
  | unknownValue (parameter value : String)
  | refusedAccess (name : String)
  | unknownMedium (name : String)
deriving DecidableEq, Repr

/-- What is wrong with an address. -/
def AddressError.message : AddressError → String
  | unknownHost host => "invalid uri authority: " ++ host
  | unknownValue parameter value => "no such " ++ parameter ++ " mode: " ++ value
  | refusedAccess name => "access mode not allowed: " ++ name
  | unknownMedium name => "no such vfs: " ++ name

/-- An address of a database. -/
structure Address where
  path : String
  access : Access := .create
  medium : Medium := .shared
  parameters : List (String × String) := []
deriving DecidableEq, Repr

namespace Address

/-! ## References -/

/-- The value of a digit of base sixteen. -/
def hexValue? (digit : Char) : Option Nat :=
  if digit.isDigit then some (digit.toNat - '0'.toNat)
  else if decide ('a' ≤ digit.toLower) && decide (digit.toLower ≤ 'f') then
    some (digit.toLower.toNat - 'a'.toNat + 10)
  else none

/-- The byte that two digits stand for. -/
def byte? (high low : Char) : Option UInt8 := do
  return ((← hexValue? high) * 16 + (← hexValue? low)).toUInt8

/-- The bytes of a part of a reference.  The part ends before a byte of value zero. -/
def decodedBytes : List Char → List UInt8
  | [] => []
  | '%' :: high :: low :: rest =>
    match byte? high low with
    | some 0 => []
    | some byte => byte :: decodedBytes rest
    | none => '%'.toUInt8 :: decodedBytes (high :: low :: rest)
  | character :: rest => String.utf8EncodeChar character ++ decodedBytes rest

/-- The character that is kept for a byte of a part that is no text in UTF-8. -/
def strayCharacter (byte : UInt8) : Char :=
  if byte.toNat < 0x80 then Char.ofNat byte.toNat else Char.ofNat (0xf700 + byte.toNat)

/-- The text of a part of a reference. -/
def decoded (characters : List Char) : String :=
  let bytes := decodedBytes characters
  (String.fromUTF8? ⟨bytes.toArray⟩).getD (String.ofList (bytes.map strayCharacter))

/-- The name and the value of a parameter; a parameter without a name is ignored. -/
def parameter? (characters : List Char) : Option (String × String) :=
  let name := decoded (characters.takeWhile (· != '='))
  if name.isEmpty then none
  else some (name, decoded ((characters.dropWhile (· != '=')).drop 1))

/-- The path of a reference with what follows it.  Two slashes may begin a reference with a host,
which can only be this one. -/
def withoutHost : List Char → Except AddressError (List Char)
  | '/' :: '/' :: rest =>
    let host := String.ofList (rest.takeWhile (· != '/'))
    if host = "" ∨ host = "localhost" then .ok (rest.dropWhile (· != '/'))
    else .error (.unknownHost host)
  | characters => .ok characters

/-! ## Parameters -/

/-- The value of a parameter; of several with one name the first counts. -/
def parameter (address : Address) (name : String) : Option String :=
  address.parameters.lookup name

/-- Whether a value turns a parameter on: a word for it or a number that is not zero, of which
eight binary digits count. -/
def isOn (value : String) : Bool :=
  let digits := value.toList.takeWhile Char.isDigit
  if digits.isEmpty then ["on", "yes", "true"].any (Text.sameIgnoringCase value)
  else
    let number := digits.foldl (fun number digit => number * 10 + (digit.toNat - '0'.toNat)) 0
    decide (number < 2147483648) && number % 256 != 0

/-- Whether a parameter is turned on. -/
def isSet (address : Address) (name : String) : Bool := (address.parameter name).any isOn

/-- The address as a parameter changes it. -/
def apply (address : Address) : String × String → Except AddressError Address
  | ("mode", value) =>
    match Access.ofName? value with
    | none => .error (.unknownValue "access" value)
    | some access =>
      if address.access.allows access then .ok { address with access }
      else .error (.refusedAccess value)
  | ("cache", value) =>
    if value = "shared" ∨ value = "private" then .ok address
    else .error (.unknownValue "cache" value)
  | _ => .ok address

/-- The medium that the last parameter for it names. -/
def mediumOf (parameters : List (String × String)) : Except AddressError Medium :=
  match parameters.reverse.lookup "vfs" with
  | none => .ok .shared
  | some name =>
    match Medium.ofName? name with
    | some medium => .ok medium
    | none => .error (.unknownMedium name)

/-- The address that a reference stands for, without the word that it begins with. -/
def ofReference (reference : List Char) : Except AddressError Address := do
  let characters := (← withoutHost reference).takeWhile (· != '#')
  let query := (characters.dropWhile (· != '?')).drop 1
  let parameters := (Text.splitWhere (· == '&') query).filterMap parameter?
  let address : Address := { path := decoded (characters.takeWhile (· != '?')), parameters }
  let address ← parameters.foldlM apply address
  return { address with medium := ← mediumOf parameters }

/-- The word that a reference begins with. -/
def scheme : String := "file:"

/-- The address that a text stands for. -/
def parse (text : String) : Except AddressError Address :=
  if scheme.toList.isPrefixOf text.toList then
    ofReference (text.toList.drop scheme.length)
  else .ok { path := text }

/-! ## What an address asks for -/

/-- Whether no file is named. -/
def namesNoFile (address : Address) : Bool :=
  address.path == "" || address.path == ":memory:" || address.access == .memory

/-- Whether the database is kept in no file. -/
def isTransient (address : Address) : Bool := address.namesNoFile || address.medium == .memory

/-- Whether the file is taken to be changed by nobody. -/
def isFrozen (address : Address) : Bool := address.isSet "immutable"

/-- Whether others are locked out while the file is used. -/
def locks (address : Address) : Bool :=
  address.medium != .unlogged && !address.isSet "nolock"

/-- Whether a directory stands beside the file while it is used. -/
def isGuarded (address : Address) : Bool := address.medium == .guarded && address.locks

/-- Whether changes can be kept in a log. -/
def canLog (address : Address) : Bool :=
  address.locks && (address.medium == .shared || address.medium == .exclusive)

/-- Whether the database, if it is kept in no file, is only read. -/
def isReadOnlyTransient (address : Address) : Bool :=
  address.access == .read || (!address.namesNoFile && address.isFrozen)

end Address

end SchemaPlan
