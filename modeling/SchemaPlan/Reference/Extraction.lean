import SchemaPlan.Catalog
import SchemaPlan.Reference.Clause
import SchemaPlan.Reference.Kind
import SchemaPlan.Source.Clean

/-!
# Extraction of references

Source text is searched once per clause shape.  What is found is merged into one collection of
references; keywords, built-in functions and objects delivered by the vendor are left out.  The
segments of dotted names may be packages, which only the catalog can tell.
-/

set_option autoImplicit false

namespace SchemaPlan

/-- Keywords, pseudo-tables and functions that are never objects of a schema. -/
def builtinExclusions : List String :=
  ["DUAL", "SYSDATE", "SYSTIMESTAMP", "USER", "UID", "ROWNUM", "ROWID", "LEVEL", "SQL",
   "SELECT", "TABLE", "THE", "WHERE", "NULL", "COMMIT", "ROLLBACK", "SAVEPOINT", "RETURN",
   "EXIT", "RAISE", "CONTINUE", "END", "BEGIN", "IF", "ELSE", "ELSIF", "LOOP", "THEN", "WHEN",
   "DECLARE", "EXCEPTION", "OPEN", "CLOSE", "FETCH", "GOTO", "PRAGMA", "EXECUTE", "IMMEDIATE",
   "IS", "AS", "CASE", "WHILE", "FOR", "OTHERS", "VALUES", "SET", "INTO", "LATERAL", "CURSOR",
   "NVL", "NVL2", "DECODE", "COALESCE", "NULLIF", "TO_CHAR", "TO_DATE", "TO_NUMBER",
   "TO_TIMESTAMP", "TO_CLOB", "CAST", "SUBSTR", "INSTR", "LENGTH", "UPPER", "LOWER", "INITCAP",
   "TRIM", "LTRIM", "RTRIM", "LPAD", "RPAD", "REPLACE", "TRANSLATE", "CONCAT", "ROUND", "TRUNC",
   "FLOOR", "CEIL", "ABS", "MOD", "POWER", "SQRT", "SIGN", "GREATEST", "LEAST", "COUNT", "SUM",
   "MIN", "MAX", "AVG", "LISTAGG", "ADD_MONTHS", "MONTHS_BETWEEN", "LAST_DAY", "NEXT_DAY",
   "EXTRACT", "REGEXP_LIKE", "REGEXP_SUBSTR", "REGEXP_REPLACE", "REGEXP_INSTR", "SQLERRM",
   "SQLCODE", "RAISE_APPLICATION_ERROR", "SYS_GUID", "USERENV", "SYS_CONTEXT", "EXISTS"]

/-- Schemas and packages delivered by the vendor of the database. -/
def vendorNames : List String := ["SYS", "SYSTEM", "PUBLIC", "STANDARD", "HTP", "HTF"]

/-- How the names of packages delivered by the vendor begin. -/
def vendorOpenings : List String := ["DBMS_", "UTL_", "OWA_", "APEX_"]

/-- What a source text refers to, before the catalog has been asked: the references, and the names
that may be packages. -/
structure Findings where
  references : References
  packageCandidates : OrderedSet String
deriving DecidableEq

/-- A declaration of a routine found in source text. -/
structure Declaration where
  isTopLevel : Bool
  isFunction : Bool
  name : List Char
deriving DecidableEq, Repr

namespace Declaration

/-- The declaration that a match describes.  It is nested unless its line holds nothing else but a
CREATE clause before the keyword. -/
def ofMatch? (found : Match) : Option Declaration := do
  let opening ← found.group? 1
  let keyword ← found.group? 2
  let name ← found.group? 3
  some ⟨Clause.topLevelOpening.occursIn (Text.trimChars opening),
    keyword == "FUNCTION".toList, name⟩

/-- The declarations in a text. -/
def all (text : List Char) : List Declaration :=
  (Clause.declaration.search text).filterMap ofMatch?

end Declaration

/-- Finds references in source text, leaving out excluded names and those of the vendor. -/
structure Extractor where
  exclusions : List String
  vendorOpenings : List String
deriving DecidableEq, Repr

namespace Extractor

/-- The extractor that leaves out built-in names only. -/
def builtin : Extractor := ⟨builtinExclusions, SchemaPlan.vendorOpenings⟩

/-- The extractor that leaves out further names and further openings of names as well. -/
def extended (extraExclusions extraOpenings : List String) : Extractor where
  exclusions := builtinExclusions ++ extraExclusions.map Text.canonical
  vendorOpenings := SchemaPlan.vendorOpenings ++ extraOpenings.map Text.canonical

/-- The segments of a dotted name. -/
def segments (name : List Char) : List (List Char) := Text.splitWhere (· == '.') name

/-- The last segment of a dotted name. -/
def lastSegment (name : List Char) : List Char := (segments name).getLast?.getD name

/-- A name that is never an object. -/
def isExcluded (extractor : Extractor) (name : List Char) : Bool :=
  extractor.exclusions.contains (String.ofList name)

/-- A segment that names something of the vendor. -/
def isVendor (extractor : Extractor) (segment : List Char) : Bool :=
  vendorNames.contains (String.ofList segment) ||
    extractor.vendorOpenings.any fun opening => opening.toList.isPrefixOf segment

/-- A name that counts as a reference. -/
def accepts (extractor : Extractor) (name : List Char) : Bool :=
  !extractor.isExcluded (lastSegment name) && !(segments name).any extractor.isVendor

/-! ## Names by clause -/

/-- The tables of FROM lists.  FROM within the arguments of a call, as in EXTRACT, is no clause. -/
def fromTables (text : List Char) : List (List Char) :=
  (Clause.fromList.locatedCaptures text).flatMap fun (place, list) =>
    if Clause.insideCall place.before then []
    else (Text.splitWhere (· == ',') list).filterMap fun item => (Text.words item).head?

/-- The clauses other than FROM that name a table. -/
def tableClauses : List Pattern :=
  [Clause.join, Clause.insertInto, Clause.updateSet, Clause.deleteFrom, Clause.mergeInto,
   Clause.typeAnchor, Clause.rowtypeAnchor]

/-- The tables that a text names. -/
def tables (text : List Char) : List (List Char) :=
  fromTables text ++ tableClauses.flatMap fun clause => clause.captures text

/-- The statements of a text: the stretches between semicolons and line ends. -/
def statements (text : List Char) : List (List Char) :=
  ((Text.splitWhere (fun character => character == ';' || character == '\n') text).map
    Text.trimChars).filter fun statement => !statement.isEmpty

/-- The routines that a text calls as statements. -/
def statementCalls (text : List Char) : List (List Char) :=
  (statements text).flatMap fun statement => Clause.statementCall.captures statement

/-- The reference that a declaration stands for.  A top-level declaration of an owned routine
declares its bare name. -/
def declared (declaration : Declaration) : ReferenceKind × List Char :=
  if declaration.isTopLevel then
    (if declaration.isFunction then .function else .procedure, lastSegment declaration.name)
  else (.localFunction, declaration.name)

/-- Every name in a text together with the kind that its place suggests. -/
def mentions (text : List Char) : List (ReferenceKind × List Char) :=
  (tables text).map (.table, ·) ++
    (Clause.sequenceValue.captures text).map (.sequence, ·) ++
    (Clause.assignmentCall.captures text).map (.function, ·) ++
    (statementCalls text).map (.procedure, ·) ++
    (Declaration.all text).map declared

/-- The names of nested routines.  Calls of them are no references to objects. -/
def nestedNames (text : List Char) : List String :=
  ((Declaration.all text).filter fun declaration => !declaration.isTopLevel).map
    fun declaration => String.ofList declaration.name

/-- The segments of dotted names that may be packages: all but the last of each name. -/
def packageCandidates (extractor : Extractor) (text : List Char) : OrderedSet String :=
  OrderedSet.ofList
    (((Clause.dottedChain.search text).flatMap fun found => (segments found.text).dropLast).filter
      (fun segment => !extractor.isExcluded segment && !extractor.isVendor segment)
      |>.map String.ofList)

/-- The references without the calls of nested routines. -/
def withoutNested (nested : List String) (references : References) : References :=
  nested.foldl (fun remaining name => (remaining.remove .function name).remove .procedure name)
    references

/-- What a text in capitals refers to. -/
def scanCapitals (extractor : Extractor) (text : List Char) : Findings where
  references :=
    withoutNested (nestedNames text)
      (References.ofList
        (((mentions text).filter fun mention => extractor.accepts mention.2).map
          fun mention => (mention.1, String.ofList mention.2)))
  packageCandidates := extractor.packageCandidates text

/-- What a text refers to, without asking a catalog. -/
def scan (extractor : Extractor) (text : List Char) : Findings :=
  extractor.scanCapitals (text.map Char.toUpper)

/-! ## Confirmation of packages -/

/-- A confirmed package is a package reference, and no longer a table: a variable of a package
anchors a type as a column of a table does. -/
def confirmPackage (references : References) (package : String) : References :=
  (references.remove .table package).insert .package package

/-- The references of a text, with its packages confirmed by one question to the catalog. -/
def extract (extractor : Extractor) (catalog : Catalog) (text : List Char) :
    Except CatalogError References :=
  let findings := extractor.scan text
  if findings.packageCandidates.isEmpty then .ok findings.references
  else do
    let confirmed ← catalog.existingPackages findings.packageCandidates.toList
    return confirmed.toList.foldl confirmPackage findings.references

/-- The references of source lines, which are cleaned first. -/
def extractLines (extractor : Extractor) (catalog : Catalog) (lines : List String) :
    Except CatalogError References :=
  extractor.extract catalog (Source.cleanChars lines)

end Extractor

end SchemaPlan
