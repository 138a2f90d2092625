import HostRoster.Document
import HostRoster.Text.Quoted

/-!
# Records from documents

A record is read from an object, whose members set the fields they name, or from an array, whose
elements set the fields in their order. Unknown members are skipped, and fields that are not given
keep their default. The first member or element that does not fit decides the error.

A `Dialect` holds the two points in which documents from JSON and from TOML are read differently:
how a floating point number is shown in a message, and whether an array may be longer than its
record.
-/

set_option autoImplicit false

namespace HostRoster

/-! ## Causes -/

/-- What a reader expects to find. -/
inductive Expectation where
  /-- A string. -/
  | text
  /-- A string that is a file path. -/
  | path
  /-- An object. -/
  | map
  /-- An unsigned number of 64 bits. -/
  | word
  /-- A signed number of 64 bits. -/
  | number
  /-- A truth value. -/
  | flag
  /-- An array. -/
  | list
  /-- A point of time. -/
  | moment
  /-- A byte string in base64. -/
  | bytes
  /-- This very text. -/
  | exactly (wanted : String)
  /-- The record with this name. -/
  | record (name : String)
  deriving DecidableEq, Repr

/-- Why a document does not have the expected shape. -/
inductive ShapeError where
  /-- Another kind of document. -/
  | wrongKind (found : Document) (expected : Expectation)
  /-- The right kind of document with a value out of range. -/
  | wrongValue (found : Document) (expected : Expectation)
  /-- An array with more elements than its record has fields. -/
  | surplus (length : Nat)
  /-- A field that must be given and is not. -/
  | missing (name : String)
  /-- A field that is given more than once. -/
  | repeated (name : String)
  deriving Repr, BEq

/-- The points in which the readers of two formats differ. -/
structure Dialect where
  /-- How a floating point number is shown. -/
  realStyle : Binary64.DecimalStyle
  /-- Whether the elements of an array beyond the fields of its record are an error. -/
  refusesSurplus : Bool

/-- Documents from JSON. -/
def Dialect.json : Dialect := ⟨.scientific, true⟩

/-- Documents from TOML. -/
def Dialect.toml : Dialect := ⟨.plain, false⟩

/-! ## Wording -/

/-- The wording of an expectation. -/
def Expectation.message : Expectation → String
  | .text => "a string"
  | .path => "path string"
  | .map => "a map"
  | .word => "u64"
  | .number => "i64"
  | .flag => "a boolean"
  | .list => "a sequence"
  | .moment => "an RFC 3339 formatted date and time string"
  | .bytes => "byte string"
  | .exactly wanted => wanted
  | .record name => "struct " ++ name

/-- How a message describes a document. -/
def Dialect.describe (dialect : Dialect) : Document → String
  | .null => "null"
  | .boolean value => "boolean `" ++ (if value then "true" else "false") ++ "`"
  | .integer value => "integer `" ++ toString value ++ "`"
  | .real value => "floating point `" ++ value.text dialect.realStyle ++ "`"
  | .string value => "string " ++ Quoted.quote value
  | .array _ => "sequence"
  | .object _ => "map"

/-- The message of a shape error. -/
def ShapeError.message (dialect : Dialect) : ShapeError → String
  | .wrongKind found expected =>
    "invalid type: " ++ dialect.describe found ++ ", expected " ++ expected.message
  | .wrongValue found expected =>
    "invalid value: " ++ dialect.describe found ++ ", expected " ++ expected.message
  | .surplus length =>
    "invalid length " ++ toString length ++ ", expected fewer elements in array"
  | .missing name => "missing field `" ++ name ++ "`"
  | .repeated name => "duplicate field `" ++ name ++ "`"

/-- Whether a document could still get the expected shape if more members came. -/
def ShapeError.isIncomplete : ShapeError → Bool
  | .missing _ => true
  | _ => false

/-! ## Fields -/

namespace Document

/-- The text of a string. -/
def asText (expected : Expectation) : Document → Except ShapeError String
  | .string value => .ok value
  | other => .error (.wrongKind other expected)

/-- The text of a string, or nothing for null. -/
def asOptionalText (expected : Expectation) : Document → Except ShapeError (Option String)
  | .null => .ok none
  | other => (other.asText expected).map some

/-- A whole number without a sign. That it is a word is left to the readers of documents, which give
no larger number. -/
def asWord : Document → Except ShapeError Nat
  | .integer (.ofNat value) => .ok value
  | .integer (.negSucc value) => .error (.wrongValue (.integer (.negSucc value)) .word)
  | other => .error (.wrongKind other .word)

/-- A whole number of 64 bits with a sign. -/
def asNumber : Document → Except ShapeError Int
  | .integer value =>
    if -0x8000000000000000 ≤ value ∧ value < 0x8000000000000000 then .ok value
    else .error (.wrongValue (.integer value) .number)
  | other => .error (.wrongKind other .number)

/-- A truth value. -/
def asFlag : Document → Except ShapeError Bool
  | .boolean value => .ok value
  | other => .error (.wrongKind other .flag)

/-- What a reader gives, or nothing for null. -/
def asOptional {Value : Type} (read : Document → Except ShapeError Value) :
    Document → Except ShapeError (Option Value)
  | .null => .ok none
  | other => (read other).map some

/-- The elements of an array, each read by a reader. -/
def asList {Value : Type} (read : Document → Except ShapeError Value) :
    Document → Except ShapeError (List Value)
  | .array elements => elements.mapM read
  | other => .error (.wrongKind other .list)

/-- The members of an object of strings. -/
def asTexts : List (String × Document) → Except ShapeError (List (String × String))
  | [] => .ok []
  | (key, value) :: rest => do
    let text ← value.asText .text
    let texts ← asTexts rest
    return (key, text) :: texts

/-- The members of an object of strings, or nothing for null. -/
def asOptionalTexts : Document → Except ShapeError (Option (List (String × String)))
  | .null => .ok none
  | .object members => (asTexts members).map some
  | other => .error (.wrongKind other .map)

/-- What stands under a key of an object, which may be given once. -/
def sole? (document : Document) (key : String) : Except ShapeError (Option Document) :=
  match document.members.filter fun (other, _) => other == key with
  | [] => .ok none
  | [(_, value)] => .ok (some value)
  | _ => .error (.repeated key)

/-- What is given for the keys of a record, by members that are given once or by elements in the
order of the keys. -/
def given (name : String) (keys : List String) :
    Document → Except ShapeError (List (Option Document))
  | .object members => keys.mapM fun key => (Document.object members).sole? key
  | .array elements =>
    if keys.length < elements.length then .error (.surplus elements.length)
    else .ok (elements.map some ++ List.replicate (keys.length - elements.length) none)
  | other => .error (.wrongKind other (.record name))

/-- What must be given under a key. -/
def required {Value : Type} (key : String) : Option Value → Except ShapeError Value
  | some value => .ok value
  | none => .error (.missing key)

end Document

/-! ## Records -/

/-- A field of a record: its name, and how a document sets it. -/
structure Field (Record : Type) where
  /-- The key of the field in an object. -/
  name : String
  /-- The record with this field set from a document. -/
  set : Document → Record → Except ShapeError Record

/-- The field of a name. -/
def Field.find? {Record : Type} (fields : List (Field Record)) (name : String) :
    Option (Field Record) :=
  fields.find? fun field => field.name == name

/-- Sets the fields that members name, one member after the other. -/
def setMembers {Record : Type} (fields : List (Field Record)) :
    List (String × Document) → Record → Except ShapeError Record
  | [], record => .ok record
  | (key, value) :: rest, record =>
    match Field.find? fields key with
    | none => setMembers fields rest record
    | some field =>
      match field.set value record with
      | .ok record => setMembers fields rest record
      | .error cause => .error cause

/-- Sets fields from elements, the first field from the first element and so on. -/
def setElements {Record : Type} : List (Field Record) → List Document → Record →
    Except ShapeError Record
  | field :: fields, element :: elements, record =>
    match field.set element record with
    | .ok record => setElements fields elements record
    | .error cause => .error cause
  | _, _, record => .ok record

/-- Reads a record with the given name and fields from a document; `start` holds the defaults. -/
def readRecord {Record : Type} (dialect : Dialect) (name : String) (fields : List (Field Record))
    (start : Record) : Document → Except ShapeError Record
  | .object members => setMembers fields members start
  | .array elements =>
    match setElements fields elements start with
    | .error cause => .error cause
    | .ok record =>
      if dialect.refusesSurplus ∧ fields.length < elements.length then
        .error (.surplus elements.length)
      else .ok record
  | other => .error (.wrongKind other (.record name))

/-- Reads a record from an object alone. -/
def readObject {Record : Type} (name : String) (fields : List (Field Record)) (start : Record) :
    Document → Except ShapeError Record
  | .object members => setMembers fields members start
  | other => .error (.wrongKind other (.record name))

end HostRoster
