import HostRoster.Number.Binary64

/-!
# Documents

A document is a tree of plain data as a JSON or TOML text carries it. The members of an object are
listed in the order in which they are visited: by key for JSON, as written for TOML.
-/

set_option autoImplicit false

namespace HostRoster

/-- A tree of plain data. -/
inductive Document where
  /-- The absent value. -/
  | null
  /-- A truth value. -/
  | boolean (value : Bool)
  /-- A whole number. -/
  | integer (value : Int)
  /-- A floating point number. -/
  | real (value : Binary64)
  /-- A text. -/
  | string (value : String)
  /-- A sequence of documents. -/
  | array (elements : List Document)
  /-- Documents under keys, in visiting order. -/
  | object (members : List (String × Document))
  deriving Repr, BEq, Inhabited

namespace Document

/-- Puts a value under a key among members sorted by key, in the place of one that is there. -/
def insertSorted {Value : Type} (key : String) (value : Value) :
    List (String × Value) → List (String × Value)
  | [] => [(key, value)]
  | (other, held) :: rest =>
    if key < other then (key, value) :: (other, held) :: rest
    else if other < key then (other, held) :: insertSorted key value rest
    else (key, value) :: rest

/-- Members sorted by key; of those with one key the last stays. -/
def sortMembers {Value : Type} (members : List (String × Value)) : List (String × Value) :=
  members.foldl (fun sorted (key, value) => insertSorted key value sorted) []

mutual

/-- The document with the members of all its objects sorted by key, the last of several with one
key being kept. -/
def sorted : Document → Document
  | .array elements => .array (sortedElements elements)
  | .object members => .object (sortMembers (sortedMembers members))
  | other => other

/-- The elements of an array, each sorted. -/
def sortedElements : List Document → List Document
  | [] => []
  | element :: rest => element.sorted :: sortedElements rest

/-- The members of an object, the documents in them sorted. -/
def sortedMembers : List (String × Document) → List (String × Document)
  | [] => []
  | (key, value) :: rest => (key, value.sorted) :: sortedMembers rest

end

/-- The members of an object, and none of anything else. -/
def members : Document → List (String × Document)
  | .object members => members
  | _ => []

/-- The document under a key of an object. -/
def get? (document : Document) (key : String) : Option Document :=
  document.members.lookup key

/-- The text of a string document. -/
def text? : Document → Option String
  | .string value => some value
  | _ => none

/-- The number of a document that is a natural number. -/
def natural? : Document → Option Nat
  | .integer (.ofNat value) => some value
  | _ => none

/-- A string document, or null. -/
def ofText? : Option String → Document
  | some text => .string text
  | none => .null

end Document

end HostRoster
