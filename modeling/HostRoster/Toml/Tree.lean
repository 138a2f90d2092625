import HostRoster.Document

/-!
# The tree of a TOML text

Headers and assignments grow a tree of tables. A table is *implicit* when only its contents have
been mentioned so far, and *dotted* when an assignment with a path made it.

**Headers.** A header opens a table that is new, or implicit and not dotted; it then stands behind
the other entries of its parent. A header of a list of tables adds an element to the list.

**Assignments.** A path of an assignment goes through dotted tables alone, and its key is new.
-/

set_option autoImplicit false

namespace HostRoster.Toml

/-- An entry of a table. -/
inductive Node where
  /-- A value. -/
  | value (document : Document)
  /-- A table. -/
  | table (implicit dotted : Bool) (entries : List (String × Node))
  /-- A list of tables. -/
  | tables (elements : List (List (String × Node)))
  deriving Repr, Inhabited

/-- The entries of a table in their order. -/
abbrev Entries := List (String × Node)

namespace Entries

/-- Changes the node under a key in its place, or puts a new one behind all others. -/
def change (key : String) (act : Option Node → Option Node) : Entries → Option Entries
  | [] => (act none).map fun node => [(key, node)]
  | (other, node) :: rest =>
    if other = key then (act (some node)).map fun node => (other, node) :: rest
    else (change key act rest).map ((other, node) :: ·)

/-- Changes the table at a path. The change is told whether the table is dotted. Missing tables on
the path are made, dotted ones if `dotted` holds; then the path must not go through a table that is
not implicit. -/
def within (dotted : Bool) (act : Bool → Entries → Option Entries) :
    List String → Bool → Entries → Option Entries
  | [], isDotted, entries => act isDotted entries
  | key :: path, _, entries =>
    change key (fun
      | none => (within dotted act path dotted []).map (.table true dotted)
      | some (.value _) => none
      | some (.tables elements) =>
        match elements.getLast? with
        | none => none
        | some last =>
          (within dotted act path false last).map fun last => .tables (elements.dropLast ++ [last])
      | some (.table implicit isDotted inner) =>
        if dotted && !implicit then none
        else (within dotted act path isDotted inner).map (.table implicit isDotted)) entries

/-- Puts a document under a new key of a table. -/
def put (key : String) (value : Document) (entries : Entries) : Option Entries :=
  if (entries.lookup key).isSome then none else some (entries ++ [(key, .value value)])

/-- Assigns a document to a key at a path. -/
def assign (path : List String) (key : String) (value : Document) (entries : Entries) :
    Option Entries :=
  within true (fun isDotted entries =>
    if isDotted == path.isEmpty then none else put key value entries) path false entries

/-- Opens a table under a key. -/
def openTable (key : String) (entries : Entries) : Option Entries :=
  match entries.lookup key with
  | none => some (entries ++ [(key, .table false false [])])
  | some (.table true false inner) =>
    some (entries.filter (·.1 != key) ++ [(key, .table false false inner)])
  | some _ => none

/-- Adds a table to the list under a key. -/
def addTable (key : String) (entries : Entries) : Option Entries :=
  change key (fun
    | none => some (.tables [[]])
    | some (.tables elements) => some (.tables (elements ++ [[]]))
    | some _ => none) entries

end Entries

/-! ## Statements -/

/-- A line of a TOML text that says something. -/
inductive Statement where
  /-- An assignment to a key at a path. -/
  | assignment (path : List String) (key : String) (value : Document)
  /-- The header of a table. -/
  | tableHeader (path : List String) (key : String)
  /-- The header of an element of a list of tables. -/
  | elementHeader (path : List String) (key : String)
  deriving Repr

/-- The tree so far, and the path of the table that assignments go to. -/
structure Growth where
  /-- The entries of the whole text. -/
  root : Entries
  /-- The path of the last header. -/
  header : List String

/-- Takes a statement into the tree. -/
def Growth.step (growth : Growth) : Statement → Option Growth
  | .assignment path key value =>
    (Entries.within false (fun _ entries => entries.assign path key value) growth.header false
      growth.root).map fun root => { growth with root }
  | .tableHeader path key =>
    (Entries.within false (fun _ entries => entries.openTable key) path false growth.root).map
      fun root => ⟨root, path ++ [key]⟩
  | .elementHeader path key =>
    (Entries.within false (fun _ entries => entries.addTable key) path false growth.root).map
      fun root => ⟨root, path ++ [key]⟩

/-- The tree that statements grow. -/
def grow (statements : List Statement) : Option Entries :=
  (statements.foldlM Growth.step ⟨[], []⟩).map (·.root)

/-! ## Documents -/

mutual

/-- The document of a node. -/
def Node.document : Node → Document
  | .value document => document
  | .table _ _ entries => .object (members entries)
  | .tables elements => .array (objects elements)

/-- The documents of entries. -/
def members : List (String × Node) → List (String × Document)
  | [] => []
  | (key, node) :: rest => (key, node.document) :: members rest

/-- The documents of tables. -/
def objects : List (List (String × Node)) → List Document
  | [] => []
  | entries :: rest => .object (members entries) :: objects rest

end

/-- The document of a table. -/
def Entries.document (entries : Entries) : Document := .object (members entries)

end HostRoster.Toml
