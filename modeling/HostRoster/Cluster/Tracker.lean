import HostRoster.Cluster.ConfigMap
import HostRoster.Event
import HostRoster.Log
import HostRoster.Watch.Source

/-!
# Trackers

A watcher of a cluster only says which objects there are and which are gone. A tracker keeps the
last payload under each name, and so tells added objects from updated ones. At the end of a relist
it reports every name as deleted that it knows and that was not listed.

The names that vanished in a relist are reported in an order that is an argument of
`Tracker.apply`; `Tracker.known` is the same after every order.
-/

set_option autoImplicit false

namespace HostRoster

/-- What a watcher says about the objects of a namespace. -/
inductive WatcherEvent where
  /-- A relist begins. -/
  | init
  /-- An object is listed. -/
  | initApply (resource : ConfigMap)
  /-- The relist is complete. -/
  | initDone
  /-- An object was added or changed. -/
  | apply (resource : ConfigMap)
  /-- An object was deleted. -/
  | delete (resource : ConfigMap)
  deriving Repr

/-- What is known of the objects of a namespace. -/
structure Tracker where
  /-- The last payload under each name. -/
  known : List (String × Document) := []
  /-- The names that were listed, while a relist is under way. -/
  relisting : Option (List String) := none
  deriving Repr, Inhabited

namespace Tracker

/-- What is known under a name. -/
def find? (tracker : Tracker) (name : String) : Option Document := tracker.known.lookup name

/-- Puts a payload under a name, in the place of one that is there. -/
def insertKnown (name : String) (payload : Document) :
    List (String × Document) → List (String × Document)
  | [] => [(name, payload)]
  | (other, held) :: rest =>
    if other = name then (name, payload) :: rest
    else (other, held) :: insertKnown name payload rest

/-- Takes a name away. -/
def eraseKnown (name : String) (known : List (String × Document)) : List (String × Document) :=
  known.filter (·.1 ≠ name)

/-- Takes up an object: it is new under its name or replaces what was known. -/
def upsert (tracker : Tracker) (resource : ConfigMap) : Tracker × List Output :=
  let payload := resource.encode
  let name := resource.objectName
  ({ tracker with known := insertKnown name payload tracker.known },
    [.event (match tracker.find? name with
      | some previous => .updated payload (some previous)
      | none => .added payload)])

/-- The names that are known and were not listed. -/
def vanished (tracker : Tracker) (listed : List String) : List String :=
  (tracker.known.map Prod.fst).filter (· ∉ listed)

/-- What is reported about a name that was not listed. -/
def vanishedEntry (name : String) : LogEntry :=
  ⟨.debug, .cluster, "ConfigMap disappeared during relist", [("name", .text name)]⟩

/-- Takes names away one after the other, each with what was known last. -/
def removeAll (tracker : Tracker) : List String → Tracker × List Output
  | [] => (tracker, [])
  | name :: names =>
    let next := { tracker with known := eraseKnown name tracker.known }
    let (last, outputs) := next.removeAll names
    (last, .entry (vanishedEntry name) :: .event (.deleted (tracker.find? name)) :: outputs)

/-- Follows an event of the watcher. -/
def apply (arrange : List String → List String) (tracker : Tracker) :
    WatcherEvent → Tracker × List Output
  | .init => ({ tracker with relisting := some [] }, [])
  | .initApply resource =>
    let relisting := tracker.relisting.map (resource.objectName :: ·)
    { tracker with relisting }.upsert resource
  | .initDone =>
    match tracker.relisting with
    | none => (tracker, [])
    | some listed =>
      { tracker with relisting := none }.removeAll (arrange (tracker.vanished listed))
  | .apply resource => tracker.upsert resource
  | .delete resource =>
    ({ tracker with known := eraseKnown resource.objectName tracker.known },
      [.event (.deleted (some resource.encode))])

/-- Names in the order of their characters. -/
def sortNames (names : List String) : List String :=
  names.mergeSort fun first second => decide (first ≤ second)

end Tracker

end HostRoster
