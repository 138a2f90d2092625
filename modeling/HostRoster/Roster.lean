import HostRoster.Event
import HostRoster.HostList
import HostRoster.Log
import HostRoster.Resource

/-!
# The roster

The roster is the published host list. An added or updated resource replaces the list by the hosts
that stand in the resource, a deleted resource clears it. A payload that is no resource, or a
resource without hosts, leaves the list as it is. A frozen roster follows no event any more.

`Roster.handle` says what an event does to the roster and `Roster.entries` what is reported about
it; both start from `HostUpdate.ofPayload`, which reads the hosts of a payload.
-/

set_option autoImplicit false

namespace HostRoster

/-! ## Updates -/

/-- The hosts that a resource asks for. -/
structure HostUpdate where
  /-- The name of the resource. -/
  resourceName : String
  /-- Its hosts. -/
  hosts : List String
  deriving DecidableEq, Repr

/-- Why a payload asks for no hosts. -/
inductive PayloadFault where
  /-- The payload is not a configuration resource. -/
  | badShape (cause : ShapeError)
  /-- The resource with this name has no hosts. -/
  | missingKey (resourceName : String)
  deriving Repr, BEq

/-- The hosts that the payload of an event asks for. -/
def HostUpdate.ofPayload (payload : Document) : Except PayloadFault HostUpdate :=
  match ConfigResource.fromPayload payload with
  | .error cause => .error (.badShape cause)
  | .ok resource =>
    match resource.get? hostsKey with
    | none => .error (.missingKey resource.name)
    | some raw => .ok ⟨resource.name, parseHosts raw⟩

/-! ## The effect of events -/

/-- The published host list, and whether it is frozen. -/
structure Roster where
  /-- The published hosts. -/
  hosts : List String := []
  /-- Whether events are disregarded. -/
  frozen : Bool := false
  deriving DecidableEq, Repr, Inhabited

namespace Roster

/-- Publishes the hosts of an updated resource; the old state plays no part. -/
def onUpdated (roster : Roster) (new : Document) (_old : Option Document) : Roster :=
  if roster.frozen then roster
  else match HostUpdate.ofPayload new with
    | .ok update => { roster with hosts := update.hosts }
    | .error _ => roster

/-- Publishes the hosts of an added resource. -/
def onAdded (roster : Roster) (resource : Document) : Roster :=
  roster.onUpdated resource none

/-- Clears the list. -/
def onDeleted (roster : Roster) (_resource : Option Document) : Roster :=
  if roster.frozen then roster else { roster with hosts := [] }

/-- Follows an event. -/
def handle (roster : Roster) : ResourceEvent → Roster
  | .added resource => roster.onAdded resource
  | .updated new old => roster.onUpdated new old
  | .deleted resource => roster.onDeleted resource

/-- Follows events in their order. -/
def handleAll (roster : Roster) (events : List ResourceEvent) : Roster :=
  events.foldl handle roster

/-- Stops following events. -/
def freeze (roster : Roster) : Roster := { roster with frozen := true }

/-! ## Reports -/

/-- What is reported about a payload. -/
def payloadEntry (payload : Document) : LogEntry :=
  match HostUpdate.ofPayload payload with
  | .error (.badShape cause) =>
    ⟨.error, .sync, "Could not interpret event payload as a ConfigMap",
      [("error", .text (cause.message .json))]⟩
  | .error (.missingKey resourceName) =>
    ⟨.error, .sync, "Key not found in ConfigMap",
      [("configmap", .quoted resourceName), ("key", .quoted hostsKey)]⟩
  | .ok update =>
    ⟨.info, .sync, "Updating NGINX hosts",
      [("configmap", .quoted update.resourceName), ("count", .number update.hosts.length)]⟩

/-- What is reported about an updated resource. -/
def updatedEntries (roster : Roster) (new : Document) : List LogEntry :=
  ⟨.debug, .sync, "ConfigSync::on_update", []⟩ ::
    if roster.frozen then [] else [payloadEntry new]

/-- What is reported about a deleted resource. -/
def deletedEntries (roster : Roster) : List LogEntry :=
  ⟨.debug, .sync, "ConfigSync::on_delete", []⟩ ::
    if roster.frozen then []
    else [⟨.info, .sync, "Host ConfigMap deleted, clearing NGINX hosts", []⟩]

/-- What is reported about an event. -/
def entries (roster : Roster) : ResourceEvent → List LogEntry
  | .added resource => ⟨.debug, .sync, "ConfigSync::on_add", []⟩ :: roster.updatedEntries resource
  | .updated new _ => roster.updatedEntries new
  | .deleted _ => roster.deletedEntries

end Roster

end HostRoster
