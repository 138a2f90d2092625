import HostRoster.Document

/-!
# Events

A source that watches resources reports each change as an event: a resource was added, updated or
deleted. An event carries the resource as a plain document, which need not have the shape of a
resource.
-/

set_option autoImplicit false

namespace HostRoster

/-- A change of a watched resource. -/
inductive ResourceEvent where
  /-- A resource appeared. -/
  | added (resource : Document)
  /-- A resource changed; what it was before may be known. -/
  | updated (new : Document) (old : Option Document)
  /-- A resource is gone; what it was last may be known. -/
  | deleted (resource : Option Document)
  deriving Repr, Inhabited

/-- The word for the kind of an event. -/
def ResourceEvent.kind : ResourceEvent → String
  | .added _ => "added"
  | .updated _ _ => "updated"
  | .deleted _ => "deleted"

end HostRoster
