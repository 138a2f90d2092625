import HostRoster.Document.Shape

/-!
# Configuration resources

A configuration resource carries a name, a namespace and optional data under keys. `fromPayload`
reads one from the payload of an event.
-/

set_option autoImplicit false

namespace HostRoster

/-- The part of a resource that identifies it. -/
structure ResourceMeta where
  /-- The name of the resource, if it is given. -/
  name : Option String := none
  /-- The namespace of the resource, if it is given. -/
  namespaceName : Option String := none
  deriving DecidableEq, Repr, Inhabited

/-- A configuration resource as far as the synchronisation looks at it. -/
structure ConfigResource where
  /-- What identifies the resource. -/
  metadata : ResourceMeta := {}
  /-- The texts of the resource by key, if there are any. -/
  data : Option (List (String × String)) := none
  deriving DecidableEq, Repr, Inhabited

namespace ResourceMeta

/-- The fields of the identifying part. -/
def fields : List (Field ResourceMeta) :=
  [⟨"name", fun document record =>
      (document.asOptionalText .text).map fun name => { record with name }⟩,
   ⟨"namespace", fun document record =>
      (document.asOptionalText .text).map fun namespaceName => { record with namespaceName }⟩]

/-- Reads the identifying part of a resource. -/
def ofDocument (document : Document) : Except ShapeError ResourceMeta :=
  readRecord .json "ResourceMeta" fields {} document

end ResourceMeta

namespace ConfigResource

/-- The fields of a resource. -/
def fields : List (Field ConfigResource) :=
  [⟨"metadata", fun document record =>
      (ResourceMeta.ofDocument document).map fun metadata => { record with metadata }⟩,
   ⟨"data", fun document record =>
      document.asOptionalTexts.map fun data => { record with data }⟩]

/-- Reads a resource from the payload of an event. -/
def fromPayload (payload : Document) : Except ShapeError ConfigResource :=
  readRecord .json "ConfigResource" fields {} payload

/-- The text under a key. -/
def get? (resource : ConfigResource) (key : String) : Option String :=
  resource.data.bind (·.lookup key)

/-- The name of the resource, or a stand-in for a resource without one. -/
def name (resource : ConfigResource) : String :=
  resource.metadata.name.getD "unknown"

end ConfigResource

end HostRoster
