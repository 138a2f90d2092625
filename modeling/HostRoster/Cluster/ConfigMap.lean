import HostRoster.Cluster.Moment
import HostRoster.Document.Shape
import HostRoster.Encoding.Base64

/-!
# Configuration maps

A cluster keeps configuration as objects with texts and byte strings under keys. `ConfigMap.read`
reads such an object from a document and refuses whatever does not have the right shape; unknown
members and null members are left out. `ConfigMap.encode` writes the object as the payload of an
event, with the members in the order of their keys.
-/

set_option autoImplicit false

namespace HostRoster

/-! ## Members -/

namespace Document

/-- A point of time. -/
def asMoment : Document → Except ShapeError Moment
  | .string text =>
    match Moment.read text with
    | some moment => .ok moment
    | none => .error (.wrongValue (.string text) .moment)
  | other => .error (.wrongKind other .moment)

/-- A byte string in base64; null is the empty one. -/
def asBytes : Document → Except ShapeError Bytes
  | .null => .ok []
  | .string text =>
    match Base64.decodeStrictly (Bytes.ofText text) with
    | some bytes => .ok bytes
    | none => .error (.wrongValue (.string text) .bytes)
  | other => .error (.wrongKind other .bytes)

/-- The members of an object, each read by a reader, sorted by key. -/
def asMembers {Value : Type} (read : Document → Except ShapeError Value) :
    Document → Except ShapeError (List (String × Value))
  | .object members =>
    (members.mapM fun member => (read member.2).map fun value => (member.1, value)).map sortMembers
  | other => .error (.wrongKind other .map)

/-- This very text. -/
def asExactly (expected : String) : Document → Except ShapeError Unit
  | .string text =>
    if text = expected then .ok () else .error (.wrongValue (.string text) (.exactly expected))
  | other => .error (.wrongKind other .text)

/-- A member that is left out when there is nothing under its key. -/
def optionalMember (key : String) (value : Option Document) : List (String × Document) :=
  match value with
  | none => []
  | some value => [(key, value)]

/-- An object of strings. -/
def ofTexts (texts : List (String × String)) : Document :=
  .object (texts.map fun (key, text) => (key, .string text))

/-- A byte string in base64. -/
def ofBytes (bytes : Bytes) : Document :=
  .string (String.ofList ((Base64.encode bytes).map fun byte => Char.ofNat byte.toNat))

end Document

open Document

/-! ## Owners -/

/-- An object that owns another. -/
structure OwnerReference where
  /-- The version of the owner's kind. -/
  apiVersion : String := ""
  /-- Whether the owner waits for the deletion of what it owns. -/
  blockOwnerDeletion : Option Bool := none
  /-- Whether the owner controls what it owns. -/
  controller : Option Bool := none
  /-- The owner's kind. -/
  kind : String := ""
  /-- The owner's name. -/
  name : String := ""
  /-- The owner's identifier. -/
  uid : String := ""
  deriving DecidableEq, Repr

namespace OwnerReference

/-- A text; null is the empty one. -/
def asText (document : Document) : Except ShapeError String :=
  (document.asOptionalText .text).map (·.getD "")

/-- The fields of an owner. -/
def fields : List (Field OwnerReference) :=
  [⟨"apiVersion", fun document record =>
      (asText document).map fun apiVersion => { record with apiVersion }⟩,
   ⟨"blockOwnerDeletion", fun document record =>
      (document.asOptional asFlag).map fun blockOwnerDeletion =>
        { record with blockOwnerDeletion }⟩,
   ⟨"controller", fun document record =>
      (document.asOptional asFlag).map fun controller => { record with controller }⟩,
   ⟨"kind", fun document record => (asText document).map fun kind => { record with kind }⟩,
   ⟨"name", fun document record => (asText document).map fun name => { record with name }⟩,
   ⟨"uid", fun document record => (asText document).map fun uid => { record with uid }⟩]

/-- Reads an owner. -/
def read (document : Document) : Except ShapeError OwnerReference :=
  readObject "OwnerReference" fields {} document

/-- Writes an owner. -/
def encode (owner : OwnerReference) : Document :=
  .object (
    [("apiVersion", .string owner.apiVersion)] ++
    optionalMember "blockOwnerDeletion" (owner.blockOwnerDeletion.map .boolean) ++
    optionalMember "controller" (owner.controller.map .boolean) ++
    [("kind", .string owner.kind), ("name", .string owner.name), ("uid", .string owner.uid)])

end OwnerReference

/-! ## Managed fields -/

/-- Who set which fields of an object. -/
structure ManagedFields where
  /-- The version in which the fields are given. -/
  apiVersion : Option String := none
  /-- The form in which the fields are given. -/
  fieldsType : Option String := none
  /-- The fields. -/
  fieldsV1 : Option Document := none
  /-- Who set them. -/
  manager : Option String := none
  /-- By what operation. -/
  operation : Option String := none
  /-- In what part of the object. -/
  subresource : Option String := none
  /-- When. -/
  time : Option Moment := none
  deriving Repr

namespace ManagedFields

/-- The fields of an entry. -/
def fields : List (Field ManagedFields) :=
  [⟨"apiVersion", fun document record =>
      (document.asOptionalText .text).map fun apiVersion => { record with apiVersion }⟩,
   ⟨"fieldsType", fun document record =>
      (document.asOptionalText .text).map fun fieldsType => { record with fieldsType }⟩,
   ⟨"fieldsV1", fun document record =>
      (document.asOptional .ok).map fun given =>
        { record with fieldsV1 := given.map Document.sorted }⟩,
   ⟨"manager", fun document record =>
      (document.asOptionalText .text).map fun manager => { record with manager }⟩,
   ⟨"operation", fun document record =>
      (document.asOptionalText .text).map fun operation => { record with operation }⟩,
   ⟨"subresource", fun document record =>
      (document.asOptionalText .text).map fun subresource => { record with subresource }⟩,
   ⟨"time", fun document record =>
      (document.asOptional asMoment).map fun time => { record with time }⟩]

/-- Reads an entry. -/
def read (document : Document) : Except ShapeError ManagedFields :=
  readObject "ManagedFieldsEntry" fields {} document

/-- Writes an entry. -/
def encode (entry : ManagedFields) : Document :=
  .object (
    optionalMember "apiVersion" (entry.apiVersion.map .string) ++
    optionalMember "fieldsType" (entry.fieldsType.map .string) ++
    optionalMember "fieldsV1" entry.fieldsV1 ++
    optionalMember "manager" (entry.manager.map .string) ++
    optionalMember "operation" (entry.operation.map .string) ++
    optionalMember "subresource" (entry.subresource.map .string) ++
    optionalMember "time" (entry.time.map fun time => .string time.text))

end ManagedFields

/-! ## What identifies an object -/

/-- What every object of a cluster says about itself. -/
structure ObjectMeta where
  /-- Notes under keys. -/
  annotations : Option (List (String × String)) := none
  /-- When the object was created. -/
  creationTimestamp : Option Moment := none
  /-- How many seconds the deletion may take. -/
  deletionGracePeriodSeconds : Option Int := none
  /-- When the object is to be deleted. -/
  deletionTimestamp : Option Moment := none
  /-- What is to be done before the deletion. -/
  finalizers : Option (List String) := none
  /-- How a generated name begins. -/
  generateName : Option String := none
  /-- How often the wanted state has changed. -/
  generation : Option Int := none
  /-- Marks under keys. -/
  labels : Option (List (String × String)) := none
  /-- Who set which fields. -/
  managedFields : Option (List ManagedFields) := none
  /-- The name. -/
  name : Option String := none
  /-- The namespace. -/
  namespaceName : Option String := none
  /-- Who owns the object. -/
  ownerReferences : Option (List OwnerReference) := none
  /-- The version of the object. -/
  resourceVersion : Option String := none
  /-- Where the object is found. -/
  selfLink : Option String := none
  /-- The identifier. -/
  uid : Option String := none
  deriving Repr, Inhabited

namespace ObjectMeta

/-- The fields of what identifies an object. -/
def fields : List (Field ObjectMeta) :=
  [⟨"annotations", fun document record =>
      (document.asOptional (asMembers (asText .text))).map fun annotations =>
        { record with annotations }⟩,
   ⟨"creationTimestamp", fun document record =>
      (document.asOptional asMoment).map fun creationTimestamp =>
        { record with creationTimestamp }⟩,
   ⟨"deletionGracePeriodSeconds", fun document record =>
      (document.asOptional asNumber).map fun deletionGracePeriodSeconds =>
        { record with deletionGracePeriodSeconds }⟩,
   ⟨"deletionTimestamp", fun document record =>
      (document.asOptional asMoment).map fun deletionTimestamp =>
        { record with deletionTimestamp }⟩,
   ⟨"finalizers", fun document record =>
      (document.asOptional (asList (asText .text))).map fun finalizers =>
        { record with finalizers }⟩,
   ⟨"generateName", fun document record =>
      (document.asOptionalText .text).map fun generateName => { record with generateName }⟩,
   ⟨"generation", fun document record =>
      (document.asOptional asNumber).map fun generation => { record with generation }⟩,
   ⟨"labels", fun document record =>
      (document.asOptional (asMembers (asText .text))).map fun labels => { record with labels }⟩,
   ⟨"managedFields", fun document record =>
      (document.asOptional (asList ManagedFields.read)).map fun managedFields =>
        { record with managedFields }⟩,
   ⟨"name", fun document record =>
      (document.asOptionalText .text).map fun name => { record with name }⟩,
   ⟨"namespace", fun document record =>
      (document.asOptionalText .text).map fun namespaceName => { record with namespaceName }⟩,
   ⟨"ownerReferences", fun document record =>
      (document.asOptional (asList OwnerReference.read)).map fun ownerReferences =>
        { record with ownerReferences }⟩,
   ⟨"resourceVersion", fun document record =>
      (document.asOptionalText .text).map fun resourceVersion => { record with resourceVersion }⟩,
   ⟨"selfLink", fun document record =>
      (document.asOptionalText .text).map fun selfLink => { record with selfLink }⟩,
   ⟨"uid", fun document record =>
      (document.asOptionalText .text).map fun uid => { record with uid }⟩]

/-- Reads what identifies an object. -/
def read (document : Document) : Except ShapeError ObjectMeta :=
  readObject "ObjectMeta" fields {} document

/-- Writes what identifies an object. -/
def encode (metadata : ObjectMeta) : Document :=
  .object (
    optionalMember "annotations" (metadata.annotations.map ofTexts) ++
    optionalMember "creationTimestamp"
      (metadata.creationTimestamp.map fun moment => .string moment.text) ++
    optionalMember "deletionGracePeriodSeconds"
      (metadata.deletionGracePeriodSeconds.map .integer) ++
    optionalMember "deletionTimestamp"
      (metadata.deletionTimestamp.map fun moment => .string moment.text) ++
    optionalMember "finalizers" (metadata.finalizers.map fun names => .array (names.map .string)) ++
    optionalMember "generateName" (metadata.generateName.map .string) ++
    optionalMember "generation" (metadata.generation.map .integer) ++
    optionalMember "labels" (metadata.labels.map ofTexts) ++
    optionalMember "managedFields"
      (metadata.managedFields.map fun entries => .array (entries.map ManagedFields.encode)) ++
    optionalMember "name" (metadata.name.map .string) ++
    optionalMember "namespace" (metadata.namespaceName.map .string) ++
    optionalMember "ownerReferences"
      (metadata.ownerReferences.map fun owners => .array (owners.map OwnerReference.encode)) ++
    optionalMember "resourceVersion" (metadata.resourceVersion.map .string) ++
    optionalMember "selfLink" (metadata.selfLink.map .string) ++
    optionalMember "uid" (metadata.uid.map .string))

end ObjectMeta

/-! ## Configuration maps -/

/-- A configuration object of a cluster. -/
structure ConfigMap where
  /-- Byte strings under keys. -/
  binaryData : Option (List (String × Bytes)) := none
  /-- Texts under keys. -/
  data : Option (List (String × String)) := none
  /-- Whether the object may not be changed. -/
  isImmutable : Option Bool := none
  /-- What identifies the object. -/
  metadata : ObjectMeta := {}
  deriving Repr, Inhabited

namespace ConfigMap

/-- The version of the kind. -/
def apiVersion : String := "v1"

/-- The kind. -/
def kind : String := "ConfigMap"

/-- The fields of a configuration map; its kind and version are only looked at. -/
def fields : List (Field ConfigMap) :=
  [⟨"apiVersion", fun document record => (document.asExactly apiVersion).map fun _ => record⟩,
   ⟨"binaryData", fun document record =>
      (document.asOptional (asMembers asBytes)).map fun binaryData => { record with binaryData }⟩,
   ⟨"data", fun document record =>
      (document.asOptional (asMembers (asText .text))).map fun data => { record with data }⟩,
   ⟨"immutable", fun document record =>
      (document.asOptional asFlag).map fun isImmutable => { record with isImmutable }⟩,
   ⟨"kind", fun document record => (document.asExactly kind).map fun _ => record⟩,
   ⟨"metadata", fun document record =>
      (document.asOptional ObjectMeta.read).map fun metadata =>
        { record with metadata := metadata.getD {} }⟩]

/-- Reads a configuration map. -/
def read (document : Document) : Except ShapeError ConfigMap :=
  readObject kind fields {} document

/-- Writes a configuration map. -/
def encode (resource : ConfigMap) : Document :=
  .object (
    [("apiVersion", .string apiVersion)] ++
    optionalMember "binaryData" (resource.binaryData.map fun members =>
      .object (members.map fun (key, bytes) => (key, ofBytes bytes))) ++
    optionalMember "data" (resource.data.map ofTexts) ++
    optionalMember "immutable" (resource.isImmutable.map .boolean) ++
    [("kind", .string kind), ("metadata", resource.metadata.encode)])

/-- The name, which is empty for an object without one. -/
def objectName (resource : ConfigMap) : String := resource.metadata.name.getD ""

/-- The version, which is empty for an object without one. -/
def version (resource : ConfigMap) : String := resource.metadata.resourceVersion.getD ""

end ConfigMap

end HostRoster
