import HostRoster.Cluster.ConfigMap
import HostRoster.Json.Reader

/-!
# Messages of a cluster

A cluster answers a request for a list with pages, and a watch with a stream of lines, each of
which is a message in JSON.
-/

set_option autoImplicit false

namespace HostRoster

open Document

/-! ## Pages -/

/-- A page of a list. -/
structure ListPage where
  /-- The objects, once they are given. -/
  items : Option (List ConfigMap) := none
  /-- The token that leads to the next page. -/
  continueToken : Option String := none
  /-- The version of the whole list. -/
  resourceVersion : Option String := none
  deriving Repr, Inhabited

namespace ListPage

/-- The fields of what a page says about the list. -/
def metadataFields : List (Field ListPage) :=
  [⟨"continue", fun document record =>
      (document.asOptionalText .text).map fun continueToken => { record with continueToken }⟩,
   ⟨"remainingItemCount", fun document record =>
      (document.asOptional asNumber).map fun _ => record⟩,
   ⟨"resourceVersion", fun document record =>
      (document.asOptionalText .text).map fun resourceVersion => { record with resourceVersion }⟩,
   ⟨"selfLink", fun document record =>
      (document.asOptionalText .text).map fun _ => record⟩]

/-- The fields of a page. -/
def fields : List (Field ListPage) :=
  [⟨"items", fun document record =>
      (document.asOptional (asList ConfigMap.read)).map fun items =>
        { record with items := some (items.getD []) }⟩,
   ⟨"metadata", fun document record => readObject "ListMeta" metadataFields record document⟩]

/-- Reads a page, which must give its items. -/
def read (document : Document) : Option ListPage :=
  match readObject "ConfigMapList" fields {} document with
  | .ok page => if page.items.isSome then some page else none
  | .error _ => none

/-- The objects of a page. -/
def objects (page : ListPage) : List ConfigMap := page.items.getD []

/-- A text, unless it is empty. -/
def nonEmpty (text : Option String) : Option String := text.filter (· ≠ "")

end ListPage

/-! ## Watch messages -/

/-- A message of a watch. -/
inductive WatchMessage where
  /-- An object was added. -/
  | added (resource : ConfigMap)
  /-- An object was changed. -/
  | modified (resource : ConfigMap)
  /-- An object was deleted. -/
  | deleted (resource : ConfigMap)
  /-- The watch has come to this version. -/
  | bookmark (version : String)
  /-- Something went wrong, with a code. -/
  | failure (code : Nat)
  deriving Repr

namespace WatchMessage

/-- The word for the kind of a message, alone or as the key of a null member. -/
def readTag : Document → Except ShapeError String
  | .string tag => .ok tag
  | .object [(tag, .null)] => .ok tag
  | other => .error (.wrongKind other (.exactly "a kind of message"))

/-- The version that a bookmark gives. -/
def readPosition (document : Document) : Except ShapeError String := do
  match ← document.given "ObjectMeta" ["resourceVersion", "annotations"] with
  | [version, annotations] =>
    let version ← version.mapM (asText .text)
    let _ ← annotations.mapM (asMembers (asText .text))
    required "resourceVersion" version
  | _ => throw (.missing "resourceVersion")

/-- The version of a bookmark, which must name its kind. -/
def readBookmark (document : Document) : Except ShapeError String := do
  match document with
  | .object _ =>
    let version ← (← document.sole? "metadata").mapM readPosition
    let apiVersion ← required "apiVersion" (← document.sole? "apiVersion")
    let kind ← required "kind" (← document.sole? "kind")
    let _ ← apiVersion.asText .text
    let _ ← kind.asText .text
    required "metadata" version
  | other => throw (.wrongKind other .map)

/-- A number of 16 bits. -/
def asCode (document : Document) : Except ShapeError Nat := do
  let code ← document.asWord
  if code < Nat.pow 2 16 then return code else throw (.wrongValue document .word)

/-- The code of a failure, which must name its state. -/
def readFailure (document : Document) : Except ShapeError Nat := do
  match ← document.given "Status" ["status", "message", "reason", "code"] with
  | [status, message, reason, code] =>
    let status ← status.mapM (asText .text)
    let _ ← message.mapM (asText .text)
    let _ ← reason.mapM (asText .text)
    let code ← code.mapM asCode
    let _ ← required "status" status
    required "code" code
  | _ => throw (.missing "status")

/-- Reads the content of a message of some kind; a kind alone is not enough. -/
def ofContent (tag : String) (content : Option Document) : Except ShapeError WatchMessage :=
  let read {Value : Type} (reader : Document → Except ShapeError Value)
      (make : Value → WatchMessage) : Except ShapeError WatchMessage := do
    return make (← reader (← required "object" content))
  match tag with
  | "ADDED" => read ConfigMap.read .added
  | "MODIFIED" => read ConfigMap.read .modified
  | "DELETED" => read ConfigMap.read .deleted
  | "BOOKMARK" => read readBookmark .bookmark
  | "ERROR" => read readFailure .failure
  | _ => .error (.wrongValue (.string tag) (.exactly "a kind of message"))

/-- Reads a message: its kind and its content. -/
def ofDocument (document : Document) : Except ShapeError WatchMessage := do
  match ← document.given "WatchEvent" ["type", "object"] with
  | [tag, content] => ofContent (← readTag (← required "type" tag)) content
  | _ => throw (.missing "type")

end WatchMessage

/-! ## Lines -/

/-- What a line of a watch is. -/
inductive WatchLine where
  /-- A message. -/
  | message (content : WatchMessage)
  /-- Something else. -/
  | malformed
  /-- A line that only ends too early, which is passed over. -/
  | cutShort
  deriving Repr

/-- Reads a line of a watch. A line that ends too early is malformed nevertheless if what there is
of it cannot become a message. -/
def WatchLine.read (line : String) : WatchLine :=
  match Json.readAsWritten line with
  | .error .malformed => .malformed
  | .error (.endOfText none) => .cutShort
  | .error (.endOfText (some begun)) =>
    match WatchMessage.ofDocument begun with
    | .error cause => if cause.isIncomplete then .cutShort else .malformed
    | .ok _ => .cutShort
  | .ok document =>
    match WatchMessage.ofDocument document with
    | .ok content => .message content
    | .error _ => .malformed

end HostRoster
