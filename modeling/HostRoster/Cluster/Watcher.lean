import HostRoster.Cluster.LineStream
import HostRoster.Cluster.Message
import HostRoster.Cluster.RetryLoop

/-!
# Watchers

A watcher follows the objects of a namespace. It lists them, page by page, and then watches from
the version of the list on; when the stream of a watch ends, it watches again from the version it
has come to. After a failed list it begins anew, and so it does when the cluster has forgotten its
version or hands out an object without one.

`Watcher.step` is one step: the watcher yields an item, or moves on without one, or waits for the
reply to the request that it has sent or for the next line of its stream.
-/

set_option autoImplicit false

namespace HostRoster

/-- A request of a watcher. -/
inductive ClusterRequest where
  /-- The list, or its next page by the token of the page before. -/
  | list (continueToken : Option String)
  /-- A stream of the changes from a version on. -/
  | watch (version : String)
  deriving DecidableEq, Repr

/-- A reply of the cluster. -/
inductive ClusterReply where
  /-- A page of the list. -/
  | page (page : ListPage)
  /-- The list is refused, or the page cannot be read. -/
  | refused
  /-- The stream is open. -/
  | opened
  deriving Repr

/-- The reply to a request for a list, from the status code and the body of the answer. -/
def ClusterReply.ofList (status : Nat) (body : Document) : ClusterReply :=
  if 400 ≤ status ∧ status < 600 then .refused
  else match ListPage.read body with
    | some listed => .page listed
    | none => .refused

/-- Whether a reply answers a request. -/
def ClusterReply.answers : ClusterReply → ClusterRequest → Bool
  | .page _, .list _ | .refused, .list _ | .opened, .watch _ => true
  | _, _ => false

/-- Where a watcher stands. -/
inductive WatcherStage where
  /-- It knows nothing. -/
  | empty
  /-- It goes through a page, with the token of the next one and the version of the list. -/
  | page (continueToken : Option String) (objects : List ConfigMap) (version : Option String)
  /-- It has listed the objects at a version. -/
  | listed (version : String)
  /-- It watches and has come to a version. -/
  | watching (version : String)
  deriving Repr, Inhabited

/-- A watcher with its connection to the cluster. -/
structure Watcher where
  /-- Where it stands. -/
  stage : WatcherStage := .empty
  /-- The request that has no reply yet. -/
  request : Option ClusterRequest := none
  /-- The reply that has not been looked at. -/
  reply : Option ClusterReply := none
  /-- The stream of its watch. -/
  stream : LineStream := {}
  deriving Repr, Inhabited

/-- What comes of a step. -/
inductive WatcherStep where
  /-- An item. -/
  | yielded (item : WatcherItem)
  /-- No item, but the watcher can go on. -/
  | moved
  /-- Nothing, for the cluster is to act. -/
  | waiting
  deriving Repr

/-- Whether a watcher goes on in a step. -/
def WatcherStep.goesOn : WatcherStep → Bool
  | .yielded _ | .moved => true
  | .waiting => false

namespace Watcher

/-! ## The cluster -/

/-- Takes a reply, if it answers the request that has none; a stream that is opened is empty. -/
def answer? (watcher : Watcher) (reply : ClusterReply) : Option Watcher :=
  match watcher.request with
  | none => none
  | some request =>
    if reply.answers request then
      some { watcher with request := none, reply := some reply, stream := {} }
    else none

/-- Whether the watcher reads from its stream, or is about to. -/
def isReading (watcher : Watcher) : Bool :=
  match watcher.stage, watcher.reply with
  | .watching _, _ => true
  | _, some .opened => true
  | _, _ => false

/-- Changes the stream, if the watcher reads from it. -/
def feed (watcher : Watcher) (change : LineStream → LineStream) : Watcher :=
  if watcher.isReading then { watcher with stream := change watcher.stream } else watcher

/-! ## Steps -/

/-- The code that says that the cluster has forgotten a version. -/
def goneCode : Nat := 410

/-- Begins anew after a failure. -/
def restart : Watcher × WatcherStep := ({}, .yielded .failed)

/-- Sends a request, unless it has been sent, and waits for the reply. -/
def await (watcher : Watcher) (request : ClusterRequest) : Watcher × WatcherStep :=
  ({ watcher with request := some request }, .waiting)

/-- Takes up a page, which must have a version or a successor. -/
def takePage (page : ListPage) : Watcher × WatcherStep :=
  let version := ListPage.nonEmpty page.resourceVersion
  let continueToken := ListPage.nonEmpty page.continueToken
  if version = none ∧ continueToken = none then restart
  else ({ stage := .page continueToken page.objects version }, .moved)

/-- Takes up a changed object, which must have a version. -/
def takeObject (stream : LineStream) (resource : ConfigMap) (event : WatcherEvent) :
    Watcher × WatcherStep :=
  if resource.version = "" then restart
  else ({ stage := .watching resource.version, stream }, .yielded (.event event))

/-- Takes up a line of the stream that leaves the given stream behind. -/
def takeLine (version : String) (stream : LineStream) (line : String) : Watcher × WatcherStep :=
  let stay : Watcher := { stage := .watching version, stream }
  match WatchLine.read line with
  | .cutShort => (stay, .moved)
  | .malformed => (stay, .yielded .failed)
  | .message content =>
    match content with
    | .added resource | .modified resource => takeObject stream resource (.apply resource)
    | .deleted resource => takeObject stream resource (.delete resource)
    | .bookmark version => ({ stage := .watching version, stream }, .moved)
    | .failure code => if code = goneCode then restart else (stay, .yielded .failed)

/-- A step of a watcher. -/
def step (watcher : Watcher) : Watcher × WatcherStep :=
  match watcher.stage with
  | .empty => ({ stage := .page none [] none }, .yielded (.event .init))
  | .page continueToken (resource :: objects) version =>
    ({ stage := .page continueToken objects version }, .yielded (.event (.initApply resource)))
  | .page none [] (some version) => ({ stage := .listed version }, .yielded (.event .initDone))
  | .page continueToken [] _ =>
    match watcher.reply with
    | some (.page page) => takePage page
    | some _ => restart
    | none => watcher.await (.list continueToken)
  | .listed version =>
    match watcher.reply with
    | some _ => ({ stage := .watching version, stream := watcher.stream }, .moved)
    | none => watcher.await (.watch version)
  | .watching version =>
    match watcher.stream.next with
    | .line line behind => takeLine version behind line
    | .waiting => (watcher, .waiting)
    | .ended => ({ stage := .listed version }, .moved)

/-- How many steps the watcher can take at most before it waits: one for each object of its page,
one for each line that has come, and a few to change from one stage to the next. -/
def backlog (watcher : Watcher) : Nat :=
  let objects := match watcher.stage with
    | .page _ objects _ => objects.length
    | _ => 0
  let listed := match watcher.reply with
    | some (.page page) => page.objects.length
    | _ => 0
  objects + listed + watcher.stream.text.length + 8

end Watcher

end HostRoster
