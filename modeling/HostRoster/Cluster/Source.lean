import HostRoster.Cluster.Watcher

/-!
# Cluster sources

A cluster source watches the configuration maps of a namespace and hands their changes to its
handler. It runs the retry loop over a watcher on a clock of milliseconds: a wait that has begun is
over once the clock has come to its end.

While it waits, a source looks for a request to stop as well, and in no certain order: if the wait
is over or the watcher can go on, a request to stop may have to wait for a later turn. The turn is
given the order as an argument (`ClusterSource.turn`).
-/

set_option autoImplicit false

namespace HostRoster

/-- A source that watches a cluster. -/
structure ClusterSource (Handler : Type) where
  /-- How it waits after failures. -/
  retry : RetrySettings
  /-- Who is registered. -/
  registration : Option (Registration Handler) := none
  /-- Whether the watch has begun. -/
  isStarted : Bool := false
  /-- The watcher. -/
  watcher : Watcher := {}
  /-- The loop over its items. -/
  loop : RetryLoop := {}
  /-- The time. -/
  clock : Nat := 0
  /-- When the wait that has begun is over. -/
  wakeTime : Nat := 0
  /-- What goes with the next item. -/
  chance : Chance := {}
  deriving Repr

namespace ClusterSource

variable {Handler : Type}

/-- Registers a handler for a namespace. -/
def register (source : ClusterSource Handler) (namespaceName : String) (handler : Handler) :
    Except RegistrationError (ClusterSource Handler) :=
  (Registration.register source.registration namespaceName handler).map
    fun registration => { source with registration := some registration }

/-- The path of the configuration maps of a namespace. -/
def path (namespaceName : String) : String :=
  "/api/v1/namespaces/" ++ namespaceName ++ "/configmaps"

/-! ## Turns -/

/-- What is reported about a source that nobody registered with. -/
def unregisteredEntry : LogEntry :=
  ⟨.warn, .cluster, "ConfigMap watch source started without a handler", []⟩

/-- A step of the loop. -/
def perform (source : ClusterSource Handler) (namespaceName : String) (action : RetryLoop.Action) :
    ClusterSource Handler × List Output :=
  let (loop, outputs) :=
    source.loop.perform Tracker.sortNames namespaceName source.retry action
  let wakeTime := loop.phase.wakeTime source.clock source.wakeTime
  ({ source with loop, wakeTime }, outputs)

/-- Whether what the source waits for is there: the end of its wait, or a step of its watcher. -/
def isReady (source : ClusterSource Handler) : Bool :=
  source.loop.phase.isReady source.watcher.step.2.goesOn source.clock source.wakeTime

/-- A turn: the source ends if it has broken down or heeds a request to stop, and goes on if what it
waits for is there. -/
def turn (stopRequested readyFirst : Bool) (source : ClusterSource Handler) :
    Turn (ClusterSource Handler) :=
  match source.registration with
  | none => .ended .returned [.entry unregisteredEntry]
  | some { namespaceName, .. } =>
    if !source.isStarted then
      .acted { source with isStarted := true }
        [.entry (RetryLoop.startEntry namespaceName source.retry)]
    else if source.loop.phase = .brokenDown then .ended (.brokeDown source.chance.wording) []
    else if RetryLoop.heedsStop stopRequested source.isReady readyFirst then
      .ended .returned (source.perform namespaceName .stop).2
    else match source.loop.phase with
      | .waiting _ =>
        if source.clock < source.wakeTime then .waiting source
        else
          let (source, outputs) := source.perform namespaceName .elapsed
          .acted source outputs
      | .listening =>
        match source.watcher.step with
        | (watcher, .waiting) => .waiting { source with watcher }
        | (watcher, .moved) => .acted { source with watcher } []
        | (watcher, .yielded item) =>
          let (source, outputs) :=
            { source with watcher }.perform namespaceName (.item item source.chance)
          .acted source outputs
      | .stopped | .brokenDown => .ended .returned []

/-- A cluster as the source of the host list. A session has it look for the request to stop
first. -/
instance : WatchSource (ClusterSource Unit) where
  register namespaceName source := source.register namespaceName ()
  turn stopRequested source := source.turn stopRequested false
  backlog source := 2 * source.watcher.backlog

/-! ## The cluster and the clock -/

/-- The request that waits for a reply; while the loop waits, none is sent. -/
def pending? (source : ClusterSource Handler) : Option ClusterRequest :=
  source.watcher.request

/-- Takes a reply of the cluster, if it answers the request that waits. -/
def answer? (source : ClusterSource Handler) (reply : ClusterReply) :
    Option (ClusterSource Handler) :=
  (source.watcher.answer? reply).map fun watcher => { source with watcher }

/-- Changes the stream of the watch. -/
def feed (source : ClusterSource Handler) (change : LineStream → LineStream) :
    ClusterSource Handler :=
  { source with watcher := source.watcher.feed change }

/-- When the wait ends that has begun. -/
def wakesAt? (source : ClusterSource Handler) : Option Nat :=
  match source.loop.phase with
  | .waiting _ => some source.wakeTime
  | _ => none

/-- Sets the clock. -/
def setClock (source : ClusterSource Handler) (clock : Nat) : ClusterSource Handler :=
  { source with clock }

end ClusterSource

end HostRoster
