import HostRoster.Cluster.Backoff
import HostRoster.Cluster.Tracker

/-!
# Retry loops

A watcher yields events and failures. The loop hands the events to the tracker; after a failure it
waits, the longer the more failures there were in a row, and then goes on. It stops when it is asked
to, also while it waits, and when the watcher comes to its end. If a request to stop and what the
loop waits for are both there, either of them may go first (`RetryLoop.heedsStop`).
-/

set_option autoImplicit false

namespace HostRoster

/-- What a watcher yields. -/
inductive WatcherItem where
  /-- An event. -/
  | event (event : WatcherEvent)
  /-- A failure. -/
  | failed
  deriving Repr

/-- What goes with an item that a loop takes, and is not up to the loop. -/
structure Chance where
  /-- The random number for a wait. -/
  draw : Nat := 0
  /-- How an error is worded. -/
  wording : String := ""
  deriving Repr, Inhabited

/-- Where a loop stands. -/
inductive LoopPhase where
  /-- It takes the next item. -/
  | listening
  /-- It waits so many milliseconds. -/
  | waiting (delay : Nat)
  /-- It has stopped. -/
  | stopped
  /-- It has broken down. -/
  | brokenDown
  deriving DecidableEq, Repr

namespace LoopPhase

/-- When a loop wakes that has come to a phase; without a wait the time stays as it was. -/
def wakeTime (phase : LoopPhase) (clock before : Nat) : Nat :=
  match phase with
  | .waiting delay => clock + delay
  | _ => before

@[simp] theorem wakeTime_waiting (delay clock before : Nat) :
    (waiting delay).wakeTime clock before = clock + delay := rfl

@[simp] theorem wakeTime_listening (clock before : Nat) :
    listening.wakeTime clock before = before := rfl

/-- Whether what a loop waits for is there: the end of its wait, or what the watcher has to
offer. -/
def isReady (phase : LoopPhase) (offers : Bool) (clock wakeTime : Nat) : Bool :=
  match phase with
  | .waiting _ => wakeTime ≤ clock
  | .listening => offers
  | .stopped | .brokenDown => false

end LoopPhase

/-- A loop over the items of a watcher. -/
structure RetryLoop where
  /-- What is known of the objects. -/
  tracker : Tracker := {}
  /-- How many failures there were in a row. -/
  failures : Nat := 0
  /-- Where the loop stands. -/
  phase : LoopPhase := .listening
  /-- Whether the program checks its sums, and breaks down at one that is too large. -/
  checksSums : Bool := false
  deriving Repr, Inhabited

namespace RetryLoop

/-- What can happen to a loop. -/
inductive Action where
  /-- The watcher yields an item. -/
  | item (item : WatcherItem) (chance : Chance)
  /-- The watcher comes to its end. -/
  | ended
  /-- The wait is over. -/
  | elapsed
  /-- The loop is asked to stop. -/
  | stop
  deriving Repr

/-- What is reported when the loop begins. -/
def startEntry (namespaceName : String) (retry : RetrySettings) : LogEntry :=
  ⟨.info, .cluster, "ConfigMap watcher started",
    [("namespace", .text namespaceName), ("queue", .text retry.name)]⟩

/-- What is reported when the loop stops. -/
def stopEntry (namespaceName : String) : LogEntry :=
  ⟨.info, .cluster, "ConfigMap watcher stopped", [("namespace", .text namespaceName)]⟩

/-- What is reported when the watcher comes to its end. -/
def endedEntry : LogEntry := ⟨.warn, .cluster, "ConfigMap watch stream ended", []⟩

/-- What is reported about a failure. -/
def failureEntry (wording : String) (failures delay : Nat) : LogEntry :=
  ⟨.warn, .cluster, "ConfigMap watch failed, retrying",
    [("error", .text wording), ("failures", .number failures), ("delay_ms", .number delay)]⟩

/-- Whether a loop heeds a request to stop when it looks for it and for what it waits for. If both
are there, the one counts that it looks at first. -/
def heedsStop (stopRequested isReady readyFirst : Bool) : Bool :=
  stopRequested && !(isReady && readyFirst)

@[simp] theorem heedsStop_unrequested (isReady readyFirst : Bool) :
    heedsStop false isReady readyFirst = false := rfl

/-- Takes a failure: it is counted, and then the loop waits or breaks down. -/
def fail (retry : RetrySettings) (loop : RetryLoop) (chance : Chance) : RetryLoop × List Output :=
  let failures := nextFailures loop.failures
  if loop.checksSums && retry.overflows failures chance.draw then
    ({ loop with failures, phase := .brokenDown }, [])
  else
    let delay := retry.delay failures chance.draw
    ({ loop with failures, phase := .waiting delay },
      [.entry (failureEntry chance.wording failures delay)])

/-- A step of a loop for a namespace, with the order in which vanished names are reported. -/
def perform (arrange : List String → List String) (namespaceName : String)
    (retry : RetrySettings) (loop : RetryLoop) : Action → RetryLoop × List Output
  | .item item chance =>
    match loop.phase, item with
    | .listening, .event event =>
      let (tracker, outputs) := loop.tracker.apply arrange event
      ({ loop with tracker, failures := 0 }, outputs)
    | .listening, .failed => loop.fail retry chance
    | _, _ => (loop, [])
  | .ended =>
    match loop.phase with
    | .listening =>
      ({ loop with phase := .stopped }, [.entry endedEntry, .entry (stopEntry namespaceName)])
    | _ => (loop, [])
  | .elapsed =>
    match loop.phase with
    | .waiting _ => ({ loop with phase := .listening }, [])
    | _ => (loop, [])
  | .stop =>
    match loop.phase with
    | .stopped | .brokenDown => (loop, [])
    | .listening | .waiting _ =>
      ({ loop with phase := .stopped }, [.entry (stopEntry namespaceName)])

end RetryLoop

end HostRoster
