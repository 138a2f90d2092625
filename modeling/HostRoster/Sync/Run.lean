import HostRoster.Lifecycle.Shutdown
import HostRoster.Roster
import HostRoster.Watch.Source

/-!
# Runs

A run keeps the roster in step with a source until it is cancelled. It gives the source a task of
its own and a stop signal of its own, and waits for the cancellation or the end of the source,
whichever comes first. At the cancellation it freezes the roster, stops the source and waits for the
source to end; if the source has ended before, the run goes on waiting for the cancellation. The end
of the source is reported once, and then the run returns.

The roster can be called from anywhere while all this happens: by the task of the source, and by
whoever else holds the handler. `SyncRun.perform` says what each possible step does, so that the
lists of actions are all the orders in which steps can follow each other.
-/

set_option autoImplicit false

namespace HostRoster

/-- Where a run stands. -/
inductive RunPhase where
  /-- It has not been started. -/
  | notStarted
  /-- It has been started and has not had a turn. -/
  | spawned
  /-- It waits for the cancellation or the end of the source. -/
  | watching
  /-- It was cancelled and waits for the end of the source. -/
  | draining
  /-- The source has ended, and it waits for the cancellation. -/
  | unattended
  /-- It has returned, possibly with an error. -/
  | returned (failure : Option RegistrationError)
  deriving DecidableEq, Repr

/-- Where the task of the source stands. -/
inductive WatchPhase where
  /-- There is none. -/
  | absent
  /-- It is under way. -/
  | active
  /-- It has ended. -/
  | ended (how : WatchEnd)
  deriving DecidableEq, Repr

/-- A run with all that it depends on. -/
structure SyncRun where
  /-- The namespace that is watched. -/
  namespaceName : String
  /-- Whether a source has been set up. -/
  hasSource : Bool
  /-- The roster. -/
  roster : Roster := {}
  /-- Where the run stands. -/
  phase : RunPhase := .notStarted
  /-- Where the source stands. -/
  watch : WatchPhase := .absent
  /-- The shutdown that cancels the run. -/
  shutdown : Shutdown := {}
  /-- The number under which the run listens to the shutdown. -/
  subscription : Option Nat := none
  /-- The signal that the run stops its source with. -/
  stop : Shutdown := {}
  /-- The number under which the source listens to its stop signal. -/
  listener : Nat := 0
  deriving DecidableEq, Repr

namespace SyncRun

/-! ## Reports -/

/-- What is reported when a source is set up. -/
def setUpEntry (namespaceName : String) : LogEntry :=
  ⟨.info, .sync, "ConfigSync::initialize", [("namespace", .text namespaceName)]⟩

/-- What is reported when the run begins. -/
def startEntry : LogEntry := ⟨.debug, .sync, "ConfigSync::run", []⟩

/-- What is reported about the end of the source. -/
def endEntry : WatchEnd → LogEntry
  | .returned => ⟨.debug, .sync, "Watch loop exited", []⟩
  | .brokeDown wording =>
    ⟨.error, .sync, "Watch loop panicked; host list frozen at its last state",
      [("error", .text wording)]⟩
  | .cancelled wording =>
    ⟨.warn, .sync, "Watch loop cancelled", [("error", .text wording)]⟩

/-- What is reported when the run returns. -/
def stoppedEntry (run : SyncRun) : LogEntry :=
  ⟨.info, .sync, "ConfigSync stopped",
    [("namespace", .text run.namespaceName), ("hosts", .number run.roster.hosts.length)]⟩

/-! ## The turns of the run -/

/-- Whether the run is told to stop. -/
def isCancelled (run : SyncRun) : Bool :=
  match run.subscription with
  | none => false
  | some subscriber => run.shutdown.reaches subscriber

/-- Whether the source is told to stop. -/
def stopRequested (run : SyncRun) : Bool := run.stop.reaches run.listener

/-- Freezes the roster and stops the source. -/
def halt (run : SyncRun) : SyncRun :=
  { run with roster := run.roster.freeze, stop := run.stop.trigger }

/-- Returns. -/
def finish (run : SyncRun) : SyncRun × List LogEntry :=
  ({ run with phase := .returned none }, [run.stoppedEntry])

/-- What comes of a cancellation while the source may be under way. -/
def cancel (run : SyncRun) : SyncRun × List LogEntry :=
  match run.watch with
  | .ended how =>
    let (next, entries) := run.halt.finish
    (next, endEntry how :: entries)
  | _ => ({ run.halt with phase := .draining }, [])

/-- What comes of the end of the source while the run may be cancelled. -/
def noticeEnd (run : SyncRun) (how : WatchEnd) : SyncRun × List LogEntry :=
  if run.isCancelled then
    let (next, entries) := run.halt.finish
    (next, endEntry how :: entries)
  else ({ run with phase := .unattended }, [endEntry how])

/-- A look at the cancellation and at the source; if both are ready, the choice decides. -/
def attend (run : SyncRun) (watchFirst : Bool) : SyncRun × List LogEntry :=
  match run.watch with
  | .ended how =>
    if run.isCancelled && !watchFirst then run.cancel else run.noticeEnd how
  | _ => if run.isCancelled then run.cancel else (run, [])

/-- Gives the source its task, with a stop signal that it listens to. -/
def launch (run : SyncRun) : SyncRun :=
  let (stop, listener) := run.stop.subscribe
  { run with stop, listener, watch := .active, phase := .watching }

/-- A turn of the run: all that it does up to the point where it has to wait. -/
def advance (run : SyncRun) (watchFirst : Bool) : SyncRun × List LogEntry :=
  match run.phase with
  | .spawned =>
    if run.hasSource then
      let (next, entries) := run.launch.attend watchFirst
      (next, startEntry :: entries)
    else ({ run with phase := .returned (some .notRegistered) }, [startEntry])
  | .watching => run.attend watchFirst
  | .draining =>
    match run.watch with
    | .ended how =>
      let (next, entries) := run.finish
      (next, endEntry how :: entries)
    | _ => (run, [])
  | .unattended => if run.isCancelled then run.halt.finish else (run, [])
  | .notStarted | .returned _ => (run, [])

/-! ## Steps -/

/-- What can happen to a run. -/
inductive Action where
  /-- The run's subscription to the shutdown is taken. -/
  | subscribe
  /-- The run is started. -/
  | start
  /-- The shutdown is triggered. -/
  | trigger
  /-- The shutdown is dropped. -/
  | dropShutdown
  /-- The roster is called by someone else than the source. -/
  | call (event : ResourceEvent)
  /-- The source hands an event to the roster. -/
  | deliver (event : ResourceEvent)
  /-- The source ends. -/
  | endWatch (how : WatchEnd)
  /-- The run takes a turn. -/
  | advance (watchFirst : Bool)
  deriving Repr

/-- Takes a subscription, unless the run has been started or the shutdown dropped. -/
def takeSubscription (run : SyncRun) : SyncRun :=
  if run.phase = .notStarted ∧ !run.shutdown.isDropped then
    let (shutdown, subscriber) := run.shutdown.subscribe
    { run with shutdown, subscription := some subscriber }
  else run

/-- Starts the run with the subscription it has or a new one; not twice, nor without a subscription
after the shutdown has been dropped. -/
def start (run : SyncRun) : SyncRun :=
  if run.phase = .notStarted ∧ (run.subscription.isSome ∨ !run.shutdown.isDropped) then
    let run := if run.subscription.isSome then run else run.takeSubscription
    { run with phase := .spawned }
  else run

/-- A step, and what is reported. -/
def perform (run : SyncRun) : Action → SyncRun × List LogEntry
  | .subscribe => (run.takeSubscription, [])
  | .start => (run.start, [])
  | .trigger => ({ run with shutdown := run.shutdown.trigger }, [])
  | .dropShutdown => ({ run with shutdown := run.shutdown.drop }, [])
  | .call event => ({ run with roster := run.roster.handle event }, run.roster.entries event)
  | .deliver event =>
    if run.watch = .active then
      ({ run with roster := run.roster.handle event }, run.roster.entries event)
    else (run, [])
  | .endWatch how => (if run.watch = .active then { run with watch := .ended how } else run, [])
  | .advance watchFirst => run.advance watchFirst

/-- Steps in their order, and what is reported. -/
def performAll (run : SyncRun) : List Action → SyncRun × List LogEntry
  | [] => (run, [])
  | action :: actions =>
    let (next, entries) := run.perform action
    let (last, rest) := next.performAll actions
    (last, entries ++ rest)

end SyncRun

end HostRoster
