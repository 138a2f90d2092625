import HostRoster.Sync.Run

/-!
# Sessions

A session is a run together with its source, and with the order in which their tasks get their
turns: a task that has something to do stands in a line, and the first of the line goes next. The
task of the source goes on until it has nothing to do or has taken as many turns as a task may take
at a time.
-/

set_option autoImplicit false

namespace HostRoster

/-- The tasks of a session. -/
inductive Task where
  /-- The task of the run. -/
  | run
  /-- The task of the source. -/
  | watch
  deriving DecidableEq, Repr

/-- A run, its source and the tasks that have something to do. -/
structure Session (Source : Type) where
  /-- The run. -/
  run : SyncRun
  /-- The source, until it has ended. -/
  source : Option Source
  /-- The tasks in the order of their turns. -/
  line : List Task := []

namespace Session

/-- How many turns a task takes at most before others get theirs. -/
def turnsAtATime : Nat := 128

variable {Source : Type}

/-- Sets up a session with a source, whose registration may fail. -/
def setUp [WatchSource Source] (namespaceName : String) (source : Source) :
    Session Source × Option RegistrationError :=
  match WatchSource.register namespaceName source with
  | .ok source => (⟨{ namespaceName, hasSource := true }, some source, []⟩, none)
  | .error cause => (⟨{ namespaceName, hasSource := false }, none, []⟩, some cause)

/-- Puts a task into the line, unless it stands there. -/
def wake (session : Session Source) (task : Task) : Session Source :=
  if task ∈ session.line then session else { session with line := session.line ++ [task] }

/-- A step of the run. -/
def perform (session : Session Source) (action : SyncRun.Action) : Session Source × List LogEntry :=
  let (run, entries) := session.run.perform action
  ({ session with run }, entries)

/-- Starts the run, while the shutdown has not been dropped. -/
def start (session : Session Source) : Session Source :=
  if session.run.shutdown.isDropped then session else (session.perform .start).1.wake .run

/-- Triggers the shutdown. -/
def trigger (session : Session Source) : Session Source := (session.perform .trigger).1.wake .run

/-- Drops the shutdown. -/
def dropShutdown (session : Session Source) : Session Source :=
  (session.perform .dropShutdown).1.wake .run

/-- Whether the task of the source is under way. -/
def isWatching (session : Session Source) : Bool := session.run.watch == .active

/-- Changes the source from outside, which gives its task something to do. -/
def feed (session : Session Source) (change : Source → Source) : Session Source :=
  let session := { session with source := session.source.map change }
  if session.isWatching then session.wake .watch else session

/-- Hands the outputs of the source on, with what the roster reports about them. -/
def deliver (session : Session Source) : List Output → Session Source × List Output
  | [] => (session, [])
  | .entry entry :: rest =>
    let (last, outputs) := session.deliver rest
    (last, .entry entry :: outputs)
  | .event event :: rest =>
    let (next, entries) := session.perform (.deliver event)
    let (last, outputs) := next.deliver rest
    (last, .event event :: entries.map .entry ++ outputs)

/-- At most so many turns of the source. -/
def watchTurns [WatchSource Source] (session : Session Source) :
    Nat → Session Source × List Output
  | 0 => (session.wake .watch, [])
  | turns + 1 =>
    match session.source with
    | none => (session, [])
    | some source =>
      match WatchSource.turn session.run.stopRequested source with
      | .waiting source => ({ session with source := some source }, [])
      | .acted source outputs =>
        let (next, first) := { session with source := some source }.deliver outputs
        let (last, rest) := next.watchTurns turns
        (last, first ++ rest)
      | .ended how outputs =>
        let (next, first) := { session with source := none }.deliver outputs
        ((next.perform (.endWatch how)).1.wake .run, first)

/-- A turn of the run; the source gets its turn after it if it was started or stopped. -/
def runTurn (session : Session Source) : Session Source × List Output :=
  let (next, entries) := session.perform (.advance false)
  let next :=
    if next.isWatching ∧ next.run.phase ≠ session.run.phase then next.wake .watch else next
  (next, entries.map .entry)

/-- The turn of the first task in the line. -/
def step [WatchSource Source] (session : Session Source) : Session Source × List Output :=
  match session.line with
  | [] => (session, [])
  | .run :: line => { session with line }.runTurn
  | .watch :: line => { session with line }.watchTurns turnsAtATime

/-- So many turns of tasks. -/
def steps [WatchSource Source] (session : Session Source) : Nat → Session Source × List Output
  | 0 => (session, [])
  | count + 1 =>
    let (next, first) := session.step
    let (last, rest) := next.steps count
    (last, first ++ rest)

/-- How many turns of tasks suffice until no task has anything to do: the run has at most four that
change something, and each turn of the source but a few takes something off its backlog. -/
def enoughSteps [WatchSource Source] (session : Session Source) : Nat :=
  (session.source.map WatchSource.backlog).getD 0 + 10

/-- Turns until no task has anything to do. -/
def settle [WatchSource Source] (session : Session Source) : Session Source × List Output :=
  session.steps session.enoughSteps

end Session

end HostRoster
