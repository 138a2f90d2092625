import HostRoster.Event
import HostRoster.Log
import HostRoster.Watch.Registration

/-!
# Sources

A source of events runs in turns. In a turn it waits for something to happen, or acts, or ends. What
others notice of it are the events that it hands to its handler and the entries that it logs, in
the order in which they arise.
-/

set_option autoImplicit false

namespace HostRoster

/-- What others notice of a turn. -/
inductive Output where
  /-- An event is handed to the handler. -/
  | event (event : ResourceEvent)
  /-- Something is reported. -/
  | entry (entry : LogEntry)
  deriving Repr

/-- The events among outputs. -/
def Output.events (outputs : List Output) : List ResourceEvent :=
  outputs.filterMap fun
    | .event handed => some handed
    | .entry _ => none

/-- The log entries among outputs. -/
def Output.entries (outputs : List Output) : List LogEntry :=
  outputs.filterMap fun
    | .event _ => none
    | .entry reported => some reported

/-- How the task of a source ends; an end that is an error has a wording. -/
inductive WatchEnd where
  /-- The source has come to its end. -/
  | returned
  /-- The source broke down. -/
  | brokeDown (wording : String)
  /-- The task was taken away. -/
  | cancelled (wording : String)
  deriving DecidableEq, Repr

/-- A turn of a source. -/
inductive Turn (Source : Type) where
  /-- There is nothing to do. -/
  | waiting (source : Source)
  /-- The source did something and can go on. -/
  | acted (source : Source) (outputs : List Output)
  /-- The source did something and is at its end. -/
  | ended (how : WatchEnd) (outputs : List Output)

/-- A source of events. -/
class WatchSource (Source : Type) where
  /-- Registers the handler of the host list for a namespace. -/
  register : String → Source → Except RegistrationError Source
  /-- A turn; the first argument says whether the source has been asked to stop. -/
  turn : Bool → Source → Turn Source
  /-- How many turns the source can take at most before it waits. -/
  backlog : Source → Nat

end HostRoster
