import HostRoster.Watch.Source

/-!
# Scripted sources

A scripted source does what it is told: it hands on the events it is given, ends or breaks down. It
serves to try out how a run deals with its source, also with one that does not listen when it is
asked to stop.
-/

set_option autoImplicit false

namespace HostRoster

/-- A line of a script. -/
inductive Cue where
  /-- Hand on an event. -/
  | event (event : ResourceEvent)
  /-- End. -/
  | exit
  /-- Break down, with an error of this wording. -/
  | breakDown (wording : String)
  deriving Repr

/-- A source that follows a script. -/
structure ScriptedSource where
  /-- Whether the source listens when it is asked to stop. -/
  heedsStop : Bool
  /-- What is still to be done. -/
  cues : List Cue := []
  deriving Repr

namespace ScriptedSource

/-- Adds a line to the script. -/
def add (source : ScriptedSource) (cue : Cue) : ScriptedSource :=
  { source with cues := source.cues ++ [cue] }

/-- A turn: a request to stop goes first, if the source listens, then the next line. -/
def turn (stopRequested : Bool) (source : ScriptedSource) : Turn ScriptedSource :=
  if stopRequested && source.heedsStop then .ended .returned []
  else match source.cues with
    | [] => .waiting source
    | .event event :: rest => .acted { source with cues := rest } [.event event]
    | .exit :: _ => .ended .returned []
    | .breakDown wording :: _ => .ended (.brokeDown wording) []

/-- A scripted source as the source of the host list; it accepts every namespace. -/
instance : WatchSource ScriptedSource where
  register _ source := .ok source
  turn := turn
  backlog source := source.cues.length + 1

end ScriptedSource

end HostRoster
