import HostRoster.Lifecycle.Broadcast

/-!
# Shutdown

A shutdown tells its subscribers once that they are to stop. Only the first trigger sends the
signal; who subscribes later receives nothing. Dropping the shutdown closes it for everyone, after
a signal that is still waiting.
-/

set_option autoImplicit false

namespace HostRoster

/-- A signal to stop that is given at most once. -/
structure Shutdown where
  /-- The signal on its way to the subscribers. -/
  broadcast : Broadcast := { room := 1 }
  /-- Whether the signal has been given. -/
  triggered : Bool := false
  deriving DecidableEq, Repr, Inhabited

namespace Shutdown

/-- Whether the shutdown has been dropped. -/
def isDropped (shutdown : Shutdown) : Bool := shutdown.broadcast.isClosed

/-- Adds a subscriber; also returns its number. -/
def subscribe (shutdown : Shutdown) : Shutdown × Nat :=
  let (broadcast, subscriber) := shutdown.broadcast.subscribe
  ({ shutdown with broadcast }, subscriber)

/-- Gives the signal, unless it has been given. -/
def trigger (shutdown : Shutdown) : Shutdown :=
  if shutdown.triggered then shutdown
  else { broadcast := shutdown.broadcast.send, triggered := true }

/-- Drops the shutdown. -/
def drop (shutdown : Shutdown) : Shutdown :=
  { shutdown with broadcast := shutdown.broadcast.close }

/-- An attempt of a subscriber to receive the signal. -/
def receive (shutdown : Shutdown) (subscriber : Nat) : Received × Shutdown :=
  let (received, broadcast) := shutdown.broadcast.receive subscriber
  (received, { shutdown with broadcast })

/-- Whether a subscriber is to stop: its signal is waiting or the shutdown is dropped. -/
def reaches (shutdown : Shutdown) (subscriber : Nat) : Bool :=
  shutdown.broadcast.isReady subscriber

/-! ## Steps -/

/-- What can happen to a shutdown. -/
inductive Action where
  /-- Someone subscribes. -/
  | subscribe
  /-- The signal is given. -/
  | trigger
  /-- The shutdown is dropped. -/
  | drop
  /-- A subscriber tries to receive. -/
  | receive (subscriber : Nat)
  deriving DecidableEq, Repr

/-- What a step answers. -/
inductive Answer where
  /-- The number of the new subscriber. -/
  | subscriber (number : Nat)
  /-- The step is done. -/
  | done
  /-- The shutdown is dropped already. -/
  | gone
  /-- What the subscriber found. -/
  | received (found : Received)
  deriving DecidableEq, Repr

/-- A step of a shutdown. -/
def perform (shutdown : Shutdown) : Action → Answer × Shutdown
  | .subscribe =>
    if shutdown.isDropped then (.gone, shutdown)
    else
      let (next, number) := shutdown.subscribe
      (.subscriber number, next)
  | .trigger => if shutdown.isDropped then (.gone, shutdown) else (.done, shutdown.trigger)
  | .drop => (.done, shutdown.drop)
  | .receive subscriber =>
    let (found, next) := shutdown.receive subscriber
    (.received found, next)

/-- The answers of steps, and the shutdown afterwards. -/
def performAll (shutdown : Shutdown) : List Action → List Answer × Shutdown
  | [] => ([], shutdown)
  | action :: actions =>
    let (answer, next) := shutdown.perform action
    let (answers, last) := next.performAll actions
    (answer :: answers, last)

end Shutdown

end HostRoster
