/-!
# Broadcasts

A broadcast hands every signal that is sent to all who have subscribed before. Only the latest
signals are kept, as many as the broadcast has room for; who falls behind further is told how many
were missed. A broadcast that is closed still hands out what it keeps.
-/

set_option autoImplicit false

namespace HostRoster

/-- What an attempt to receive finds. -/
inductive Received where
  /-- A signal. -/
  | signal
  /-- That signals were missed, and how many. -/
  | missed (count : Nat)
  /-- No signal so far. -/
  | empty
  /-- No signal any more. -/
  | closed
  deriving DecidableEq, Repr

/-- A broadcast and how far each of its subscribers has come. -/
structure Broadcast where
  /-- How many signals are kept. -/
  room : Nat
  /-- How many signals have been sent. -/
  sent : Nat := 0
  /-- For each subscriber, how many of the signals sent lie behind it. -/
  positions : List Nat := []
  /-- Whether no more signals will be sent. -/
  isClosed : Bool := false
  deriving DecidableEq, Repr, Inhabited

namespace Broadcast

/-- Adds a subscriber, who receives what is sent from now on; also returns its number. -/
def subscribe (broadcast : Broadcast) : Broadcast × Nat :=
  ({ broadcast with positions := broadcast.positions ++ [broadcast.sent] },
    broadcast.positions.length)

/-- Sends a signal. -/
def send (broadcast : Broadcast) : Broadcast := { broadcast with sent := broadcast.sent + 1 }

/-- Sends nothing from now on. -/
def close (broadcast : Broadcast) : Broadcast := { broadcast with isClosed := true }

/-- What the subscriber at a position finds, and its position afterwards. -/
def receiveAt (broadcast : Broadcast) (position : Nat) : Received × Nat :=
  if broadcast.sent ≤ position then
    (if broadcast.isClosed then .closed else .empty, position)
  else if broadcast.room < broadcast.sent - position then
    (.missed (broadcast.sent - position - broadcast.room), broadcast.sent - broadcast.room)
  else (.signal, position + 1)

/-- An attempt of a subscriber to receive; who has not subscribed finds a closed broadcast. -/
def receive (broadcast : Broadcast) (subscriber : Nat) : Received × Broadcast :=
  match broadcast.positions[subscriber]? with
  | none => (.closed, broadcast)
  | some position =>
    let (received, next) := broadcast.receiveAt position
    (received, { broadcast with positions := broadcast.positions.set subscriber next })

/-- Whether an attempt to receive would find anything but an empty broadcast. -/
def isReady (broadcast : Broadcast) (subscriber : Nat) : Bool :=
  (broadcast.receive subscriber).1 != .empty

end Broadcast

end HostRoster
