import HostRoster.Cluster.Source
import HostRoster.Sync.Session

/-!
# Sessions with a cluster

Time passes for a session with a cluster in leaps: all tasks run until none has anything to do, and
then the clock goes to the end of the wait that has begun, as long as that end lies in the time that
passes.
-/

set_option autoImplicit false

namespace HostRoster

/-- A run whose source watches a cluster. -/
abbrev ClusterSession := Session (ClusterSource Unit)

namespace Session

/-- The time of a session. -/
def clock (session : ClusterSession) : Nat := (session.source.map ClusterSource.clock).getD 0

/-- The request that waits for a reply of the cluster. -/
def pending? (session : ClusterSession) : Option ClusterRequest :=
  session.source.bind ClusterSource.pending?

/-- Hands a reply to the source, if it answers the request that waits. -/
def answer? (session : ClusterSession) (reply : ClusterReply) : Option ClusterSession := do
  let source ← session.source
  let answered ← source.answer? reply
  return session.feed fun _ => answered

/-- Whether the source reads the stream that the cluster has opened. -/
def isReading (session : ClusterSession) : Bool :=
  (session.source.map fun source => source.watcher.isReading).getD false

/-- Sets the clock. -/
def setClock (session : ClusterSession) (clock : Nat) : ClusterSession :=
  session.feed fun source => source.setClock clock

/-- Runs all tasks and goes on to the end of a wait, so many times, until a time is reached. -/
def leap (session : ClusterSession) (ending : Nat) : Nat → ClusterSession × List Output
  | 0 => (session.setClock ending, [])
  | leaps + 1 =>
    let (settled, first) := session.settle
    match settled.source.bind ClusterSource.wakesAt? with
    | none => (settled.setClock ending, first)
    | some wakeTime =>
      if ending < wakeTime then (settled.setClock ending, first)
      else
        let (last, rest) := leap (settled.setClock wakeTime) ending leaps
        (last, first ++ rest)

/-- How many leaps suffice: every wait but the first follows a failure, which takes a line or a
reply. -/
def enoughLeaps (session : ClusterSession) : Nat :=
  (session.source.map WatchSource.backlog).getD 0 + 2

/-- Lets so many milliseconds pass. -/
def pass (session : ClusterSession) (milliseconds : Nat) : ClusterSession × List Output :=
  session.leap (session.clock + milliseconds) session.enoughLeaps

end Session

end HostRoster
