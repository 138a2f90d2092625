import HostRoster.Lifecycle.Shutdown
import HostRoster.Log

/-!
# Termination signals

The first signal of the operating system that asks the program to end triggers its shutdown.
-/

set_option autoImplicit false

namespace HostRoster

/-- A signal that asks the program to end. -/
inductive TerminationSignal where
  /-- The interruption from the keyboard. -/
  | interrupt
  /-- The request to terminate. -/
  | terminate
  deriving DecidableEq, Repr

namespace TerminationSignal

/-- What is reported about a signal. -/
def entry : TerminationSignal → LogEntry
  | .interrupt => ⟨.info, .signals, "Received Ctrl-C", []⟩
  | .terminate => ⟨.info, .signals, "Received SIGTERM", []⟩

/-- The shutdown after a signal, and what is reported. -/
def stop (signal : TerminationSignal) (shutdown : Shutdown) : Shutdown × List LogEntry :=
  (shutdown.trigger, [signal.entry])

end TerminationSignal

end HostRoster
