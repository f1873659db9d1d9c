/-!
# Signals

A run ends when the system asks it to.
-/

namespace PortTunnel

/-- The signals that end a run. -/
inductive Signal where
  | interrupt
  | terminate
  deriving DecidableEq, Repr

/-- The system's name of a signal. -/
def Signal.name : Signal → String
  | interrupt => "SIGINT"
  | terminate => "SIGTERM"

end PortTunnel
