/-!
# Phases of a session

A session is started once and finished once: it is fresh, then opened, then closed for good.
-/

namespace GpuTelemetry.Session

/-- How far a session has come. -/
inductive Phase where
  | fresh
  | opened
  | closed
  deriving Repr, DecidableEq

/-- The word for a phase in messages. -/
def Phase.word : Phase → String
  | .fresh => "new"
  | .opened => "open"
  | .closed => "closed"

end GpuTelemetry.Session
