/-!
# Stream faults

Reading from a byte source and writing to a byte sink can fail. A fault has a kind, which decides how
a caller reacts, and a text of its own, which by default is the description of the kind.
-/

namespace BurstRelay

/-- The kinds of stream faults. -/
inductive FaultKind where
  | brokenPipe
  | connectionReset
  | connectionRefused
  | connectionAborted
  | notConnected
  | timedOut
  | wouldBlock
  | interrupted
  | permissionDenied
  | unexpectedEnd
  | invalidData
  | invalidInput
  | writeZero
  | outOfMemory
  | other
  deriving DecidableEq, Repr

namespace FaultKind

def description : FaultKind → String
  | brokenPipe => "broken pipe"
  | connectionReset => "connection reset"
  | connectionRefused => "connection refused"
  | connectionAborted => "connection aborted"
  | notConnected => "not connected"
  | timedOut => "timed out"
  | wouldBlock => "operation would block"
  | interrupted => "operation interrupted"
  | permissionDenied => "permission denied"
  | unexpectedEnd => "unexpected end of file"
  | invalidData => "invalid data"
  | invalidInput => "invalid input parameter"
  | writeZero => "write zero"
  | outOfMemory => "out of memory"
  | other => "other error"

end FaultKind

/-- A failed read, write or flush. -/
structure Fault where
  kind : FaultKind
  message : String
  deriving DecidableEq, Repr

namespace Fault

/-- The fault that has nothing to say beyond its kind. -/
def ofKind (kind : FaultKind) : Fault := ⟨kind, kind.description⟩

/-- A sink took no byte of a non-empty write. -/
def tookNothing : Fault := ⟨.writeZero, "failed to write whole buffer"⟩

/-- A source ended before the bytes that were asked for. -/
def endedEarly : Fault := ⟨.unexpectedEnd, "failed to fill whole buffer"⟩

end Fault

end BurstRelay
