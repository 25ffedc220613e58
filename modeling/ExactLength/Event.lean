import ExactLength.Error.Display

/-!
# Events

What the library tells an observer while it works: one event per accepted write or transfer, one when a cycle is
completed, and one at each step of a shutdown that somebody may want to know about.
-/

namespace ExactLength

/-- How much an event matters. -/
inductive Level where
  | trace
  | debug
  | warn
  deriving DecidableEq

/-- The name of a level. -/
def Level.name : Level → String
  | trace => "TRACE"
  | debug => "DEBUG"
  | warn => "WARN"

/-- Something that an observer is told. -/
inductive Event where
  /-- A gate passed a write on. -/
  | wrote (written remaining : UInt64)
  /-- A gate passed a write of several sources on. -/
  | wroteMany (written remaining : UInt64)
  /-- A gate passed a transfer from a file on. -/
  | transferredFile (requested transferred remaining : UInt64)
  /-- A gate passed a transfer from a stream on. -/
  | transferredStream (requested transferred remaining : UInt64)
  /-- A gate over a polled device passed a write on. -/
  | polledWrite (written remaining : UInt64)
  /-- A gate over a polled device passed a write of several buffers on. -/
  | polledWriteMany (written remaining : UInt64)
  /-- A cycle was completed with every byte written. -/
  | completed
  /-- A sink was shut down with bytes owed. -/
  | closedShort (remaining : UInt64)
  /-- A polled device was shut down with bytes owed. -/
  | polledClosedShort (remaining : UInt64)
  /-- A shutdown is passed on. -/
  | closePassedOn
  /-- What lies below could not be truncated. -/
  | truncationFailed (cause : SinkError)
  deriving DecidableEq

namespace Event

/-- How much the event matters. -/
def level : Event → Level
  | completed | closePassedOn | truncationFailed _ => .debug
  | closedShort _ | polledClosedShort _ => .warn
  | _ => .trace

/-- The event in words. -/
def message : Event → String
  | wrote .. => "fixed-length write"
  | wroteMany .. => "fixed-length vectored write"
  | transferredFile .. => "fixed-length file transfer"
  | transferredStream .. => "fixed-length stream transfer"
  | polledWrite .. => "fixed-length async write"
  | polledWriteMany .. => "fixed-length async vectored write"
  | completed => "fixed-length content fully written"
  | closedShort _ => "fixed-length sink closed before all bytes were written"
  | polledClosedShort _ => "fixed-length writer closed before all bytes were written"
  | closePassedOn => "propagating close downstream"
  | truncationFailed _ => "downstream truncation failed"

/-- A number among the details of an event. -/
def number (n : UInt64) : String :=
  n.toNat.repr

/-- The details of the event, each under its name. -/
def details : Event → List (String × String)
  | wrote written remaining | wroteMany written remaining | polledWrite written remaining
  | polledWriteMany written remaining =>
    [("written", number written), ("remaining", number remaining)]
  | transferredFile requested transferred remaining | transferredStream requested transferred remaining =>
    [("requested", number requested), ("transferred", number transferred), ("remaining", number remaining)]
  | closedShort remaining | polledClosedShort remaining => [("remaining", number remaining)]
  | truncationFailed cause => [("error", cause.message)]
  | completed | closePassedOn => []

end Event

end ExactLength
