import ExactLength.Error.Basic
import ExactLength.Text.Outline

/-!
# Texts of errors

For every error: its message, its outline, and the messages of the errors that caused it, nearest cause first.
A plain I/O error has no cause. The cause of one with a payload is the cause of its payload, and the cause of a
sink error that passes an I/O error on is that I/O error.
-/

namespace ExactLength

open Text (Outline)

/-- The name of a kind. -/
def IoKind.name : IoKind → String
  | notFound => "NotFound"
  | permissionDenied => "PermissionDenied"
  | connectionRefused => "ConnectionRefused"
  | connectionReset => "ConnectionReset"
  | connectionAborted => "ConnectionAborted"
  | notConnected => "NotConnected"
  | addrInUse => "AddrInUse"
  | brokenPipe => "BrokenPipe"
  | alreadyExists => "AlreadyExists"
  | wouldBlock => "WouldBlock"
  | invalidInput => "InvalidInput"
  | invalidData => "InvalidData"
  | timedOut => "TimedOut"
  | writeZero => "WriteZero"
  | interrupted => "Interrupted"
  | unsupported => "Unsupported"
  | unexpectedEof => "UnexpectedEof"
  | outOfMemory => "OutOfMemory"
  | other => "Other"

/-- The message of an error that is no more than its kind. -/
def IoKind.message : IoKind → String
  | notFound => "entity not found"
  | permissionDenied => "permission denied"
  | connectionRefused => "connection refused"
  | connectionReset => "connection reset"
  | connectionAborted => "connection aborted"
  | notConnected => "not connected"
  | addrInUse => "address in use"
  | brokenPipe => "broken pipe"
  | alreadyExists => "entity already exists"
  | wouldBlock => "operation would block"
  | invalidInput => "invalid input parameter"
  | invalidData => "invalid data"
  | timedOut => "timed out"
  | writeZero => "write zero"
  | interrupted => "operation interrupted"
  | unsupported => "unsupported"
  | unexpectedEof => "unexpected end of file"
  | outOfMemory => "out of memory"
  | other => "other error"

/-- All kinds, in the order of their declaration. -/
def IoKind.all : List IoKind :=
  [notFound, permissionDenied, connectionRefused, connectionReset, connectionAborted, notConnected, addrInUse,
    brokenPipe, alreadyExists, wouldBlock, invalidInput, invalidData, timedOut, writeZero, interrupted,
    unsupported, unexpectedEof, outOfMemory, other]

/-- The kind of a given name. -/
def IoKind.ofName? (name : String) : Option IoKind :=
  IoKind.all.find? (·.name == name)

/-- The wording of a fault. -/
def ArgumentFault.message : ArgumentFault → String
  | tooLong => "content length is too long"
  | negative => "content length must be greater than or equal to zero"
  | notDecimal => "content length must be a non-negative decimal integer"
  | cycleOpen => "previous content-length cycle has not completed"
  | stated reason => reason

/-! ### Messages -/

mutual

/-- The message of an I/O error: that of its payload, or without one the message of its kind. -/
def IoError.message : IoError → String
  | .plain kind => kind.message
  | .explained _ text => text
  | .wrapping _ inner => inner.message
  | .carrying _ inner => inner.message

/-- The message of a sink error. -/
def SinkError.message : SinkError → String
  | .io cause => "io error: " ++ cause.message
  | .invalidArgument fault => "invalid argument: " ++ fault.message
  | .closedChannel => "channel is closed"
  | .overflow => "fixed-length overflow: write exceeds the remaining content length"
  | .underflow remaining => "fixed-length underflow: " ++ remaining.toNat.repr ++ " bytes remaining"

end

/-- The name of the kind of a sink error. -/
def SinkError.name : SinkError → String
  | io _ => "Io"
  | invalidArgument _ => "InvalidArgument"
  | closedChannel => "ClosedChannel"
  | overflow => "FixedLengthOverflow"
  | underflow _ => "FixedLengthUnderflow"

/-! ### Outlines -/

mutual

/-- The outline of an I/O error: its kind alone, or its kind and its payload. -/
def IoError.outline : IoError → Outline
  | .plain kind => .applied "Kind" (.word kind.name)
  | .explained kind text => .record "Custom" [("kind", .word kind.name), ("error", .ofText text)]
  | .wrapping kind inner => .record "Custom" [("kind", .word kind.name), ("error", inner.outline)]
  | .carrying kind inner => .record "Custom" [("kind", .word kind.name), ("error", inner.outline)]

/-- The outline of a sink error. -/
def SinkError.outline : SinkError → Outline
  | .io cause => .applied "Io" cause.outline
  | .invalidArgument fault => .record "InvalidArgument" [("message", .ofText fault.message)]
  | .closedChannel => .word "ClosedChannel"
  | .overflow => .word "FixedLengthOverflow"
  | .underflow remaining => .record "FixedLengthUnderflow" [("remaining", .ofNat remaining.toNat)]

end

/-! ### Causes -/

mutual

/-- The messages of the causes of an I/O error. -/
def IoError.causes : IoError → List String
  | .plain _ => []
  | .explained _ _ => []
  | .wrapping _ inner => inner.causes
  | .carrying _ inner => inner.causes

/-- The messages of the causes of a sink error. -/
def SinkError.causes : SinkError → List String
  | .io cause => cause.message :: cause.causes
  | _ => []

end

end ExactLength
