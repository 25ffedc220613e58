/-!
# Errors

Two kinds of error meet in this library. An I/O error is what a device, a file or a stream reports: one of a
set of kinds, alone or together with a payload. A sink error is what a sink reports: a refusal with its
cause, or an I/O error passed on. Each may carry the other: a sink passes I/O errors on, and where only I/O
errors can be returned a sink error travels as the payload of one.

`SinkError.toIo` packs a sink error for such a passage and `SinkError.ofIo` unpacks it. Unpacking looks at the
payload itself, one level deep, and leaves every other I/O error as it is.
-/

namespace ExactLength

/-! ### Results -/

theorem map_eq_ok_iff {ε α β : Type} {f : α → β} {x : Except ε α} {b : β} :
    x.map f = .ok b ↔ ∃ a, x = .ok a ∧ f a = b := by
  cases x <;> simp [Except.map]

theorem map_eq_error_iff {ε α β : Type} {f : α → β} {x : Except ε α} {e : ε} :
    x.map f = .error e ↔ x = .error e := by
  cases x <;> simp [Except.map]

/-! ### Errors -/

/-- Kinds of I/O errors. Only some of those that a system knows are listed: the ones that the library tells apart or
reports itself, and the commonest besides. -/
inductive IoKind where
  | notFound
  | permissionDenied
  | connectionRefused
  | connectionReset
  | connectionAborted
  | notConnected
  | addrInUse
  | brokenPipe
  | alreadyExists
  | wouldBlock
  | invalidInput
  | invalidData
  | timedOut
  | writeZero
  | interrupted
  | unsupported
  | unexpectedEof
  | outOfMemory
  | other
  deriving DecidableEq

/-- Why an argument is not acceptable. -/
inductive ArgumentFault where
  /-- A content length beyond the largest one. -/
  | tooLong
  /-- A content length below zero. -/
  | negative
  /-- A text that is not a decimal content length. -/
  | notDecimal
  /-- A new cycle while the previous one is still open. -/
  | cycleOpen
  /-- A reason stated by somebody else's sink. -/
  | stated (reason : String)
  deriving DecidableEq

mutual

/-- What a device, a file or a stream reports. -/
inductive IoError where
  /-- An error that is no more than its kind. -/
  | plain (kind : IoKind)
  /-- An error explained by a text. -/
  | explained (kind : IoKind) (text : String)
  /-- An error whose payload is another I/O error. -/
  | wrapping (kind : IoKind) (inner : IoError)
  /-- An error whose payload is a sink error. -/
  | carrying (kind : IoKind) (inner : SinkError)

/-- What a sink reports. -/
inductive SinkError where
  /-- An I/O error passed on. -/
  | io (cause : IoError)
  /-- An argument was refused. -/
  | invalidArgument (fault : ArgumentFault)
  /-- The write side is closed. -/
  | closedChannel
  /-- More bytes were offered than may still be written. -/
  | overflow
  /-- The write side was shut down while bytes were still owed. -/
  | underflow (remaining : UInt64)

end

deriving instance DecidableEq for IoError, SinkError

namespace IoError

/-- The kind of an I/O error. -/
def kind : IoError → IoKind
  | plain k => k
  | explained k _ => k
  | wrapping k _ => k
  | carrying k _ => k

/-- Whether the error has a payload besides its kind. -/
def hasPayload : IoError → Bool
  | plain _ => false
  | _ => true

/-- Whether the payload is a sink error. -/
def holdsSinkError : IoError → Bool
  | carrying _ _ => true
  | _ => false

/-- Whether the operation was cut short and is to be repeated at once. -/
def isInterrupted (e : IoError) : Bool :=
  e.kind == .interrupted

/-- Whether the error only means that nothing could be done yet. -/
def isRetryable (e : IoError) : Bool :=
  e.kind == .wouldBlock || e.kind == .interrupted

end IoError

namespace SinkError

/-- Whether the error means that the write side is closed. -/
def isClosed : SinkError → Bool
  | closedChannel => true
  | _ => false

/-- The sink error that an I/O error stands for: its payload if that is a sink error, else the error itself. -/
def ofIo : IoError → SinkError
  | .carrying _ inner => inner
  | e => .io e

/-- The I/O error that carries a sink error to where only I/O errors are returned. -/
def toIo : SinkError → IoError
  | io cause => cause
  | invalidArgument fault => .carrying .invalidInput (invalidArgument fault)
  | closedChannel => .carrying .brokenPipe closedChannel
  | overflow => .carrying .invalidData overflow
  | underflow remaining => .carrying .unexpectedEof (underflow remaining)

/-- A refusal survives the passage as an I/O error. -/
theorem ofIo_toIo {e : SinkError} (h : ∀ cause, e ≠ .io cause) : ofIo e.toIo = e := by
  cases e with
  | io cause => exact absurd rfl (h cause)
  | _ => rfl

/-- An I/O error without a sink error in it stands for itself. -/
theorem ofIo_of_not_holds {cause : IoError} (h : cause.holdsSinkError = false) : ofIo cause = .io cause := by
  cases cause with
  | carrying kind inner => cases h
  | _ => rfl

end SinkError

end ExactLength
