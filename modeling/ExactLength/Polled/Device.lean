import ExactLength.Reply
import ExactLength.Source

/-!
# Polled devices

A polled device does not make its caller wait: an operation that cannot be done yet is answered by "pending", and
the caller asks again later. Its errors are I/O errors, and there is no way to give it up but to stop asking.
-/

namespace ExactLength

/-- The answer to a poll. -/
inductive Poll (α : Type) where
  /-- Not yet. -/
  | pending
  /-- Done, or failed. -/
  | ready (result : Except IoError α)

/-- The same answer with its value passed through a function. -/
def Poll.map {α β : Type} (f : α → β) : Poll α → Poll β
  | pending => pending
  | ready result => ready (result.map f)

/-- The outcome of a poll. -/
abbrev PollReply (ω α : Type) := Outcome ω (Poll α)

/-- The operations of a polled device whose state has type `ω`. -/
structure PolledDevice (ω : Type) where
  /-- Writes from a run of bytes, and reports how many it took. -/
  pollWrite : ω → Bytes → PollReply ω UInt64
  /-- Writes from several runs of bytes in order, and reports how many it took. -/
  pollWriteMany : ω → List Bytes → PollReply ω UInt64
  /-- Flushes. -/
  pollFlush : ω → PollReply ω Unit
  /-- Ends the write side. -/
  pollClose : ω → PollReply ω Unit

end ExactLength
