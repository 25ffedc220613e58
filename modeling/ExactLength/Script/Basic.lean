import ExactLength.Error.Basic
import ExactLength.Source

/-!
# Scripts

A scripted base behaves as it is told: for each of its operations there is a queue of actions, and every call
takes the next one. With an empty queue a call succeeds, and a write takes all that it is shown. A script records
the calls that reach it and the bytes that it takes.
-/

namespace ExactLength

/-- How a scripted operation is to go. -/
inductive Action where
  /-- A write takes at most so many of the bytes it is shown. -/
  | take (most : Nat)
  /-- A write takes all that is offered, beyond what it is shown. -/
  | takeAll
  /-- A write takes all that it is shown, and reports this count. -/
  | claim (count : UInt64)
  /-- The operation fails. -/
  | fail (e : SinkError)
  /-- A flush has this result. -/
  | answer (b : Bool)
  /-- The operation cannot be done yet. -/
  | pending
  /-- As without an action. -/
  | plain
  deriving DecidableEq

/-- A call that reached a scripted base. -/
inductive Heard where
  /-- A write of a source with so many bytes, of which so many are shown. -/
  | write (remaining shown : Nat)
  /-- A write of several sources or runs of these sizes. -/
  | writeMany (sizes : List Nat)
  /-- A write of one run of bytes. -/
  | writeRun (size : Nat)
  /-- A transfer from a file. -/
  | transferFile (position count : UInt64)
  /-- A transfer from a stream. -/
  | transferStream (count : UInt64)
  /-- A flush. -/
  | flush
  /-- The end of the write side in order. -/
  | terminate
  /-- The write side is given up. -/
  | truncate
  /-- The end of the write side of a polled device. -/
  | close
  /-- The question whether writes are resumed. -/
  | isResumed
  /-- A wake-up. -/
  | wake
  /-- A wait of at most so many milliseconds. -/
  | wait (milliseconds : Option UInt64)
  deriving DecidableEq

/-- A scripted base: what it is told, and what it has seen. -/
structure Script where
  /-- The actions of writes. -/
  writes : List Action := []
  /-- The actions of flushes. -/
  flushes : List Action := []
  /-- The actions of terminations. -/
  terminations : List Action := []
  /-- The actions of truncations. -/
  truncations : List Action := []
  /-- The actions of waits. -/
  waits : List Action := []
  /-- The actions of closes. -/
  closes : List Action := []
  /-- Whether writes are resumed. -/
  resumed : Bool := false
  /-- Whether several runs are written as one; otherwise only one of them is. -/
  gathers : Bool := true
  /-- The calls heard. -/
  heard : List Heard := []
  /-- The bytes taken. -/
  taken : Bytes := []
  deriving DecidableEq

/-- What a write does that is shown some bytes of all that are offered: how many bytes it takes, and how many it
reports. -/
def Action.taking (shown offered : Nat) : Action → Except SinkError (Nat × UInt64)
  | take most => .ok (min most shown, UInt64.ofNat (min most shown))
  | takeAll => .ok (offered, UInt64.ofNat offered)
  | claim count => .ok (shown, count)
  | fail e => .error e
  | _ => .ok (shown, UInt64.ofNat shown)

/-- Whether an action lets an operation succeed. -/
def Action.succeeding : Action → Except SinkError Unit
  | fail e => .error e
  | _ => .ok ()

/-- Whether an action lets a flush succeed, and its result. -/
def Action.flushing : Action → Except SinkError Bool
  | fail e => .error e
  | answer b => .ok b
  | _ => .ok true

namespace Script

/-- Records a call. -/
def hear (s : Script) (call : Heard) : Script :=
  { s with heard := s.heard ++ [call] }

/-- Records bytes taken. -/
def accept (s : Script) (bytes : Bytes) : Script :=
  { s with taken := s.taken ++ bytes }

/-- Forgets what was recorded. -/
def forget (s : Script) : Script :=
  { s with heard := [], taken := [] }

/-- The next action of a queue, and the queue after it. -/
def next : List Action → Action × List Action
  | [] => (.plain, [])
  | action :: rest => (action, rest)

/-- Takes the next action of a write. -/
def nextWrite (s : Script) : Action × Script :=
  let (action, rest) := next s.writes
  (action, { s with writes := rest })

/-- Takes the next action of a flush. -/
def nextFlush (s : Script) : Action × Script :=
  let (action, rest) := next s.flushes
  (action, { s with flushes := rest })

/-- Takes the next action of a termination. -/
def nextTermination (s : Script) : Action × Script :=
  let (action, rest) := next s.terminations
  (action, { s with terminations := rest })

/-- Takes the next action of a truncation. -/
def nextTruncation (s : Script) : Action × Script :=
  let (action, rest) := next s.truncations
  (action, { s with truncations := rest })

/-- Takes the next action of a wait. -/
def nextWait (s : Script) : Action × Script :=
  let (action, rest) := next s.waits
  (action, { s with waits := rest })

/-- Takes the next action of a close. -/
def nextClose (s : Script) : Action × Script :=
  let (action, rest) := next s.closes
  (action, { s with closes := rest })

end Script

end ExactLength
