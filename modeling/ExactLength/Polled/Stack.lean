import ExactLength.Polled.Gate
import ExactLength.Stack.Basic

/-!
# Stacks over a polled device

Since a gate over a polled device is a polled device, a stack of gates over one is one too, by recursion on the
number of gates. The operations as values, each meaning one poll, may enter a stack at any level. A history of
such a stack is a list of moves: polls, and new cycles of its gates.
-/

namespace ExactLength

/-- The polled device made of a number of gates over a polled device. -/
def PolledDevice.stacked {ω : Type} (D : PolledDevice ω) : (n : Nat) → PolledDevice (Stack ω n)
  | 0 => D
  | n + 1 => (D.stacked n).gated

/-- An operation of a polled device together with its arguments. -/
inductive PollCall where
  /-- A write of one run of bytes. -/
  | write (bytes : Bytes)
  /-- A write of several runs of bytes. -/
  | writeMany (runs : List Bytes)
  /-- A flush. -/
  | flush
  /-- The end of the write side. -/
  | close
  deriving DecidableEq

/-- Carries an operation out, as one poll. -/
def PolledDevice.perform {ω : Type} (D : PolledDevice ω) (device : ω) : PollCall → PollReply ω Yield
  | .write bytes => (D.pollWrite device bytes).mapResult (Poll.map .count)
  | .writeMany runs => (D.pollWriteMany device runs).mapResult (Poll.map .count)
  | .flush => (D.pollFlush device).mapResult (Poll.map Yield.ofUnit)
  | .close => (D.pollClose device).mapResult (Poll.map Yield.ofUnit)

namespace Stack

/-- Carries an operation out at a level of a stack over a polled device. -/
def pollAt {ω : Type} (D : PolledDevice ω) :
    {n : Nat} → Stack ω n → (level : Nat) → PollCall → PollReply (Stack ω n) Yield
  | n, s, 0, call => (D.stacked n).perform s call
  | 0, b, _ + 1, call => D.perform b call
  | _ + 1, ⟨gate, below⟩, level + 1, call => (pollAt D below level call).mapState (push gate)

end Stack

/-- One thing that happens to a stack over a polled device. -/
inductive PollMove where
  /-- One poll, which enters at a level. -/
  | poll (level : Nat) (call : PollCall)
  /-- The gate at a level starts a new cycle after a complete one. -/
  | renew (level : Nat) (length : UInt64) (passesClose : Bool)
  deriving DecidableEq

/-- What a move over a polled device comes to. -/
inductive PollResult where
  /-- The answer to a poll. -/
  | polled (answer : Poll Yield)
  /-- The result of a step that does not concern the device. -/
  | settled (result : Except SinkError Yield)

namespace Stack

/-- Makes a move. -/
def pollMove {ω : Type} (D : PolledDevice ω) {n : Nat} (s : Stack ω n) : PollMove → Outcome (Stack ω n) PollResult
  | .poll level call => (s.pollAt D level call).mapResult .polled
  | .renew level length passesClose =>
    match s.renew level length passesClose with
    | .ok s => ⟨.settled (.ok .unit), s, []⟩
    | .error e => ⟨.settled (.error e), s, []⟩

end Stack

end ExactLength
