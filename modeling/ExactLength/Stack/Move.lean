import ExactLength.Stack.Basic

/-!
# Moves of a stack

All that may happen to a stack without its shape changing: a call that enters at some level, and a new cycle of one
of its gates, either after a complete one or unconditionally. A history of a stack is a list of moves.
-/

namespace ExactLength

/-- One thing that happens to a stack. -/
inductive Move where
  /-- A call enters at a level. -/
  | call (level : Nat) (call : Call)
  /-- The gate at a level starts a new cycle after a complete one. -/
  | renew (level : Nat) (length : UInt64) (passesClose : Bool)
  /-- The gate at a level starts a new cycle unconditionally. -/
  | restart (level : Nat) (length : UInt64) (passesClose : Bool)
  deriving DecidableEq

namespace Stack

variable {σ : Type}

/-- Makes a move. A call is returned with its arguments as they are afterwards. -/
def move (S : Sink σ) {n : Nat} (s : Stack σ n) (m : Move) : Reply (Stack σ n × Move) Yield :=
  match m with
  | .call level call => (s.performAt S level call).mapState fun (s, call) => (s, .call level call)
  | .renew level length passesClose =>
    match s.renew level length passesClose with
    | .ok s => .ok .unit (s, m)
    | .error e => .error e (s, m)
  | .restart level length passesClose =>
    let (isGate, s) := s.restart level length passesClose
    .ok (.flag isGate) (s, m)

end Stack

end ExactLength
