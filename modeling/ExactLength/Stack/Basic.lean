import ExactLength.Budget.Request
import ExactLength.Gate.Sink

/-!
# Stacks

A base under any number of gates. Since a gate over a sink is a sink, a stack of gates over a sink is one too
(`Sink.stacked`), by recursion on the number of gates. Calls may enter a stack at any level, counted from the top:
what lies above that level does not hear of them.
-/

namespace ExactLength

open Text (Outline)

/-- A base under a number of gates. -/
def Stack (σ : Type) : Nat → Type
  | 0 => σ
  | n + 1 => Gated (Stack σ n)

/-- The sink made of a number of gates over a sink. -/
def Sink.stacked {σ : Type} (S : Sink σ) : (n : Nat) → Sink (Stack σ n)
  | 0 => S
  | n + 1 => (S.stacked n).gated

namespace Stack

variable {σ : Type}

/-- A stack under one more gate. -/
def push {n : Nat} (gate : Gate) (s : Stack σ n) : Stack σ (n + 1) :=
  Gated.mk gate s

/-- The gates of a stack, from the top. -/
def gates : {n : Nat} → Stack σ n → List Gate
  | 0, _ => []
  | _ + 1, ⟨gate, below⟩ => gate :: gates below

/-- What lies below all gates. -/
def base : {n : Nat} → Stack σ n → σ
  | 0, b => b
  | _ + 1, ⟨_, below⟩ => base below

/-- The stack with its base changed. -/
def mapBase (f : σ → σ) : {n : Nat} → Stack σ n → Stack σ n
  | 0, b => f b
  | _ + 1, ⟨gate, below⟩ => ⟨gate, mapBase f below⟩

/-- The stack over a base, without gates. -/
def ofBase (b : σ) : Stack σ 0 := b

@[simp] theorem gates_push {n : Nat} (gate : Gate) (s : Stack σ n) : (push gate s).gates = gate :: s.gates := rfl

@[simp] theorem base_push {n : Nat} (gate : Gate) (s : Stack σ n) : (push gate s).base = s.base := rfl

theorem gates_mapBase (f : σ → σ) {n : Nat} (s : Stack σ n) : (s.mapBase f).gates = s.gates := by
  induction n with
  | zero => rfl
  | succ n ih => exact congrArg (s.gate :: ·) (ih s.below)

theorem base_mapBase (f : σ → σ) {n : Nat} (s : Stack σ n) : (s.mapBase f).base = f s.base := by
  induction n with
  | zero => rfl
  | succ n ih => exact ih s.below

theorem length_gates {n : Nat} (s : Stack σ n) : s.gates.length = n := by
  induction n with
  | zero => rfl
  | succ n ih => exact congrArg (· + 1) (ih s.below)

/-- Carries a call out at a level of a stack. Level `0` is the top, and all levels beyond the gates are the base. -/
def performAt (S : Sink σ) : {n : Nat} → Stack σ n → (level : Nat) → Call → Reply (Stack σ n × Call) Yield
  | n, s, 0, call => (S.stacked n).perform s call
  | 0, b, _ + 1, call => S.perform b call
  | _ + 1, ⟨gate, below⟩, level + 1, call =>
    (performAt S below level call).mapState fun (below, call) => (push gate below, call)

/-- The stack with another gate at a level. Without a gate at that level it stays as it is. -/
def setGate : {n : Nat} → Stack σ n → (level : Nat) → Gate → Stack σ n
  | 0, b, _, _ => b
  | _ + 1, ⟨_, below⟩, 0, new => push new below
  | _ + 1, ⟨gate, below⟩, level + 1, new => push gate (setGate below level new)

theorem gates_setGate {n : Nat} (s : Stack σ n) (level : Nat) (new : Gate) :
    (s.setGate level new).gates = s.gates.set level new := by
  induction n generalizing level with
  | zero => rfl
  | succ n ih =>
    cases level with
    | zero => rfl
    | succ level => exact congrArg (s.gate :: ·) (ih s.below level)

theorem base_setGate {n : Nat} (s : Stack σ n) (level : Nat) (new : Gate) :
    (s.setGate level new).base = s.base := by
  induction n generalizing level with
  | zero => rfl
  | succ n ih =>
    cases level with
    | zero => rfl
    | succ level => exact ih s.below level

/-- Starts a new cycle of the gate at a level, if there is one, after a complete cycle. -/
def renew {n : Nat} (s : Stack σ n) (level : Nat) (length : UInt64) (passesClose : Bool) :
    Except SinkError (Stack σ n) :=
  match s.gates[level]? with
  | some gate => (gate.renew length passesClose).map (s.setGate level ·)
  | none => .ok s

/-- Starts a new cycle of the gate at a level unconditionally, and tells whether there is a gate. -/
def restart {n : Nat} (s : Stack σ n) (level : Nat) (length : UInt64) (passesClose : Bool) :
    Bool × Stack σ n :=
  match s.gates[level]? with
  | some gate => (true, s.setGate level (gate.restart length passesClose))
  | none => (false, s)

/-- The outline of a stack, given that of its base. -/
def outline (ofBase : σ → Outline) : {n : Nat} → Stack σ n → Outline
  | 0, b => ofBase b
  | _ + 1, ⟨gate, below⟩ =>
    .record "FixedLengthSink" [("next", outline ofBase below), ("budget", gate.budget.outline),
      ("configurable", .ofBool gate.configurable), ("propagate_close", .ofBool gate.passesClose)] true

end Stack

end ExactLength
