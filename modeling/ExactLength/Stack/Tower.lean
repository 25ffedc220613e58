import ExactLength.Stack.Basic

/-!
# Towers

A stack of whatever height, to which gates are added and from which they are taken at the top.
-/

namespace ExactLength

/-- How a gate is to be set up. -/
structure GateSpec where
  /-- Its configuration. -/
  config : Config
  /-- Somebody listens for completion. -/
  hooked : Bool
  deriving DecidableEq

/-- The gate that is asked for. -/
def GateSpec.gate (spec : GateSpec) : Except SinkError Gate :=
  Gate.ofConfig spec.config spec.hooked

/-- A stack together with its height. -/
structure Tower (σ : Type) where
  /-- The number of gates. -/
  height : Nat
  /-- The stack. -/
  stack : Stack σ height

namespace Tower

variable {σ : Type}

/-- A base without gates. -/
def ofBase (b : σ) : Tower σ :=
  ⟨0, Stack.ofBase b⟩

/-- A tower under one more gate. -/
def push (gate : Gate) (t : Tower σ) : Tower σ :=
  ⟨t.height + 1, t.stack.push gate⟩

/-- Puts the gate that is asked for on top. -/
def wrap (t : Tower σ) (spec : GateSpec) : Except SinkError (Tower σ) :=
  spec.gate.map (t.push ·)

/-- Puts gates on a base. They are given from the top. -/
def build (b : σ) : List GateSpec → Except SinkError (Tower σ)
  | [] => .ok (ofBase b)
  | spec :: rest => do (← build b rest).wrap spec

/-- The tower without its top gate, if it has one. -/
def unwrap? : Tower σ → Option (Tower σ)
  | ⟨0, _⟩ => none
  | ⟨n + 1, s⟩ => some ⟨n, Gated.below s⟩

/-- The gates of a tower, from the top. -/
def gates (t : Tower σ) : List Gate :=
  t.stack.gates

/-- What lies below all gates. -/
def base (t : Tower σ) : σ :=
  t.stack.base

/-- The tower with its base changed. -/
def mapBase (f : σ → σ) (t : Tower σ) : Tower σ :=
  { t with stack := t.stack.mapBase f }

@[simp] theorem unwrap?_push (gate : Gate) (t : Tower σ) : (t.push gate).unwrap? = some t := rfl

end Tower

end ExactLength
