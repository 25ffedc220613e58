import ExactLength.Config.Basic

/-!
# Gates

A gate stands in front of a sink and lets through exactly as many bytes as its cycle allows. It owns the budget of
the cycle, knows whether it passes a graceful shutdown on, and counts how often its completion hook has run. One
gate serves many cycles.
-/

namespace ExactLength

/-- A gate. -/
structure Gate where
  /-- What may still pass in this cycle. -/
  budget : Budget
  /-- Configuration calls pass through to what lies below. -/
  configurable : Bool
  /-- A graceful shutdown is passed on to what lies below. -/
  passesClose : Bool
  /-- Somebody listens for completion. -/
  hooked : Bool
  /-- How often the completion hook has run. -/
  completions : Nat
  deriving DecidableEq

/-- A gate in front of something else. -/
structure Gated (σ : Type) where
  /-- The gate. -/
  gate : Gate
  /-- What lies below it. -/
  below : σ
  deriving DecidableEq

namespace Gate

/-- A gate at the start of the cycle that the configuration asks for. -/
def ofConfig (c : Config) (hooked : Bool) : Except SinkError Gate := do
  c.validate
  return ⟨Budget.fresh c.contentLength, c.configurable, c.passesClose, hooked, 0⟩

/-- Starts a new cycle unconditionally. -/
def restart (g : Gate) (length : UInt64) (passesClose : Bool) : Gate :=
  { g with budget := Budget.fresh length, passesClose := passesClose }

/-- Starts a new cycle after a complete one. -/
def renew (g : Gate) (length : UInt64) (passesClose : Bool) : Except SinkError Gate :=
  (g.budget.renew length).map fun budget =>
    { g with budget := budget, passesClose := passesClose }

/-- Accounts for bytes that were accepted below. -/
def spend (g : Gate) (written : UInt64) : Gate :=
  { g with budget := g.budget.spend written }

/-- Accounts for a flush below. The flush that completes the cycle runs the completion hook. -/
def settle (g : Gate) (flushed : Bool) : Bool × Gate :=
  let outcome := g.budget.settle flushed
  (outcome.1, { g with
    budget := outcome.2
    completions := if outcome.1 then g.completions + 1 else g.completions })

/-- Gives the cycle up. -/
def giveUp (g : Gate) : Gate :=
  { g with budget := g.budget.giveUp }

/-- Whether the cycle is over. -/
def isEnded (g : Gate) : Bool :=
  g.budget.ended

@[simp] theorem spend_zero (g : Gate) : g.spend 0 = g := by
  unfold spend
  rw [Budget.spend_zero]

@[simp] theorem settle_false (g : Gate) : g.settle false = (false, g) := rfl

theorem ofConfig_eq_ok_iff {c : Config} {hooked : Bool} {g : Gate} :
    ofConfig c hooked = .ok g ↔
      c.contentLength ≤ maxContentLength ∧
        g = ⟨Budget.fresh c.contentLength, c.configurable, c.passesClose, hooked, 0⟩ := by
  rw [← checkLength_eq_ok_iff]
  unfold ofConfig Config.validate
  cases checkLength c.contentLength <;> simp [bind, Except.bind, pure, Except.pure, eq_comm]

theorem renew_eq_ok_iff {g g' : Gate} {length : UInt64} {passesClose : Bool} :
    g.renew length passesClose = .ok g' ↔
      g.budget.ended = true ∧ length ≤ maxContentLength ∧ g' = g.restart length passesClose := by
  unfold renew
  rw [map_eq_ok_iff]
  simp only [Budget.renew_eq_ok_iff]
  constructor
  · rintro ⟨b, ⟨he, hle, rfl⟩, rfl⟩
    exact ⟨he, hle, rfl⟩
  · rintro ⟨he, hle, rfl⟩
    exact ⟨_, ⟨he, hle, rfl⟩, rfl⟩

end Gate

end ExactLength
