import ExactLength.Event

/-!
# Replies

Every operation on a sink, seen as a function of its state, has as its outcome a result, the state after it, and
the events it told on the way. The state is there whether the result is a success or an error: nothing is
undone by an error.
-/

namespace ExactLength

/-- The outcome of an operation: a result of type `ρ`, the state after it, and the events told. -/
structure Outcome (σ ρ : Type) where
  /-- What the caller gets. -/
  result : ρ
  /-- The state after the operation. -/
  state : σ
  /-- The events told, in order. -/
  events : List Event

/-- The outcome of an operation on a sink. -/
abbrev Reply (σ α : Type) := Outcome σ (Except SinkError α)

namespace Outcome

variable {σ τ ρ ε α : Type}

/-- A success that told no events. -/
def ok (value : α) (state : σ) : Outcome σ (Except ε α) :=
  ⟨.ok value, state, []⟩

/-- An error that told no events. -/
def error (e : ε) (state : σ) : Outcome σ (Except ε α) :=
  ⟨.error e, state, []⟩

/-- The same outcome with the state seen in another way. -/
def mapState (f : σ → τ) (r : Outcome σ ρ) : Outcome τ ρ :=
  ⟨r.result, f r.state, r.events⟩

/-- The same outcome with the result passed through a function. -/
def mapResult {ρ' : Type} (f : ρ → ρ') (r : Outcome σ ρ) : Outcome σ ρ' :=
  ⟨f r.result, r.state, r.events⟩

/-- An outcome before which other events were told. -/
def after (events : List Event) (r : Outcome σ ρ) : Outcome σ ρ :=
  { r with events := events ++ r.events }

@[simp] theorem mapState_result (f : σ → τ) (r : Outcome σ ρ) : (r.mapState f).result = r.result := rfl

@[simp] theorem mapState_state (f : σ → τ) (r : Outcome σ ρ) : (r.mapState f).state = f r.state := rfl

@[simp] theorem mapState_events (f : σ → τ) (r : Outcome σ ρ) : (r.mapState f).events = r.events := rfl

@[simp] theorem mapResult_result {ρ' : Type} (f : ρ → ρ') (r : Outcome σ ρ) :
    (r.mapResult f).result = f r.result := rfl

@[simp] theorem mapResult_state {ρ' : Type} (f : ρ → ρ') (r : Outcome σ ρ) :
    (r.mapResult f).state = r.state := rfl

@[simp] theorem mapResult_events {ρ' : Type} (f : ρ → ρ') (r : Outcome σ ρ) :
    (r.mapResult f).events = r.events := rfl

@[simp] theorem after_result (events : List Event) (r : Outcome σ ρ) : (r.after events).result = r.result := rfl

@[simp] theorem after_state (events : List Event) (r : Outcome σ ρ) : (r.after events).state = r.state := rfl

@[simp] theorem after_events (events : List Event) (r : Outcome σ ρ) :
    (r.after events).events = events ++ r.events := rfl

end Outcome

end ExactLength
