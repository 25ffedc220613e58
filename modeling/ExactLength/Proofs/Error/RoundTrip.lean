import ExactLength.Error.Basic
import Mathlib.Logic.Function.Iterate

/-!
# Round trips of sink errors

A sink error that travels as an I/O error is packed and unpacked again. A refusal comes back as it was. An I/O error
that was passed on is only taken out of its sink error when it is packed, so what is unpacked may be a payload that it
had before: then the round trip ends with that payload, one layer further in (`SinkError.roundTrip_cases`).

A layer is lost by every round trip that changes anything (`SinkError.nested_roundTrip`), so no more of them can change
anything than there are sink errors nested in the first one.

The main statement is `SinkError.round_trips_settle`.
-/

namespace ExactLength

/-- The payload of an I/O error is the given sink error. -/
def IoError.Carries (cause : IoError) (inner : SinkError) : Prop :=
  ∃ kind, cause = .carrying kind inner

mutual

/-- How many sink errors an I/O error holds, at any depth. -/
def IoError.nested : IoError → Nat
  | .plain _ => 0
  | .explained _ _ => 0
  | .wrapping _ inner => inner.nested
  | .carrying _ inner => inner.nested + 1

/-- How many sink errors are nested in a sink error, at any depth. -/
def SinkError.nested : SinkError → Nat
  | .io cause => cause.nested
  | _ => 0

end

namespace SinkError

/-- A sink error passes on an I/O error whose payload is another sink error. -/
def PassesOn (e inner : SinkError) : Prop :=
  ∃ cause, e = io cause ∧ cause.Carries inner

/-- A sink error after it travelled as an I/O error. -/
def roundTrip (e : SinkError) : SinkError :=
  ofIo e.toIo

/-! ### Unpacking -/

theorem ofIo_of_carries {cause : IoError} {inner : SinkError} (h : cause.Carries inner) : ofIo cause = inner := by
  obtain ⟨kind, rfl⟩ := h
  rfl

theorem ofIo_of_not_carries {cause : IoError} (h : ∀ inner, ¬ cause.Carries inner) : ofIo cause = io cause := by
  apply ofIo_of_not_holds
  cases cause with
  | carrying kind inner => exact absurd ⟨kind, rfl⟩ (h inner)
  | _ => rfl

/-! ### One round trip -/

/-- A sink error comes back as it was, or as the payload of the I/O error that it passes on. -/
theorem roundTrip_cases (e : SinkError) :
    (e.roundTrip = e ∧ ∀ inner, ¬ e.PassesOn inner) ∨ e.PassesOn e.roundTrip := by
  by_cases h : ∃ cause, e = io cause
  · obtain ⟨cause, rfl⟩ := h
    by_cases hcarries : ∃ inner, cause.Carries inner
    · obtain ⟨inner, hinner⟩ := hcarries
      have hback : (io cause).roundTrip = inner := ofIo_of_carries hinner
      exact .inr ⟨cause, rfl, hback ▸ hinner⟩
    · have hnone : ∀ inner, ¬ cause.Carries inner := not_exists.1 hcarries
      refine .inl ⟨ofIo_of_not_carries hnone, ?_⟩
      rintro inner ⟨_, ⟨⟩, hinner⟩
      exact hnone inner hinner
  · have hown : ∀ cause, e ≠ io cause := not_exists.1 h
    exact .inl ⟨ofIo_toIo hown, fun inner ⟨cause, hcause, _⟩ => hown cause hcause⟩

theorem roundTrip_of_passesOn {e inner : SinkError} (h : e.PassesOn inner) : e.roundTrip = inner := by
  obtain ⟨cause, rfl, hcarries⟩ := h
  exact ofIo_of_carries hcarries

/-- What is passed on as a payload is one layer further in. -/
theorem nested_of_passesOn {e inner : SinkError} (h : e.PassesOn inner) : inner.nested + 1 = e.nested := by
  obtain ⟨cause, rfl, kind, rfl⟩ := h
  simp [nested, IoError.nested]

/-- The sink errors that come back as they were. -/
theorem roundTrip_eq_self_iff {e : SinkError} : e.roundTrip = e ↔ ∀ inner, ¬ e.PassesOn inner := by
  constructor
  · -- a payload has fewer layers than the error that it comes out of, and so is another one
    intro hback inner hinner
    have hsame : inner = e := (roundTrip_of_passesOn hinner).symm.trans hback
    have hfewer := nested_of_passesOn hinner
    rw [hsame] at hfewer
    omega
  · intro hnone
    rcases e.roundTrip_cases with ⟨hback, -⟩ | hinner
    · exact hback
    · exact absurd hinner (hnone _)

/-- A round trip that changes anything loses a layer. -/
theorem nested_roundTrip {e : SinkError} (h : e.roundTrip ≠ e) : e.roundTrip.nested + 1 = e.nested := by
  rcases e.roundTrip_cases with ⟨hback, -⟩ | hinner
  · exact absurd hback h
  · exact nested_of_passesOn hinner

/-! ### Many round trips -/

/-- After some round trips, each of which loses a layer, a sink error comes back as it was. -/
theorem exists_settled (e : SinkError) :
    ∃ trips, trips + (roundTrip^[trips] e).nested = e.nested ∧
      (roundTrip^[trips] e).roundTrip = roundTrip^[trips] e := by
  by_cases hback : e.roundTrip = e
  · exact ⟨0, Nat.zero_add _, hback⟩
  · have hlayer := nested_roundTrip hback
    obtain ⟨trips, hcount, hsettled⟩ := exists_settled e.roundTrip
    refine ⟨trips + 1, ?_, hsettled⟩
    rw [Function.iterate_succ_apply]
    omega
termination_by e.nested

/-- **Round trips lose layers until there is none to lose.** An I/O error is unpacked to its payload if that is a sink
error. Otherwise it is passed on as it is, also if a sink error is hidden deeper in it. So a sink error comes back as it
was if and only if it does not pass on an I/O error whose payload is a sink error; if it does, that payload comes back.
After at most as many round trips as sink errors are nested in the first one, one is reached that comes back as it was,
and all further round trips stay there. -/
theorem round_trips_settle :
    (∀ cause : IoError,
        (∀ inner, cause.Carries inner → ofIo cause = inner) ∧
          ((∀ inner, ¬ cause.Carries inner) → ofIo cause = io cause) ∧
          ∀ kind, ofIo (.wrapping kind cause) = io (.wrapping kind cause)) ∧
      ∀ e : SinkError,
        (∀ inner, e.PassesOn inner → e.roundTrip = inner) ∧
          (e.roundTrip = e ↔ ∀ inner, ¬ e.PassesOn inner) ∧
          ∃ trips ≤ e.nested,
            (∀ inner, ¬ (roundTrip^[trips] e).PassesOn inner) ∧
              ∀ more ≥ trips, roundTrip^[more] e = roundTrip^[trips] e := by
  constructor
  · intro cause
    exact ⟨fun inner => ofIo_of_carries, ofIo_of_not_carries, fun kind => rfl⟩
  · intro e
    refine ⟨fun inner => roundTrip_of_passesOn, roundTrip_eq_self_iff, ?_⟩
    obtain ⟨trips, hcount, hsettled⟩ := e.exists_settled
    refine ⟨trips, by omega, roundTrip_eq_self_iff.1 hsettled, ?_⟩
    intro more hmore
    obtain ⟨further, rfl⟩ := Nat.exists_eq_add_of_le' hmore
    rw [Function.iterate_add_apply]
    exact Function.iterate_fixed hsettled further

/-- Two sink errors are nested in this one, and two round trips it takes. -/
example :
    let e := io (.carrying .other (io (.carrying .brokenPipe closedChannel)))
    e.nested = 2 ∧ e.roundTrip = io (.carrying .brokenPipe closedChannel) ∧ roundTrip^[2] e = closedChannel := by
  decide

end SinkError

end ExactLength
