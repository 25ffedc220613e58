import ExactLength.Proofs.Sink.Base
import ExactLength.Proofs.Stack.History

/-!
# Calls through a stack

Gates keep honesty. What a gate passes on carries no more bytes than it still lets through, and what comes back is
put back into the call that was heard, so a gate over an honest sink is an honest sink with the same output
(`Sink.Honest.gated`), and so is a stack over an honest base (`Stack.honest`).

A write of the last data ends with a termination, which takes no bytes. It may fail after the bytes have gone, and
that is the only way in which an error comes with bytes: `Stack.performAt_delivers` says what is left of honesty for
all calls, at whatever level they enter.
-/

namespace ExactLength

theorem Call.Fits.opening {call : Call} (h : call.Fits) : call.opening.Fits := by
  cases call <;> exact h

/-- What was taken in the opening of a call was taken from the call. -/
theorem Call.Gives.of_opening {call back : Call} {exact exact' : Prop} {bytes : Bytes}
    (h : call.opening.Gives exact bytes back) (hexact : call.isLast = false → exact' → exact) :
    call.Gives exact' bytes (call.restore back) := by
  cases call with
  | write src =>
    obtain ⟨src', rfl, hsrc⟩ := gives_write_iff.1 h
    exact hsrc
  | writeLast src =>
    obtain ⟨src', rfl, hsrc⟩ := gives_write_iff.1 h
    exact hsrc
  | writeMany sources =>
    obtain ⟨sources', rfl, hsources⟩ := gives_writeMany_iff.1 h
    exact hsources
  | writeManyLast sources =>
    obtain ⟨sources', rfl, hsources⟩ := gives_writeMany_iff.1 h
    exact hsources
  | transferFile file position count =>
    obtain ⟨file', rfl, hle, hslice⟩ := gives_transferFile_iff.1 h
    exact ⟨rfl, rfl, hle, fun he => hslice (hexact rfl he)⟩
  | transferStream reader count through =>
    obtain ⟨reader', through', rfl, hle, hall⟩ := gives_transferStream_iff.1 h
    exact ⟨rfl, hle, fun he => hall (hexact rfl he)⟩
  | _ =>
    obtain ⟨rfl, rfl⟩ := h
    exact ⟨rfl, rfl⟩

/-! ### What a gate passes on -/

namespace Gate

variable {g : Gate} {call down : Call} {shortfall : Option UInt64}

theorem credited_of_planWrite {size : Nat} {result : Except SinkError Yield}
    (h : g.planWrite size down = .answer result) : credited result = 0 := by
  unfold planWrite at h
  split at h <;> cases h
  rfl

theorem credited_of_planSource {src : Source} {result : Except SinkError Yield}
    (h : g.planSource src = .answer result) : credited result = 0 := by
  unfold planSource at h
  split at h
  · cases h
    rfl
  · exact credited_of_planWrite h

theorem credited_of_planTransfer {count : UInt64} {cut : UInt64 → Call} {result : Except SinkError Yield}
    (h : g.planTransfer count cut = .answer result) : credited result = 0 := by
  unfold planTransfer at h
  split at h
  · cases h
    rfl
  · split at h <;> cases h
    rfl

/-- A gate that answers by itself reports no bytes. -/
theorem credited_of_answer {result : Except SinkError Yield} (hlast : call.isLast = false)
    (h : g.plan call = .answer result) : credited result = 0 := by
  cases call with
  | writeLast src => cases hlast
  | writeManyLast sources => cases hlast
  | write src => exact credited_of_planSource h
  | writeMany sources =>
    rcases sources with _ | ⟨src, _ | ⟨next, rest⟩⟩
    · cases h
      rfl
    · exact credited_of_planSource h
    · exact credited_of_planWrite h
  | transferFile file position count => exact credited_of_planTransfer h
  | transferStream reader count through => exact credited_of_planTransfer h
  | wait milliseconds => cases h
  | truncate => cases h
  | terminate =>
    simp only [plan, planShutdown] at h
    split at h
    · cases h
      rfl
    · cases h
    · split at h <;> cases h
      rfl
  | _ =>
    simp only [plan] at h
    split at h <;> cases h
    rfl

namespace Passes

/-- What is passed on can be counted if the call can. -/
theorem fits_down (h : g.Passes call down shortfall) (hfits : call.Fits) : down.Fits := by
  cases h <;> first | exact hfits | trivial

/-- A shortfall is only reported for a call that takes no bytes. -/
theorem eq_nil_of_shortfall {owed : UInt64} (h : g.Passes call down (some owed)) {exact : Prop} {bytes : Bytes}
    {back : Call} (hgives : down.Gives exact bytes back) : bytes = [] := by
  cases h
  exact hgives.2

/-- Bytes that were taken from what is passed on were taken from the call. -/
theorem gives (h : g.Passes call down shortfall) {exact exact' : Prop} (hexact : shortfall = none → exact' → exact)
    {bytes : Bytes} {back : Call} (hgives : down.Gives exact bytes back) :
    call.Gives exact' bytes (call.restore back) := by
  cases h with
  | source src =>
    obtain ⟨src', rfl, hsrc⟩ := Call.gives_write_iff.1 hgives
    exact hsrc
  | only src =>
    obtain ⟨src', rfl, hsrc⟩ := Call.gives_write_iff.1 hgives
    exact .part hsrc []
  | many sources =>
    obtain ⟨sources', rfl, hsources⟩ := Call.gives_writeMany_iff.1 hgives
    exact hsources
  | file file position count allowed hcount hcut =>
    obtain ⟨file', rfl, hle, hslice⟩ := Call.gives_transferFile_iff.1 hgives
    have hcount := (Budget.allow_le hcut).1
    exact ⟨rfl, rfl, by omega, fun h => hslice (hexact rfl h)⟩
  | stream reader through count allowed hcount hcut =>
    obtain ⟨reader', through', rfl, hle, hall⟩ := Call.gives_transferStream_iff.1 hgives
    have hcount := (Budget.allow_le hcut).1
    exact ⟨rfl, by omega, fun h => hall (hexact rfl h)⟩
  | short owed => exact ⟨rfl, hgives.2⟩
  | _ =>
    obtain ⟨rfl, rfl⟩ := hgives
    exact ⟨rfl, rfl⟩

/-- What is passed on carries no more bytes than the gate still lets through. -/
theorem length_le (h : g.Passes call down shortfall) (hfits : call.Fits) {exact : Prop} {bytes : Bytes}
    {back : Call} (hgives : down.Gives exact bytes back) : bytes.length ≤ g.budget.remaining.toNat := by
  have hsource {src : Source} {exact : Prop} {back : Call} (hpermit : g.budget.permit src.remaining = .ok ())
      (hgives : (Call.write src).Gives exact bytes back) : bytes.length ≤ g.budget.remaining.toNat := by
    obtain ⟨src', -, hsrc⟩ := Call.gives_write_iff.1 hgives
    have hle := Budget.le_remaining_of_permit hpermit
    rw [Source.remaining, hsrc, List.length_append] at hle
    omega
  cases h with
  | source src hlive hpermit => exact hsource hpermit hgives
  | only src hlive hpermit => exact hsource hpermit hgives
  | many sources hmany hpermit =>
    obtain ⟨sources', -, hfront, -⟩ := Call.gives_writeMany_iff.1 hgives
    have hle := Budget.le_remaining_of_permit hpermit
    rw [Source.toNat_total hfits] at hle
    exact Nat.le_trans hfront.length_le hle
  | file file position count allowed hcount hcut =>
    obtain ⟨file', -, hle, -⟩ := Call.gives_transferFile_iff.1 hgives
    exact Nat.le_trans hle (Budget.allow_le hcut).2
  | stream reader through count allowed hcount hcut =>
    obtain ⟨reader', through', -, hle, -⟩ := Call.gives_transferStream_iff.1 hgives
    exact Nat.le_trans hle (Budget.allow_le hcut).2
  | _ =>
    obtain ⟨-, rfl⟩ := hgives
    exact Nat.zero_le _

end Passes

end Gate

/-- What a move offers in several sources can be counted. -/
def Move.Fits : Move → Prop
  | .call _ made => made.Fits
  | _ => True

/-! ### Gates and stacks keep honesty -/

section Honest

variable {σ : Type} {S : Sink σ} {out : σ → Bytes} {exact : Prop}

/-- A gate over an honest sink is an honest sink. -/
theorem Sink.Honest.gated (h : S.Honest out exact) : S.gated.Honest (fun g => out g.below) exact := by
  intro g call hlast hfits
  cases hplan : g.gate.plan call with
  | answer result =>
    obtain ⟨hresult, hstate⟩ := S.perform_gated_answer hlast hplan
    refine delivers_nothing ?_ ?_ ?_
    · rw [hstate]
    · rw [hresult]
      exact Gate.credited_of_answer hlast hplan
    · rw [hstate]
  | pass down shortfall =>
    obtain ⟨hresult, hstate⟩ := S.perform_gated_pass hlast hplan
    have hpass := Gate.passes_of_plan hlast hplan
    obtain ⟨bytes, hout, hcount, hgives⟩ := h g.below down hpass.isLast_down (hpass.fits_down hfits)
    refine ⟨bytes, ?_, ?_, ?_⟩
    · rw [hstate]
      exact hout
    · rw [hresult]
      cases shortfall with
      | none => exact hcount
      | some owed => exact congrArg List.length (hpass.eq_nil_of_shortfall hgives)
    · rw [hstate, hresult]
      refine hpass.gives ?_ hgives
      rintro rfl hexact
      exact hexact

/-- A call of an honest sink, also one that brings the last data. An error of such a call may come after the bytes
have gone. -/
theorem Sink.Honest.delivers (h : S.Honest out exact) (sink : σ) {call : Call} (hfits : call.Fits) :
    ∃ bytes, out (S.perform sink call).state.1 = out sink ++ bytes ∧
      call.Gives (exact ∨ ∃ e, (S.perform sink call).result = .error e) bytes (S.perform sink call).state.2 ∧
      (∀ value, (S.perform sink call).result = .ok value → bytes.length = credited (.ok value)) ∧
      (call.isLast = false → bytes.length = credited (S.perform sink call).result) := by
  obtain ⟨bytes, hout, hcount, hgives⟩ := h sink call.opening call.isLast_opening hfits.opening
  have hend : out (S.perform sink call).state.1 = out (S.perform sink call.opening).state.1 := by
    rw [S.perform_state]
    split
    · obtain ⟨ending, hout', -, -, rfl⟩ := h (S.perform sink call.opening).state.1 .terminate rfl trivial
      rw [hout', List.append_nil]
    · rfl
  refine ⟨bytes, hend.trans hout, ?_, ?_, ?_⟩
  · rw [S.perform_arguments]
    refine hgives.of_opening fun hlast => ?_
    rw [Call.opening_of_isLast_eq_false hlast]
    exact id
  · intro value hvalue
    rw [hcount, S.perform_ok_opening hvalue]
  · intro hlast
    rw [Call.opening_of_isLast_eq_false hlast] at hcount
    exact hcount

namespace Stack

/-- A stack over an honest base is an honest sink. -/
theorem honest (h : S.Honest out exact) (n : Nat) : (S.stacked n).Honest (fun s => out s.base) exact := by
  induction n with
  | zero => exact h
  | succ n ih => exact ih.gated

theorem performAt_zero (S : Sink σ) {n : Nat} (s : Stack σ n) (call : Call) :
    s.performAt S 0 call = (S.stacked n).perform s call := by
  cases n <;> rfl

/-- **Calls through a stack**, at whatever level they enter: bytes that the base gains come from the arguments of
the call, in order, and the count of a call that succeeds is their number. A call that fails gives the base nothing,
unless it brings the last data. -/
theorem performAt_delivers (h : S.Honest out exact) {n : Nat} (s : Stack σ n) (level : Nat) {call : Call}
    (hfits : call.Fits) :
    ∃ bytes, out (s.performAt S level call).state.1.base = out s.base ++ bytes ∧
      call.Gives (exact ∨ ∃ e, (s.performAt S level call).result = .error e) bytes
        (s.performAt S level call).state.2 ∧
      (∀ value, (s.performAt S level call).result = .ok value → bytes.length = credited (.ok value)) ∧
      (call.isLast = false → bytes.length = credited (s.performAt S level call).result) := by
  induction n generalizing level with
  | zero =>
    cases level with
    | zero => exact h.delivers s hfits
    | succ level => exact h.delivers s hfits
  | succ n ih =>
    cases level with
    | zero => exact (honest h (n + 1)).delivers s hfits
    | succ level =>
      obtain ⟨gate, below, rfl⟩ := s.exists_push
      exact ih below level

end Stack

end Honest

end ExactLength
