import ExactLength.Proofs.Gate.Closed
import ExactLength.Proofs.Sink.Logged
import ExactLength.Proofs.Stack.Delivery

/-!
# What reaches the base

A call that enters a stack at the top comes to one call of the base or to none: each gate answers by itself or passes
one call on. `Stack.reaching` says which call it is, and what happens to the base is what happens to it in that call
(`Stack.base_perform`).

A gate whose cycle is over lets nothing through that asks for bytes, so what reaches the base of a stack with such a
gate asks for nothing (`Stack.asksNothing_of_reaching`), and leaves the output of an honest base alone.
-/

namespace ExactLength

/-- The call asks for no bytes to be taken, as far as what it offers can be counted. -/
def Call.AsksNothing (call : Call) : Prop :=
  call.Fits → call.asked = 0

/-- Bytes that are taken from a call are no more than it asks to be taken. -/
theorem Call.Gives.length_le_asked {call back : Call} {exact : Prop} {bytes : Bytes}
    (h : call.Gives exact bytes back) (hlast : call.isLast = false) : bytes.length ≤ call.asked := by
  cases call with
  | writeLast src => cases hlast
  | writeManyLast sources => cases hlast
  | write src =>
    obtain ⟨src', -, hsrc⟩ := gives_write_iff.1 h
    rw [asked, Source.remaining, hsrc, List.length_append]
    exact Nat.le_add_right _ _
  | writeMany sources =>
    obtain ⟨sources', -, hfront, -⟩ := gives_writeMany_iff.1 h
    exact hfront.length_le
  | transferFile file position count =>
    obtain ⟨file', -, hle, -⟩ := gives_transferFile_iff.1 h
    exact hle
  | transferStream reader count through =>
    obtain ⟨reader', through', -, hle, -⟩ := gives_transferStream_iff.1 h
    exact hle
  | _ =>
    obtain ⟨-, rfl⟩ := h
    exact Nat.zero_le _

/-- What asks for nothing leaves the output of an honest sink alone, if what it offers can be counted. -/
theorem Sink.Honest.out_of_asksNothing {σ : Type} {S : Sink σ} {out : σ → Bytes} {exact : Prop}
    (h : S.Honest out exact) (sink : σ) {call : Call} (hlast : call.isLast = false) (hcall : call.AsksNothing)
    (hfits : call.Fits) : out (S.perform sink call).state.1 = out sink := by
  obtain ⟨bytes, hout, -, hgives⟩ := h sink call hlast hfits
  have hle := hgives.length_le_asked hlast
  rw [hcall hfits] at hle
  rw [hout, List.eq_nil_of_length_eq_zero (Nat.le_zero.1 hle), List.append_nil]

namespace Gate

variable {g : Gate} {call down : Call} {shortfall : Option UInt64}

/-- What is passed on of a call that asks for nothing asks for nothing. -/
theorem Passes.asksNothing (h : g.Passes call down shortfall) (hcall : call.AsksNothing) : down.AsksNothing := by
  intro hfits
  cases h with
  | source src => exact hcall trivial
  | only src hlive hpermit =>
    -- a source that has leave can be counted, alone as among several
    have hle := Budget.le_remaining_of_permit hpermit
    have hlt := g.budget.remaining.toNat_lt_size
    have hsame : (Source.joined [src]).length = src.remaining := by simp [Source.remaining]
    have hnothing := hcall (show (Source.joined [src]).length < _ by omega)
    exact hsame.symm.trans hnothing
  | many sources => exact hcall hfits
  | file file position count allowed hcount =>
    have hnothing : count.toNat = 0 := hcall trivial
    exact absurd (UInt64.toNat_inj.1 hnothing) hcount
  | stream reader through count allowed hcount =>
    have hnothing : count.toNat = 0 := hcall trivial
    exact absurd (UInt64.toNat_inj.1 hnothing) hcount
  | _ => rfl

/-- A gate whose cycle is over passes on only calls that ask for nothing. -/
theorem Over.asksNothing (hover : g.Over) (hlast : call.isLast = false) (h : g.plan call = .pass down shortfall) :
    call.AsksNothing := by
  intro hfits
  refine Nat.eq_zero_of_not_pos fun hasked => ?_
  rw [← Call.opening_of_isLast_eq_false hlast] at hasked
  rw [hover.plan hfits hasked] at h
  cases h

end Gate

namespace Stack

variable {σ : Type}

/-- The call that the base hears for a call that enters at the top, if it hears any. -/
def reaching : {n : Nat} → Stack σ n → Call → Option Call
  | 0, _, call => some call
  | _ + 1, ⟨gate, below⟩, call =>
    match gate.plan call with
    | .answer _ => none
    | .pass down _ => reaching below down

theorem reaching_push_answer {n : Nat} {gate : Gate} {call : Call} {result : Except SinkError Yield}
    (h : gate.plan call = .answer result) (below : Stack σ n) : (push gate below).reaching call = none := by
  simp only [push, reaching, h]

theorem reaching_push_pass {n : Nat} {gate : Gate} {call down : Call} {shortfall : Option UInt64}
    (h : gate.plan call = .pass down shortfall) (below : Stack σ n) :
    (push gate below).reaching call = below.reaching down := by
  simp only [push, reaching, h]

/-- What happens to the base in a call is what happens to it in the call that reaches it. -/
theorem base_perform (S : Sink σ) {n : Nat} (s : Stack σ n) {call : Call} (hlast : call.isLast = false) :
    base ((S.stacked n).perform s call).state.1 =
      (s.reaching call).elim s.base fun down => (S.perform s.base down).state.1 := by
  induction n generalizing call with
  | zero => rfl
  | succ n ih =>
    obtain ⟨gate, below, rfl⟩ := s.exists_push
    cases hplan : gate.plan call with
    | answer result =>
      rw [(perform_push_answer S hlast hplan below).2, reaching_push_answer hplan]
      rfl
    | pass down shortfall =>
      rw [(perform_push_pass S hlast hplan below).2, reaching_push_pass hplan]
      exact ih below (Gate.passes_of_plan hlast hplan).isLast_down

/-- The base hears of no last data. -/
theorem isLast_of_reaching {n : Nat} (s : Stack σ n) {call down : Call} (hlast : call.isLast = false)
    (h : s.reaching call = some down) : down.isLast = false := by
  induction n generalizing call with
  | zero =>
    cases h
    exact hlast
  | succ n ih =>
    obtain ⟨gate, below, rfl⟩ := s.exists_push
    cases hplan : gate.plan call with
    | answer result =>
      rw [reaching_push_answer hplan] at h
      cases h
    | pass mid shortfall =>
      rw [reaching_push_pass hplan] at h
      exact ih below (Gate.passes_of_plan hlast hplan).isLast_down h

/-- What reaches the base asks for nothing if the call does, or if the cycle of some gate is over. -/
theorem asksNothing_of_reaching {n : Nat} (s : Stack σ n) {call down : Call} (hlast : call.isLast = false)
    (h : s.reaching call = some down) (hcall : call.AsksNothing ∨ ∃ g ∈ s.gates, g.Over) : down.AsksNothing := by
  induction n generalizing call with
  | zero =>
    cases h
    exact hcall.resolve_right fun ⟨_, hg, _⟩ => List.not_mem_nil hg
  | succ n ih =>
    obtain ⟨gate, below, rfl⟩ := s.exists_push
    cases hplan : gate.plan call with
    | answer result =>
      rw [reaching_push_answer hplan] at h
      cases h
    | pass mid shortfall =>
      have hpass := Gate.passes_of_plan hlast hplan
      rw [reaching_push_pass hplan] at h
      refine ih below hpass.isLast_down h ?_
      rcases hcall with hcall | ⟨g, hg, hover⟩
      · exact Or.inl (hpass.asksNothing hcall)
      · rcases List.mem_cons.1 hg with rfl | hg
        · exact Or.inl (hpass.asksNothing (hover.asksNothing hlast hplan))
        · exact Or.inr ⟨g, hg, hover⟩

/-! ### Calls at the top -/

theorem move_call_result (S : Sink σ) {n : Nat} (s : Stack σ n) (call : Call) :
    (s.move S (.call 0 call)).result = ((S.stacked n).perform s call).result := by
  show (s.performAt S 0 call).result = _
  rw [performAt_zero]

theorem move_call_state (S : Sink σ) {n : Nat} (s : Stack σ n) (call : Call) :
    (s.move S (.call 0 call)).state.1 = ((S.stacked n).perform s call).state.1 := by
  show (s.performAt S 0 call).state.1 = _
  rw [performAt_zero]

end Stack

end ExactLength
