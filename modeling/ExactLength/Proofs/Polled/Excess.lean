import ExactLength.Proofs.Polled.History
import ExactLength.Proofs.Polled.Honest
import ExactLength.Proofs.Sink.Recorded
import ExactLength.Proofs.Stack.Uncounted
import ExactLength.Script.Devices
import ExactLength.Script.Sinks

/-!
# Sums of several sources

Before it lets several sources pass, a gate adds up what they hold, in sixty-four bits and without minding a carry. So
it compares what remains with the sum modulo `2 ^ 64` (`Gate.plan_writeMany`, `Gate.pollPlan_writeMany`). If the sum can
be counted, that is the sum itself, and nothing beyond what remains is offered below. Sources that hold `2 ^ 64` bytes
together count for none, and an open gate lets them pass however little remains.

The main statement is `excess_refused_iff`, for gates over sinks and over polled devices. A stack over a polled device
whose gates owe nothing does with runs that count for none what its base does (`Stack.perform_poll_of_uncounted`).
-/

namespace ExactLength

theorem Poll.map_eq_error_iff {α β : Type} {f : α → β} {answer : Poll α} {e : IoError} :
    answer.map f = .ready (.error e) ↔ answer = .ready (.error e) := by
  rcases answer with _ | e' | a <;> simp [map, Except.map]

namespace Gate

theorem planPolled_eq (g : Gate) (size : Nat) :
    g.planPolled size = if g.hasRoom size then .pass else .answer (.error g.refusal.toIo) := by
  unfold planPolled
  rw [permit_eq]
  by_cases hroom : g.hasRoom size = true <;> simp [hroom]

/-- Several runs pass if there is room for what they hold modulo `2 ^ 64`. -/
theorem pollPlan_writeMany (g : Gate) {runs : List Bytes} (hsome : runs ≠ []) :
    g.pollPlan (.writeMany runs) =
      if g.hasRoom (runs.flatten.length % UInt64.size) then .pass else .answer (.error g.refusal.toIo) := by
  have hplan : g.pollPlan (.writeMany runs) = g.planPolled (Gated.totalLength runs).toNat :=
    if_neg (by simpa using hsome)
  rw [hplan, Gated.toNat_totalLength_eq_mod, planPolled_eq]

end Gate

section Recorded

variable {σ ω : Type} (S : Sink σ) (D : PolledDevice ω) {gate : Gate} (hopen : gate.budget.closing = false)

include hopen

/-- Several sources that count for more than remains are refused, and nothing is touched. -/
theorem Sink.writeMany_of_excess (below : σ) {sources : List Source} (hmany : 2 ≤ sources.length)
    (hexcess : gate.budget.remaining.toNat < (Source.joined sources).length % UInt64.size) :
    let reply := S.gated.writeMany ⟨gate, below⟩ sources
    reply.result = .error .overflow ∧ reply.state = (⟨gate, below⟩, sources) := by
  have hno : ¬ gate.hasRoom ((Source.joined sources).length % UInt64.size) = true := by
    rw [Gate.hasRoom_iff_of_open hopen]
    omega
  have hplan : gate.plan (.writeMany sources) = .answer (.error .overflow) := by
    rw [gate.plan_writeMany hmany, if_neg hno, Gate.refusal_of_open hopen]
  obtain ⟨hresult, hstate⟩ := S.perform_gated_answer (g := ⟨gate, below⟩) rfl hplan
  obtain ⟨hsame, hback⟩ := Prod.mk.inj hstate
  exact ⟨map_eq_error_iff.1 hresult, Prod.ext hsame (Call.writeMany.inj hback)⟩

/-- Several sources that count for no more than remains are offered below as they are. -/
theorem Sink.heard_writeMany_of_room (below : σ) (heard : List Call) {sources : List Source}
    (hmany : 2 ≤ sources.length)
    (hroom : (Source.joined sources).length % UInt64.size ≤ gate.budget.remaining.toNat) :
    (S.recorded.gated.writeMany ⟨gate, (below, heard)⟩ sources).state.1.below.2 = heard ++ [.writeMany sources] := by
  have hplan : gate.plan (.writeMany sources) = .pass (.writeMany sources) none := by
    rw [gate.plan_writeMany hmany, if_pos ((Gate.hasRoom_iff_of_open hopen _).2 hroom)]
  obtain ⟨-, hstate⟩ := S.recorded.perform_gated_pass (g := ⟨gate, (below, heard)⟩) rfl hplan
  rw [S.perform_recorded below heard rfl] at hstate
  exact congrArg (fun state => state.1.below.2) hstate

/-- Several runs that count for more than remains are refused, and nothing is touched. -/
theorem PolledDevice.pollWriteMany_of_excess (below : ω) {runs : List Bytes} (hsome : runs ≠ [])
    (hexcess : gate.budget.remaining.toNat < runs.flatten.length % UInt64.size) :
    let reply := D.gated.pollWriteMany ⟨gate, below⟩ runs
    reply.result = .ready (.error SinkError.overflow.toIo) ∧ reply.state = ⟨gate, below⟩ := by
  have hno : ¬ gate.hasRoom (runs.flatten.length % UInt64.size) = true := by
    rw [Gate.hasRoom_iff_of_open hopen]
    omega
  have hplan : gate.pollPlan (.writeMany runs) = .answer (.error SinkError.overflow.toIo) := by
    rw [gate.pollPlan_writeMany hsome, if_neg hno, Gate.refusal_of_open hopen]
  obtain ⟨hresult, hstate⟩ := D.perform_gated_answer (g := ⟨gate, below⟩) hplan
  exact ⟨Poll.map_eq_error_iff.1 hresult, hstate⟩

/-- Several runs that count for no more than remains are offered below as they are. -/
theorem PolledDevice.heard_writeMany_of_room (below : ω) (heard : List PollHeard) {runs : List Bytes}
    (hsome : runs ≠ []) (hroom : runs.flatten.length % UInt64.size ≤ gate.budget.remaining.toNat) :
    (D.recorded.gated.pollWriteMany ⟨gate, (below, heard)⟩ runs).state.below.2 =
      heard ++ [⟨.writeMany runs, (D.perform below (.writeMany runs)).result⟩] := by
  have hplan : gate.pollPlan (.writeMany runs) = .pass := by
    rw [gate.pollPlan_writeMany hsome, if_pos ((Gate.hasRoom_iff_of_open hopen _).2 hroom)]
  obtain ⟨-, hstate⟩ := D.recorded.perform_gated_pass (g := ⟨gate, (below, heard)⟩) hplan
  rw [D.perform_recorded below heard] at hstate
  exact congrArg (fun state => state.below.2) hstate

end Recorded

/-- An offer that is either refused, so that nothing is heard of it, or heard: which of the two, and of how much. -/
theorem sifted {α : Type} {remaining held : Nat} {refused : Prop} {before after after' : α}
    (hrefused : remaining < held % UInt64.size → refused) (hpassed : held % UInt64.size ≤ remaining → after = after')
    (hsame : refused → after = before) (hnew : after' ≠ before) :
    (refused ↔ remaining < held % UInt64.size) ∧ (after = after' ↔ held % UInt64.size ≤ remaining) ∧
      (held < UInt64.size → after ≠ before → held ≤ remaining) := by
  refine ⟨⟨fun h => ?_, hrefused⟩, ⟨fun h => ?_, hpassed⟩, fun hfits hheard => ?_⟩
  · apply Nat.lt_of_not_le
    intro hroom
    exact hnew ((hpassed hroom).symm.trans (hsame h))
  · apply Nat.le_of_not_lt
    intro hexcess
    exact hnew (h.symm.trans (hsame (hrefused hexcess)))
  · apply Nat.le_of_not_lt
    intro hexcess
    rw [← Nat.mod_eq_of_lt hfits] at hexcess
    exact hheard (hsame (hrefused hexcess))

/-- **Which sources are refused.** A gate that is not closing refuses several sources with an overflow, and touches
nothing, if and only if they hold, modulo `2 ^ 64`, more than remains. Otherwise it offers them below as they are. So
if what they hold can be counted, no more is offered than remains. The same goes for runs of bytes and a gate over a
polled device. -/
theorem excess_refused_iff {σ ω : Type} (S : Sink σ) (D : PolledDevice ω) {gate : Gate}
    (hopen : gate.budget.closing = false) :
    (∀ below heard sources, 2 ≤ sources.length →
        let held := (Source.joined sources).length
        let reply := S.recorded.gated.writeMany ⟨gate, (below, heard)⟩ sources
        (reply.result = .error .overflow ∧ reply.state = (⟨gate, (below, heard)⟩, sources) ↔
            gate.budget.remaining.toNat < held % UInt64.size) ∧
          (reply.state.1.below.2 = heard ++ [.writeMany sources] ↔
            held % UInt64.size ≤ gate.budget.remaining.toNat) ∧
          (held < UInt64.size → reply.state.1.below.2 ≠ heard → held ≤ gate.budget.remaining.toNat)) ∧
      ∀ below heard runs, 2 ≤ runs.length →
        let held := runs.flatten.length
        let reply := D.recorded.gated.pollWriteMany ⟨gate, (below, heard)⟩ runs
        (reply.result = .ready (.error SinkError.overflow.toIo) ∧ reply.state = ⟨gate, (below, heard)⟩ ↔
            gate.budget.remaining.toNat < held % UInt64.size) ∧
          (reply.state.below.2 = heard ++ [⟨.writeMany runs, (D.perform below (.writeMany runs)).result⟩] ↔
            held % UInt64.size ≤ gate.budget.remaining.toNat) ∧
          (held < UInt64.size → reply.state.below.2 ≠ heard → held ≤ gate.budget.remaining.toNat) := by
  constructor
  · intro below heard sources hmany held reply
    have hrefused (hexcess : gate.budget.remaining.toNat < held % UInt64.size) :=
      S.recorded.writeMany_of_excess hopen (below, heard) hmany hexcess
    have hpassed (hroom : held % UInt64.size ≤ gate.budget.remaining.toNat) :=
      S.heard_writeMany_of_room hopen below heard hmany hroom
    refine sifted hrefused hpassed ?_ ?_
    · rintro ⟨-, hsame⟩
      exact congrArg (fun state => state.1.below.2) hsame
    · simp
  · intro below heard runs hmany held reply
    have hsome : runs ≠ [] := by
      rintro rfl
      cases hmany
    have hrefused (hexcess : gate.budget.remaining.toNat < held % UInt64.size) :=
      D.recorded.pollWriteMany_of_excess hopen (below, heard) hsome hexcess
    have hpassed (hroom : held % UInt64.size ≤ gate.budget.remaining.toNat) :=
      D.heard_writeMany_of_room hopen below heard hsome hroom
    refine sifted hrefused hpassed ?_ ?_
    · rintro ⟨-, hsame⟩
      exact congrArg (fun state => state.below.2) hsame
    · simp

/-! ### Runs that count for none -/

namespace Gate.Spent

variable {g : Gate} (h : g.Spent)

include h

/-- A gate that owes nothing learns nothing from what becomes of a write. -/
theorem learnPoll (runs : List Bytes) (answer : Poll Yield) : g.learnPoll (.writeMany runs) answer = g := by
  rcases answer with _ | e | _ | n | _
  · rfl
  · rfl
  · rfl
  · exact h.spend n
  · rfl

/-- A gate that owes nothing passes on what counts for none. -/
theorem pollPlan {runs : List Bytes} (hsome : runs ≠ []) (hnone : runs.flatten.length % UInt64.size = 0) :
    g.pollPlan (.writeMany runs) = .pass := by
  have hroom : g.hasRoom 0 = true := (hasRoom_iff_of_open h.closing 0).2 (Nat.zero_le _)
  rw [g.pollPlan_writeMany hsome, hnone, if_pos hroom]

end Gate.Spent

/-- **What counts for none passes.** A stack over a polled device, of gates that owe nothing and of which no shutdown was
requested, does with runs that count for none what its base does with them. All gates are as they were. -/
theorem Stack.perform_poll_of_uncounted {ω : Type} (D : PolledDevice ω) {n : Nat} {s : Stack ω n}
    (hspent : ∀ g ∈ s.gates, g.Spent) {runs : List Bytes} (hsome : runs ≠ [])
    (hnone : runs.flatten.length % UInt64.size = 0) :
    ((D.stacked n).perform s (.writeMany runs)).result = (D.perform s.base (.writeMany runs)).result ∧
      ((D.stacked n).perform s (.writeMany runs)).state =
        s.mapBase fun b => (D.perform b (.writeMany runs)).state := by
  induction n with
  | zero => exact ⟨rfl, rfl⟩
  | succ n ih =>
    obtain ⟨gate, below, rfl⟩ := s.exists_push
    rw [gates_push, List.forall_mem_cons] at hspent
    obtain ⟨hgate, hbelow⟩ := hspent
    obtain ⟨hresult, hstate⟩ := ih hbelow
    obtain ⟨hresult', hstate'⟩ := perform_push_poll_pass D (hgate.pollPlan hsome hnone) below
    refine ⟨hresult'.trans hresult, ?_⟩
    rw [hstate', hstate, hgate.learnPoll]
    rfl

/-! ### Refused and passed -/

/-- Six bytes in three runs. -/
def sixBytes : List Bytes :=
  [[1, 2, 3], [4, 5], [6]]

/-- Five bytes may pass. A gate over a sink refuses six, and one over a polled device offers it the first five. -/
theorem excess_refused_six :
    (Stack.gateFor 5).budget.closing = false ∧
      (Script.leastSink.recorded.gated.writeMany ⟨Stack.gateFor 5, ({}, [])⟩ (sixBytes.map .ofBytes)).result =
        .error .overflow ∧
      (Script.polledDevice.recorded.gated.pollWriteMany ⟨Stack.gateFor 5, ({}, [])⟩ (sixBytes.take 2)).state.below.2.map
        PollHeard.call = [.writeMany [[1, 2, 3], [4, 5]]] := by
  have hopen : (Stack.gateFor 5).budget.closing = false := rfl
  obtain ⟨hsink, hpolled⟩ := excess_refused_iff Script.leastSink Script.polledDevice hopen
  obtain ⟨hrefused, -, -⟩ := hsink {} [] (sixBytes.map .ofBytes) (by decide)
  obtain ⟨-, hoffered, -⟩ := hpolled {} [] (sixBytes.take 2) (by decide)
  refine ⟨hopen, (hrefused.2 (by decide)).1, ?_⟩
  rw [hoffered.2 (by decide)]
  rfl

/-- The quarters hold `2 ^ 64` bytes together and count for none. A gate for five bytes offers them all below. -/
theorem wrapped_sum_passes :
    (∀ run ∈ quarters, run.length = 4611686018427387904) ∧ quarters.flatten.length = 18446744073709551616 ∧
      (Stack.gateFor 5).budget.remaining.toNat = 5 ∧ (Stack.gateFor 5).budget.closing = false ∧
      (Script.leastSink.recorded.gated.writeMany ⟨Stack.gateFor 5, ({}, [])⟩
        (quarters.map .ofBytes)).state.1.below.2 = [.writeMany (quarters.map .ofBytes)] ∧
      (Script.polledDevice.recorded.gated.pollWriteMany ⟨Stack.gateFor 5, ({}, [])⟩
        quarters).state.below.2.map PollHeard.call = [.writeMany quarters] := by
  have hopen : (Stack.gateFor 5).budget.closing = false := rfl
  have hroom : quarters.flatten.length % UInt64.size ≤ (Stack.gateFor 5).budget.remaining.toNat := by
    rw [length_flatten_quarters_mod]
    exact Nat.zero_le _
  refine ⟨fun _ => length_of_mem_quarters, length_flatten_quarters, rfl, hopen, ?_, ?_⟩
  · apply Script.leastSink.heard_writeMany_of_room hopen {} [] two_le_length_quarters
    rw [Source.joined_map_ofBytes]
    exact hroom
  · have hheard := Script.polledDevice.heard_writeMany_of_room hopen {} [] quarters_ne_nil hroom
    exact congrArg (List.map PollHeard.call) hheard

end ExactLength
