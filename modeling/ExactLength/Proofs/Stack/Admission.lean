import ExactLength.Proofs.Gate.Offer
import ExactLength.Proofs.Sink.Recorded
import ExactLength.Proofs.Stack.History
import ExactLength.Script.Sinks

/-!
# Offers through a stack

An offer reaches the base if and only if every gate has room for it. A write reaches it as it was made, a transfer
cut to the least that remains anywhere in the stack, and what the base accepts is taken from all gates alike
(`Stack.perform_offer_of_room`). If a gate has no room, the outermost such gate refuses and nothing has happened
(`Stack.perform_offer_of_refusal`): the gates above it asked nothing but their budgets.

The base is an arbitrary sink, and the list of the calls that it hears shows what reaches it.
-/

namespace ExactLength

namespace Gate

/-- A gate that is charged for no more than remains is charged exactly. -/
theorem toNat_remaining_spend_add (g : Gate) {n : UInt64} (h : n.toNat ≤ g.budget.remaining.toNat) :
    (g.spend n).budget.remaining.toNat + n.toNat = g.budget.remaining.toNat := by
  have hspend := g.budget.toNat_remaining_spend n
  show (g.budget.spend n).remaining.toNat + n.toNat = _
  omega

end Gate

namespace Stack

variable {σ : Type} (S : Sink σ)

/-- An offer for which all gates have room reaches the base, cut by all of them, and all learn what comes of it. -/
theorem perform_offer_of_room {n : Nat} (s : Stack σ n) {call : Call} (hoffer : call.IsOffer)
    (hroom : ∀ g ∈ s.gates, g.hasRoom call.need = true) :
    let reply := S.perform s.base (call.cutBy s.gates)
    let after := (S.stacked n).perform s call
    after.result = reply.result ∧ after.state.1.gates = s.gates.map (fun g => g.learn call reply.result) ∧
      after.state.1.base = reply.state.1 ∧ after.state.2 = call.restore reply.state.2 := by
  induction n generalizing call with
  | zero =>
    have hcut : call.cutBy (gates s) = call := call.cutBy_nil
    have hback := S.perform_arguments s.base call
    rw [Call.opening_of_isLast_eq_false hoffer.isLast] at hback
    dsimp only
    rw [hcut]
    exact ⟨rfl, rfl, rfl, hback⟩
  | succ n ih =>
    obtain ⟨gate, below, rfl⟩ := s.exists_push
    have hgate : gate.hasRoom call.need = true := hroom gate List.mem_cons_self
    have hplan : gate.plan call = .pass (call.cutBy [gate]) none := by
      rw [gate.plan_offer hoffer, if_pos hgate]
    have hbelow : ∀ g ∈ below.gates, g.hasRoom (call.cutBy [gate]).need = true := by
      intro g hg
      rw [Call.need_cutBy]
      exact hroom g (List.mem_cons_of_mem gate hg)
    obtain ⟨hresult, hgates, hbase, hback⟩ := ih below (hoffer.cutBy hgate) hbelow
    obtain ⟨hresult', hstate⟩ := perform_push_pass S hoffer.isLast hplan below
    have hcut : call.cutBy (push gate below).gates = (call.cutBy [gate]).cutBy below.gates :=
      call.cutBy_cons gate below.gates
    simp only [Gate.learn_cutBy] at hgates
    dsimp only
    rw [hresult', hstate, hcut, gates_push, base_push, base_push, gate.hear_of_isOffer hoffer]
    refine ⟨hresult, ?_, hbase, ?_⟩
    · rw [gates_push, hgates, hresult, List.map_cons]
    · rw [hback, Call.restore_cutBy]

/-- An offer for which some gate has no room is refused by the outermost such gate, and that is all. -/
theorem perform_offer_of_refusal {n : Nat} (s : Stack σ n) {call : Call} (hoffer : call.IsOffer) {g : Gate}
    (hg : s.gates.find? (fun g => !g.hasRoom call.need) = some g) :
    ((S.stacked n).perform s call).result = .error g.refusal ∧
      ((S.stacked n).perform s call).state = (s, call) := by
  induction n generalizing call with
  | zero => cases hg
  | succ n ih =>
    obtain ⟨gate, below, rfl⟩ := s.exists_push
    rw [gates_push, List.find?_cons] at hg
    by_cases hgate : gate.hasRoom call.need = true
    · have hplan : gate.plan call = .pass (call.cutBy [gate]) none := by
        rw [gate.plan_offer hoffer, if_pos hgate]
      rw [hgate, ← Call.need_cutBy [gate] call] at hg
      obtain ⟨hresult, hstate⟩ := ih below (hoffer.cutBy hgate) hg
      obtain ⟨hresult', hstate'⟩ := perform_push_pass S hoffer.isLast hplan below
      rw [hresult', hstate', hstate, hresult, Gate.learn_error, gate.hear_of_isOffer hoffer,
        Call.restore_self_cutBy]
      exact ⟨rfl, rfl⟩
    · have hplan : gate.plan call = .answer (.error gate.refusal) := by
        rw [gate.plan_offer hoffer, if_neg hgate]
      rw [Bool.eq_false_iff.2 hgate] at hg
      obtain rfl : gate = g := Option.some.inj hg
      obtain ⟨hresult, hstate⟩ := perform_push_answer S hoffer.isLast hplan below
      rw [hresult, hstate, gate.hear_of_isOffer hoffer]
      exact ⟨rfl, rfl⟩

/-- **When an offer reaches the base.** Over any base, whose calls are listed, the base hears of an offer if and only
if all gates have room for it, and then hears of it once, cut to the least that remains if it is a transfer and
unmodified if it is a write. Its answer is the answer, and what it accepts, if no more than it was asked, is taken
from what remains at every gate. Otherwise the outermost gate without room refuses, and nothing is touched. -/
theorem offer_reaches_base_iff (S : Sink σ) {n : Nat} (s : Stack (σ × List Call) n) {call : Call}
    (hoffer : call.IsOffer) :
    let down := call.cutBy s.gates
    let reply := S.perform s.base.1 down
    let after := (S.recorded.stacked n).perform s call
    (after.state.1.base.2 = s.base.2 ++ [down] ↔ ∀ g ∈ s.gates, g.hasRoom call.need = true) ∧
      ((∀ g ∈ s.gates, g.hasRoom call.need = true) →
        after.result = reply.result ∧ after.state.1.base.1 = reply.state.1 ∧
          ∀ accepted, reply.result = .ok (.count accepted) → accepted.toNat ≤ down.asked →
            after.state.1.gates = s.gates.map (·.spend accepted) ∧
              ∀ g ∈ s.gates,
                (g.spend accepted).budget.remaining.toNat + accepted.toNat = g.budget.remaining.toNat) ∧
      ∀ g, s.gates.find? (fun g => !g.hasRoom call.need) = some g →
        after.result = .error g.refusal ∧ after.state = (s, call) := by
  intro down reply after
  have hlast : down.isLast = false := (Call.isLast_cutBy s.gates call).trans hoffer.isLast
  have hrecorded : S.recorded.perform s.base down =
      reply.mapState fun back => ((back.1, s.base.2 ++ [down]), back.2) :=
    S.perform_recorded s.base.1 s.base.2 hlast
  have hreached (hroom : ∀ g ∈ s.gates, g.hasRoom call.need = true) :
      after.result = reply.result ∧ after.state.1.gates = s.gates.map (fun g => g.learn call reply.result) ∧
        after.state.1.base = (reply.state.1, s.base.2 ++ [down]) := by
    obtain ⟨hresult, hgates, hbase, -⟩ := s.perform_offer_of_room S.recorded hoffer hroom
    rw [hrecorded] at hresult hgates hbase
    exact ⟨hresult, hgates, hbase⟩
  refine ⟨⟨?_, ?_⟩, ?_, fun g => s.perform_offer_of_refusal S.recorded hoffer⟩
  · intro hheard g hg
    cases hfull : g.hasRoom call.need with
    | true => rfl
    | false =>
      -- some gate has no room, so the outermost such gate refuses and the base hears nothing
      obtain ⟨g', hg'⟩ : ∃ g', s.gates.find? (fun g => !g.hasRoom call.need) = some g' := by
        rw [← Option.isSome_iff_exists, List.find?_isSome]
        exact ⟨g, hg, by rw [hfull]; rfl⟩
      obtain ⟨-, hstate⟩ := s.perform_offer_of_refusal S.recorded hoffer hg'
      rw [show after.state = (s, call) from hstate] at hheard
      simp at hheard
  · intro hroom
    rw [(hreached hroom).2.2]
  · intro hroom
    obtain ⟨hresult, hgates, hbase⟩ := hreached hroom
    refine ⟨hresult, congrArg Prod.fst hbase, ?_⟩
    intro accepted haccepted hle
    constructor
    · simp only [hgates, haccepted, Gate.learn_count]
    · intro g hg
      apply g.toNat_remaining_spend_add
      exact Nat.le_trans hle (Call.asked_cutBy_le hroom hg)

/-- A gate for five bytes over one for three, over a base that lists its calls. -/
def narrowing : Stack (Script × List Call) 2 :=
  push (gateFor 5) (push (gateFor 3) (ofBase ({}, [])))

/-- A transfer of nine bytes from a stream of four. -/
def nineOfFour : Call :=
  .transferStream ⟨[1, 2, 3, 4], [], []⟩ 9 []

/-- The base is asked for three bytes, and the outer gate has two left. A write of four bytes is refused by the inner
gate, which cannot pass them. -/
theorem offer_reaches_base_narrowing :
    nineOfFour.IsOffer ∧ (∀ g ∈ narrowing.gates, g.hasRoom nineOfFour.need = true) ∧
      ((Script.leastSink.recorded.stacked 2).perform narrowing nineOfFour).state.1.base.2 =
        [.transferStream ⟨[1, 2, 3, 4], [], []⟩ 3 []] ∧
      ((Script.leastSink.recorded.stacked 2).perform narrowing nineOfFour).state.1.gates =
        [(gateFor 5).spend 3, (gateFor 3).spend 3] ∧
      (Call.write (.ofBytes [1, 2, 3, 4])).IsOffer ∧
      ((Script.leastSink.recorded.stacked 2).perform narrowing (.write (.ofBytes [1, 2, 3, 4]))).result =
        .error .overflow := by
  have hoffer : nineOfFour.IsOffer := show (9 : UInt64) ≠ 0 by decide
  have hroom : ∀ g ∈ narrowing.gates, g.hasRoom nineOfFour.need = true := by decide
  obtain ⟨hheard, hreached, -⟩ := offer_reaches_base_iff Script.leastSink narrowing hoffer
  obtain ⟨-, -, haccepted⟩ := hreached hroom
  have hwrite : (Call.write (.ofBytes [1, 2, 3, 4])).IsOffer := rfl
  obtain ⟨-, -, hrefused⟩ := offer_reaches_base_iff Script.leastSink narrowing hwrite
  exact ⟨hoffer, hroom, hheard.2 hroom, (haccepted 3 rfl (by decide)).1, hwrite, (hrefused _ rfl).1⟩

end Stack

end ExactLength
