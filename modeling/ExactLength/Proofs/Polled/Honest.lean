import ExactLength.Proofs.Polled.Agreement
import ExactLength.Proofs.Polled.Exchange

/-!
# Honest polled devices

What it means that a polled device deals honestly with its callers, given the output that it has collected so far. The
bytes that it reports as taken are taken from the front of what it was offered and put at the end of its output, in
order. A pending answer and an error take nothing.

A device that writes only one of several runs is honest if its writes of one run are
(`PolledDevice.HonestBase.honest`). Gates keep honesty, so a stack over an honest base is an honest polled device with
the same output (`Stack.honest_poll`). A device may also be recorded: it keeps a list of the polls that it has heard,
each with its answer, and does otherwise what it did.
-/

namespace ExactLength

/-- The bytes that an operation offers. -/
def PollCall.offered : PollCall → Bytes
  | write bytes => bytes
  | writeMany runs => runs.flatten
  | _ => []

/-- What is offered in several runs can be counted. -/
def PollCall.Countable : PollCall → Prop
  | writeMany runs => runs.flatten.length < UInt64.size
  | _ => True

/-- What a move offers can be counted. -/
def PollMove.Countable : PollMove → Prop
  | .poll _ call => call.Countable
  | .renew .. => True

/-- The count of what several runs hold is right modulo `2 ^ 64`. -/
theorem Gated.toNat_totalLength_eq_mod (runs : List Bytes) :
    (totalLength runs).toNat = runs.flatten.length % UInt64.size := by
  induction runs with
  | nil => rfl
  | cons run rest ih =>
    rw [totalLength, List.flatten_cons, List.length_append, UInt64.toNat_add, UInt64.toNat_ofNat', ih]
    exact (Nat.add_mod _ _ _).symm

theorem Gated.toNat_totalLength {runs : List Bytes} (h : runs.flatten.length < UInt64.size) :
    (totalLength runs).toNat = runs.flatten.length := by
  rw [toNat_totalLength_eq_mod, Nat.mod_eq_of_lt h]

/-- How many bytes an answer says were taken. -/
def Poll.credit : Poll Yield → Nat
  | ready (.ok (.count n)) => n.toNat
  | _ => 0

@[simp] theorem Poll.credit_pending : Poll.pending.credit = 0 := rfl

@[simp] theorem Poll.credit_error (e : IoError) : (Poll.ready (.error e)).credit = 0 := rfl

@[simp] theorem Poll.credit_map_ofUnit (answer : Poll Unit) : (answer.map Yield.ofUnit).credit = 0 := by
  rcases answer with _ | e | _ <;> rfl

namespace PolledDevice

section Operations

variable {ω : Type} (D : PolledDevice ω) (out : ω → Bytes)

/-- The answer to a poll is honest: as many bytes as it reports were taken from the front of those offered. -/
def Takes (device : ω) (call : PollCall) : Prop :=
  let reply := D.perform device call
  reply.result.credit ≤ call.offered.length ∧ out reply.state = out device ++ call.offered.take reply.result.credit

/-- All answers are honest. -/
def Honest : Prop :=
  ∀ device call, D.Takes out device call

/-- A write of several runs is a write of the first that is not empty. -/
def WritesFirst : Prop :=
  ∀ device runs, D.pollWriteMany device runs = D.pollWrite device ((runs.find? (!·.isEmpty)).getD [])

/-- An honest base: its writes are honest, and it may have no write of several runs of its own. -/
structure HonestBase : Prop where
  /-- A write is honest. -/
  write : ∀ device bytes, D.Takes out device (.write bytes)
  /-- A write of several runs is one of the first that is not empty, or is honest itself. -/
  writeMany : D.WritesFirst ∨ ∀ device runs, D.Takes out device (.writeMany runs)
  /-- A flush takes no bytes. -/
  flush : ∀ device, out (D.pollFlush device).state = out device
  /-- A close takes no bytes. -/
  close : ∀ device, out (D.pollClose device).state = out device

end Operations

variable {ω : Type} {D : PolledDevice ω} {out : ω → Bytes}

theorem takes_of_quiet {device : ω} {call : PollCall} (hcall : call.offered = [])
    (hcredit : (D.perform device call).result.credit = 0) (hout : out (D.perform device call).state = out device) :
    D.Takes out device call := by
  refine ⟨hcredit ▸ Nat.zero_le _, ?_⟩
  rw [hcall, List.take_nil, List.append_nil]
  exact hout

/-- The first run that is not empty comes first in all of them. -/
theorem find_prefix_flatten (runs : List Bytes) : (runs.find? (!·.isEmpty)).getD [] <+: runs.flatten := by
  induction runs with
  | nil => exact List.prefix_rfl
  | cons run rest ih =>
    cases run with
    | nil => exact ih
    | cons byte run => exact List.prefix_append _ _

/-- The operations of an honest base are honest. -/
theorem HonestBase.honest (h : D.HonestBase out) : D.Honest out := by
  intro device call
  cases call with
  | write bytes => exact h.write device bytes
  | writeMany runs =>
    rcases h.writeMany with hfirst | hown
    · obtain ⟨rest, hrest⟩ := find_prefix_flatten runs
      obtain ⟨hle, hout⟩ := h.write device ((runs.find? (!·.isEmpty)).getD [])
      simp only [perform, PollCall.offered] at hle hout
      simp only [Takes, perform, PollCall.offered, hfirst device runs]
      rw [← hrest, List.length_append, List.take_append_of_le_length hle]
      exact ⟨Nat.le_add_right_of_le hle, hout⟩
    · exact hown device runs
  | flush => exact takes_of_quiet rfl (Poll.credit_map_ofUnit _) (h.flush device)
  | close => exact takes_of_quiet rfl (Poll.credit_map_ofUnit _) (h.close device)

namespace Honest

/-- What offers nothing takes nothing. -/
theorem out_of_quiet (h : D.Honest out) (device : ω) {call : PollCall} (hcall : call.offered = []) :
    out (D.perform device call).state = out device := by
  rw [(h device call).2, hcall, List.take_nil, List.append_nil]

theorem out_afterPolls (h : D.Honest out) (device : ω) {calls : List PollCall}
    (hcalls : ∀ call ∈ calls, call.offered = []) : out (D.afterPolls device calls) = out device := by
  induction calls generalizing device with
  | nil => rfl
  | cons call rest ih =>
    exact (ih _ fun c hc => hcalls c (List.mem_cons_of_mem call hc)).trans
      (h.out_of_quiet device (hcalls call List.mem_cons_self))

end Honest

end PolledDevice

/-- The small tank is honest when it is polled, too. -/
theorem polledTank_honest : polledTank.HonestBase id := by
  have hcredit (result : Except IoError UInt64) : ((Poll.ready result).map Yield.count).credit = taken result := by
    cases result <;> rfl
  refine ⟨fun stored run => ?_, Or.inr fun stored runs => ?_, fun _ => rfl, fun _ => rfl⟩
  · have hpour := tank_honest.write stored run
    rw [← hcredit] at hpour
    exact hpour
  · have hpour := tank_honest.writeMany stored runs
    rw [← hcredit] at hpour
    exact hpour

/-! ### Gates and stacks keep honesty -/

namespace Gate

/-- What a gate passes on offers no more bytes than it still lets through. -/
theorem offered_le_of_pass {g : Gate} {call : PollCall} (hcall : call.Countable) (h : g.pollPlan call = .pass) :
    call.offered.length ≤ g.budget.remaining.toNat := by
  by_cases hflush : call = .flush
  · subst hflush
    exact Nat.zero_le _
  · rcases permit_of_pass hflush h with ⟨bytes, rfl, -, hpermit⟩ | ⟨runs, rfl, hpermit⟩
    · exact Budget.le_remaining_of_permit hpermit
    · have hle := Budget.le_remaining_of_permit hpermit
      rw [Gated.toNat_totalLength hcall] at hle
      exact hle

/-- A gate that answers by itself reports no bytes. -/
theorem credit_of_answer {g : Gate} {call : PollCall} {result : Except IoError Yield}
    (h : g.pollPlan call = .answer result) : (Poll.ready result).credit = 0 := by
  have hpolled {size : Nat} (hp : g.planPolled size = .answer result) : (Poll.ready result).credit = 0 := by
    unfold planPolled at hp
    split at hp <;> cases hp
    rfl
  cases call with
  | write bytes =>
    simp only [pollPlan] at h
    split at h
    · cases h
      rfl
    · exact hpolled h
  | writeMany runs =>
    simp only [pollPlan] at h
    split at h
    · cases h
      rfl
    · exact hpolled h
  | flush =>
    simp only [pollPlan] at h
    split at h <;> cases h
    rfl
  | close =>
    simp only [pollPlan, planClose] at h
    repeat' split at h
    all_goals cases h
    all_goals rfl

end Gate

theorem Gated.offered_of_windUp {ω : Type} (D : PolledDevice ω) {g : Gated ω} {call : PollCall}
    (h : g.gate.pollPlan call = .windUp) : ∀ down ∈ g.passedOn D call, down.offered = [] := by
  intro down hdown
  simp only [passedOn, h, List.mem_append] at hdown
  rcases hdown with hflush | hclose
  · split at hflush
    · cases hflush
    · rw [List.mem_singleton.1 hflush]
      rfl
  · split at hclose
    · rw [List.mem_singleton.1 hclose]
      rfl
    · cases hclose

section Honest

variable {ω : Type} {D : PolledDevice ω} {out : ω → Bytes}

/-- A gate over an honest polled device is an honest polled device. -/
theorem PolledDevice.Honest.gated (h : D.Honest out) : D.gated.Honest fun g => out g.below := by
  intro g call
  cases hplan : g.gate.pollPlan call with
  | answer result =>
    obtain ⟨hresult, hstate⟩ := D.perform_gated_answer hplan
    simp only [Takes, hresult, hstate, Gate.credit_of_answer hplan, List.take_zero, List.append_nil]
    exact ⟨Nat.zero_le _, trivial⟩
  | pass =>
    obtain ⟨hresult, hstate⟩ := D.perform_gated_pass hplan
    simp only [Takes, hresult, hstate]
    exact h g.below call
  | windUp =>
    obtain rfl : call = .close := Decidable.not_not.1 fun hcall => g.gate.pollPlan_ne_windUp hcall hplan
    refine takes_of_quiet rfl (Poll.credit_map_ofUnit _) ?_
    rw [(Gated.hears_exchange g .close).2]
    exact h.out_afterPolls g.below (Gated.offered_of_windUp D hplan)

namespace Stack

/-- A stack over an honest base is an honest polled device. -/
theorem honest_poll (h : D.Honest out) (n : Nat) : (D.stacked n).Honest fun s => out s.base := by
  induction n with
  | zero => exact h
  | succ n ih => exact ih.gated

/-- A poll of a stack takes bytes honestly, at whatever level it enters. -/
theorem pollAt_takes (h : D.Honest out) {n : Nat} (s : Stack ω n) (entry : Nat) (call : PollCall) :
    let reply := s.pollAt D entry call
    reply.result.credit ≤ call.offered.length ∧
      out reply.state.base = out s.base ++ call.offered.take reply.result.credit := by
  induction n generalizing entry with
  | zero => cases entry <;> exact h s call
  | succ n ih =>
    cases entry with
    | zero => exact honest_poll h (n + 1) s call
    | succ entry => exact ih s.below entry

end Stack

end Honest

/-! ### Recorded devices -/

namespace PolledDevice

variable {ω : Type} (D : PolledDevice ω)

/-- The polled device that keeps a list of the polls that it hears, with their answers, the oldest first. -/
def recorded : PolledDevice (ω × List PollHeard) where
  pollWrite := fun (device, heard) bytes =>
    let reply := D.pollWrite device bytes
    reply.mapState (·, heard ++ [⟨.write bytes, reply.result.map .count⟩])
  pollWriteMany := fun (device, heard) runs =>
    let reply := D.pollWriteMany device runs
    reply.mapState (·, heard ++ [⟨.writeMany runs, reply.result.map .count⟩])
  pollFlush := fun (device, heard) =>
    let reply := D.pollFlush device
    reply.mapState (·, heard ++ [⟨.flush, reply.result.map Yield.ofUnit⟩])
  pollClose := fun (device, heard) =>
    let reply := D.pollClose device
    reply.mapState (·, heard ++ [⟨.close, reply.result.map Yield.ofUnit⟩])

/-- A recorded device does what the device does, and adds the poll to its list. -/
theorem perform_recorded (device : ω) (heard : List PollHeard) (call : PollCall) :
    D.recorded.perform (device, heard) call =
      (D.perform device call).mapState (·, heard ++ [⟨call, (D.perform device call).result⟩]) := by
  cases call <;> rfl

/-- Recording an honest device keeps it honest. -/
theorem Honest.recorded {D : PolledDevice ω} {out : ω → Bytes} (h : D.Honest out) :
    D.recorded.Honest fun r => out r.1 := by
  rintro ⟨device, heard⟩ call
  simp only [Takes, perform_recorded]
  exact h device call

end PolledDevice

end ExactLength
