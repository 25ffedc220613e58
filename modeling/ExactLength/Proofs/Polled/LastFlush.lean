import ExactLength.Proofs.Polled.Cycle
import ExactLength.Proofs.Polled.Honest

/-!
# The last flush of a cycle

A gate over a polled device ends its cycle in one of two ways: it is closed with bytes owed, or what lies below has done
a flush with nothing owed. In the second case the gate has room for nothing any more, and so no bytes are taken from what
it passes on later, if the device below reports no more bytes than it is offered (`PollHeard.Fair`).

The main statement is `PollCycle.Sound.flushedLast`: among all that a gate passed on in a completed cycle there is a flush
that was done, and no bytes were taken since.
-/

namespace ExactLength

/-- No more bytes are reported than were offered. -/
def PollHeard.Fair (heard : PollHeard) : Prop :=
  heard.answer.credit ≤ heard.call.offered.length

/-- No bytes are taken, as far as what is offered can be counted. -/
def PollHeard.TakesNothing (heard : PollHeard) : Prop :=
  heard.call.Countable → heard.answer.credit = 0

/-- A flush was done, and no bytes were taken since. -/
def FlushedLast (heard : List PollHeard) : Prop :=
  ∃ early late, heard = early ++ ⟨.flush, .ready (.ok .unit)⟩ :: late ∧ ∀ h ∈ late, h.TakesNothing

/-- What comes after a flush ends the list, unless the flush does. -/
theorem exists_concat_of_flush {early late log : List PollHeard} {flush last : PollHeard}
    (h : early ++ flush :: late = log ++ [last]) (hne : last.call ≠ flush.call) : ∃ late', late = late' ++ [last] := by
  rcases List.eq_nil_or_concat late with rfl | ⟨late', x, rfl⟩
  · have heq : [flush] = [last] := List.append_inj_right' h rfl
    cases heq
    exact absurd rfl hne
  · rw [List.concat_eq_append, ← List.cons_append, ← List.append_assoc] at h
    have heq : [x] = [last] := List.append_inj_right' h rfl
    exact ⟨late', by rw [List.concat_eq_append, heq]⟩

/-! ### The last flush of a cycle -/

namespace Gate

variable {g : Gate} {x : PollExchange}

/-- Once the cycle is over, nothing is taken from what the gate passes on. -/
theorem HearsPoll.nothing_taken (hx : g.HearsPoll x) (hg : g.Orderly) (hended : g.budget.ended = true)
    (hfair : ∀ h ∈ x.passed, h.Fair) : ∀ h ∈ x.passed, h.TakesNothing := by
  have hflushing : g.flushing = [] := if_pos hended
  cases hx with
  | answer => exact fun _ hmem => by cases hmem
  | @write call hcall hplan answer =>
    have hnothing := hg.nothing_of_open hended (closing_of_pass hcall hplan)
    intro h hmem hcountable
    have hcredit := hfair h hmem
    obtain rfl := List.mem_singleton.1 hmem
    have hle := offered_le_of_pass hcountable hplan
    rw [hnothing, UInt64.toNat_zero] at hle
    exact Nat.le_zero.1 (Nat.le_trans hcredit hle)
  | flush hopen =>
    rw [hended] at hopen
    cases hopen
  | stalled _ hopen =>
    rw [hended] at hopen
    cases hopen
  | kept =>
    rw [hflushing]
    exact fun _ hmem => by cases hmem
  | closed =>
    rw [hflushing]
    intro h hmem _
    rw [List.mem_singleton.1 hmem]
    exact Poll.credit_map_ofUnit _

/-- The exchange that completes a cycle has the flush in it. -/
theorem HearsPoll.flushedLast (hx : g.HearsPoll x) (hopen : g.budget.ended = false)
    (hended : (g.reactPoll x).budget.ended = true) (hnothing : (g.reactPoll x).budget.remaining = 0) :
    FlushedLast x.passed := by
  have hflushing : g.flushing = [⟨.flush, .ready (.ok .unit)⟩] := by simp [flushing, hopen]
  cases hx with
  | @answer call result hplan =>
    refine absurd hended (Bool.eq_false_iff.1 ?_)
    cases call with
    | close =>
      have hremaining : g.budget.remaining = 0 := g.budget.remaining_close.symm.trans hnothing
      show g.budget.close.2.ended = false
      rw [Budget.ended_close, hopen, hremaining]
      simp
    | _ => exact hopen
  | @write call hcall hplan answer =>
    refine absurd hended (Bool.eq_false_iff.1 ?_)
    show ((g.hearPoll call).learnPoll call (answer.map .count)).budget.ended = false
    rw [hearPoll_of_write hcall hplan]
    rcases answer with _ | e | n <;> cases call <;> exact hopen
  | flush _ answer =>
    by_cases hanswer : answer = .ready (.ok ())
    · subst hanswer
      exact ⟨[], [], rfl, fun _ hmem => by cases hmem⟩
    · refine absurd hended (Bool.eq_false_iff.1 ?_)
      show (g.learnPoll .flush (answer.map Yield.ofUnit)).budget.ended = false
      rw [g.learnPoll_flush_of_ne hanswer]
      exact hopen
  | stalled hnone _ hanswer =>
    rw [g.reactPoll_stalled hanswer, g.hearPoll_close_of_nothing hnone] at hended
    rw [hopen] at hended
    cases hended
  | kept =>
    rw [hflushing]
    exact ⟨[], [], rfl, fun _ hmem => by cases hmem⟩
  | closed _ _ answer =>
    rw [hflushing]
    refine ⟨[], [⟨.close, answer.map Yield.ofUnit⟩], rfl, fun h hmem _ => ?_⟩
    rw [List.mem_singleton.1 hmem]
    exact Poll.credit_map_ofUnit _

/-- If a gate comes to be over with nothing owed, a flush was done on the way, or it was over before. In either case no
bytes were taken since. -/
theorem HearsPolls.flushedLast {past : List PollExchange} (hpast : g.HearsPolls past) (hg : g.Orderly)
    (hfair : ∀ h ∈ past.flatMap (·.passed), h.Fair) (hended : (past.foldl reactPoll g).budget.ended = true)
    (hnothing : (past.foldl reactPoll g).budget.remaining = 0) :
    (g.budget.ended = true ∧ ∀ h ∈ past.flatMap (·.passed), h.TakesNothing) ∨
      FlushedLast (past.flatMap (·.passed)) := by
  induction past generalizing g with
  | nil => exact Or.inl ⟨hended, fun _ hmem => by cases hmem⟩
  | cons x rest ih =>
    obtain ⟨hx, hrest⟩ := hpast
    have hg' := hg.reactPoll hx
    rw [List.flatMap_cons] at hfair ⊢
    rcases ih hrest hg' (fun h hmem => hfair h (List.mem_append_right _ hmem)) hended hnothing with
      ⟨hended', hquiet⟩ | ⟨early, late, heq, hquiet⟩
    · cases hopen : g.budget.ended with
      | true =>
        have hquiet' := hx.nothing_taken hg hopen fun h hmem => hfair h (List.mem_append_left _ hmem)
        refine Or.inl ⟨rfl, fun h hmem => ?_⟩
        rcases List.mem_append.1 hmem with hmem | hmem
        · exact hquiet' h hmem
        · exact hquiet h hmem
      | false =>
        -- a gate that is over with bytes owed would owe them still
        have hnothing' : (g.reactPoll x).budget.remaining = 0 := Decidable.not_not.1 fun howed => by
          have hpos := UInt64.pos_iff_ne_zero.2 howed
          rw [List.foldl_cons, (hrest.of_short ⟨hg'.closing hended' hpos, hpos, hended'⟩).2] at hnothing
          exact howed hnothing
        obtain ⟨early, late, heq, hlate⟩ := hx.flushedLast hopen hended' hnothing'
        refine Or.inr ⟨early, late ++ rest.flatMap (·.passed), by rw [heq]; simp, fun h hmem => ?_⟩
        rcases List.mem_append.1 hmem with hmem | hmem
        · exact hlate h hmem
        · exact hquiet h hmem
    · exact Or.inr ⟨x.passed ++ early, late, by rw [heq, List.append_assoc], hquiet⟩

end Gate

/-- In a completed cycle a flush was done after the last byte. -/
theorem PollCycle.Sound.flushedLast {c : PollCycle} (h : c.Sound) (hfair : ∀ h ∈ c.past.flatMap (·.passed), h.Fair)
    (hended : c.gate.budget.ended = true) (hnothing : c.gate.budget.remaining = 0) :
    FlushedLast (c.past.flatMap (·.passed)) := by
  obtain ⟨length, hfresh⟩ := h.fresh
  rcases h.heard.flushedLast (.fresh hfresh) hfair hended hnothing with ⟨hover, -⟩ | hflushed
  · rw [hfresh] at hover
    cases hover
  · exact hflushed

end ExactLength
