import ExactLength.Proofs.Polled.Alike
import ExactLength.Proofs.Polled.Exchange

/-!
# Cycles of a gate over a polled device

An exchange changes a gate in three ways only: bytes are accounted for while no shutdown is requested, a flush is
settled while the cycle is open, or a shutdown is noted (`Gate.HearsPoll.react_induct`). Hence a gate over a polled
device is `Gate.Orderly` at all times: its cycle is open, or complete, or asked to end with nothing owed, or ended short.

A `PollCycle` is a gate at the start of a cycle together with its exchanges since. In a cycle the completion hook
runs once if completion is signalled, and else not at all (`PollCycle.Sound.completions`). A cycle that is closed
while bytes are owed reports them, and then the gate is as good as gone: nothing passes it any more, and every further
close finds nothing to do (`PollCycle.Sound.after_shortfall`).
-/

namespace ExactLength

/-- The exchange is one in which the gate itself reports a shortfall. -/
def PollExchange.reportsShortfall (x : PollExchange) : Bool :=
  match x.call, x.passed, x.answer with
  | .close, [], .ready (.error _) => true
  | _, _, _ => false

theorem PollExchange.call_of_reportsShortfall {x : PollExchange} (h : x.reportsShortfall = true) : x.call = .close := by
  unfold reportsShortfall at h
  split at h
  · assumption
  · cases h

/-! ### What exchanges keep -/

namespace Gate

variable {g : Gate} {x : PollExchange}

theorem hearPoll_of_write {call : PollCall} (hcall : call ≠ .flush) (h : g.pollPlan call = .pass) :
    g.hearPoll call = g := by
  cases call with
  | flush => exact absurd rfl hcall
  | close => exact absurd h g.pollPlan_close_ne_pass
  | _ => rfl

/-- **What an exchange may do to a gate**: account for bytes while no shutdown is requested, settle a flush while the
cycle is open, or note a shutdown. What these three keep is kept by every exchange. -/
theorem HearsPoll.react_induct {P : Gate → Prop}
    (hspend : ∀ g n, x.call ≠ .close → P g → g.budget.closing = false → P (g.spend n))
    (hsettle : ∀ g, P g → g.budget.ended = false → P (g.settle true).2)
    (hclose : ∀ g, x.call = .close → P g → P (g.hearPoll .close)) (hx : g.HearsPoll x) (hg : P g) :
    P (g.reactPoll x) := by
  have hwound (hcall : x.call = .close) (hnothing : g.budget.remaining = 0) : P g.woundUp := by
    unfold woundUp
    split
    · exact hclose g hcall hg
    · next hopen =>
      refine hsettle _ (hclose g hcall hg) ?_
      rw [g.hearPoll_close_of_nothing hnothing]
      exact Bool.eq_false_iff.2 hopen
  cases hx with
  | @answer call result h =>
    cases call with
    | close => exact hclose g rfl hg
    | _ => exact hg
  | @write call hcall h answer =>
    show P ((g.hearPoll call).learnPoll call (answer.map .count))
    rw [hearPoll_of_write hcall h]
    rcases answer with _ | e | n
    · rw [Poll.map, learnPoll_pending]
      exact hg
    · rw [Poll.map, Except.map, learnPoll_error]
      exact hg
    · have hspent : g.learnPoll call (.ready (.ok (.count n))) = g.spend n := by cases call <;> rfl
      show P (g.learnPoll call (.ready (.ok (.count n))))
      have hclose : call ≠ .close := by
        rintro rfl
        exact g.pollPlan_close_ne_pass h
      rw [hspent]
      exact hspend g n hclose hg (closing_of_pass hcall h)
  | flush hopen answer =>
    by_cases hanswer : answer = .ready (.ok ())
    · subst hanswer
      exact hsettle g hg hopen
    · show P (g.learnPoll .flush (answer.map Yield.ofUnit))
      rw [g.learnPoll_flush_of_ne hanswer]
      exact hg
  | stalled hnothing hopen hanswer =>
    rw [g.reactPoll_stalled hanswer]
    exact hclose g rfl hg
  | kept hnothing hkeeps =>
    rw [g.reactPoll_kept]
    exact hwound rfl hnothing
  | closed hnothing hpasses answer =>
    rw [g.reactPoll_closed]
    exact hwound rfl hnothing

/-- The stands that a gate over a polled device comes to: open, complete, asked to end with nothing owed, or ended
short. -/
structure Orderly (g : Gate) : Prop where
  /-- Completion was signalled if the cycle is over and nothing is owed, and only then. -/
  finished : g.budget.finished = true ↔ g.budget.ended = true ∧ g.budget.remaining = 0
  /-- A cycle that is to end with bytes owed is over. -/
  endsShort : g.budget.EndsShort
  /-- A cycle that is over with bytes owed was asked to end. -/
  closing : g.budget.ended = true → 0 < g.budget.remaining → g.budget.closing = true

namespace Orderly

theorem fresh {length : UInt64} (h : g.budget = Budget.fresh length) : g.Orderly where
  finished := by simp [h, Budget.fresh]
  endsShort := h ▸ Budget.endsShort_fresh length
  closing := by simp [h, Budget.fresh]

/-- A cycle that is over without a request owes nothing. -/
theorem nothing_of_open (h : g.Orderly) (hended : g.budget.ended = true) (hopen : g.budget.closing = false) :
    g.budget.remaining = 0 :=
  Decidable.not_not.1 fun howed => by
    have hclosing := h.closing hended (UInt64.pos_iff_ne_zero.2 howed)
    rw [hopen] at hclosing
    cases hclosing

theorem spend (h : g.Orderly) (n : UInt64) (hopen : g.budget.closing = false) : (g.spend n).Orderly where
  finished := by
    show g.budget.finished = true ↔ g.budget.ended = true ∧ (g.budget.spend n).remaining = 0
    rw [h.finished]
    refine and_congr_right fun hended => ?_
    rw [← UInt64.toNat_inj, ← UInt64.toNat_inj, Budget.toNat_remaining_spend, h.nothing_of_open hended hopen]
    simp
  endsShort := h.endsShort.spend n
  closing hended hpos := by
    have hspent := g.budget.toNat_remaining_spend n
    refine h.closing hended ?_
    rw [UInt64.lt_iff_toNat_lt] at hpos ⊢
    have hpos' : 0 < (g.budget.spend n).remaining.toNat := hpos
    show 0 < g.budget.remaining.toNat
    omega

theorem settle (h : g.Orderly) (hopen : g.budget.ended = false) : (g.settle true).2.Orderly where
  finished := by
    have hfinished : g.budget.finished = false := by
      rw [Bool.eq_false_iff, Ne, h.finished, hopen]
      simp
    simp only [Gate.settle, Budget.finished_settle, Budget.ended_settle, Budget.remaining_settle, hopen, hfinished]
    cases g.budget.closing <;> by_cases hr : g.budget.remaining = 0 <;> simp [hr]
  endsShort := h.endsShort.settle true
  closing := by
    simp only [Gate.settle, Budget.closing_settle, Budget.ended_settle, Budget.remaining_settle, hopen]
    intro hended hpos
    simpa [UInt64.pos_iff_ne_zero.1 hpos] using hended

theorem close (h : g.Orderly) : (g.hearPoll .close).Orderly where
  finished := by
    show g.budget.close.2.finished = true ↔ g.budget.close.2.ended = true ∧ g.budget.close.2.remaining = 0
    rw [Budget.finished_close, Budget.remaining_close, Budget.ended_close, h.finished]
    by_cases hr : g.budget.remaining = 0 <;> simp [hr]
  endsShort := h.endsShort.close
  closing _ _ := g.budget.closing_close

theorem reactPoll (h : g.Orderly) (hx : g.HearsPoll x) : (g.reactPoll x).Orderly :=
  hx.react_induct (fun _ n _ hg hopen => hg.spend n hopen) (fun _ hg hopen => hg.settle hopen) (fun _ _ hg => hg.close) h

end Orderly

/-- The completion hook runs as `finished` is raised, and at no other time. -/
theorem HearsPoll.completions (hx : g.HearsPoll x) {start : Nat}
    (h : g.completions = start + if g.budget.finished = true then 1 else 0) :
    (g.reactPoll x).completions = start + if (g.reactPoll x).budget.finished = true then 1 else 0 := by
  refine hx.react_induct (P := fun g => g.completions = start + if g.budget.finished = true then 1 else 0) ?_ ?_ ?_ h
  · intro g n _ hg _
    exact hg
  · intro g hg _
    simp only [Gate.settle, Budget.settle_fst, Budget.finished_settle, hg]
    cases g.budget.finished <;> by_cases hr : g.budget.remaining = 0 <;> simp [hr]
  · intro g _ hg
    show g.completions = start + if g.budget.close.2.finished = true then 1 else 0
    rw [Budget.finished_close]
    exact hg

/-- A gate that was closed with bytes owed. -/
structure Short (g : Gate) : Prop where
  /-- A shutdown was requested. -/
  closing : g.budget.closing = true
  /-- Bytes are owed. -/
  remaining : 0 < g.budget.remaining
  /-- The cycle is over. -/
  ended : g.budget.ended = true

/-- A gate that was closed with bytes owed passes nothing on, says of every further close that it is done, and stays
as it is. -/
theorem HearsPoll.of_short (hx : g.HearsPoll x) (h : g.Short) :
    x.passed = [] ∧ (x.call = .close → x.answer = .ready (.ok .unit)) ∧ g.reactPoll x = g := by
  have howed : g.budget.remaining ≠ 0 := UInt64.pos_iff_ne_zero.1 h.remaining
  cases hx with
  | @answer call result hplan =>
    have hclose := Budget.close_of_closing h.closing
    refine ⟨rfl, ?_, ?_⟩
    · rintro rfl
      have hplan' : g.pollPlan .close = .answer (.ok .unit) := by
        show g.planClose = _
        unfold planClose
        rw [hclose]
        exact if_pos h.remaining
      rw [hplan] at hplan'
      cases hplan'
      rfl
    · cases call with
      | close =>
        show { g with budget := g.budget.close.2 } = g
        rw [hclose]
      | _ => rfl
  | write hcall hplan =>
    have hopen := closing_of_pass hcall hplan
    rw [h.closing] at hopen
    cases hopen
  | flush hopen =>
    rw [h.ended] at hopen
    cases hopen
  | stalled hnothing => exact absurd hnothing howed
  | kept hnothing => exact absurd hnothing howed
  | closed hnothing => exact absurd hnothing howed

/-- A gate whose cycle is over flushes nothing below. -/
theorem HearsPoll.not_flushed (hx : g.HearsPoll x) (hended : g.budget.ended = true) :
    ∀ heard ∈ x.passed, heard.call ≠ .flush := by
  have hflushing : g.flushing = [] := if_pos hended
  cases hx with
  | answer => exact fun _ hmem => by cases hmem
  | write hcall =>
    intro heard hmem
    rw [List.mem_singleton.1 hmem]
    exact hcall
  | flush hopen =>
    rw [hended] at hopen
    cases hopen
  | stalled _ hopen =>
    rw [hended] at hopen
    cases hopen
  | kept =>
    rw [hflushing]
    exact fun _ hmem => by cases hmem
  | closed =>
    rw [hflushing]
    intro heard hmem
    rw [List.mem_singleton.1 hmem]
    exact PollCall.noConfusion

/-- A cycle that is over stays over. -/
theorem HearsPoll.ended (hx : g.HearsPoll x) (h : g.budget.ended = true) : (g.reactPoll x).budget.ended = true := by
  refine hx.react_induct (P := fun g => g.budget.ended = true) ?_ ?_ ?_ h
  · exact fun _ _ _ hg _ => hg
  · exact fun g hg _ => (g.budget.ended_settle true).trans (by rw [hg, Bool.true_or])
  · exact fun g _ hg => g.budget.ended_close.trans (by rw [hg, Bool.true_or])

/-- A requested shutdown stays requested. -/
theorem HearsPoll.closing (hx : g.HearsPoll x) (h : g.budget.closing = true) :
    (g.reactPoll x).budget.closing = true := by
  refine hx.react_induct (P := fun g => g.budget.closing = true) ?_ ?_ ?_ h
  · exact fun _ _ _ hg _ => hg
  · exact fun g hg _ => (g.budget.closing_settle true).trans hg
  · exact fun g _ _ => g.budget.closing_close

/-- What is no close requests no shutdown. -/
theorem HearsPoll.closing_of_ne (hx : g.HearsPoll x) (hcall : x.call ≠ .close) :
    (g.reactPoll x).budget.closing = g.budget.closing := by
  refine hx.react_induct (P := fun g' => g'.budget.closing = g.budget.closing) ?_ ?_ ?_ rfl
  · exact fun _ _ _ hg _ => hg
  · exact fun g' hg _ => (g'.budget.closing_settle true).trans hg
  · exact fun _ hclose _ => absurd hclose hcall

/-- A close requests a shutdown. -/
theorem HearsPoll.closing_of_close (hx : g.HearsPoll x) (hcall : x.call = .close) :
    (g.reactPoll x).budget.closing = true := by
  have hheard : (g.hearPoll .close).budget.closing = true := g.budget.closing_close
  cases hx with
  | answer hplan =>
    obtain rfl := hcall
    exact hheard
  | write hne hplan =>
    obtain rfl := hcall
    exact absurd hplan g.pollPlan_close_ne_pass
  | flush => cases hcall
  | stalled _ _ hanswer =>
    rw [g.reactPoll_stalled hanswer]
    exact hheard
  | kept =>
    rw [g.reactPoll_kept]
    exact g.closing_woundUp
  | closed =>
    rw [g.reactPoll_closed]
    exact g.closing_woundUp

/-- A close that finds bytes owed for the first time reports them, passes nothing on, and ends the cycle. -/
theorem HearsPoll.shortfall (hx : g.HearsPoll x) (hcall : x.call = .close) (hopen : g.budget.closing = false)
    (howed : 0 < g.budget.remaining) :
    x.passed = [] ∧ x.answer = .ready (.error (SinkError.underflow g.budget.remaining).toIo) ∧
      (g.reactPoll x).Short ∧ (g.reactPoll x).budget.remaining = g.budget.remaining := by
  have hne : g.budget.remaining ≠ 0 := UInt64.pos_iff_ne_zero.1 howed
  cases hx with
  | @answer call result hplan =>
    obtain rfl : call = .close := hcall
    have hclose := Budget.close_of_short hopen howed
    have hplan' : g.pollPlan .close = .answer (.error (SinkError.underflow g.budget.remaining).toIo) := by
      show g.planClose = _
      unfold planClose
      rw [hclose]
    rw [hplan] at hplan'
    cases hplan'
    have hreact : g.reactPoll ⟨.close, [], .ready (.error (SinkError.underflow g.budget.remaining).toIo)⟩ =
        g.giveUp := by
      show { g with budget := g.budget.close.2 } = g.giveUp
      rw [hclose]
      rfl
    rw [hreact]
    exact ⟨rfl, rfl, ⟨rfl, howed, rfl⟩, rfl⟩
  | write hne hplan =>
    obtain rfl := hcall
    exact absurd hplan g.pollPlan_close_ne_pass
  | flush => cases hcall
  | stalled hnothing => exact absurd hnothing hne
  | kept hnothing => exact absurd hnothing hne
  | closed hnothing => exact absurd hnothing hne

/-- A shortfall is reported by the close that requests the shutdown. -/
theorem HearsPoll.closing_of_reportsShortfall (hx : g.HearsPoll x) (h : x.reportsShortfall = true) :
    g.budget.closing = false ∧ (g.reactPoll x).budget.closing = true := by
  have hcall : x.call = .close := PollExchange.call_of_reportsShortfall h
  refine ⟨?_, hx.closing_of_close hcall⟩
  cases hx with
  | @answer call result hplan =>
    obtain rfl : call = .close := hcall
    cases hclosing : g.budget.closing with
    | false => rfl
    | true =>
      have hplan' : g.planClose = .answer result := hplan
      rw [planClose, Budget.close_of_closing hclosing] at hplan'
      dsimp only at hplan'
      split at hplan'
      · cases hplan'
        cases h
      · cases hplan'
  | write hne hplan =>
    obtain rfl := hcall
    exact absurd hplan g.pollPlan_close_ne_pass
  | flush => cases hcall
  | stalled => cases h
  | kept =>
    unfold flushing at h
    split at h <;> cases h
  | closed =>
    unfold flushing at h
    split at h <;> cases h

/-- The exchanges, one after the other, are such that the gate may have them. -/
def HearsPolls (g : Gate) : List PollExchange → Prop
  | [] => True
  | x :: rest => g.HearsPoll x ∧ (g.reactPoll x).HearsPolls rest

theorem hearsPolls_append {first rest : List PollExchange} :
    g.HearsPolls (first ++ rest) ↔ g.HearsPolls first ∧ (first.foldl reactPoll g).HearsPolls rest := by
  induction first generalizing g with
  | nil => simp [HearsPolls]
  | cons x first ih => simp [HearsPolls, ih, and_assoc]

/-- What every exchange keeps is kept by any number of them. -/
theorem HearsPolls.foldl_induct {P : Gate → Prop} (hstep : ∀ g x, g.HearsPoll x → P g → P (g.reactPoll x))
    {past : List PollExchange} (hpast : g.HearsPolls past) (hg : P g) : P (past.foldl reactPoll g) := by
  induction past generalizing g with
  | nil => exact hg
  | cons x rest ih => exact ih hpast.2 (hstep g x hpast.1 hg)

/-- A gate that was closed with bytes owed is so for all times. -/
theorem HearsPolls.of_short {past : List PollExchange} (hpast : g.HearsPolls past) (h : g.Short) :
    (∀ x ∈ past, x.passed = [] ∧ (x.call = .close → x.answer = .ready (.ok .unit))) ∧
      past.foldl reactPoll g = g := by
  induction past with
  | nil => exact ⟨fun _ hx => (List.not_mem_nil hx).elim, rfl⟩
  | cons x rest ih =>
    obtain ⟨hx, hrest⟩ := hpast
    obtain ⟨hpassed, hanswer, hsame⟩ := hx.of_short h
    rw [hsame] at hrest
    obtain ⟨hlater, hsame'⟩ := ih hrest
    refine ⟨?_, by rw [List.foldl_cons, hsame, hsame']⟩
    intro y hy
    rcases List.mem_cons.1 hy with rfl | hy
    · exact ⟨hpassed, hanswer⟩
    · exact hlater y hy

/-- Once the cycle of a gate is over, it flushes nothing below. -/
theorem HearsPolls.not_flushed {past : List PollExchange} (hpast : g.HearsPolls past) (hended : g.budget.ended = true) :
    ∀ x ∈ past, ∀ heard ∈ x.passed, heard.call ≠ .flush := by
  induction past generalizing g with
  | nil => exact fun _ hx => (List.not_mem_nil hx).elim
  | cons x rest ih =>
    intro y hy
    rcases List.mem_cons.1 hy with rfl | hy
    · exact hpast.1.not_flushed hended
    · exact ih hpast.2 (hpast.1.ended hended) y hy

/-- Once a close was heard, a shutdown is requested. -/
theorem HearsPolls.closing_of_close {past : List PollExchange} (hpast : g.HearsPolls past) {x : PollExchange}
    (hx : x ∈ past) (hcall : x.call = .close) : (past.foldl reactPoll g).budget.closing = true := by
  obtain ⟨before, after, rfl⟩ := List.append_of_mem hx
  obtain ⟨-, hnow, hafter⟩ := hearsPolls_append.1 hpast
  rw [List.foldl_append]
  exact hafter.foldl_induct (P := fun g => g.budget.closing = true) (fun _ _ hy hg => hy.closing hg)
    (hnow.closing_of_close hcall)

/-- As long as no close is heard, none is requested. -/
theorem HearsPolls.closing_of_ne {past : List PollExchange} (hpast : g.HearsPolls past)
    (hnone : ∀ x ∈ past, x.call ≠ .close) : (past.foldl reactPoll g).budget.closing = g.budget.closing := by
  induction past generalizing g with
  | nil => rfl
  | cons x rest ih =>
    exact (ih hpast.2 fun y hy => hnone y (List.mem_cons_of_mem x hy)).trans
      (hpast.1.closing_of_ne (hnone x List.mem_cons_self))

/-- A shortfall is reported once at most, and never after a shutdown was requested. -/
theorem HearsPolls.countP_reportsShortfall_le {past : List PollExchange} (hpast : g.HearsPolls past) :
    past.countP PollExchange.reportsShortfall ≤ if g.budget.closing = true then 0 else 1 := by
  induction past generalizing g with
  | nil => exact Nat.zero_le _
  | cons x rest ih =>
    obtain ⟨hx, hrest⟩ := hpast
    have hlater := ih hrest
    rw [List.countP_cons]
    cases hreports : x.reportsShortfall with
    | true =>
      obtain ⟨hopen, hclosing⟩ := hx.closing_of_reportsShortfall hreports
      rw [if_pos hclosing] at hlater
      simp only [hopen, Bool.false_eq_true, if_false, if_true]
      omega
    | false =>
      simp only [Bool.false_eq_true, if_false, Nat.add_zero]
      refine Nat.le_trans hlater ?_
      by_cases hclosing : g.budget.closing = true
      · exact Nat.le_of_eq ((if_pos (hx.closing hclosing)).trans (if_pos hclosing).symm)
      · rw [if_neg hclosing]
        split <;> omega

end Gate

/-! ### Cycles -/

/-- What a gate over a polled device has gone through since its present cycle started. -/
structure PollCycle where
  /-- The gate as it stood at the start. -/
  start : Gate
  /-- The exchanges since, the oldest first. -/
  past : List PollExchange

namespace PollCycle

/-- The gate as it stands now. -/
def gate (c : PollCycle) : Gate :=
  c.past.foldl Gate.reactPoll c.start

/-- The cycle started afresh, and the gate went through exchanges that it may have. -/
structure Sound (c : PollCycle) : Prop where
  /-- The cycle started afresh. -/
  fresh : ∃ length, c.start.budget = Budget.fresh length
  /-- The exchanges are such that the gate may have them. -/
  heard : c.start.HearsPolls c.past

namespace Sound

variable {c : PollCycle}

theorem start {g : Gate} {length : UInt64} (h : g.budget = Budget.fresh length) : Sound ⟨g, []⟩ :=
  ⟨⟨length, h⟩, trivial⟩

theorem append (h : c.Sound) {more : List PollExchange} (hmore : c.gate.HearsPolls more) :
    Sound ⟨c.start, c.past ++ more⟩ :=
  ⟨h.fresh, Gate.hearsPolls_append.2 ⟨h.heard, hmore⟩⟩

theorem orderly (h : c.Sound) : c.gate.Orderly := by
  obtain ⟨length, hfresh⟩ := h.fresh
  exact h.heard.foldl_induct (P := Gate.Orderly) (fun _ _ hx hg => hg.reactPoll hx) (Gate.Orderly.fresh hfresh)

/-- The completion hook has run once in the cycle if it is completed, and not at all otherwise. -/
theorem completions (h : c.Sound) :
    c.gate.completions = c.start.completions + if c.gate.budget.finished = true then 1 else 0 := by
  obtain ⟨length, hfresh⟩ := h.fresh
  refine h.heard.foldl_induct
    (P := fun g => g.completions = c.start.completions + if g.budget.finished = true then 1 else 0) ?_ ?_
  · exact fun _ _ hx hg => hx.completions hg
  · simp [hfresh, Budget.fresh]

/-- **After a shortfall.** Once a close finds bytes owed, the gate owes them for the rest of the cycle. The first such
close reports how many they are, every later one finds nothing to do. None of them passes anything on, and neither
does any other exchange after it. The completion hook does not run in the cycle. -/
theorem after_shortfall (h : c.Sound) {before after : List PollExchange} {x : PollExchange}
    (hpast : c.past = before ++ x :: after) (hcall : x.call = .close)
    (howed : 0 < (before.foldl Gate.reactPoll c.start).budget.remaining) :
    c.gate.budget.remaining = (before.foldl Gate.reactPoll c.start).budget.remaining ∧
      x.answer = (if ∃ y ∈ before, y.call = .close then .ready (.ok .unit)
        else .ready (.error (SinkError.underflow c.gate.budget.remaining).toIo)) ∧
      x.passed = [] ∧ (∀ y ∈ after, y.passed = [] ∧ (y.call = .close → y.answer = .ready (.ok .unit))) ∧
      c.gate.completions = c.start.completions := by
  obtain ⟨length, hfresh⟩ := h.fresh
  have hheard := h.heard
  rw [hpast, Gate.hearsPolls_append] at hheard
  obtain ⟨hbefore, hx, hafter⟩ := hheard
  have hgate : c.gate = after.foldl Gate.reactPoll ((before.foldl Gate.reactPoll c.start).reactPoll x) := by
    rw [gate, hpast, List.foldl_append, List.foldl_cons]
  -- either way the gate is short once it has heard the close, and stays so
  have hshort : ((before.foldl Gate.reactPoll c.start).reactPoll x).Short →
      c.gate = (before.foldl Gate.reactPoll c.start).reactPoll x ∧ c.gate.completions = c.start.completions := by
    intro hshort
    have hsame : c.gate = (before.foldl Gate.reactPoll c.start).reactPoll x := hgate.trans (hafter.of_short hshort).2
    have hunfinished : c.gate.budget.finished = false := by
      rw [Bool.eq_false_iff, Ne, h.orderly.finished, hsame]
      exact fun hdone => UInt64.pos_iff_ne_zero.1 hshort.remaining hdone.2
    refine ⟨hsame, ?_⟩
    rw [h.completions, hunfinished]
    rfl
  cases hclosing : (before.foldl Gate.reactPoll c.start).budget.closing with
  | false =>
    have hfirst : ¬ ∃ y ∈ before, y.call = .close := by
      rintro ⟨y, hy, hclose⟩
      rw [hbefore.closing_of_close hy hclose] at hclosing
      cases hclosing
    obtain ⟨hpassed, hanswer, hnow, hremaining⟩ := hx.shortfall hcall hclosing howed
    obtain ⟨hsame, hcompletions⟩ := hshort hnow
    rw [if_neg hfirst, hsame, hremaining]
    exact ⟨rfl, hanswer, hpassed, (hafter.of_short hnow).1, hsame ▸ hcompletions⟩
  | true =>
    have hrepeated : ∃ y ∈ before, y.call = .close := Decidable.not_not.1 fun hnone => by
      have hopen := hbefore.closing_of_ne fun y hy hclose => hnone ⟨y, hy, hclose⟩
      rw [hclosing, hfresh] at hopen
      cases hopen
    have horderly : (before.foldl Gate.reactPoll c.start).Orderly := orderly (c := ⟨c.start, before⟩) ⟨h.fresh, hbefore⟩
    have hnow : (before.foldl Gate.reactPoll c.start).Short := ⟨hclosing, howed, horderly.endsShort hclosing howed⟩
    obtain ⟨hpassed, hanswer, hreact⟩ := hx.of_short hnow
    rw [hreact] at hafter hshort
    obtain ⟨hsame, hcompletions⟩ := hshort hnow
    rw [if_pos hrepeated, hsame]
    exact ⟨rfl, hanswer hcall, hpassed, (hafter.of_short hnow).1, hsame ▸ hcompletions⟩

end Sound

end PollCycle

end ExactLength
