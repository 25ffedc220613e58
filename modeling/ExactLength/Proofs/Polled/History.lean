import ExactLength.Proofs.Polled.Cycle
import ExactLength.Proofs.Stack.History

/-!
# Histories of a stack over a polled device

What happens to the gates of such a stack in a run, gate by gate. One poll of a stack may mean several polls of a gate
further down, since every gate that is closed flushes first. `Stack.pollExchanges` lists the exchanges that the gate at
a level has in one poll, and `Stack.baseHears` the polls that reach the base.

A gate enters a new cycle when it is renewed, and lives through its exchanges in between. The main statement is
`Stack.pollCycle_sound`: after any run over any polled device, every gate stands as its present cycle leaves it, and
that cycle is sound.
-/

namespace ExactLength

namespace Stack

variable {ω : Type} (D : PolledDevice ω)

/-! ### One poll -/

/-- The exchanges of the gate at a level in a poll. -/
def pollExchanges : {n : Nat} → Stack ω n → (level : Nat) → PollCall → List PollExchange
  | 0, _, _, _ => []
  | n + 1, ⟨gate, below⟩, 0, call => [Gated.exchange (D.stacked n) ⟨gate, below⟩ call]
  | n + 1, ⟨gate, below⟩, level + 1, call =>
    (D.stacked n).along (fun below call => pollExchanges below level call) below
      (Gated.passedOn (D.stacked n) ⟨gate, below⟩ call)

/-- The exchanges of the gate at a level in a poll that enters at a level. -/
def pollExchangesAt : {n : Nat} → Stack ω n → (entry level : Nat) → PollCall → List PollExchange
  | _, s, 0, level, call => s.pollExchanges D level call
  | 0, _, _ + 1, _, _ => []
  | _ + 1, _, _ + 1, 0, _ => []
  | _ + 1, ⟨_, below⟩, entry + 1, level + 1, call => pollExchangesAt below entry level call

/-- The polls of the base that come of a poll of the stack, with their answers. -/
def baseHears : {n : Nat} → Stack ω n → PollCall → List PollHeard
  | 0, b, call => [⟨call, (D.perform b call).result⟩]
  | n + 1, ⟨gate, below⟩, call =>
    (D.stacked n).along (fun below call => baseHears below call) below
      (Gated.passedOn (D.stacked n) ⟨gate, below⟩ call)

/-- The stack after a number of moves. -/
def pollRun {n : Nat} (s : Stack ω n) (moves : List PollMove) : Stack ω n :=
  moves.foldl (fun s m => (s.pollMove D m).state) s

/-- The cycle of the gate at a level after a move. -/
def cycleAfter {n : Nat} (s : Stack ω n) (level : Nat) (c : PollCycle) : PollMove → PollCycle
  | .poll entry call => ⟨c.start, c.past ++ s.pollExchangesAt D entry level call⟩
  | .renew entry length passesClose =>
    if entry = level ∧ (s.renew entry length passesClose).toBool = true then ⟨c.gate.restart length passesClose, []⟩
    else c

/-- The cycle of the gate at a level after a number of moves. -/
def pollCycle {n : Nat} (s : Stack ω n) (level : Nat) (c : PollCycle) : List PollMove → PollCycle
  | [] => c
  | m :: rest => pollCycle (s.pollMove D m).state level (s.cycleAfter D level c m) rest

theorem pollRun_append {n : Nat} (s : Stack ω n) (first rest : List PollMove) :
    s.pollRun D (first ++ rest) = (s.pollRun D first).pollRun D rest :=
  List.foldl_append

/-! ### One gate more -/

/-- A poll of the top gate is an exchange with what lies below. -/
theorem perform_push_poll {n : Nat} (gate : Gate) (below : Stack ω n) (call : PollCall) :
    let g : Gated (Stack ω n) := ⟨gate, below⟩
    gate.HearsPoll (g.exchange (D.stacked n) call) ∧
      ((D.stacked (n + 1)).perform (push gate below) call).state =
        push (gate.reactPoll (g.exchange (D.stacked n) call))
          ((D.stacked n).afterPolls below (g.passedOn (D.stacked n) call)) :=
  Gated.hears_exchange (D := D.stacked n) ⟨gate, below⟩ call

/-- A poll that the top gate answers by itself. -/
theorem perform_push_poll_answer {n : Nat} {gate : Gate} {call : PollCall} {result : Except IoError Yield}
    (h : gate.pollPlan call = .answer result) (below : Stack ω n) :
    ((D.stacked (n + 1)).perform (push gate below) call).result = .ready result ∧
      ((D.stacked (n + 1)).perform (push gate below) call).state = push (gate.hearPoll call) below :=
  (D.stacked n).perform_gated_answer (g := ⟨gate, below⟩) h

/-- A poll that the top gate passes on. -/
theorem perform_push_poll_pass {n : Nat} {gate : Gate} {call : PollCall} (h : gate.pollPlan call = .pass)
    (below : Stack ω n) :
    ((D.stacked (n + 1)).perform (push gate below) call).result = ((D.stacked n).perform below call).result ∧
      ((D.stacked (n + 1)).perform (push gate below) call).state =
        push (gate.learnPoll call ((D.stacked n).perform below call).result) ((D.stacked n).perform below call).state :=
  (D.stacked n).perform_gated_pass (g := ⟨gate, below⟩) h

theorem pollAt_zero {n : Nat} (s : Stack ω n) (call : PollCall) : s.pollAt D 0 call = (D.stacked n).perform s call := by
  cases n <;> rfl

/-- A run that ends in a poll at the top. -/
theorem pollRun_append_poll {n : Nat} (s : Stack ω n) (moves : List PollMove) (call : PollCall) :
    s.pollRun D (moves ++ [.poll 0 call]) = ((D.stacked n).perform (s.pollRun D moves) call).state :=
  (s.pollRun_append D moves _).trans (congrArg Outcome.state (pollAt_zero D (s.pollRun D moves) call))

/-! ### The gates live through their exchanges -/

/-- The gate at a level hears a number of polls if it hears each. -/
theorem hears_along {n : Nat} {level : Nat} (tell : Stack ω n → PollCall → List PollExchange)
    (htell : ∀ (s : Stack ω n) call g, s.gates[level]? = some g →
      g.HearsPolls (tell s call) ∧
        (gates ((D.stacked n).perform s call).state)[level]? = some ((tell s call).foldl Gate.reactPoll g))
    (s : Stack ω n) {g : Gate} (hg : s.gates[level]? = some g) (calls : List PollCall) :
    g.HearsPolls ((D.stacked n).along tell s calls) ∧
      (gates ((D.stacked n).afterPolls s calls))[level]? =
        some (((D.stacked n).along tell s calls).foldl Gate.reactPoll g) := by
  induction calls generalizing s g with
  | nil => exact ⟨trivial, hg⟩
  | cons call rest ih =>
    obtain ⟨hheard, hg'⟩ := htell s call g hg
    obtain ⟨hlater, hg''⟩ := ih _ hg'
    rw [PolledDevice.along, Gate.hearsPolls_append, List.foldl_append]
    exact ⟨⟨hheard, hlater⟩, hg''⟩

theorem hears_pollExchanges {n : Nat} (s : Stack ω n) (level : Nat) (call : PollCall) {g : Gate}
    (hg : s.gates[level]? = some g) :
    g.HearsPolls (s.pollExchanges D level call) ∧
      (gates ((D.stacked n).perform s call).state)[level]? =
        some ((s.pollExchanges D level call).foldl Gate.reactPoll g) := by
  induction n generalizing level call g with
  | zero => cases hg
  | succ n ih =>
    obtain ⟨gate, below, rfl⟩ := s.exists_push
    obtain ⟨hhears, hstate⟩ := perform_push_poll D gate below call
    rw [hstate]
    cases level with
    | zero =>
      cases hg
      exact ⟨⟨hhears, trivial⟩, rfl⟩
    | succ level => exact hears_along D _ (fun s call g hg => ih s level call hg) below hg _

theorem hears_pollExchangesAt {n : Nat} (s : Stack ω n) (entry level : Nat) (call : PollCall) {g : Gate}
    (hg : s.gates[level]? = some g) :
    g.HearsPolls (s.pollExchangesAt D entry level call) ∧
      (s.pollAt D entry call).state.gates[level]? =
        some ((s.pollExchangesAt D entry level call).foldl Gate.reactPoll g) := by
  induction n generalizing entry level with
  | zero => cases hg
  | succ n ih =>
    cases entry with
    | zero => exact s.hears_pollExchanges D level call hg
    | succ entry =>
      obtain ⟨gate, below, rfl⟩ := s.exists_push
      cases level with
      | zero => exact ⟨trivial, hg⟩
      | succ level => exact ih below entry level hg

/-! ### Cycles -/

variable {D} {n : Nat} {s : Stack ω n} {level : Nat} {c : PollCycle}

theorem cycleAfter_sound (hc : c.Sound) (hg : s.gates[level]? = some c.gate) (m : PollMove) :
    (s.cycleAfter D level c m).Sound ∧ (s.pollMove D m).state.gates[level]? = some (s.cycleAfter D level c m).gate := by
  cases m with
  | poll entry call =>
    obtain ⟨hheard, hg'⟩ := s.hears_pollExchangesAt D entry level call hg
    refine ⟨hc.append hheard, ?_⟩
    rw [cycleAfter, PollCycle.gate, List.foldl_append]
    exact hg'
  | renew entry length passesClose =>
    simp only [cycleAfter, pollMove]
    cases hr : s.renew entry length passesClose with
    | error e =>
      rw [if_neg]
      · exact ⟨hc, hg⟩
      · rintro ⟨-, hok⟩
        cases hok
    | ok s' =>
      simp only [Except.toBool, and_true]
      rcases renew_eq_ok_iff.1 hr with ⟨g, hentry, -, -, rfl⟩ | ⟨hnone, rfl⟩
      · rw [gates_setGate]
        by_cases heq : entry = level
        · subst heq
          obtain rfl : g = c.gate := Option.some.inj (hentry.symm.trans hg)
          obtain ⟨hlt, -⟩ := List.getElem?_eq_some_iff.1 hg
          rw [if_pos rfl]
          exact ⟨.start rfl, List.getElem?_set_self hlt⟩
        · rw [if_neg heq]
          exact ⟨hc, by rw [List.getElem?_set_ne heq]; exact hg⟩
      · rw [if_neg]
        · exact ⟨hc, hg⟩
        · rintro rfl
          rw [hnone] at hg
          cases hg

/-- A sound cycle stays sound, and the gate stands as it leaves it. -/
theorem pollCycle_follow (hc : c.Sound) (hg : s.gates[level]? = some c.gate) (moves : List PollMove) :
    (s.pollCycle D level c moves).Sound ∧
      (s.pollRun D moves).gates[level]? = some (s.pollCycle D level c moves).gate := by
  induction moves generalizing s c with
  | nil => exact ⟨hc, hg⟩
  | cons m rest ih =>
    obtain ⟨hc', hg'⟩ := cycleAfter_sound (D := D) hc hg m
    exact ih hc' hg'

/-- After any run over any polled device, each gate is in a sound cycle. -/
theorem pollCycle_sound (hnew : s.IsNew) {g : Gate} (hg : s.gates[level]? = some g) (moves : List PollMove) :
    (s.pollCycle D level ⟨g, []⟩ moves).Sound ∧
      (s.pollRun D moves).gates[level]? = some (s.pollCycle D level ⟨g, []⟩ moves).gate := by
  obtain ⟨config, hooked, hmade⟩ := hnew g (List.mem_of_getElem? hg)
  obtain ⟨-, rfl⟩ := Gate.ofConfig_eq_ok_iff.1 hmade
  exact pollCycle_follow (.start rfl) hg moves

end Stack

end ExactLength
