import ExactLength.Proofs.Polled.Driving
import ExactLength.Script.Devices

/-!
# Pending answers do not matter

A scripted polled device plays one action of its script per poll, and a pending answer is an action like any other:
nothing is taken, and the next poll plays the next action (`Script.perform_polledDevice`). So a script is as patient as
the same script without its pending answers, and driven stacks over the two come to the same.

The main statement is `Stack.pending_transparent`. Of two stacks with the same gates, over scripts that differ in their
pending answers only, a driver gets the same results. In the end their bases have the same bytes, and their gates stand
alike. What makes a second poll of a close harmless is said of the cycles of each gate, in `PollCycle.NothingTwice`,
for any polls in any order.
-/

namespace ExactLength

theorem Poll.map_ne_pending {α β : Type} {f : α → β} {answer : Poll α} (h : answer ≠ .pending) :
    answer.map f ≠ .pending := by
  cases answer with
  | pending => exact absurd rfl h
  | ready => nofun

/-! ### Scripts -/

namespace Script

/-- The actions that are left for an operation. -/
def queue (s : Script) : PollCall → List Action
  | .flush => s.flushes
  | .close => s.closes
  | _ => s.writes

/-- The script once an action of an operation is played. -/
def pop (s : Script) : PollCall → Script
  | .flush => { s with flushes := s.flushes.tail }
  | .close => { s with closes := s.closes.tail }
  | _ => { s with writes := s.writes.tail }

/-- A write that is shown some bytes, as the action tells: the answer, and the bytes taken. -/
def playWrite (bytes : Bytes) (action : Action) : Poll UInt64 × Bytes :=
  if action = .pending then (.pending, [])
  else
    match action.taking bytes.length bytes.length with
    | .error e => (.ready (.error e.toIo), [])
    | .ok (taken, reported) => (.ready (.ok reported), bytes.take taken)

/-- An operation, as the action tells: the answer, and the bytes taken. A device that does not gather is shown one run
only. -/
def play (gathers : Bool) (action : Action) : PollCall → Poll Yield × Bytes
  | .write bytes => (playWrite bytes action).map (Poll.map .count) id
  | .writeMany runs =>
    (playWrite (if gathers then runs.flatten else (runs.find? (!·.isEmpty)).getD []) action).map (Poll.map .count) id
  | .flush | .close => ((pollAnswer action action.succeeding).map Yield.ofUnit, [])

/-- The next action of an operation, played. -/
def playNext (s : Script) (call : PollCall) : Poll Yield × Bytes :=
  play s.gathers ((s.queue call).headD .plain) call

theorem next_eq (actions : List Action) : next actions = (actions.headD .plain, actions.tail) := by
  cases actions <;> rfl

theorem pollTake_eq (s : Script) (bytes : Bytes) :
    s.pollTake bytes =
      ⟨(playWrite bytes (s.writes.headD .plain)).1,
        { s with
          writes := s.writes.tail
          taken := s.taken ++ (playWrite bytes (s.writes.headD .plain)).2 }, []⟩ := by
  obtain ⟨writes, flushes, terminations, truncations, waits, closes, resumed, gathers, heard, taken⟩ := s
  rcases writes with _ | ⟨_ | _, rest⟩ <;>
    simp [pollTake, nextWrite, next, playWrite, takeRun, Action.taking, ioResult, accept]

/-- **A scripted polled device plays one action per poll**, and takes what the action tells. -/
theorem perform_polledDevice (s : Script) (call : PollCall) :
    (polledDevice.perform s call).result = (s.playNext call).1 ∧
      ∃ heard, (polledDevice.perform s call).state =
        { s.pop call with taken := s.taken ++ (s.playNext call).2, heard := heard } := by
  cases call with
  | write bytes =>
    simp only [PolledDevice.perform, polledDevice, pollWriteRun, pollTake_eq]
    exact ⟨rfl, _, rfl⟩
  | writeMany runs =>
    obtain ⟨writes, flushes, terminations, truncations, waits, closes, resumed, gathers, heard, taken⟩ := s
    simp only [PolledDevice.perform, polledDevice, pollWriteRuns, pollWriteRun, pollTake_eq, playNext, play, hear]
    cases gathers with
    | true => exact ⟨rfl, _, rfl⟩
    | false => exact ⟨rfl, _, rfl⟩
  | flush =>
    simp only [PolledDevice.perform, polledDevice, nextFlush, next_eq, playNext, play, List.append_nil]
    exact ⟨rfl, _, rfl⟩
  | close =>
    simp only [PolledDevice.perform, polledDevice, nextClose, next_eq, playNext, play, List.append_nil]
    exact ⟨rfl, _, rfl⟩

theorem play_pending (gathers : Bool) (call : PollCall) : play gathers .pending call = (.pending, []) := by
  cases call <;> rfl

theorem playWrite_ne_pending (bytes : Bytes) {action : Action} (h : action ≠ .pending) :
    (playWrite bytes action).1 ≠ .pending := by
  rw [playWrite, if_neg h]
  split <;> nofun

theorem play_ne_pending (gathers : Bool) {action : Action} (h : action ≠ .pending) (call : PollCall) :
    (play gathers action call).1 ≠ .pending := by
  have hanswer : pollAnswer action action.succeeding ≠ .pending := by
    unfold pollAnswer
    split
    · exact absurd rfl h
    · nofun
  cases call with
  | write bytes => exact Poll.map_ne_pending (playWrite_ne_pending bytes h)
  | writeMany runs => exact Poll.map_ne_pending (playWrite_ne_pending _ h)
  | flush => exact Poll.map_ne_pending hanswer
  | close => exact Poll.map_ne_pending hanswer

/-! ### Scripts without pending answers -/

/-- Some actions without the pending ones. -/
def withoutPending (actions : List Action) : List Action :=
  actions.filter (· ≠ .pending)

/-- It does not matter where a pending answer is inserted. -/
theorem withoutPending_insert (first rest : List Action) :
    withoutPending (first ++ .pending :: rest) = withoutPending (first ++ rest) := by
  simp [withoutPending]

/-- The script without its pending answers, and without what it has heard. -/
def prompt (s : Script) : Script :=
  { s with
    writes := withoutPending s.writes
    flushes := withoutPending s.flushes
    closes := withoutPending s.closes
    heard := [] }

theorem queue_pop (s : Script) (call : PollCall) : (s.pop call).queue call = (s.queue call).tail := by
  cases call <;> rfl

theorem queue_prompt (s : Script) (call : PollCall) : s.prompt.queue call = withoutPending (s.queue call) := by
  cases call <;> rfl

/-- A pending answer that was played is not missed. -/
theorem prompt_pop_of_pending {s : Script} {call : PollCall} {rest : List Action}
    (h : s.queue call = .pending :: rest) : (s.pop call).prompt = s.prompt := by
  cases call <;> simp_all [pop, queue, prompt, withoutPending]

theorem withoutPending_cons {action : Action} (h : action ≠ .pending) (rest : List Action) :
    withoutPending (action :: rest) = action :: withoutPending rest :=
  List.filter_cons_of_pos (decide_eq_true h)

theorem tail_withoutPending {actions : List Action} (h : actions.headD .plain ≠ .pending) :
    withoutPending actions.tail = (withoutPending actions).tail := by
  cases actions with
  | nil => rfl
  | cons action rest =>
    have hne : action ≠ .pending := h
    rw [withoutPending_cons hne, List.tail_cons, List.tail_cons]

theorem headD_withoutPending {actions : List Action} (h : actions.headD .plain ≠ .pending) :
    (withoutPending actions).headD .plain = actions.headD .plain := by
  cases actions with
  | nil => rfl
  | cons action rest =>
    have hne : action ≠ .pending := h
    rw [withoutPending_cons hne, List.headD_cons, List.headD_cons]

/-- Any other action is played on both sides. -/
theorem prompt_pop_of_ne {s : Script} {call : PollCall} (h : (s.queue call).headD .plain ≠ .pending) :
    (s.pop call).prompt = s.prompt.pop call := by
  cases call <;> simp only [queue] at h <;> simp only [pop, prompt, tail_withoutPending h]

theorem playNext_prompt {s : Script} {call : PollCall} (h : (s.queue call).headD .plain ≠ .pending) :
    s.prompt.playNext call = s.playNext call := by
  rw [playNext, playNext, queue_prompt, headD_withoutPending h]
  rfl

/-- The second script is the first one without its pending answers, whatever it has heard. -/
def HasPrompt (slow prompt : Script) : Prop :=
  slow.prompt = { prompt with heard := [] }

theorem HasPrompt.taken {slow prompt : Script} (h : slow.HasPrompt prompt) : slow.taken = prompt.taken := by
  have hprompt : slow.prompt = { prompt with heard := [] } := h
  show slow.prompt.taken = prompt.taken
  rw [hprompt]

theorem catchesUp_of_ne {slow prompt : Script} {call : PollCall} (hR : slow.HasPrompt prompt)
    (h : (slow.queue call).headD .plain ≠ .pending) :
    CatchesUp .pending (polledDevice.perform · call) HasPrompt slow prompt := by
  have hprompt : slow.prompt = { prompt with heard := [] } := hR
  obtain ⟨hresult, heard, hstate⟩ := slow.perform_polledDevice call
  obtain ⟨hresult', heard', hstate'⟩ := prompt.perform_polledDevice call
  have hsame : prompt.playNext call = slow.playNext call := by
    rw [← playNext_prompt h, hprompt]
    cases call <;> rfl
  refine .at_once ?_ ?_ ?_
  · show (polledDevice.perform prompt call).result ≠ .pending
    rw [hresult', hsame]
    exact play_ne_pending slow.gathers h call
  · exact hresult.trans (hsame ▸ hresult'.symm)
  · show HasPrompt (polledDevice.perform slow call).state (polledDevice.perform prompt call).state
    rw [hstate, hstate', hsame, hR.taken]
    show { (slow.pop call).prompt with taken := prompt.taken ++ (slow.playNext call).2 } = _
    rw [prompt_pop_of_ne h, hprompt]
    cases call <;> rfl

/-- **A scripted polled device is as patient as without its pending answers.** -/
theorem patient_polledDevice : polledDevice.Patient HasPrompt := by
  intro call slow prompt hR
  generalize hqueue : slow.queue call = actions
  induction actions generalizing slow with
  | nil => exact catchesUp_of_ne hR (by rw [hqueue]; nofun)
  | cons action rest ih =>
    by_cases hpending : action = .pending
    · subst hpending
      obtain ⟨hresult, heard, hstate⟩ := slow.perform_polledDevice call
      have hplays : slow.playNext call = (.pending, []) := by
        rw [playNext, hqueue]
        exact play_pending slow.gathers call
      rw [hplays] at hresult hstate
      refine .wait hresult (ih _ ?_ ?_)
      · show HasPrompt (polledDevice.perform slow call).state prompt
        rw [hstate, List.append_nil]
        show { (slow.pop call).prompt with taken := slow.taken } = { prompt with heard := [] }
        rw [prompt_pop_of_pending hqueue]
        exact hR
      · show queue (polledDevice.perform slow call).state call = rest
        rw [hstate]
        show _ = (Action.pending :: rest).tail
        rw [← hqueue, ← queue_pop]
        cases call <;> rfl
    · exact catchesUp_of_ne hR (by rw [hqueue]; exact hpending)

end Script

/-! ### What is not done twice -/

/-- A close that is pending waits for the flush while the cycle is open, or for the close below once it is over. -/
theorem Gate.HearsPoll.of_pending_close {g : Gate} {x : PollExchange} (hx : g.HearsPoll x) (hcall : x.call = .close)
    (hpending : x.answer = .pending) :
    x.passed = [⟨.flush, .pending⟩] ∧ (g.reactPoll x).budget.ended = false ∨
      ⟨.close, .pending⟩ ∈ x.passed ∧ (g.reactPoll x).budget.ended = true := by
  cases hx with
  | answer => cases hpending
  | write hne hplan =>
    obtain rfl := hcall
    exact absurd hplan g.pollPlan_close_ne_pass
  | flush => cases hcall
  | @stalled hnothing hopen answer hanswer =>
    have hpending' : answer.map Yield.ofUnit = .pending := hpending
    refine Or.inl ⟨by rw [hpending'], ?_⟩
    rw [g.reactPoll_stalled hanswer, g.hearPoll_close_of_nothing hnothing]
    exact hopen
  | kept => cases hpending
  | @closed hnothing hpasses answer =>
    have hpending' : answer.map Yield.ofUnit = .pending := hpending
    refine Or.inr ⟨?_, ?_⟩
    · rw [hpending']
      exact List.mem_append_right _ (List.mem_singleton_self _)
    · rw [g.reactPoll_closed]
      exact g.ended_woundUp

/-- However often a close is polled in a cycle, nothing is done twice. -/
structure PollCycle.NothingTwice (c : PollCycle) : Prop where
  /-- A close that is pending waits for the flush while the cycle is open, or for the close below once it is over. -/
  waits : ∀ before x after, c.past = before ++ x :: after → x.call = .close → x.answer = .pending →
    x.passed = [⟨.flush, .pending⟩] ∧ ((before ++ [x]).foldl Gate.reactPoll c.start).budget.ended = false ∨
      ⟨.close, .pending⟩ ∈ x.passed ∧ ((before ++ [x]).foldl Gate.reactPoll c.start).budget.ended = true
  /-- Once the cycle is over, nothing more is flushed below. -/
  flushes : ∀ before after, c.past = before ++ after → (before.foldl Gate.reactPoll c.start).budget.ended = true →
    ∀ x ∈ after, ∀ heard ∈ x.passed, heard.call ≠ .flush
  /-- A shortfall is reported once at most. -/
  shortfalls : c.past.countP PollExchange.reportsShortfall ≤ 1
  /-- The completion hook runs once at most. -/
  completions : c.gate.completions ≤ c.start.completions + 1

theorem PollCycle.Sound.nothingTwice {c : PollCycle} (h : c.Sound) : c.NothingTwice where
  waits before x after hpast hcall hpending := by
    have hheard := h.heard
    rw [hpast, Gate.hearsPolls_append] at hheard
    obtain ⟨-, hx, -⟩ := hheard
    rw [List.foldl_append]
    exact hx.of_pending_close hcall hpending
  flushes before after hpast hended := by
    have hheard := h.heard
    rw [hpast, Gate.hearsPolls_append] at hheard
    exact hheard.2.not_flushed hended
  shortfalls := by
    refine Nat.le_trans h.heard.countP_reportsShortfall_le ?_
    split <;> decide
  completions := by
    rw [h.completions]
    split <;> omega

/-! ### Two runs -/

namespace Stack

open Script (polledDevice patient_polledDevice)

/-- **Pending answers do not matter.** Take two stacks with the same gates, over scripts that are the same but for their
pending answers, and drive the same moves over both. Both runs come to an end, and they have the same results, the same
bytes in the base, and the same gates with the same counts of completions in the end.

A driven run makes each of the moves a number of times. Whatever is polled over a stack of new gates in this way, or in
any other, no cycle of a gate flushes after it is over, reports a second shortfall, or completes twice; and a close that
is pending waits for the flush while the cycle is open, and for the close below once it is over. -/
theorem pending_transparent {n : Nat} {s s' : Stack Script n} (hgates : s.gates = s'.gates)
    (hbase : s.base.prompt = s'.base.prompt) (moves : List PollMove) :
    (∃ results t t', s.Drives polledDevice moves results t ∧ s'.Drives polledDevice moves results t') ∧
      (∀ results t, s.Drives polledDevice moves results t →
        (∀ results' t', s'.Drives polledDevice moves results' t' →
          results = results' ∧ t.gates = t'.gates ∧ t.base.taken = t'.base.taken) ∧
        ∃ times : List Nat, times.length = moves.length ∧ s.pollRun polledDevice (repeated moves times) = t) ∧
      (s.IsNew → ∀ level g, s.gates[level]? = some g → ∀ polls,
        (s.pollCycle polledDevice level ⟨g, []⟩ polls).NothingTwice) := by
  obtain ⟨results, hdrives⟩ := drives_of_patient patient_polledDevice moves (s.mapBase Script.prompt)
  have hover : s.Over Script.HasPrompt (s.mapBase Script.prompt) := by
    refine ⟨(gates_mapBase _ s).symm, ?_⟩
    rw [base_mapBase]
    rfl
  have hover' : s'.Over Script.HasPrompt (s.mapBase Script.prompt) := by
    refine ⟨hgates.symm.trans (gates_mapBase _ s).symm, ?_⟩
    rw [base_mapBase]
    exact hbase.symm
  obtain ⟨t, hdriven, hend⟩ := hdrives s hover
  obtain ⟨t', hdriven', hend'⟩ := hdrives s' hover'
  refine ⟨⟨results, t, t', hdriven, hdriven'⟩, ?_, ?_⟩
  · intro _ _ hruns
    obtain ⟨rfl, rfl⟩ := hdriven.unique hruns
    refine ⟨fun _ _ hruns' => ?_, hdriven.exists_repeated⟩
    obtain ⟨rfl, rfl⟩ := hdriven'.unique hruns'
    exact ⟨rfl, hend.1.trans hend'.1.symm, hend.2.taken.trans hend'.2.taken.symm⟩
  · intro hnew level g hg polls
    exact (pollCycle_sound hnew hg polls).1.nothingTwice

/-- Two gates for three bytes over a script that takes two bytes first. -/
def overPromptScript : Stack Script 2 :=
  push (gateFor 3) (push (gateFor 3) (ofBase { writes := [.take 2] }))

/-- The same over a script that cannot do any operation at once. -/
def overSlowScript : Stack Script 2 :=
  push (gateFor 3) (push (gateFor 3) (ofBase
    { writes := [.pending, .take 2, .pending], flushes := [.pending, .pending], closes := [.pending] }))

/-- Three bytes in two writes, and a close. -/
def fillAndClose : List PollMove :=
  [.poll 0 (.write [1, 2, 3]), .poll 0 (.write [3]), .poll 0 .close]

/-- Over either script three bytes are written and both gates are completed. -/
theorem pending_transparent_slow :
    overPromptScript.gates = overSlowScript.gates ∧ overPromptScript.base.prompt = overSlowScript.base.prompt ∧
      overPromptScript.IsNew ∧
      ∃ t, overSlowScript.Drives polledDevice fillAndClose
          [.polled (.ready (.ok (.count 2))), .polled (.ready (.ok (.count 1))), .polled (.ready (.ok .unit))] t ∧
        t.base.taken = [1, 2, 3] ∧ t.gates.map Gate.completions = [1, 1] := by
  have hthree : (gateFor 3).IsNew := isNew_gateFor (by decide)
  have hnew : overPromptScript.IsNew := .push hthree (.push hthree (isNew_ofBase _))
  have hgates : overPromptScript.gates = overSlowScript.gates := rfl
  obtain ⟨⟨_, _, t, -, hslow⟩, hsame, -⟩ := pending_transparent hgates rfl fillAndClose
  have hprompt : overPromptScript.Drives polledDevice fillAndClose
      [.polled (.ready (.ok (.count 2))), .polled (.ready (.ok (.count 1))), .polled (.ready (.ok .unit))]
      (overPromptScript.pollRun polledDevice fillAndClose) :=
    .step (.done nofun) (.step (.done nofun) (.step (.done nofun) (.done _)))
  obtain ⟨hruns, -⟩ := hsame _ _ hprompt
  obtain ⟨rfl, hends, htaken⟩ := hruns _ _ hslow
  exact ⟨hgates, rfl, hnew, t, hslow, htaken.symm, congrArg (List.map Gate.completions) hends.symm⟩

end Stack

end ExactLength
