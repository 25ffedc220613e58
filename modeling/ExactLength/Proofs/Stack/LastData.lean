import ExactLength.Proofs.Sink.Gathering
import ExactLength.Proofs.Stack.Completion
import ExactLength.Proofs.Stack.Pipeline
import Mathlib.Logic.Relation

/-!
# Last data

A write of the last data may take a part only, and is then made again with what is left, until nothing is left. Over a
gate this is where three things meet: the leave that each write needs, the account of what was taken, and the shutdown
that follows the write that takes the rest.

`Stack.UnderWay` is the invariant of such writes: what was sent is in the output and in the account, what is left is
what comes next, no shutdown was requested, and the base has heard of writes only. Each write keeps it
(`UnderWay.opening`), and what the last one adds is the shutdown of a gate that owes what was not sent
(`UnderWay.ends`). More than the gate has leave for is refused at once.

The main statement is `Stack.last_data`. What the base answers to a shutdown is left open, and so is how often it takes
nothing. Whether its writes fail is read off its log.
-/

namespace ExactLength

/-- What a base has heard besides calls that bring bytes. -/
def besides (log : List Answered) : List Answered :=
  log.filter fun x => !x.call.brings

theorem besides_concat_of_brings {log : List Answered} {x : Answered} (hx : x.call.brings = true)
    (h : besides log = []) : besides (log ++ [x]) = [] := by
  rw [besides, List.filter_append, ← besides, h]
  simp [hx]

theorem besides_concat {log : List Answered} {x : Answered} (hx : x.call.brings = false) (h : besides log = []) :
    besides (log ++ [x]) = [x] := by
  rw [besides, List.filter_append, ← besides, h]
  simp [hx]

namespace Sink

variable {σ : Type} (S : Sink σ)

/-- A call succeeds and leaves something, and is to be made again with what it left. -/
def Leaves (before after : σ × Call) : Prop :=
  (∃ value, (S.perform before.1 before.2).result = .ok value) ∧ (S.perform before.1 before.2).state = after ∧
    Source.allEmpty after.2.sources = false

variable {S} {sink : σ} {call : Call} {value : Yield}

/-- A write of last data that left something comes to its opening. -/
theorem perform_of_left (hok : (S.perform sink call.opening).result = .ok value)
    (hleft : (S.perform sink call.opening).state.2.drained = false) :
    (S.perform sink call).result = .ok value ∧
      (S.perform sink call).state.1 = (S.perform sink call.opening).state.1 := by
  have hstays : goesOn call (S.perform sink call.opening) = false := by
    rw [goesOn, hleft, Bool.and_false]
  rw [S.perform_result sink call, S.perform_state sink call, hstays]
  exact ⟨hok, rfl⟩

/-- A write of last data that left nothing goes on with a termination, and fails only with that. -/
theorem perform_of_drained (hlast : call.isLast = true) (hok : (S.perform sink call.opening).result = .ok value)
    (hdrained : (S.perform sink call.opening).state.2.drained = true) :
    let ended := S.perform (S.perform sink call.opening).state.1 .terminate
    (S.perform sink call).result = ended.result.map (fun _ => value) ∧
      (S.perform sink call).state.1 = ended.state.1 := by
  intro ended
  have hgoes : goesOn call (S.perform sink call.opening) = true := by
    rw [goesOn, hlast, hok, hdrained]
    rfl
  rw [S.perform_result sink call, S.perform_state sink call, hgoes, hok]
  refine ⟨?_, rfl⟩
  show ended.result.bind _ = _
  cases ended.result <;> rfl

end Sink

/-! ### The sources of a call -/

namespace Call

variable {call back : Call} {exact : Prop} {bytes : Bytes}

/-- What the opening of a write of last data took comes from the front of its sources, and the rest is left. -/
theorem Gives.of_isLast (h : call.opening.Gives exact bytes back) (hlast : call.isLast = true) (hfits : call.Fits) :
    (call.restore back).isLast = true ∧ (call.restore back).Fits ∧
      bytes ++ Source.joined (call.restore back).sources = Source.joined call.sources ∧
      Source.allEmpty (call.restore back).sources = back.drained := by
  cases call with
  | writeLast src =>
    obtain ⟨src', rfl, hsrc⟩ := gives_write_iff.1 h
    refine ⟨rfl, trivial, ?_, Bool.and_true _⟩
    show bytes ++ (src'.bytes ++ []) = src.bytes ++ []
    rw [hsrc, List.append_nil, List.append_nil]
  | writeManyLast sources =>
    obtain ⟨sources', rfl, hsources⟩ := gives_writeMany_iff.1 h
    have hjoined := hsources.append_joined
    have hlen := congrArg List.length hjoined
    rw [List.length_append] at hlen
    have hall : (Source.joined sources).length < UInt64.size := hfits
    refine ⟨rfl, ?_, hjoined, rfl⟩
    show (Source.joined sources').length < UInt64.size
    omega
  | _ => cases hlast

theorem brings_of_isLast (hlast : call.isLast = true) : call.opening.brings = true := by
  cases call with
  | writeLast src => rfl
  | writeManyLast sources => rfl
  | _ => cases hlast

end Call

namespace Gate

variable {g : Gate} {call : Call}

/-- An open gate with leave for all that is left has nothing to do for a write of last data, or passes it on. -/
theorem plan_opening_of_room (hlast : call.isLast = true) (hfits : call.Fits)
    (hroom : g.hasRoom (Source.joined call.sources).length = true) :
    g.plan call.opening = .answer (.ok (.count 0)) ∨
      ∃ down, down.brings = true ∧ g.plan call.opening = .pass down none := by
  have hsource (src : Source) (hsrc : g.hasRoom (Source.joined [src]).length = true) :
      g.planSource src = .answer (.ok (.count 0)) ∨
        ∃ down, down.brings = true ∧ g.planSource src = .pass down none := by
    rw [Source.joined_cons, Source.joined_nil, List.append_nil] at hsrc
    exact (planSource_of_room hsrc).imp id fun h => ⟨_, rfl, h⟩
  cases call with
  | writeLast src => exact hsource src hroom
  | writeManyLast sources =>
    rcases sources with _ | ⟨src, _ | ⟨second, rest⟩⟩
    · exact Or.inl rfl
    · exact hsource src hroom
    · refine Or.inr ⟨.writeMany (src :: second :: rest), rfl, ?_⟩
      show g.plan (.writeMany _) = _
      rw [g.plan_writeMany (by simp), Nat.mod_eq_of_lt hfits]
      exact if_pos hroom
  | _ => cases hlast

/-- An open gate without leave for all that is left refuses by itself. -/
theorem plan_opening_of_excess (hopen : g.budget.closing = false) (hlast : call.isLast = true) (hfits : call.Fits)
    (hexcess : g.budget.remaining.toNat < (Source.joined call.sources).length) :
    g.plan call.opening = .answer (.error .overflow) := by
  have hsource (src : Source) (hsrc : g.budget.remaining.toNat < (Source.joined [src]).length) :
      g.planSource src = .answer (.error .overflow) := by
    rw [Source.joined_cons, Source.joined_nil, List.append_nil] at hsrc
    have hlive : ¬ src.isEmpty = true := by
      rw [src.isEmpty_iff]
      rintro hnil
      rw [hnil] at hsrc
      exact absurd hsrc (Nat.not_lt_zero _)
    have hroom : ¬ g.hasRoom src.remaining = true := by
      rw [hasRoom_iff_of_open hopen]
      exact Nat.not_le.2 hsrc
    rw [planSource, if_neg hlive, planWrite_eq, if_neg hroom, refusal_of_open hopen]
  cases call with
  | writeLast src => exact hsource src hexcess
  | writeManyLast sources =>
    rcases sources with _ | ⟨src, _ | ⟨second, rest⟩⟩
    · exact absurd hexcess (Nat.not_lt_zero _)
    · exact hsource src hexcess
    · have hroom : ¬ g.hasRoom (Source.joined (src :: second :: rest)).length = true := by
        rw [hasRoom_iff_of_open hopen]
        exact Nat.not_le.2 hexcess
      show g.plan (.writeMany _) = _
      rw [g.plan_writeMany (by simp), Nat.mod_eq_of_lt hfits, if_neg hroom, refusal_of_open hopen]
  | _ => cases hlast

/-- A cycle that is over stays over, and its completion hook does not run any more. -/
theorem completions_of_ended (h : g.budget.ended = true) {episodes : List Episode} (hmeets : g.MeetsAll episodes)
    (hsame : ∀ e ∈ episodes, e.isExchange = true) : (episodes.foldl live g).completions = g.completions := by
  induction episodes generalizing g with
  | nil => rfl
  | cons e rest ih =>
    obtain ⟨hfirst, hrest⟩ := hmeets
    cases e with
    | cycle length passesClose checked => cases hsame _ List.mem_cons_self
    | exchange x =>
      have hover : (g.react x).budget.ended = true := (ended_react g x).2 (Or.inl h)
      have hfinished : (g.react x).budget.finished = g.budget.finished := by
        -- a gate whose cycle is over passes no flush on
        have hnot : ¬ x.IsFlushed := fun hx => by
          rw [not_ended_of_isFlushed hfirst hx] at h
          cases h
        rw [Bool.eq_iff_iff, finished_react]
        simp [hnot]
      have hcompletions := completions_react g x
      rw [hfinished, if_neg (by simp), Nat.add_zero] at hcompletions
      rw [List.foldl_cons, ← hcompletions]
      exact ih hover hrest fun e he => hsame e (List.mem_cons_of_mem _ he)

end Gate

namespace Stack

variable {σ : Type} {S : Sink σ} {out : σ → Bytes} {exact : Prop}

/-! ### Writes of last data under way -/

/-- Of all the last data so much was sent, through a gate that stood as given before. -/
structure UnderWay (out : σ → Bytes) (g : Gate) (start all sent : Bytes) (now : Gate) (base : σ × List Answered)
    (call : Call) : Prop where
  /-- The call is a write of last data. -/
  isLast : call.isLast = true
  /-- What it offers can be counted. -/
  fits : call.Fits
  /-- What was sent and what is left is all there is. -/
  left : sent ++ Source.joined call.sources = all
  /-- What was sent is at the end of the output. -/
  output : out base.1 = start ++ sent
  /-- What was sent is in the account. -/
  remaining : now.budget.remaining.toNat + sent.length = g.budget.remaining.toNat
  /-- No shutdown was requested. -/
  closing : now.budget.closing = false
  /-- The gate passes a shutdown on if it did. -/
  passesClose : now.passesClose = g.passesClose
  /-- The completion hook did not run. -/
  completions : now.completions = g.completions
  /-- The base has heard of nothing but writes. -/
  quiet : besides base.2 = []

namespace UnderWay

variable {g now : Gate} {start all sent : Bytes} {base : σ × List Answered} {call : Call}

theorem hasRoom (hs : UnderWay out g start all sent now base call) (hfit : all.length ≤ g.budget.remaining.toNat) :
    now.hasRoom (Source.joined call.sources).length = true := by
  have hall := congrArg List.length hs.left
  rw [List.length_append] at hall
  have hremaining := hs.remaining
  apply Gate.hasRoom_iff.2
  constructor
  · exact hs.closing
  · omega

/-- What is under way goes on when some of what is left was taken, and counted. -/
theorem spend (hs : UnderWay out g start all sent now base call) (hfit : all.length ≤ g.budget.remaining.toNat)
    {back : Call} {bytes : Bytes} {n : UInt64} {base' : σ × List Answered}
    (hgives : call.opening.Gives exact bytes back) (hn : bytes.length = n.toNat)
    (hout : out base'.1 = out base.1 ++ bytes) (hquiet : besides base'.2 = []) :
    UnderWay out g start all (sent ++ bytes) (now.spend n) base' (call.restore back) := by
  obtain ⟨hlast, hfits, hleft, -⟩ := hgives.of_isLast hs.isLast hs.fits
  have hjoined : (sent ++ bytes) ++ Source.joined (call.restore back).sources = all := by
    rw [List.append_assoc, hleft, hs.left]
  refine ⟨hlast, hfits, hjoined, ?_, ?_, hs.closing, hs.passesClose, hs.completions, hquiet⟩
  · rw [hout, hs.output, List.append_assoc]
  · -- no more was taken than was left, so the account is exact
    have hremaining := hs.remaining
    have hspend := now.budget.toNat_remaining_spend n
    have hroom : n.toNat ≤ now.budget.remaining.toNat := by
      have hall := congrArg List.length hjoined
      simp only [List.length_append] at hall
      omega
    show (now.budget.spend n).remaining.toNat + _ = _
    rw [List.length_append]
    omega

/-- The next write either fails in the base, or is one more write under way. -/
theorem opening (h : S.Honest out exact) (hs : UnderWay out g start all sent now base call)
    (hfit : all.length ≤ g.budget.remaining.toNat) :
    let opened := ((S.logged out).stacked 1).perform (push now (ofBase base)) call.opening
    (∃ e, opened.result = .error e ∧ ∃ x ∈ opened.state.1.base.2, x.call.brings = true ∧ x.answer = .error e) ∨
      ∃ n sent' now' base', opened.result = .ok (.count n) ∧ opened.state.1 = push now' (ofBase base') ∧
        UnderWay out g start all sent' now' base' (call.restore opened.state.2) ∧
        Source.allEmpty (call.restore opened.state.2).sources = opened.state.2.drained := by
  intro opened
  obtain ⟨sink, log⟩ := base
  have hopening := call.isLast_opening
  obtain ⟨bytes, hout, hcredit, hgives⟩ :=
    Stack.honest h.logged 1 (push now (ofBase (sink, log))) call.opening hopening hs.fits.opening
  obtain ⟨-, -, -, hdrained⟩ := hgives.of_isLast hs.isLast hs.fits
  have hhear : now.hear call.opening = now := Gate.hear_of_brings now (Call.brings_of_isLast hs.isLast)
  have hnext {n : UInt64} {base' : σ × List Answered} (hresult : opened.result = .ok (.count n))
      (hstate : opened.state.1 = push (now.spend n) (ofBase base')) (hquiet : besides base'.2 = []) :
      ∃ n sent' now' base', opened.result = .ok (.count n) ∧ opened.state.1 = push now' (ofBase base') ∧
        UnderWay out g start all sent' now' base' (call.restore opened.state.2) ∧
        Source.allEmpty (call.restore opened.state.2).sources = opened.state.2.drained := by
    have hn : bytes.length = n.toNat := hcredit.trans (congrArg credited hresult)
    have hbelow : out opened.state.1.base.1 = out sink ++ bytes := hout
    rw [hstate] at hbelow
    exact ⟨n, sent ++ bytes, now.spend n, base', hresult, hstate, hs.spend hfit hgives hn hbelow hquiet, hdrained⟩
  rcases Gate.plan_opening_of_room hs.isLast hs.fits (hs.hasRoom hfit) with hanswer | ⟨down, hbrings, hpass⟩
  · obtain ⟨hresult, hstate⟩ := perform_push_answer (S.logged out) hopening hanswer (ofBase (sink, log))
    right
    apply hnext hresult _ hs.quiet
    rw [now.spend_zero, ← hhear]
    exact congrArg Prod.fst hstate
  · obtain ⟨hresult, hstate⟩ := perform_push_noted S out sink log hopening hpass
    cases hanswer : (S.perform sink down).result with
    | error e =>
      left
      refine ⟨e, hresult.trans hanswer, ⟨down, .error e, out (S.perform sink down).state.1⟩, ?_, hbrings, rfl⟩
      show _ ∈ opened.state.1.base.2
      rw [hstate, hanswer]
      exact List.mem_append_right _ (List.mem_singleton_self _)
    | ok value =>
      obtain ⟨n, rfl⟩ := S.exists_count_of_brings hbrings hanswer
      rw [hhear, hanswer, Gate.learn_count] at hstate
      right
      exact hnext (hresult.trans hanswer) hstate (besides_concat_of_brings hbrings hs.quiet)

/-- Writes that left something are under way. -/
theorem of_leaves (h : S.Honest out exact) (hfit : all.length ≤ g.budget.remaining.toNat)
    (hs : UnderWay out g start all sent now base call) {after : Stack (σ × List Answered) 1 × Call}
    (hmade : Relation.ReflTransGen ((S.logged out).stacked 1).Leaves (push now (ofBase base), call) after) :
    ∃ sent' now' base', after.1 = push now' (ofBase base') ∧ UnderWay out g start all sent' now' base' after.2 := by
  induction hmade with
  | refl => exact ⟨sent, now, base, rfl, hs⟩
  | @tail before after _ hstep ih =>
    obtain ⟨sent', now', base', hbefore, hs'⟩ := ih
    obtain ⟨⟨value, hvalue⟩, hafter, hlive⟩ := hstep
    rw [hbefore] at hvalue hafter
    rcases hs'.opening h hfit with ⟨e, he, -⟩ | ⟨n, sent'', now'', base'', hok, hstate, hs'', hdrained⟩
    · rw [(Sink.perform_of_opening_error _ he).1] at hvalue
      cases hvalue
    · have hback := Sink.perform_arguments ((S.logged out).stacked 1) (push now' (ofBase base')) before.2
      rw [hafter] at hback
      rw [← hback] at hs'' hdrained
      obtain ⟨-, hstays⟩ := Sink.perform_of_left hok (hdrained.symm.trans hlive)
      rw [hafter, hstate] at hstays
      exact ⟨sent'', now'', base'', hstays, hs''⟩

/-- A shutdown after writes under way, where all is sent that the gate had leave for: it is requested, and goes to the
base if the gate passes it on. -/
theorem terminate_of_nothing (hs : UnderWay out g start all sent now base call) (hnothing : now.budget.remaining = 0) :
    let ended := ((S.logged out).stacked 1).perform (push now (ofBase base)) .terminate
    ended.state.1.gates = [now.requested] ∧
      (g.passesClose = false → besides ended.state.1.base.2 = [] ∧ ended.result = .ok .unit) ∧
      (g.passesClose = true → ∃ x, besides ended.state.1.base.2 = [x] ∧ x.call = .terminate ∧
        ended.result = x.answer) := by
  intro ended
  rw [← hs.passesClose]
  cases hpasses : now.passesClose with
  | false =>
    have hkept := terminate_push_of_keeps (S.logged out) hs.closing hnothing hpasses (ofBase base)
    have hended : ended = Sink.perform.ended Yield.ofUnit .terminate (.ok () (push now.requested (ofBase base))) :=
      congrArg (Sink.perform.ended Yield.ofUnit .terminate) hkept
    rw [hended]
    exact ⟨rfl, fun _ => ⟨hs.quiet, rfl⟩, fun h => by cases h⟩
  | true =>
    have hyields := terminate_push_of_yields (S.logged out) ⟨hs.closing, hnothing, hpasses⟩ (ofBase base)
    have hended : ended = Sink.perform.ended Yield.ofUnit .terminate _ :=
      congrArg (Sink.perform.ended Yield.ofUnit .terminate) hyields
    rw [hended]
    obtain ⟨sink, log⟩ := base
    refine ⟨rfl, (fun h => by cases h), fun _ => ?_⟩
    refine ⟨⟨.terminate, (S.terminate sink).result.map Yield.ofUnit, out (S.terminate sink).state⟩, ?_, rfl, rfl⟩
    exact besides_concat rfl hs.quiet

/-- A shutdown after writes under way, where the gate owes bytes: it is given up, and so is the base. -/
theorem terminate_of_owing (hs : UnderWay out g start all sent now base call) (howed : 0 < now.budget.remaining) :
    let ended := ((S.logged out).stacked 1).perform (push now (ofBase base)) .terminate
    ended.result = .error (.underflow now.budget.remaining) ∧ ended.state.1.gates = [now.giveUp] ∧
      ∃ x, besides ended.state.1.base.2 = [x] ∧ x.call = .truncate := by
  intro ended
  obtain ⟨sink, log⟩ := base
  obtain ⟨hresult, hstate⟩ := terminate_push_of_owes (S.logged out) hs.closing howed (ofBase (sink, log))
  have hafter : ended.state.1 = push now.giveUp (ofBase (Sink.logAfter out log .truncate _ _)) := hstate
  refine ⟨congrArg (Except.map Yield.ofUnit) hresult, ?_, ?_⟩
  · rw [hafter]
    rfl
  · rw [hafter]
    exact ⟨_, besides_concat rfl hs.quiet, rfl⟩

end UnderWay

/-! ### How writes of last data end -/

section Ends

variable (g : Gate) (reply : Reply (Stack (σ × List Answered) 1 × Call) Yield)

/-- The write succeeded, and no shutdown was requested. -/
structure StaysOpen : Prop where
  /-- The write succeeded. -/
  result : ∃ n, reply.result = .ok (.count n)
  /-- No shutdown is requested of the gate. -/
  closing : ∀ now ∈ reply.state.1.gates, now.budget.closing = false
  /-- The base has heard of nothing but writes. -/
  quiet : besides reply.state.1.base.2 = []

/-- The write ended with a shutdown in order. -/
structure EndsInOrder : Prop where
  /-- A shutdown is requested of the gate, which owes nothing. -/
  closing : ∀ now ∈ reply.state.1.gates, now.budget.closing = true ∧ now.budget.remaining = 0
  /-- A gate that keeps it to itself is done. -/
  kept : g.passesClose = false → besides reply.state.1.base.2 = [] ∧ ∃ n, reply.result = .ok (.count n)
  /-- A gate that passes it on has done so once, and fails only if that fails. -/
  passed : g.passesClose = true → ∃ x n, besides reply.state.1.base.2 = [x] ∧ x.call = .terminate ∧
    reply.result = x.answer.map fun _ => .count n

/-- The write ended with a shutdown that left bytes owed. -/
structure EndsShort (S : Sink σ) (out : σ → Bytes) (owed : UInt64) : Prop where
  /-- The shortfall is the result. -/
  result : reply.result = .error (.underflow owed)
  /-- The base was truncated, once. -/
  truncated : ∃ x, besides reply.state.1.base.2 = [x] ∧ x.call = .truncate
  /-- Whatever follows, the completion hook does not run before a new cycle starts. -/
  unfired : ∀ moves, (∀ e ∈ heardAt 0 (reply.state.1.history (S.logged out) moves), e.isExchange = true) →
    (reply.state.1.run (S.logged out) moves).gates.map Gate.completions = [g.completions]

end Ends

/-- After a stack of one gate was given up no later flush runs its completion hook. -/
theorem completions_run_of_ended {n : Nat} (S : Sink σ) {s : Stack σ n} {g : Gate} (hgates : s.gates = [g])
    (hended : g.budget.ended = true) {moves : List Move}
    (hsame : ∀ e ∈ heardAt 0 (s.history S moves), e.isExchange = true) :
    (s.run S moves).gates.map Gate.completions = [g.completions] := by
  obtain ⟨hmeets, hrun⟩ := s.lived_run S moves 0 g (by rw [hgates]; rfl)
  have hlength : (s.run S moves).gates.length = 1 := by
    rw [length_gates, ← s.length_gates, hgates]
    rfl
  obtain ⟨now, hnow⟩ := List.length_eq_one_iff.1 hlength
  rw [hnow] at hrun ⊢
  obtain rfl : now = _ := Option.some.inj hrun
  rw [List.map_singleton, Gate.completions_of_ended hended hmeets hsame]

namespace UnderWay

variable {g now : Gate} {start all sent : Bytes} {base : σ × List Answered} {call : Call}
  {reply : Reply (Stack (σ × List Answered) 1 × Call) Yield} {n : UInt64}

theorem staysOpen (hs : UnderWay out g start all sent now base reply.state.2) (hresult : reply.result = .ok (.count n))
    (hstate : reply.state.1 = push now (ofBase base)) : StaysOpen reply := by
  refine ⟨⟨n, hresult⟩, ?_, ?_⟩
  · intro g' hg'
    rw [hstate] at hg'
    rw [List.mem_singleton.1 hg']
    exact hs.closing
  · rw [hstate]
    exact hs.quiet

theorem endsInOrder (hs : UnderWay out g start all sent now base call) (hnothing : now.budget.remaining = 0)
    (hresult : reply.result =
      (((S.logged out).stacked 1).perform (push now (ofBase base)) .terminate).result.map fun _ => .count n)
    (hstate : reply.state.1 = (((S.logged out).stacked 1).perform (push now (ofBase base)) .terminate).state.1) :
    EndsInOrder g reply := by
  obtain ⟨hgates, hkept, hpassed⟩ := hs.terminate_of_nothing (S := S) hnothing
  rw [← hstate] at hgates hkept hpassed
  constructor
  · intro g' hg'
    rw [hgates] at hg'
    rw [List.mem_singleton.1 hg']
    exact ⟨rfl, hnothing⟩
  · intro hkeeps
    obtain ⟨hquiet, hok⟩ := hkept hkeeps
    rw [hok] at hresult
    exact ⟨hquiet, n, hresult⟩
  · intro hpasses
    obtain ⟨x, hx, hcall, hanswer⟩ := hpassed hpasses
    rw [hanswer] at hresult
    exact ⟨x, n, hx, hcall, hresult⟩

theorem endsShort (hs : UnderWay out g start all sent now base call) (howed : 0 < now.budget.remaining)
    (hresult : reply.result =
      (((S.logged out).stacked 1).perform (push now (ofBase base)) .terminate).result.map fun _ => .count n)
    (hstate : reply.state.1 = (((S.logged out).stacked 1).perform (push now (ofBase base)) .terminate).state.1) :
    EndsShort g reply S out now.budget.remaining := by
  obtain ⟨hunderflow, hgates, htruncated⟩ := hs.terminate_of_owing (S := S) howed
  rw [← hstate] at hgates htruncated
  rw [hunderflow] at hresult
  refine ⟨hresult, htruncated, ?_⟩
  intro moves hsame
  rw [completions_run_of_ended (S.logged out) hgates rfl hsame, ← hs.completions]
  rfl

/-- The write that leaves nothing comes to the shutdown that follows. -/
theorem ends (h : S.Honest out exact) (hs : UnderWay out g start all sent now base reply.state.2)
    (hempty : Source.allEmpty reply.state.2.sources = true)
    (hresult : reply.result =
      (((S.logged out).stacked 1).perform (push now (ofBase base)) .terminate).result.map fun _ => .count n)
    (hstate : reply.state.1 = (((S.logged out).stacked 1).perform (push now (ofBase base)) .terminate).state.1) :
    out reply.state.1.base.1 = start ++ all ∧
      (all.length = g.budget.remaining.toNat → EndsInOrder g reply) ∧
      (all.length < g.budget.remaining.toNat →
        EndsShort g reply S out (g.budget.remaining - UInt64.ofNat all.length)) := by
  have hsent : sent = all := by
    have hleft := hs.left
    rwa [(Source.allEmpty_iff _).1 hempty, List.append_nil] at hleft
  have hremaining := hs.remaining
  rw [hsent] at hremaining
  refine ⟨?_, ?_, ?_⟩
  · obtain ⟨bytes, hout, -, -, rfl⟩ := Stack.honest h.logged 1 (push now (ofBase base)) .terminate rfl trivial
    rw [List.append_nil] at hout
    rw [hstate, ← hsent]
    exact hout.trans hs.output
  · intro hwhole
    have hnothing : now.budget.remaining = 0 := by
      rw [← UInt64.toNat_inj, UInt64.toNat_zero]
      omega
    exact hs.endsInOrder hnothing hresult hstate
  · intro hshort
    have howed : now.budget.remaining = g.budget.remaining - UInt64.ofNat all.length := by
      have hall : (UInt64.ofNat all.length).toNat = all.length :=
        UInt64.toNat_ofNat_of_lt' (Nat.lt_trans hshort g.budget.remaining.toNat_lt_size)
      have hle : UInt64.ofNat all.length ≤ g.budget.remaining := by
        rw [UInt64.le_iff_toNat_le, hall]
        omega
      rw [← UInt64.toNat_inj, UInt64.toNat_sub_of_le _ _ hle, hall]
      omega
    have hpos : 0 < now.budget.remaining := by
      rw [UInt64.lt_iff_toNat_lt, UInt64.toNat_zero]
      omega
    rw [← howed]
    exact hs.endsShort hpos hresult hstate

end UnderWay

/-- More last data than the gate has leave for are refused, and nothing has happened. -/
theorem perform_last_of_excess {g : Gate} (hopen : g.budget.closing = false) (below : Stack σ 0) {call : Call}
    (hlast : call.isLast = true) (hfits : call.Fits)
    (hexcess : g.budget.remaining.toNat < (Source.joined call.sources).length) :
    ((S.stacked 1).perform (push g below) call).result = .error .overflow ∧
      ((S.stacked 1).perform (push g below) call).state = (push g below, call) := by
  have hplan := Gate.plan_opening_of_excess hopen hlast hfits hexcess
  obtain ⟨hresult, hstate⟩ := perform_push_answer S call.isLast_opening hplan below
  obtain ⟨hrefused, hsame⟩ := Sink.perform_of_opening_error _ hresult
  refine ⟨hrefused, Prod.ext ?_ ?_⟩
  · rw [hsame, hstate, Gate.hear_of_brings g (Call.brings_of_isLast hlast)]
  · rw [Sink.perform_arguments, hstate, Call.restore_opening]

/-- **What becomes of the last data.** Through a gate of which no shutdown was requested, over an honest base whose
writes do not fail, the last data are written until nothing is left. If they are more than the gate has leave for, the
write is refused, and nothing has happened. Otherwise each write that leaves something succeeds and requests no
shutdown. The write that leaves nothing has brought the base to hold all the data, in order. If they are as many as the
gate had leave for it ends in order; if they are fewer it ends short, by as many as are missing. -/
theorem last_data (h : S.Honest out exact) {g : Gate} (hopen : g.budget.closing = false) (b : σ) {call : Call}
    (hlast : call.isLast = true) (hfits : call.Fits) :
    let T := (S.logged out).stacked 1
    let start := push g (ofBase (b, []))
    let all := Source.joined call.sources
    (g.budget.remaining.toNat < all.length →
      (T.perform start call).result = .error .overflow ∧ (T.perform start call).state = (start, call)) ∧
    (all.length ≤ g.budget.remaining.toNat → ∀ s made, Relation.ReflTransGen T.Leaves (start, call) (s, made) →
      let reply := T.perform s made
      (∀ x ∈ reply.state.1.base.2, x.call.brings = true → ∃ value, x.answer = .ok value) →
        (Source.allEmpty reply.state.2.sources = false → StaysOpen reply) ∧
        (Source.allEmpty reply.state.2.sources = true →
          out reply.state.1.base.1 = out b ++ all ∧
            (all.length = g.budget.remaining.toNat → EndsInOrder g reply) ∧
            (all.length < g.budget.remaining.toNat →
              EndsShort g reply S out (g.budget.remaining - UInt64.ofNat all.length)))) := by
  intro T start all
  constructor
  · intro hexcess
    exact perform_last_of_excess hopen _ hlast hfits hexcess
  · intro hfit s made hmade reply hbase
    have hstart : UnderWay out g (out b) all [] g (b, []) call :=
      ⟨hlast, hfits, rfl, (List.append_nil _).symm, rfl, hopen, rfl, rfl, rfl⟩
    obtain ⟨sent, now, base, rfl, hs⟩ := hstart.of_leaves h hfit hmade
    rcases hs.opening h hfit with ⟨e, he, x, hx, hbrings, hanswer⟩ | ⟨n, sent', now', base', hok, hstate, hs', hdrained⟩
    · rw [← (Sink.perform_of_opening_error _ he).2] at hx
      obtain ⟨value, hvalue⟩ := hbase x hx hbrings
      rw [hanswer] at hvalue
      cases hvalue
    · have hback : reply.state.2 = made.restore _ := Sink.perform_arguments T (push now (ofBase base)) made
      rw [← hback] at hs' hdrained
      constructor
      · intro hlive
        obtain ⟨hresult, hstays⟩ := Sink.perform_of_left hok (hdrained.symm.trans hlive)
        exact hs'.staysOpen hresult (hstays.trans hstate)
      · intro hempty
        obtain ⟨hresult, hends⟩ := Sink.perform_of_drained hs.isLast hok (hdrained.symm.trans hempty)
        rw [hstate] at hresult hends
        exact hs'.ends h hempty hresult hends

/-- A gate that owes four bytes, over a tank, and three bytes of last data for it. -/
def fourOverTank : Stack (Outlet Bytes × List Answered) 1 :=
  push (gateFor 4) (ofBase (.ofDevice [], []))

/-- The tank takes two bytes and then one. The second write reports the byte that is missing. -/
theorem last_data_tank :
    let T := (tank.sink.logged fun o => o.device).stacked 1
    let call := Call.writeLast (.ofBytes [1, 2, 3])
    let second := (T.perform fourOverTank call).state
    let reply := T.perform second.1 second.2
    tank.sink.Honest (fun o => o.device) tank.sink.PlainTransfers ∧ (gateFor 4).budget.closing = false ∧
      call.isLast = true ∧ call.Fits ∧ T.Leaves (fourOverTank, call) second ∧
      (∀ x ∈ reply.state.1.base.2, x.call.brings = true → ∃ value, x.answer = .ok value) ∧
      reply.result = .error (.underflow 1) ∧ reply.state.1.base.1.device = [1, 2, 3] := by
  intro T call second reply
  have h : tank.sink.Honest (fun o => o.device) tank.sink.PlainTransfers :=
    (Sink.HonestBase.outlet tank_honest).honest
  have hopen : (gateFor 4).budget.closing = false := rfl
  have hlast : call.isLast = true := rfl
  have hfirst : T.Leaves (fourOverTank, call) second := ⟨⟨.count 2, rfl⟩, rfl, rfl⟩
  have hbase : ∀ x ∈ reply.state.1.base.2, x.call.brings = true → ∃ value, x.answer = .ok value := by
    have hall : ∀ x ∈ reply.state.1.base.2, x.answer.toBool = true := by decide
    intro x hx _
    have hx' := hall x hx
    cases hanswer : x.answer with
    | ok value => exact ⟨value, rfl⟩
    | error e =>
      rw [hanswer] at hx'
      cases hx'
  obtain ⟨-, hfits⟩ := last_data h hopen (.ofDevice []) hlast trivial
  obtain ⟨-, hends⟩ := hfits (by decide) second.1 second.2 (.single hfirst) hbase
  obtain ⟨hout, -, hshort⟩ := hends rfl
  have howed : (gateFor 4).budget.remaining - UInt64.ofNat (Source.joined call.sources).length = 1 := by decide
  have hresult := (hshort (by decide)).result
  rw [howed] at hresult
  have hsent : (Outlet.ofDevice []).device ++ Source.joined call.sources = [1, 2, 3] := by decide
  exact ⟨h, hopen, hlast, trivial, hfirst, hbase, hresult, hout.trans hsent⟩

end Stack

end ExactLength
