import ExactLength.Proofs.Stack.Closed
import ExactLength.Proofs.Stack.Reach

/-!
# Bodies one after the other

One gate serves many bodies. A driver sends the first in any pieces, by writes of one or several sources and by
transfers, until the gate has taken all of it. It may ask for a shutdown then, and flushes until the flush is done.
After that it starts a new cycle for the next body. The gate does not pass a shutdown on.

`Pipeline` is where such a driver stands, `Pipeline.MayDo` what it may do next, and `Pipeline.Drives` a run of it: how
many bytes of a body are left, and whether a flush was done, is read off the answers. A driver is free to split a body
as it likes, so a run is a relation.

The invariant is `Pipeline.Served`: the gate has leave for what is left of the present body, its cycle is over if the
body is complete, and the base holds what was sent. Each move keeps it (`Pipeline.Served.step`), if the base answers
without error. The main statement is `Pipeline.bodies_delivered`.
-/

namespace ExactLength

/-- How far a driver is with a body. -/
inductive Stage where
  /-- It sends the body. -/
  | sending
  /-- The body is sent, and is being flushed. -/
  | ending
  /-- The body is complete. -/
  | complete
  deriving DecidableEq

/-- Where a driver stands that sends bodies one after the other. -/
structure Pipeline where
  /-- The bodies before the present one. -/
  before : List Bytes
  /-- What was sent of the present body. -/
  sent : Bytes
  /-- What is left of it. -/
  left : Bytes
  /-- How far the driver is with it. -/
  stage : Stage
  /-- The bodies to come. -/
  later : List Bytes
  deriving DecidableEq

/-- The call brings the front of what is left of a body, and nothing else. A transfer may ask for more bytes than are
left, but not if none are. -/
inductive Call.Sends (left : Bytes) : Call → Prop where
  /-- A source. -/
  | write (src : Source) (hfront : src.bytes <+: left) : Sends left (.write src)
  /-- Several sources. -/
  | writeMany (sources : List Source) (hfront : Source.joined sources <+: left) : Sends left (.writeMany sources)
  /-- A part of a file. -/
  | transferFile (file : File) (position count : UInt64) (hlive : left ≠ [] ∨ count = 0)
    (hdata : file.data.length < UInt64.size)
    (hfront : slice file.data position (min count.toNat left.length) <+: left) :
    Sends left (.transferFile file position count)
  /-- What is in the buffer, and what comes from a stream. -/
  | transferStream (reader : Reader) (count : UInt64) (through : Bytes) (hlive : left ≠ [] ∨ count = 0)
    (hfront : (through ++ reader.unread).take (min count.toNat left.length) <+: left) :
    Sends left (.transferStream reader count through)

namespace Pipeline

/-- At the start. -/
def ofBodies (first : Bytes) (rest : List Bytes) : Pipeline :=
  ⟨[], [], first, .sending, rest⟩

/-- All bodies. -/
def bodies (p : Pipeline) : List Bytes :=
  p.before ++ (p.sent ++ p.left) :: p.later

/-- What was sent of all bodies. -/
def output (p : Pipeline) : Bytes :=
  p.before.flatten ++ p.sent

/-- How many bodies are complete. -/
def completed (p : Pipeline) : Nat :=
  p.before.length + if p.stage = .complete then 1 else 0

/-- What the driver may do next. -/
inductive MayDo (p : Pipeline) : Move → Prop where
  /-- It sends something of the body. -/
  | send (call : Call) (hstage : p.stage = .sending) (hsends : call.Sends p.left) : MayDo p (.call 0 call)
  /-- It asks for a shutdown. -/
  | terminate (hstage : p.stage ≠ .complete) (hdrained : p.left = []) : MayDo p (.call 0 .terminate)
  /-- It flushes. -/
  | flush (hstage : p.stage ≠ .complete) (hdrained : p.left = []) : MayDo p (.call 0 .flush)
  /-- It goes on to the next body. -/
  | renew (body : Bytes) (rest : List Bytes) (hstage : p.stage = .complete) (hlater : p.later = body :: rest) :
    MayDo p (.renew 0 (UInt64.ofNat body.length) false)

/-- Where the driver stands after a move, by the answer to it. -/
def next (p : Pipeline) : Move → Except SinkError Yield → Pipeline
  | .call _ .flush, .ok (.flag flushed) => { p with stage := if flushed then .complete else .ending }
  | .call _ .terminate, .ok _ => { p with stage := .ending }
  | .call _ _, .ok (.count n) => { p with sent := p.sent ++ p.left.take n.toNat, left := p.left.drop n.toNat }
  | .renew .., .ok _ =>
    match p.later with
    | [] => p
    | body :: rest => ⟨p.before ++ [p.sent ++ p.left], [], body, .sending, rest⟩
  | _, _ => p

/-- The driver makes these moves, and stands there at the end. -/
inductive Drives {σ : Type} (S : Sink σ) {n : Nat} : Pipeline → Stack σ n → List Move → Pipeline → Prop where
  /-- It stops. -/
  | stop (p : Pipeline) (s : Stack σ n) : Drives S p s [] p
  /-- It makes a move, and goes on. -/
  | step {p p' : Pipeline} {s : Stack σ n} {m : Move} {rest : List Move} (hmay : p.MayDo m)
    (hrest : Drives S (p.next m (s.move S m).result) (s.move S m).state.1 rest p') : Drives S p s (m :: rest) p'

/-- No body is lost or changed. -/
theorem bodies_next (p : Pipeline) (m : Move) (answer : Except SinkError Yield) :
    (p.next m answer).bodies = p.bodies := by
  unfold next
  split
  · rfl
  · rfl
  · simp [bodies]
  · split
    · rfl
    · next hlater => simp [bodies, hlater]
  · rfl

theorem Drives.bodies {σ : Type} {S : Sink σ} {n : Nat} {p p' : Pipeline} {s : Stack σ n} {moves : List Move}
    (h : Drives S p s moves p') : p'.bodies = p.bodies := by
  induction h with
  | stop p s => rfl
  | step hmay hrest ih => rw [ih, bodies_next]

end Pipeline

/-! ### What a gate makes of a body -/

namespace Gate

variable {g : Gate} {left : Bytes}

theorem planSource_of_room {src : Source} (hroom : g.hasRoom src.remaining = true) :
    g.planSource src = .answer (.ok (.count 0)) ∨ g.planSource src = .pass (.write src) none := by
  unfold planSource
  split
  · exact Or.inl rfl
  · rw [planWrite_eq, if_pos hroom]
    exact Or.inr rfl

theorem planTransfer_of_room {count : UInt64} (hroom : count ≠ 0 → g.hasRoom 1 = true) (down : UInt64 → Call) :
    g.planTransfer count down = .answer (.ok (.count 0)) ∨
      ∃ allowed, g.planTransfer count down = .pass (down allowed) none := by
  by_cases hcount : count = 0
  · exact Or.inl (if_pos hcount)
  · rw [planTransfer_eq g hcount, if_pos (hroom hcount)]
    exact Or.inr ⟨_, rfl⟩

end Gate

namespace Call.Sends

variable {g : Gate} {left : Bytes} {call down : Call}

theorem isLast (h : call.Sends left) : call.isLast = false := by
  cases h <;> rfl

theorem brings (h : call.Sends left) : call.brings = true := by
  cases h <;> rfl

/-- A gate with leave for what is left of a body has nothing to do for a call that sends of it, or passes it on. -/
theorem plan (h : call.Sends left) (hopen : g.budget.closing = false) (hleft : g.budget.remaining.toNat = left.length) :
    g.plan call = .answer (.ok (.count 0)) ∨ ∃ down, g.plan call = .pass down none := by
  have hroom {size : Nat} (hle : size ≤ left.length) : g.hasRoom size = true :=
    Gate.hasRoom_iff.2 ⟨hopen, hleft ▸ hle⟩
  have hone {count : UInt64} (hlive : left ≠ [] ∨ count = 0) (hcount : count ≠ 0) : g.hasRoom 1 = true :=
    hroom (List.length_pos_iff.2 (hlive.resolve_right hcount))
  cases h with
  | write src hfront => exact (Gate.planSource_of_room (hroom hfront.length_le)).imp id fun h => ⟨_, h⟩
  | writeMany sources hfront =>
    rcases sources with _ | ⟨src, _ | ⟨second, rest⟩⟩
    · exact Or.inl rfl
    · rw [Source.joined_cons, Source.joined_nil, List.append_nil] at hfront
      exact (Gate.planSource_of_room (hroom hfront.length_le)).imp id fun h => ⟨_, h⟩
    · have hsize := g.budget.remaining.toNat_lt_size
      have htotal := Source.toNat_total (Nat.lt_of_le_of_lt hfront.length_le (hleft ▸ hsize))
      refine Or.inr ⟨.writeMany (src :: second :: rest), ?_⟩
      show g.planWrite _ _ = _
      rw [htotal, Gate.planWrite_eq, if_pos (hroom hfront.length_le)]
  | transferFile file position count hlive hdata hfront =>
    exact (Gate.planTransfer_of_room (hone hlive) _).imp id fun ⟨_, h⟩ => ⟨_, h⟩
  | transferStream reader count through hlive hfront =>
    exact (Gate.planTransfer_of_room (hone hlive) _).imp id fun ⟨_, h⟩ => ⟨_, h⟩

/-- What is passed on can be counted. -/
theorem fits_down (h : call.Sends left) (hleft : g.budget.remaining.toNat = left.length) {shortfall : Option UInt64}
    (hpass : g.Passes call down shortfall) : down.Fits := by
  cases hpass with
  | many sources hmany hpermit =>
    cases h with
    | writeMany _ hfront =>
      exact Nat.lt_of_le_of_lt hfront.length_le (hleft ▸ g.budget.remaining.toNat_lt_size)
  | _ => trivial

/-- What an honest sink takes of what is passed on is the front of the body. -/
theorem front (h : call.Sends left) (hleft : g.budget.remaining.toNat = left.length) {shortfall : Option UInt64}
    (hpass : g.Passes call down shortfall) {exact : Prop} (hexact : exact) {bytes : Bytes} {back : Call}
    (hgives : down.Gives exact bytes back) : bytes <+: left := by
  cases hpass with
  | source src hlive hpermit =>
    cases h with
    | write _ hfront =>
      obtain ⟨src', -, hsrc⟩ := gives_write_iff.1 hgives
      exact List.IsPrefix.trans ⟨_, hsrc.symm⟩ hfront
  | only src hlive hpermit =>
    cases h with
    | writeMany _ hfront =>
      rw [Source.joined_cons, Source.joined_nil, List.append_nil] at hfront
      obtain ⟨src', -, hsrc⟩ := gives_write_iff.1 hgives
      exact List.IsPrefix.trans ⟨_, hsrc.symm⟩ hfront
  | many sources hmany hpermit =>
    cases h with
    | writeMany _ hfront =>
      obtain ⟨sources', -, hsources, -⟩ := gives_writeMany_iff.1 hgives
      exact hsources.trans hfront
  | file file position count allowed hcount hcut =>
    cases h with
    | transferFile _ _ _ hlive hdata hfront =>
      obtain ⟨file', -, hle, hslice⟩ := gives_transferFile_iff.1 hgives
      obtain ⟨hcount', hremaining⟩ := Budget.allow_le hcut
      rw [hslice hexact hdata]
      exact (List.take_prefix_take_left (by omega)).trans hfront
  | stream reader through count allowed hcount hcut =>
    cases h with
    | transferStream _ _ _ hlive hfront =>
      obtain ⟨reader', through', -, hle, hall⟩ := gives_transferStream_iff.1 hgives
      obtain ⟨hcount', hremaining⟩ := Budget.allow_le hcut
      exact (List.prefix_take_iff.2 ⟨⟨_, (hall hexact).symm⟩, by omega⟩).trans hfront
  | _ => cases h

end Call.Sends

/-- What a sink answers to a call that brings bytes is a count. -/
theorem Sink.exists_count_of_brings {σ : Type} (S : Sink σ) {sink : σ} {call : Call} (hcall : call.brings = true)
    {value : Yield} (h : (S.perform sink call).result = .ok value) : ∃ n, value = .count n := by
  have hcount {result : Except SinkError UInt64} (hr : result.map Yield.count = .ok value) : ∃ n, value = .count n := by
    obtain ⟨n, -, rfl⟩ := map_eq_ok_iff.1 hr
    exact ⟨n, rfl⟩
  cases call <;> first | exact hcount h | cases hcall

namespace Stack

variable {σ : Type} {S : Sink σ} {n : Nat}

/-- A call that one gate passes on to its base. -/
theorem perform_push_noted (S : Sink σ) (out : σ → Bytes) (sink : σ) (log : List Answered) {g : Gate}
    {call down : Call} {shortfall : Option UInt64} (hlast : call.isLast = false)
    (hplan : g.plan call = .pass down shortfall) :
    (((S.logged out).stacked 1).perform (push g (ofBase (sink, log))) call).result =
        shortfall.elim (S.perform sink down).result (fun owed => .error (.underflow owed)) ∧
      (((S.logged out).stacked 1).perform (push g (ofBase (sink, log))) call).state.1 =
        push ((g.hear call).learn call (S.perform sink down).result)
          (ofBase (Sink.logAfter out log down (S.perform sink down).result (S.perform sink down).state.1)) := by
  have hdown := (Gate.passes_of_plan hlast hplan).isLast_down
  obtain ⟨hresult, hstate⟩ := perform_push_pass (S.logged out) hlast hplan (ofBase (sink, log))
  have hlogged := S.perform_logged out sink log hdown
  have hbelow : (((S.logged out).stacked 0).perform (ofBase (sink, log)) down).result = (S.perform sink down).result :=
    congrArg Outcome.result hlogged
  have hafter : (((S.logged out).stacked 0).perform (ofBase (sink, log)) down).state.1 =
      Sink.logAfter out log down (S.perform sink down).result (S.perform sink down).state.1 :=
    congrArg (fun reply => reply.state.1) hlogged
  rw [hresult, hstate, hbelow, hafter]
  exact ⟨rfl, rfl⟩

/-- A call that one gate passes on, if its base answers without error. -/
theorem perform_push_logged {out : σ → Bytes} {g : Gate} {sink : σ} {log : List Answered} {call down : Call}
    (hlast : call.isLast = false) (hplan : g.plan call = .pass down none)
    (hbase : ∀ x ∈ (((S.logged out).stacked 1).perform (push g (ofBase (sink, log))) call).state.1.base.2,
      ∃ value, x.answer = .ok value) :
    ∃ value, (S.perform sink down).result = .ok value ∧
      (((S.logged out).stacked 1).perform (push g (ofBase (sink, log))) call).result = .ok value ∧
      (((S.logged out).stacked 1).perform (push g (ofBase (sink, log))) call).state.1 =
        push ((g.hear call).learn call (.ok value))
          (ofBase (Sink.logAfter out log down (.ok value) (S.perform sink down).state.1)) := by
  obtain ⟨hresult, hstate⟩ := perform_push_noted S out sink log hlast hplan
  rw [hstate] at hbase
  obtain ⟨value, hvalue⟩ : ∃ value, (S.perform sink down).result = .ok value :=
    hbase ⟨down, _, _⟩ (List.mem_append_right _ (List.mem_singleton_self _))
  refine ⟨value, hvalue, hresult.trans hvalue, ?_⟩
  rw [hstate, hvalue]

/-- The log of the base only grows. -/
theorem log_prefix_call {out : σ → Bytes} (s : Stack (σ × List Answered) n) {call : Call}
    (hlast : call.isLast = false) :
    s.base.2 <+: (s.move (S.logged out) (.call 0 call)).state.1.base.2 := by
  rw [move_call_state, base_perform _ s hlast]
  cases hreach : s.reaching call with
  | none => exact List.prefix_refl _
  | some down =>
    obtain ⟨sink, log⟩ := s.base
    dsimp only [Option.elim_some]
    rw [S.perform_logged out sink log (s.isLast_of_reaching hlast hreach)]
    exact List.prefix_append _ _

theorem base_move_renew (s : Stack σ n) (level : Nat) (length : UInt64) (passesClose : Bool) :
    (s.move S (.renew level length passesClose)).state.1.base = s.base := by
  simp only [move]
  cases hr : s.renew level length passesClose with
  | error e => rfl
  | ok s' =>
    rcases renew_eq_ok_iff.1 hr with ⟨g, -, -, -, rfl⟩ | ⟨-, rfl⟩
    · exact base_setGate s level _
    · rfl

end Stack

/-! ### The gate and the base serve the driver -/

namespace Pipeline

/-- The gate has leave for what is left of the present body, its cycle is as far as the driver is, and what was sent
went to the base, at the end of what it held at the start. -/
structure Served {σ : Type} (out : σ → Bytes) (start : Bytes) (p : Pipeline) (g : Gate) (base : σ × List Answered) :
    Prop where
  /-- The gate has leave for what is left. -/
  remaining : g.budget.remaining.toNat = p.left.length
  /-- No shutdown is requested while the body is sent. -/
  closing : p.stage = .sending → g.budget.closing = false
  /-- After that nothing is left. -/
  drained : p.stage ≠ .sending → p.left = []
  /-- The cycle is over if the body is complete. -/
  ended : g.budget.ended = true ↔ p.stage = .complete
  /-- Then it is completed. -/
  finished : g.budget.finished = true ↔ p.stage = .complete
  /-- The gate keeps a shutdown to itself. -/
  passesClose : g.passesClose = false
  /-- The completion hook has run once for each complete body. -/
  completions : g.completions = p.completed
  /-- The base holds what was sent. -/
  output : out base.1 = start ++ p.output
  /-- It has heard of no shutdown. -/
  quiet : ∀ x ∈ base.2, x.call ≠ .terminate ∧ x.call ≠ .truncate
  /-- The bodies to come are no longer than a cycle may be. -/
  later : ∀ body ∈ p.later, body.length ≤ maxContentLength.toNat

namespace Served

open Stack

variable {σ : Type} {S : Sink σ} {out : σ → Bytes} {exact : Prop} {start : Bytes} {p : Pipeline} {g : Gate}
  {base : σ × List Answered}

theorem remaining_eq_zero (hs : p.Served out start g base) (hdrained : p.left = []) : g.budget.remaining = 0 := by
  rw [← UInt64.toNat_inj, hs.remaining, hdrained]
  rfl

theorem ended_eq_false (hs : p.Served out start g base) (hstage : p.stage ≠ .complete) : g.budget.ended = false :=
  Bool.eq_false_iff.2 fun hended => hstage (hs.ended.1 hended)

/-- What the base hears besides shutdowns keeps it quiet. -/
theorem quiet_concat (hs : p.Served out start g base) {x : Answered}
    (hx : x.call ≠ .terminate ∧ x.call ≠ .truncate) :
    ∀ y ∈ base.2 ++ [x], y.call ≠ .terminate ∧ y.call ≠ .truncate := by
  intro y hy
  rcases List.mem_append.1 hy with hy | hy
  · exact hs.quiet y hy
  · rw [List.mem_singleton.1 hy]
    exact hx

/-- A driver that is served gets leave to send more of the body. What the base takes is sent. -/
theorem send (h : S.Honest out exact) (hexact : exact) (hs : p.Served out start g base) {call : Call}
    (hstage : p.stage = .sending) (hsends : call.Sends p.left)
    (hbase : ∀ x ∈ (((S.logged out).stacked 1).perform (push g (ofBase base)) call).state.1.base.2,
      ∃ value, x.answer = .ok value) :
    ∃ k g' base', (((S.logged out).stacked 1).perform (push g (ofBase base)) call).result = .ok (.count k) ∧
      (((S.logged out).stacked 1).perform (push g (ofBase base)) call).state.1 = push g' (ofBase base') ∧
      { p with sent := p.sent ++ p.left.take k.toNat, left := p.left.drop k.toNat }.Served out start g' base' := by
  have hhear := Gate.hear_of_brings g hsends.brings
  rcases hsends.plan (hs.closing hstage) hs.remaining with hanswer | ⟨down, hpass⟩
  · obtain ⟨hresult, hstate⟩ := perform_push_answer (S.logged out) hsends.isLast hanswer (ofBase base)
    refine ⟨0, g, base, hresult, ?_, by simpa using hs⟩
    rw [hstate, hhear]
  · obtain ⟨sink, log⟩ := base
    have hpasses := Gate.passes_of_plan hsends.isLast hpass
    have hbrings : down.brings = true := hpasses.brings_down.trans hsends.brings
    have hnot : down ≠ .terminate ∧ down ≠ .truncate := by
      constructor <;> intro heq <;> rw [heq] at hbrings <;> cases hbrings
    obtain ⟨value, hvalue, hresult, hstate⟩ := perform_push_logged hsends.isLast hpass hbase
    obtain ⟨k, rfl⟩ := S.exists_count_of_brings hbrings hvalue
    obtain ⟨bytes, hout, hcredit, hgives⟩ := h sink down hpasses.isLast_down (hsends.fits_down hs.remaining hpasses)
    rw [hvalue] at hcredit
    have hfront : bytes <+: p.left := hsends.front hs.remaining hpasses (Or.inl hexact) hgives
    have htake : bytes = p.left.take k.toNat := by
      rw [show k.toNat = bytes.length from hcredit.symm]
      exact List.prefix_iff_eq_take.1 hfront
    rw [hhear, Gate.learn_count] at hstate
    refine ⟨k, g.spend k, _, hresult, hstate, ?_⟩
    exact
      { remaining := by
          rw [List.length_drop, ← hs.remaining]
          exact Budget.toNat_remaining_spend g.budget k
        closing := hs.closing
        drained := fun hnot => absurd hstage hnot
        ended := hs.ended
        finished := hs.finished
        passesClose := hs.passesClose
        completions := hs.completions
        output := by
          rw [Sink.logAfter, hout, hs.output, htake]
          simp [Pipeline.output]
        quiet := hs.quiet_concat hnot
        later := hs.later }

/-- Once nothing is left, the gate takes a request for shutdown, and keeps it to itself. -/
theorem terminate (S : Sink σ) (hs : p.Served out start g base) (hstage : p.stage ≠ .complete)
    (hdrained : p.left = []) :
    ∃ g', (((S.logged out).stacked 1).perform (push g (ofBase base)) .terminate).result = .ok .unit ∧
      (((S.logged out).stacked 1).perform (push g (ofBase base)) .terminate).state.1 = push g' (ofBase base) ∧
      { p with stage := .ending }.Served out start g' base := by
  have hremaining := hs.remaining_eq_zero hdrained
  have hplan : g.plan .terminate = .answer (.ok .unit) := by
    cases hclosing : g.budget.closing with
    | true => simp [Gate.plan, Gate.planShutdown, Budget.close_of_closing hclosing]
    | false => simp [Gate.plan, Gate.planShutdown, Budget.close_of_clean hclosing hremaining, hs.passesClose]
  obtain ⟨hresult, hstate⟩ := perform_push_answer (S.logged out) rfl hplan (ofBase base)
  refine ⟨g.hear .terminate, hresult, by rw [hstate], ?_⟩
  have hended : (g.hear .terminate).budget.ended = g.budget.ended := by
    simp [Gate.hear, Budget.ended_close, hremaining]
  exact
    { remaining := by rw [Gate.remaining_hear]; exact hs.remaining
      closing := fun h => by cases h
      drained := fun _ => hdrained
      ended := by rw [hended, hs.ended]; simp [hstage]
      finished := by rw [Gate.finished_hear, hs.finished]; simp [hstage]
      passesClose := hs.passesClose
      completions := by
        rw [Gate.completions_hear, hs.completions]
        simp [completed, hstage]
      output := hs.output
      quiet := hs.quiet
      later := hs.later }

/-- Once nothing is left, a flush goes through the gate. One that is done completes the body. -/
theorem flush (h : S.Honest out exact) (hs : p.Served out start g base) (hstage : p.stage ≠ .complete)
    (hdrained : p.left = [])
    (hbase : ∀ x ∈ (((S.logged out).stacked 1).perform (push g (ofBase base)) .flush).state.1.base.2,
      ∃ value, x.answer = .ok value) :
    ∃ flushed g' base',
      (((S.logged out).stacked 1).perform (push g (ofBase base)) .flush).result = .ok (.flag flushed) ∧
      (((S.logged out).stacked 1).perform (push g (ofBase base)) .flush).state.1 = push g' (ofBase base') ∧
      { p with stage := if flushed then .complete else .ending }.Served out start g' base' := by
  obtain ⟨sink, log⟩ := base
  have hopen := hs.ended_eq_false hstage
  have hunfinished : g.budget.finished = false := Bool.eq_false_iff.2 fun hfin => hstage (hs.finished.1 hfin)
  have hremaining := hs.remaining_eq_zero hdrained
  have hplan := Gate.plan_flush_of_open hopen
  obtain ⟨value, hvalue, hresult, hstate⟩ := perform_push_logged rfl hplan hbase
  obtain ⟨flushed, -, rfl⟩ := map_eq_ok_iff.1 hvalue
  have hout : out (S.perform sink .flush).state.1 = out sink :=
    h.out_of_asksNothing sink rfl (fun _ => rfl) trivial
  refine ⟨flushed, _, _, hresult, hstate, ?_⟩
  have hquiet := hs.quiet_concat (x := ⟨.flush, .ok (.flag flushed), out (S.perform sink .flush).state.1⟩)
    ⟨by simp, by simp⟩
  cases flushed with
  | false =>
    exact
    { remaining := hs.remaining
      closing := fun h => by cases h
      drained := fun _ => hdrained
      ended := by simp [Gate.learn_flush, Gate.hear, hopen]
      finished := by simp [Gate.learn_flush, Gate.hear, hunfinished]
      passesClose := hs.passesClose
      completions := by simpa [Gate.learn_flush, Gate.hear, completed, hstage] using hs.completions
      output := hout.trans hs.output
      quiet := hquiet
      later := hs.later }
  | true =>
    exact
    { remaining := by
        rw [Gate.learn_flush]
        exact (congrArg UInt64.toNat (Budget.remaining_settle _ _)).trans hs.remaining
      closing := fun h => by cases h
      drained := fun _ => hdrained
      ended := by simp [Gate.learn_flush, Gate.hear, Gate.settle, Budget.ended_settle, hremaining]
      finished := by simp [Gate.learn_flush, Gate.hear, Gate.settle, Budget.finished_settle, hremaining]
      passesClose := hs.passesClose
      completions := by
        have hcount := hs.completions
        simp [completed, hstage] at hcount
        simp [Gate.learn_flush, Gate.hear, Gate.settle, Budget.settle_fst, hremaining, hunfinished, completed, hcount]
      output := hout.trans hs.output
      quiet := hquiet
      later := hs.later }

/-- After a complete body the gate starts the cycle of the next one. -/
theorem renew (hs : p.Served out start g base) {body : Bytes} {rest : List Bytes} (hstage : p.stage = .complete)
    (hlater : p.later = body :: rest) :
    (push g (ofBase base)).renew 0 (UInt64.ofNat body.length) false =
        .ok (push (g.restart (UInt64.ofNat body.length) false) (ofBase base)) ∧
      (⟨p.before ++ [p.sent ++ p.left], [], body, .sending, rest⟩ : Pipeline).Served out start
        (g.restart (UInt64.ofNat body.length) false) base := by
  have hle : body.length ≤ maxContentLength.toNat := hs.later body (hlater ▸ List.mem_cons_self)
  have hlength : (UInt64.ofNat body.length).toNat = body.length :=
    UInt64.toNat_ofNat_of_lt' (Nat.lt_of_le_of_lt hle maxContentLength.toNat_lt_size)
  have hleft : p.left = [] := hs.drained (by simp [hstage])
  refine ⟨renew_eq_ok_iff.2 (Or.inl ⟨g, rfl, hs.ended.2 hstage, ?_, rfl⟩), ?_⟩
  · rw [UInt64.le_iff_toNat_le, hlength]
    exact hle
  · exact
    { remaining := hlength
      closing := fun _ => rfl
      drained := fun h => absurd rfl h
      ended := by simp [Gate.restart, Budget.fresh]
      finished := by simp [Gate.restart, Budget.fresh]
      passesClose := rfl
      completions := by
        show g.completions = _
        rw [hs.completions]
        simp [completed, hstage]
      output := by
        rw [hs.output]
        simp [Pipeline.output, hleft]
      quiet := hs.quiet
      later := fun b hb => hs.later b (hlater ▸ List.mem_cons_of_mem _ hb) }

/-- Until the body is complete the gate refuses a new cycle. -/
theorem renew_refused (hs : p.Served out start g base) (hstage : p.stage ≠ .complete) (length : UInt64)
    (passesClose : Bool) :
    (push g (ofBase base)).renew 0 length passesClose = .error (.invalidArgument .cycleOpen) := by
  have hopen := hs.ended_eq_false hstage
  simp [Stack.renew, Gate.renew, Budget.renew, hopen, Except.map]

/-- Every move of a driver that is served succeeds, and the driver is served after it. -/
theorem step (h : S.Honest out exact) (hexact : exact) (hs : p.Served out start g base) {m : Move} (hmay : p.MayDo m)
    (hbase : ∀ x ∈ ((push g (ofBase base)).move (S.logged out) m).state.1.base.2, ∃ value, x.answer = .ok value) :
    ∃ value g' base', ((push g (ofBase base)).move (S.logged out) m).result = .ok value ∧
      ((push g (ofBase base)).move (S.logged out) m).state.1 = push g' (ofBase base') ∧
      (p.next m (.ok value)).Served out start g' base' := by
  cases hmay with
  | send call hstage hsends =>
    rw [move_call_state] at hbase ⊢
    rw [move_call_result]
    obtain ⟨k, g', base', hresult, hstate, hserved⟩ := hs.send h hexact hstage hsends hbase
    refine ⟨.count k, g', base', hresult, hstate, ?_⟩
    cases hsends <;> exact hserved
  | terminate hstage hdrained =>
    rw [move_call_state, move_call_result]
    obtain ⟨g', hresult, hstate, hserved⟩ := hs.terminate S hstage hdrained
    exact ⟨.unit, g', base, hresult, hstate, hserved⟩
  | flush hstage hdrained =>
    rw [move_call_state] at hbase ⊢
    rw [move_call_result]
    obtain ⟨flushed, g', base', hresult, hstate, hserved⟩ := hs.flush h hstage hdrained hbase
    exact ⟨.flag flushed, g', base', hresult, hstate, hserved⟩
  | renew body rest hstage hlater =>
    obtain ⟨hrenew, hserved⟩ := hs.renew hstage hlater
    refine ⟨.unit, g.restart (UInt64.ofNat body.length) false, base, ?_, ?_, ?_⟩
    · simp only [move, hrenew]
      rfl
    · simp only [move, hrenew]
      rfl
    · simp only [next, hlater]
      exact hserved

end Served

namespace Drives

open Stack

variable {σ : Type} {S : Sink σ} {out : σ → Bytes} {exact : Prop} {p p' : Pipeline} {moves : List Move}

theorem log_prefix {n : Nat} {s : Stack (σ × List Answered) n} (hdrives : Drives (S.logged out) p s moves p') :
    s.base.2 <+: (s.run (S.logged out) moves).base.2 := by
  induction hdrives with
  | stop p s => exact List.prefix_refl _
  | @step p p' s m rest hmay hrest ih =>
    refine List.IsPrefix.trans ?_ ih
    cases hmay with
    | send call hstage hsends => exact s.log_prefix_call hsends.isLast
    | terminate hstage hdrained => exact s.log_prefix_call rfl
    | flush hstage hdrained => exact s.log_prefix_call rfl
    | renew body rest hstage hlater =>
      have hsame : (s.move (S.logged out) (.renew 0 (UInt64.ofNat body.length) false)).state.1.base = s.base :=
        base_move_renew s 0 _ false
      exact hsame ▸ List.prefix_refl _

/-- A driver that is served at the start is served to the end, and every move of it succeeds. -/
theorem served (h : S.Honest out exact) (hexact : exact) {start : Bytes} {g : Gate} {base : σ × List Answered}
    (hs : p.Served out start g base) (hdrives : Drives (S.logged out) p (push g (ofBase base)) moves p')
    (hbase : ∀ x ∈ ((push g (ofBase base)).run (S.logged out) moves).base.2, ∃ value, x.answer = .ok value) :
    (∀ first m rest, moves = first ++ m :: rest →
        ∃ value, (((push g (ofBase base)).run (S.logged out) first).move (S.logged out) m).result = .ok value) ∧
      ∃ g' base', (push g (ofBase base)).run (S.logged out) moves = push g' (ofBase base') ∧
        p'.Served out start g' base' := by
  generalize hstack : push g (ofBase base) = s at hdrives hbase ⊢
  induction hdrives generalizing g base with
  | stop p s => exact ⟨fun first m rest heq => by simp at heq, g, base, hstack.symm, hs⟩
  | @step p p' s m rest hmay hrest ih =>
    subst hstack
    obtain ⟨value, g', base', hresult, hstate, hserved⟩ :=
      hs.step h hexact hmay fun x hx => hbase x (hrest.log_prefix.subset hx)
    rw [← hresult] at hserved
    obtain ⟨hmoves, hend⟩ := ih hserved hstate.symm hbase
    refine ⟨fun first m' rest' heq => ?_, hend⟩
    cases first with
    | nil =>
      cases heq
      exact ⟨value, hresult⟩
    | cons m first =>
      cases heq
      exact hmoves first m' rest' rfl

end Drives

/-- At the start of the first body the gate serves the driver. -/
theorem served_ofBodies {σ : Type} {out : σ → Bytes} {first : Bytes} {rest : List Bytes}
    (hlength : ∀ body ∈ first :: rest, body.length ≤ maxContentLength.toNat) {configurable hooked : Bool} {g : Gate}
    (hg : Gate.ofConfig ⟨UInt64.ofNat first.length, configurable, false⟩ hooked = .ok g) (b : σ) :
    (ofBodies first rest).Served out (out b) g (b, []) := by
  obtain ⟨-, rfl⟩ := Gate.ofConfig_eq_ok_iff.1 hg
  have hfirst : first.length ≤ maxContentLength.toNat := hlength first List.mem_cons_self
  exact
  { remaining := UInt64.toNat_ofNat_of_lt' (Nat.lt_of_le_of_lt hfirst maxContentLength.toNat_lt_size)
    closing := fun _ => rfl
    drained := fun h => absurd rfl h
    ended := by simp [Budget.fresh, ofBodies]
    finished := by simp [Budget.fresh, ofBodies]
    passesClose := rfl
    completions := rfl
    output := by simp [output, ofBodies]
    quiet := fun x hx => absurd hx List.not_mem_nil
    later := fun body hbody => hlength body (List.mem_cons_of_mem _ hbody) }

/-- **Bodies are delivered one after the other.** A driver sends bodies through one gate, which keeps a shutdown to
itself, over an honest base that answers without error. In every run of the driver all moves succeed, new cycles
among them. The base holds what was sent of the bodies, in order, has heard of no shutdown, and the completion hook has
run once for each complete body. So after the last body the base holds all of them, and the hook has run as often as
there are bodies. Before a body is complete, a new cycle is refused and nothing changes. -/
theorem bodies_delivered {σ : Type} {S : Sink σ} {out : σ → Bytes} {exact : Prop} (h : S.Honest out exact)
    (hexact : exact) {first : Bytes} {rest : List Bytes}
    (hlength : ∀ body ∈ first :: rest, body.length ≤ maxContentLength.toNat)
    {configurable hooked : Bool} {g : Gate}
    (hg : Gate.ofConfig ⟨UInt64.ofNat first.length, configurable, false⟩ hooked = .ok g) (b : σ)
    {moves : List Move} {p : Pipeline}
    (hdrives : Drives (S.logged out) (ofBodies first rest) (Stack.push g (Stack.ofBase (b, []))) moves p)
    (hbase : ∀ x ∈ ((Stack.push g (Stack.ofBase (b, []))).run (S.logged out) moves).base.2,
      ∃ value, x.answer = .ok value) :
    let start := Stack.push g (Stack.ofBase (b, []))
    let s := start.run (S.logged out) moves
    (∀ before m after, moves = before ++ m :: after →
        ∃ value, ((start.run (S.logged out) before).move (S.logged out) m).result = .ok value) ∧
      p.bodies = first :: rest ∧
      out s.base.1 = out b ++ p.output ∧
      (∀ x ∈ s.base.2, x.call ≠ .terminate ∧ x.call ≠ .truncate) ∧
      s.gates.map Gate.completions = [p.completed] ∧
      (p.stage = .complete → p.later = [] →
        out s.base.1 = out b ++ (first :: rest).flatten ∧ p.completed = (first :: rest).length) ∧
      (p.stage ≠ .complete → ∀ length passesClose,
        let renewed := s.move (S.logged out) (.renew 0 length passesClose)
        renewed.result = .error (.invalidArgument .cycleOpen) ∧ renewed.state.1 = s) := by
  intro start s
  obtain ⟨hmoves, g', base', hrun, hserved⟩ := hdrives.served h hexact (served_ofBodies hlength hg b) hbase
  have hbodies : p.bodies = first :: rest := hdrives.bodies
  have hs : s = Stack.push g' (Stack.ofBase base') := hrun
  clear_value s
  subst hs
  refine ⟨hmoves, hbodies, hserved.output, hserved.quiet, congrArg (fun n => [n]) hserved.completions, ?_, ?_⟩
  · intro hstage hlater
    have hleft : p.left = [] := hserved.drained (by simp [hstage])
    have hall : p.before ++ [p.sent] = first :: rest := by
      rw [← hbodies]
      simp [bodies, hleft, hlater]
    rw [← hall]
    refine ⟨?_, by simp [completed, hstage]⟩
    show out base'.1 = _
    rw [hserved.output]
    simp [output]
  · intro hstage length passesClose renewed
    have hrefused := hserved.renew_refused hstage length passesClose
    simp only [renewed, Stack.move, hrefused]
    exact ⟨rfl, rfl⟩

/-- A gate for three bytes, which keeps a shutdown to itself, over an empty tank. -/
def quietTank : Stack (Outlet Bytes × List Answered) 1 :=
  Stack.push ⟨Budget.fresh 3, true, false, true, 0⟩ (Stack.ofBase (.ofDevice [], []))

/-- Three bytes in two writes, a shutdown and a flush, and a flush for a body without bytes. -/
def tankMoves : List Move :=
  [.call 0 (.write (.ofBytes [1, 2, 3])), .call 0 (.writeMany [.ofBytes [], .ofBytes [3]]), .call 0 .terminate,
    .call 0 .flush, .renew 0 0 false, .call 0 .flush]

theorem drives_tankMoves :
    Drives (tank.sink.logged Outlet.device) (ofBodies [1, 2, 3] [[]]) quietTank tankMoves
      ⟨[[1, 2, 3]], [], [], .complete, []⟩ := by
  refine .step (.send _ rfl (.write _ ⟨[], rfl⟩)) ?_
  refine .step (.send _ (by decide +kernel) (.writeMany _ ⟨[], by decide +kernel⟩)) ?_
  refine .step (.terminate (by decide +kernel) (by decide +kernel)) ?_
  refine .step (.flush (by decide +kernel) (by decide +kernel)) ?_
  refine .step (.renew [] [] (by decide +kernel) (by decide +kernel)) ?_
  refine .step (.flush (by decide +kernel) (by decide +kernel)) ?_
  exact Eq.subst (motive := fun p => Drives _ _ _ [] p) (by decide +kernel) (Drives.stop _ _)

/-- Two bodies reach a tank, and the hook has run twice. -/
theorem bodies_delivered_tank :
    tank.sink.PlainTransfers ∧
      Drives (tank.sink.logged Outlet.device) (ofBodies [1, 2, 3] [[]]) quietTank tankMoves
        ⟨[[1, 2, 3]], [], [], .complete, []⟩ ∧
      (quietTank.run (tank.sink.logged Outlet.device) tankMoves).base.1.device = [1, 2, 3] ∧
      (quietTank.run (tank.sink.logged Outlet.device) tankMoves).gates.map Gate.completions = [2] := by
  have hplain : tank.sink.PlainTransfers := ⟨rfl, rfl⟩
  have hlength : ∀ body ∈ ([[1, 2, 3], []] : List Bytes), body.length ≤ maxContentLength.toNat := by decide
  have hbase : ∀ x ∈ (quietTank.run (tank.sink.logged Outlet.device) tankMoves).base.2,
      ∃ value, x.answer = .ok value := by
    have hcheck : ((quietTank.run (tank.sink.logged Outlet.device) tankMoves).base.2.all
        fun x => x.answer.toBool) = true := by decide +kernel
    intro x hx
    have hok : x.answer.toBool = true := List.all_eq_true.1 hcheck x hx
    cases hanswer : x.answer with
    | error e => rw [hanswer] at hok; cases hok
    | ok value => exact ⟨value, rfl⟩
  have hg : Gate.ofConfig ⟨UInt64.ofNat ([1, 2, 3] : Bytes).length, true, false⟩ true =
      .ok ⟨Budget.fresh 3, true, false, true, 0⟩ := rfl
  have hhonest : tank.sink.Honest Outlet.device tank.sink.PlainTransfers :=
    (Sink.HonestBase.outlet tank_honest).honest
  have hdelivered := bodies_delivered hhonest hplain hlength hg (.ofDevice []) drives_tankMoves hbase
  refine ⟨hplain, drives_tankMoves, ?_, ?_⟩
  · have hall := (hdelivered.2.2.2.2.2.1 rfl rfl).1
    rw [← quietTank] at hall
    exact hall
  · have hcount := hdelivered.2.2.2.2.1
    rw [← quietTank] at hcount
    exact hcount

end Pipeline

end ExactLength
