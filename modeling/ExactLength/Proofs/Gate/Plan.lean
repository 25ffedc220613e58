import ExactLength.Gate.Sink

/-!
# What a gate makes of a call

A gate over a sink, seen without the sink. A call either gets its answer from the gate itself or is passed on, and
`Gate.plan` says which, from the gate and the call alone. The gate changes twice: when it hears the call
(`Gate.hear`), and when it learns the answer to what it passed on (`Gate.learn`). `Sink.perform_gated` states that
a gate over any sink behaves so, and what follows about gates is proved from it.

A write of the last data is no step of its own: it opens with the write, and a termination may follow
(`Sink.perform_state`). A gate plans it as the write that it opens with.
-/

namespace ExactLength

/-- What a gate makes of a call before anything below hears of it. -/
inductive Gate.Plan where
  /-- It answers by itself. -/
  | answer (result : Except SinkError Yield)
  /-- It passes a call on. A shortfall is reported whatever becomes of that call. -/
  | pass (down : Call) (shortfall : Option UInt64)

namespace Gate

/-- The plan for a write of so many bytes. -/
def planWrite (g : Gate) (size : Nat) (down : Call) : Plan :=
  match g.budget.permit size with
  | .error e => .answer (.error e)
  | .ok _ => .pass down none

/-- The plan for a write of one source. -/
def planSource (g : Gate) (src : Source) : Plan :=
  if src.isEmpty then .answer (.ok (.count 0)) else g.planWrite src.remaining (.write src)

/-- The plan for a transfer. -/
def planTransfer (g : Gate) (count : UInt64) (down : UInt64 → Call) : Plan :=
  if count = 0 then .answer (.ok (.count 0))
  else
    match g.budget.allow count with
    | .error e => .answer (.error e)
    | .ok allowed => .pass (down allowed) none

/-- The plan for a shutdown. -/
def planShutdown (g : Gate) : Plan :=
  match g.budget.close.1 with
  | .repeated => .answer (.ok .unit)
  | .short owed => .pass .truncate (some owed)
  | .clean => if g.passesClose then .pass .terminate none else .answer (.ok .unit)

/-- What the gate makes of a call. -/
def plan (g : Gate) : Call → Plan
  | .write src | .writeLast src => g.planSource src
  | .writeMany [] | .writeManyLast [] => .answer (.ok (.count 0))
  | .writeMany [src] | .writeManyLast [src] => g.planSource src
  | .writeMany sources | .writeManyLast sources =>
    g.planWrite (Source.total sources).toNat (.writeMany sources)
  | .transferFile file position count => g.planTransfer count (.transferFile file position ·)
  | .transferStream reader count through => g.planTransfer count (.transferStream reader · through)
  | .flush => if g.isEnded then .answer (.ok (.flag true)) else .pass .flush none
  | .isResumed => if g.isEnded then .answer (.ok (.flag false)) else .pass .isResumed none
  | .wake => if g.isEnded then .answer (.ok .unit) else .pass .wake none
  | .wait milliseconds => .pass (.wait milliseconds) none
  | .terminate => g.planShutdown
  | .truncate => .pass .truncate none

/-- The gate once it has heard a call, whether or not it passes anything on. -/
def hear (g : Gate) : Call → Gate
  | .terminate => { g with budget := g.budget.close.2 }
  | .truncate => g.giveUp
  | _ => g

/-- The gate once it has learnt the answer to what it passed on for a call. -/
def learn (g : Gate) (call : Call) (result : Except SinkError Yield) : Gate :=
  match call, result with
  | .flush, .ok (.flag flushed) => (g.settle flushed).2
  | _, .ok (.count accepted) => g.spend accepted
  | _, _ => g

@[simp] theorem learn_error (g : Gate) (call : Call) (e : SinkError) : g.learn call (.error e) = g := by
  cases call <;> rfl

@[simp] theorem learn_unit (g : Gate) (call : Call) : g.learn call (.ok .unit) = g := by
  cases call <;> rfl

@[simp] theorem learn_count (g : Gate) (call : Call) (n : UInt64) : g.learn call (.ok (.count n)) = g.spend n := by
  cases call <;> rfl

theorem learn_flush (g : Gate) (flushed : Bool) : g.learn .flush (.ok (.flag flushed)) = (g.settle flushed).2 :=
  rfl

theorem learn_flag (g : Gate) {call : Call} (h : call ≠ .flush) (b : Bool) : g.learn call (.ok (.flag b)) = g := by
  cases call <;> first | rfl | exact absurd rfl h

end Gate

namespace Call

/-- Whether a call brings the last data. -/
def isLast : Call → Bool
  | writeLast _ | writeManyLast _ => true
  | _ => false

/-- The call that a call opens with. -/
def opening : Call → Call
  | writeLast src => write src
  | writeManyLast sources => writeMany sources
  | call => call

/-- A call with its arguments as they came back from another call that was made for it. -/
def restore : (call back : Call) → Call
  | writeMany _, write src => writeMany [src]
  | writeLast _, write src => writeLast src
  | writeManyLast _, writeMany sources => writeManyLast sources
  | transferFile _ position count, transferFile file _ _ => transferFile file position count
  | transferStream _ count _, transferStream reader _ through => transferStream reader count through
  | terminate, _ => terminate
  | _, back => back

/-- Whether nothing is left of the sources of a call. -/
def drained : Call → Bool
  | write src => src.isEmpty
  | writeMany sources => Source.allEmpty sources
  | _ => false

@[simp] theorem isLast_opening (call : Call) : call.opening.isLast = false := by
  cases call <;> rfl

theorem opening_of_isLast_eq_false {call : Call} (h : call.isLast = false) : call.opening = call := by
  cases call <;> first | rfl | simp [isLast] at h

end Call

/-! ### What is passed on -/

/-- A gate passes one call on for another, perhaps with a shortfall to report. -/
inductive Gate.Passes (g : Gate) : (call down : Call) → Option UInt64 → Prop where
  /-- A source that fits into what remains. -/
  | source (src : Source) (hlive : src.isEmpty = false) (hfits : g.budget.permit src.remaining = .ok ()) :
    Passes g (.write src) (.write src) none
  /-- One source among several, if it is the only one. -/
  | only (src : Source) (hlive : src.isEmpty = false) (hfits : g.budget.permit src.remaining = .ok ()) :
    Passes g (.writeMany [src]) (.write src) none
  /-- Several sources that fit together. -/
  | many (sources : List Source) (hmany : 2 ≤ sources.length)
    (hfits : g.budget.permit (Source.total sources).toNat = .ok ()) :
    Passes g (.writeMany sources) (.writeMany sources) none
  /-- A transfer from a file, cut to what remains. -/
  | file (file : File) (position count allowed : UInt64) (hcount : count ≠ 0)
    (hcut : g.budget.allow count = .ok allowed) :
    Passes g (.transferFile file position count) (.transferFile file position allowed) none
  /-- A transfer from a stream, cut to what remains. -/
  | stream (reader : Reader) (through : Bytes) (count allowed : UInt64) (hcount : count ≠ 0)
    (hcut : g.budget.allow count = .ok allowed) :
    Passes g (.transferStream reader count through) (.transferStream reader allowed through) none
  /-- A flush of a cycle that is not over. -/
  | flush (hopen : g.budget.ended = false) : Passes g .flush .flush none
  /-- A question to a cycle that is not over. -/
  | isResumed (hopen : g.budget.ended = false) : Passes g .isResumed .isResumed none
  /-- A wake-up of a cycle that is not over. -/
  | wake (hopen : g.budget.ended = false) : Passes g .wake .wake none
  /-- A wait. -/
  | wait (milliseconds : Option UInt64) : Passes g (.wait milliseconds) (.wait milliseconds) none
  /-- A shutdown with bytes owed truncates. -/
  | short (owed : UInt64) (hshort : g.budget.close.1 = .short owed) : Passes g .terminate .truncate (some owed)
  /-- A shutdown with nothing owed. -/
  | clean (hclean : g.budget.close.1 = .clean) (hpasses : g.passesClose = true) :
    Passes g .terminate .terminate none
  /-- Giving up. -/
  | truncate : Passes g .truncate .truncate none

namespace Gate

theorem planWrite_eq_pass_iff {g : Gate} {size : Nat} {call down : Call} {shortfall : Option UInt64} :
    g.planWrite size call = .pass down shortfall ↔
      g.budget.permit size = .ok () ∧ call = down ∧ none = shortfall := by
  unfold planWrite
  cases g.budget.permit size <;> simp

theorem planTransfer_eq_pass_iff {g : Gate} {count : UInt64} {call : UInt64 → Call} {down : Call}
    {shortfall : Option UInt64} :
    g.planTransfer count call = .pass down shortfall ↔
      count ≠ 0 ∧ ∃ allowed, g.budget.allow count = .ok allowed ∧ call allowed = down ∧ none = shortfall := by
  unfold planTransfer
  split
  · simp [*]
  · cases g.budget.allow count <;> simp [*]

/-- What a plan passes on, case by case. -/
theorem passes_of_plan {g : Gate} {call down : Call} {shortfall : Option UInt64} (hlast : call.isLast = false)
    (h : g.plan call = .pass down shortfall) : g.Passes call down shortfall := by
  cases call with
  | writeLast src => simp [Call.isLast] at hlast
  | writeManyLast sources => simp [Call.isLast] at hlast
  | write src =>
    simp only [plan, planSource] at h
    split at h
    · cases h
    · next hlive =>
      obtain ⟨hfits, rfl, rfl⟩ := planWrite_eq_pass_iff.1 h
      exact .source src (Bool.eq_false_iff.2 hlive) hfits
  | writeMany sources =>
    rcases sources with _ | ⟨src, _ | ⟨next, rest⟩⟩
    · cases h
    · simp only [plan, planSource] at h
      split at h
      · cases h
      · next hlive =>
        obtain ⟨hfits, rfl, rfl⟩ := planWrite_eq_pass_iff.1 h
        exact .only src (Bool.eq_false_iff.2 hlive) hfits
    · obtain ⟨hfits, rfl, rfl⟩ := planWrite_eq_pass_iff.1 h
      exact .many _ (by simp) hfits
  | transferFile file position count =>
    obtain ⟨hcount, allowed, hcut, rfl, rfl⟩ := planTransfer_eq_pass_iff.1 h
    exact .file file position count allowed hcount hcut
  | transferStream reader count through =>
    obtain ⟨hcount, allowed, hcut, rfl, rfl⟩ := planTransfer_eq_pass_iff.1 h
    exact .stream reader through count allowed hcount hcut
  | flush =>
    simp only [plan] at h
    split at h
    · cases h
    · next hopen => cases h; exact .flush (Bool.eq_false_iff.2 hopen)
  | isResumed =>
    simp only [plan] at h
    split at h
    · cases h
    · next hopen => cases h; exact .isResumed (Bool.eq_false_iff.2 hopen)
  | wake =>
    simp only [plan] at h
    split at h
    · cases h
    · next hopen => cases h; exact .wake (Bool.eq_false_iff.2 hopen)
  | wait milliseconds => cases h; exact .wait milliseconds
  | terminate =>
    simp only [plan, planShutdown] at h
    split at h
    · cases h
    · next owed hshort => cases h; exact .short owed hshort
    · next hclean =>
      split at h
      · next hpasses => cases h; exact .clean hclean hpasses
      · cases h
  | truncate => cases h; exact .truncate

theorem Passes.isLast_down {g : Gate} {call down : Call} {shortfall : Option UInt64}
    (h : g.Passes call down shortfall) : down.isLast = false := by
  cases h <;> rfl

end Gate

namespace Sink

variable {σ : Type} (S : Sink σ)

/-! ### A gate over any sink -/

theorem charge_result {κ : Type} (gate : Gate) (event : UInt64 → UInt64 → Event)
    (reply : Reply (σ × κ) UInt64) : (Gated.charge gate event reply).result = reply.result := by
  unfold Gated.charge
  split <;> simp [*]

theorem charge_state {κ : Type} (gate : Gate) (event : UInt64 → UInt64 → Event)
    (reply : Reply (σ × κ) UInt64) (call : Call) :
    (Gated.charge gate event reply).state =
      (⟨gate.learn call (reply.result.map .count), reply.state.1⟩, reply.state.2) := by
  unfold Gated.charge
  split <;> simp [*, Except.map]

/-- Carries out what a gate makes of a call. -/
def follow (g : Gated σ) (call : Call) : Gate.Plan → Except SinkError Yield × Gated σ × Call
  | .answer result => (result, ⟨g.gate.hear call, g.below⟩, call)
  | .pass down shortfall =>
    let reply := S.perform g.below down
    (shortfall.elim reply.result (fun owed => .error (.underflow owed)),
      ⟨(g.gate.hear call).learn call reply.result, reply.state.1⟩, call.restore reply.state.2)

/-- A gate that charges for what it passed on follows a plan to pass it on. -/
theorem answer_charge {κ : Type} (gate : Gate) {below : σ} (call : Call) {down : Call} {there : κ → Call}
    {event : UInt64 → UInt64 → Event} {reply : Reply (σ × κ) UInt64} (hhear : gate.hear call = gate)
    (hdown : S.perform below down = perform.answer .count there reply) :
    ((perform.answer .count (call.restore <| there ·) (Gated.charge gate event reply)).result,
        (perform.answer .count (call.restore <| there ·) (Gated.charge gate event reply)).state) =
      S.follow ⟨gate, below⟩ call (.pass down none) := by
  simp only [follow, hdown, hhear, perform.answer, Outcome.mapState_result, Outcome.mapState_state,
    Outcome.mapResult_result, Outcome.mapResult_state, charge_result, charge_state _ _ _ call]
  rfl

/-- A gate that asks its budget before a write of one source follows its plan. -/
theorem follow_planSource (gate : Gate) (below : σ) (src : Source) {call : Call} (hhear : gate.hear call = gate)
    (hrestore : call.restore (.write src) = call) :
    ((perform.answer .count (call.restore <| .write ·) (Gated.write S ⟨gate, below⟩ src)).result,
        (perform.answer .count (call.restore <| .write ·) (Gated.write S ⟨gate, below⟩ src)).state) =
      S.follow ⟨gate, below⟩ call (gate.planSource src) := by
  simp only [Gated.write, Gate.planSource, Gate.planWrite]
  split
  · simp only [follow, hhear, Gated.unmoved, perform.answer, Outcome.mapState, Outcome.mapResult, hrestore]
    rfl
  · cases gate.budget.permit src.remaining with
    | error e =>
      simp only [follow, hhear, Gated.unmoved, perform.answer, Outcome.mapState, Outcome.mapResult, hrestore]
      rfl
    | ok _ =>
      have hdown : S.perform below (.write src) = perform.answer .count .write (S.write below src) := rfl
      exact S.answer_charge gate call hhear hdown

/-- A gate that passes a call on that has no value follows a plan to pass it on. -/
theorem ended_passed {gate gate' : Gate} {below : σ} {call down : Call} {reply : Reply σ Unit}
    (hhear : gate.hear call = gate') (hdown : S.perform below down = perform.ended Yield.ofUnit down reply)
    (hrestore : call.restore down = call) :
    ((perform.ended Yield.ofUnit call (reply.mapState (Gated.mk gate'))).result,
        (perform.ended Yield.ofUnit call (reply.mapState (Gated.mk gate'))).state) =
      S.follow ⟨gate, below⟩ call (.pass down none) := by
  have hlearn : gate'.learn call (reply.result.map Yield.ofUnit) = gate' := by
    cases reply.result with
    | error e => exact gate'.learn_error call e
    | ok _ => exact gate'.learn_unit call
  simp only [follow, hdown, hhear, perform.ended, Outcome.mapState_result, Outcome.mapState_state,
    Outcome.mapResult_result, Outcome.mapResult_state, hlearn, hrestore]
  rfl

/-- A gate that is shut down follows its plan. -/
theorem follow_planShutdown (gate : Gate) (below : σ) :
    ((perform.ended Yield.ofUnit .terminate (Gated.terminate S ⟨gate, below⟩)).result,
        (perform.ended Yield.ofUnit .terminate (Gated.terminate S ⟨gate, below⟩)).state) =
      S.follow ⟨gate, below⟩ .terminate gate.planShutdown := by
  simp only [Gated.terminate, Gate.planShutdown]
  rcases hc : gate.budget.close with ⟨_ | _ | owed, budget⟩
  · have hsame := Budget.close_snd_of_repeated (congrArg Prod.fst hc)
    rw [hc] at hsame
    obtain rfl : budget = gate.budget := hsame
    simp only [follow, Gate.hear, hc]
    rfl
  · dsimp only
    split
    · next hpasses => exact S.ended_passed (by simp only [Gate.hear, hc]) rfl rfl
    · simp only [follow, Gate.hear, hc]
      rfl
  · have hlearn : Gate.learn { gate with budget := budget } .terminate
        ((S.truncate below).result.map Yield.ofUnit) = { gate with budget := budget } := by
      cases (S.truncate below).result <;> rfl
    simp only [follow, Gate.hear, hc, perform, perform.ended, Outcome.mapState_result, Outcome.mapState_state,
      Outcome.mapResult_result, Outcome.mapResult_state, hlearn]
    rfl

/-- A gate over any sink follows its plan. -/
theorem perform_gated (g : Gated σ) {call : Call} (hlast : call.isLast = false) :
    ((S.gated.perform g call).result, (S.gated.perform g call).state) =
      S.follow g call (g.gate.plan call) := by
  obtain ⟨gate, below⟩ := g
  cases call with
  | writeLast src => cases hlast
  | writeManyLast sources => cases hlast
  | write src =>
    have hrestore : (Call.write src).restore (.write src) = .write src := rfl
    exact S.follow_planSource gate below src rfl hrestore
  | writeMany sources =>
    rcases sources with _ | ⟨src, _ | ⟨next, rest⟩⟩
    · rfl
    · have hrestore : (Call.writeMany [src]).restore (.write src) = .writeMany [src] := rfl
      exact S.follow_planSource gate below src rfl hrestore
    · simp only [Gate.plan, Gate.planWrite, perform, gated, Gated.writeMany]
      cases gate.budget.permit (Source.total (src :: next :: rest)).toNat with
      | error e => rfl
      | ok _ =>
        have hdown : S.perform below (.writeMany (src :: next :: rest)) =
          perform.answer .count .writeMany (S.writeMany below (src :: next :: rest)) := rfl
        exact S.answer_charge gate (.writeMany (src :: next :: rest)) rfl hdown
  | transferFile file position count =>
    simp only [Gate.plan, Gate.planTransfer, perform, gated, Gated.transferFile]
    split
    · rfl
    · cases gate.budget.allow count with
      | error e => rfl
      | ok allowed =>
        have hdown : S.perform below (.transferFile file position allowed) =
          perform.answer .count (.transferFile · position allowed)
            (S.transferFile below file position allowed) := rfl
        exact S.answer_charge gate (.transferFile file position count) rfl hdown
  | transferStream reader count through =>
    simp only [Gate.plan, Gate.planTransfer, perform, gated, Gated.transferStream]
    split
    · rfl
    · cases gate.budget.allow count with
      | error e => rfl
      | ok allowed =>
        have hdown : S.perform below (.transferStream reader allowed through) =
          perform.answer .count (fun back => .transferStream back.1 allowed back.2)
            (S.transferStream below reader allowed through) := rfl
        exact S.answer_charge gate (.transferStream reader count through) rfl hdown
  | flush =>
    simp only [Gate.plan, perform, gated, Gated.flush]
    split
    · rfl
    · cases hr : (S.flush below).result <;>
        simp [follow, perform, perform.ended, hr, Except.map, Gate.hear, Gate.learn, Call.restore]
  | isResumed =>
    simp only [Gate.plan, perform, gated, Gated.isResumed]
    split <;> rfl
  | wake =>
    simp only [Gate.plan, perform, gated, Gated.wake]
    split <;> rfl
  | wait milliseconds =>
    simp only [Gate.plan, perform, gated, Gated.wait]
    exact S.ended_passed rfl rfl rfl
  | terminate => exact S.follow_planShutdown gate below
  | truncate =>
    simp only [Gate.plan, perform, gated, Gated.truncate]
    exact S.ended_passed rfl rfl rfl

/-- A call that the gate answers by itself. -/
theorem perform_gated_answer {g : Gated σ} {call : Call} {result : Except SinkError Yield}
    (hlast : call.isLast = false) (h : g.gate.plan call = .answer result) :
    (S.gated.perform g call).result = result ∧
      (S.gated.perform g call).state = (⟨g.gate.hear call, g.below⟩, call) := by
  have heq := S.perform_gated g hlast
  rw [h] at heq
  exact ⟨congrArg Prod.fst heq, congrArg Prod.snd heq⟩

/-- A call that the gate passes on. -/
theorem perform_gated_pass {g : Gated σ} {call down : Call} {shortfall : Option UInt64}
    (hlast : call.isLast = false) (h : g.gate.plan call = .pass down shortfall) :
    (S.gated.perform g call).result =
        shortfall.elim (S.perform g.below down).result (fun owed => .error (.underflow owed)) ∧
      (S.gated.perform g call).state =
        (⟨(g.gate.hear call).learn call (S.perform g.below down).result, (S.perform g.below down).state.1⟩,
          call.restore (S.perform g.below down).state.2) := by
  have heq := S.perform_gated g hlast
  rw [h] at heq
  exact ⟨congrArg Prod.fst heq, congrArg Prod.snd heq⟩

/-! ### Last data -/

/-- Whether a call goes on with a termination after its opening. -/
def goesOn (call : Call) (opened : Reply (σ × Call) Yield) : Bool :=
  call.isLast && opened.result.toBool && opened.state.2.drained

/-- A call comes to its opening, and a termination after it when the last data was all taken. -/
theorem perform_state (sink : σ) (call : Call) :
    (S.perform sink call).state.1 =
      if goesOn call (S.perform sink call.opening) then
        (S.perform (S.perform sink call.opening).state.1 .terminate).state.1
      else (S.perform sink call.opening).state.1 := by
  cases call with
  | writeLast src =>
    cases hr : (S.write sink src).result <;>
      simp [goesOn, Call.isLast, Call.opening, perform, perform.answer, perform.ended, writeLast, endWrite, hr,
        Except.map, Except.toBool, Call.drained]
    split <;> rfl
  | writeManyLast sources =>
    cases hr : (S.writeMany sink sources).result <;>
      simp [goesOn, Call.isLast, Call.opening, perform, perform.answer, perform.ended, writeManyLast, endWrite, hr,
        Except.map, Except.toBool, Call.drained]
    split <;> rfl
  | _ => simp [goesOn, Call.isLast, Call.opening]

/-- The arguments of a call are left as its opening leaves them. -/
theorem perform_arguments (sink : σ) (call : Call) :
    (S.perform sink call).state.2 = call.restore (S.perform sink call.opening).state.2 := by
  cases call with
  | writeLast src =>
    simp only [Call.opening, perform, perform.answer, writeLast, endWrite]
    split
    · rfl
    · split <;> rfl
  | writeManyLast sources =>
    simp only [Call.opening, perform, perform.answer, writeManyLast, endWrite]
    split
    · rfl
    · split <;> rfl
  | _ => rfl

/-- The result of a write of the last data is that of the write, unless a termination follows that fails. -/
theorem endWrite_result {κ : Type} (drained : κ → Bool) (reply : Reply (σ × κ) UInt64) :
    (S.endWrite drained reply).result =
      if reply.result.toBool && drained reply.state.2 then
        (S.terminate reply.state.1).result.bind fun _ => reply.result
      else reply.result := by
  unfold endWrite
  cases hr : reply.result with
  | error e => simp [hr, Except.toBool]
  | ok written =>
    cases hd : drained reply.state.2 with
    | true =>
      simp only [Except.toBool, Bool.true_and, if_true]
      cases (S.terminate reply.state.1).result <;> rfl
    | false => simp [hr]

/-- The result of a call is that of its opening, unless a termination follows that fails. -/
theorem perform_result (sink : σ) (call : Call) :
    (S.perform sink call).result =
      if goesOn call (S.perform sink call.opening) then
        (S.perform (S.perform sink call.opening).state.1 .terminate).result.bind fun _ =>
          (S.perform sink call.opening).result
      else (S.perform sink call.opening).result := by
  have hend {κ : Type} (drained : κ → Bool) (reply : Reply (σ × κ) UInt64) :
      (S.endWrite drained reply).result.map Yield.count =
        if (reply.result.map Yield.count).toBool && drained reply.state.2 then
          ((S.terminate reply.state.1).result.map Yield.ofUnit).bind fun _ => reply.result.map Yield.count
        else reply.result.map Yield.count := by
    rw [endWrite_result]
    cases reply.result with
    | error e => simp [Except.map, Except.toBool]
    | ok written =>
      cases drained reply.state.2 with
      | true => cases (S.terminate reply.state.1).result <;> rfl
      | false => rfl
  cases call with
  | writeLast src => exact hend Source.isEmpty (S.write sink src)
  | writeManyLast sources => exact hend Source.allEmpty (S.writeMany sink sources)
  | _ => simp [goesOn, Call.isLast, Call.opening]

/-- What a write of the last data yields, if it succeeds, is the count of the write. -/
theorem endWrite_ok {κ : Type} {drained : κ → Bool} {reply : Reply (σ × κ) UInt64} {n : UInt64}
    (h : (S.endWrite drained reply).result = .ok n) : reply.result = .ok n := by
  unfold endWrite at h
  split at h
  · next e he => rw [he] at h; cases h
  · next written hw =>
    split at h
    · obtain ⟨_, -, rfl⟩ := map_eq_ok_iff.1 h
      exact hw
    · exact h

/-- A call that succeeds yields what its opening yields. -/
theorem perform_ok_opening {sink : σ} {call : Call} {value : Yield} (h : (S.perform sink call).result = .ok value) :
    (S.perform sink call.opening).result = .ok value := by
  cases call with
  | writeLast src =>
    obtain ⟨n, hn, rfl⟩ := map_eq_ok_iff.1 h
    exact map_eq_ok_iff.2 ⟨n, S.endWrite_ok hn, rfl⟩
  | writeManyLast sources =>
    obtain ⟨n, hn, rfl⟩ := map_eq_ok_iff.1 h
    exact map_eq_ok_iff.2 ⟨n, S.endWrite_ok hn, rfl⟩
  | _ => exact h

end Sink

end ExactLength
