import ExactLength.Proofs.Sink.Gathering
import ExactLength.Proofs.Stack.Closed
import ExactLength.Script.Devices

/-!
# Delays

A device that answers "not yet" has done nothing, and is asked again. An outlet makes such an answer a count of nothing
or a flush that is not done, so a driver that repeats its calls until they are settled is only delayed by it.

`Delays` is a view of what may happen so: how many delays a state still holds, and the state without them. A sink is
`Sink.OnlyDelayed` if each write and each flush either meets one of them, and leaves everything else as it was, or goes
as it goes without them. Outlets of such devices are, and gates keep it, however many. A driver then makes, in whatever
order the delays come, the attempts of a run without delays and one idle attempt for each delay that it met
(`Sink.Works.removed`).

A scripted device holds delays where its script tells it to fail with an error that means "not yet". The main statement
is `Stack.delays_transparent`, for stacks over two scripts that differ in such errors only.
-/

namespace ExactLength

/-- Which delays a state still holds. -/
structure Delays (σ : Type) where
  /-- The state without them. -/
  removed : σ → σ
  /-- How many they are. -/
  count : σ → Nat
  /-- Then there are none left to remove. -/
  removed_removed : ∀ state, removed (removed state) = removed state
  /-- Then there are none. -/
  count_removed : ∀ state, count (removed state) = 0

namespace Call

/-- Whether a driver repeats the call until it is settled. -/
def isRetried : Call → Bool
  | write _ | writeMany _ | flush => true
  | _ => false

/-- What a call yields that could not be done yet. -/
def notYet : Call → Yield
  | flush => .flag false
  | _ => .count 0

/-- Whether a call that came back with a result is settled: it failed, its sources are empty, or all is flushed. -/
def isSettled (back : Call) : Except SinkError Yield → Bool
  | .error _ => true
  | .ok (.flag flushed) => flushed
  | .ok _ => Source.allEmpty back.sources

/-- Of a call that came back only the sources matter. -/
theorem isSettled_congr {back back' : Call} (h : back.sources = back'.sources) (result : Except SinkError Yield) :
    back.isSettled result = back'.isSettled result := by
  unfold isSettled
  split
  · rfl
  · rfl
  · rw [h]

theorem isLast_of_isRetried {call : Call} (h : call.isRetried = true) : call.isLast = false := by
  cases call with
  | writeLast src => cases h
  | writeManyLast sources => cases h
  | _ => rfl

/-- A call comes back as a call of its kind. -/
theorem isRetried_back {σ : Type} (S : Sink σ) (sink : σ) {call : Call} (h : call.isRetried = true) :
    (S.perform sink call).state.2.isRetried = true := by
  cases call with
  | write src => rfl
  | writeMany sources => rfl
  | flush => rfl
  | _ => cases h

end Call

/-! ### Devices -/

section Devices

variable {ω : Type}

/-- A call of a device meets a delay, or goes as it goes without delays. -/
inductive Delays.Shows {α : Type} (d : Delays ω) (device : ω) (reply plain : Except IoError α × ω) : Prop where
  /-- It meets a delay. -/
  | delay (e : IoError) (hresult : reply.1 = .error e) (he : e.isRetryable = true)
    (hremoved : d.removed reply.2 = d.removed device) (hcount : d.count reply.2 + 1 = d.count device)
  /-- It goes as without delays. -/
  | act (hresult : reply.1 = plain.1) (hremoved : d.removed reply.2 = d.removed plain.2)
    (hcount : d.count reply.2 = d.count device)

/-- The device is only delayed. -/
structure Device.OnlyDelayed (D : Device ω) (d : Delays ω) : Prop where
  /-- A write. -/
  write : ∀ device run, d.Shows device (D.write device run) (D.write (d.removed device) run)
  /-- A write of several runs. -/
  writeMany : ∀ device runs, d.Shows device (D.writeMany device runs) (D.writeMany (d.removed device) runs)
  /-- A flush. -/
  flush : ∀ device, d.Shows device (D.flush device) (D.flush (d.removed device))

end Devices

/-! ### Sinks -/

section Sinks

variable {σ : Type}

/-- A call of a sink meets a delay, or goes as it goes without delays. -/
inductive Delays.Meets (d : Delays σ) (S : Sink σ) (sink : σ) (call : Call) : Prop where
  /-- It meets a delay, and is not settled by that. -/
  | delay (hresult : (S.perform sink call).result = .ok call.notYet) (hback : (S.perform sink call).state.2 = call)
    (hlive : call.isSettled (.ok call.notYet) = false)
    (hremoved : d.removed (S.perform sink call).state.1 = d.removed sink)
    (hcount : d.count (S.perform sink call).state.1 + 1 = d.count sink)
  /-- It goes as without delays. -/
  | act (hresult : (S.perform sink call).result = (S.perform (d.removed sink) call).result)
    (hback : (S.perform sink call).state.2 = (S.perform (d.removed sink) call).state.2)
    (hremoved : d.removed (S.perform sink call).state.1 = d.removed (S.perform (d.removed sink) call).state.1)
    (hcount : d.count (S.perform sink call).state.1 = d.count sink)

/-- The writes and flushes of the sink are only delayed. -/
def Sink.OnlyDelayed (S : Sink σ) (d : Delays σ) : Prop :=
  ∀ sink call, call.isRetried = true → d.Meets S sink call

end Sinks

/-! ### Outlets -/

namespace Outlet

variable {ω : Type}

/-- The delays of the device. -/
def delays (d : Delays ω) : Delays (Outlet ω) where
  removed o := { o with device := d.removed o.device }
  count o := d.count o.device
  removed_removed o := by simp only [d.removed_removed]
  count_removed o := d.count_removed o.device

theorem gather_of_allEmpty {sources : List Source} (h : Source.allEmpty sources = true) : gather sources = [] := by
  induction sources with
  | nil => rfl
  | cons src rest ih =>
    obtain ⟨hsrc, hrest⟩ := Bool.and_eq_true_iff.1 h
    rw [gather, if_pos hsrc, ih hrest]

/-- What an outlet makes of an error that means "not yet". -/
theorem orNotYet_of_isRetryable {α : Type} (notYet : α) {e : IoError} (he : e.isRetryable = true) :
    orNotYet notYet (.error e) = .ok notYet :=
  if_pos he

variable {D : Device ω} {d : Delays ω} {o : Outlet ω} {call : Call}

/-- A call that does not come to the device is not delayed. -/
theorem meets_of_unasked (result : Except SinkError Yield)
    (h : ∀ device, D.sink.perform { o with device := device } call = ⟨result, ({ o with device := device }, call), []⟩) :
    (delays d).Meets D.sink o call := by
  have hhere := h o.device
  have hplain := h (d.removed o.device)
  apply Delays.Meets.act
  · exact (congrArg Outcome.result hhere).trans (congrArg Outcome.result hplain).symm
  · exact (congrArg (·.state.2) hhere).trans (congrArg (·.state.2) hplain).symm
  · rw [hhere]
    show (delays d).removed o = (delays d).removed (D.sink.perform { o with device := d.removed o.device } call).state.1
    rw [hplain]
    exact ((delays d).removed_removed o).symm
  · rw [hhere]

/-- A call that comes to the device is delayed as the device is. -/
theorem meets_of_asked {α : Type} (ask : ω → Except IoError α × ω) (made : Except IoError α → Except SinkError Yield)
    (back : Except IoError α → Call)
    (h : ∀ device, D.sink.perform { o with device := device } call =
      ⟨made (ask device).1, ({ o with device := (ask device).2 }, back (ask device).1), []⟩)
    (hshows : d.Shows o.device (ask o.device) (ask (d.removed o.device)))
    (hmade : ∀ e : IoError, e.isRetryable = true → made (.error e) = .ok call.notYet ∧ back (.error e) = call)
    (hlive : call.isSettled (.ok call.notYet) = false) : (delays d).Meets D.sink o call := by
  have hhere := h o.device
  have hplain := h (d.removed o.device)
  cases hshows with
  | delay e hresult he hremoved hcount =>
    obtain ⟨hnotYet, hback⟩ := hmade e he
    rw [hresult, hnotYet, hback] at hhere
    apply Delays.Meets.delay _ _ hlive
    · rw [hhere]
      exact congrArg (fun device => { o with device := device }) hremoved
    · rw [hhere]
      exact hcount
    · rw [hhere]
    · rw [hhere]
  | act hresult hremoved hcount =>
    rw [hresult] at hhere
    apply Delays.Meets.act
    · exact (congrArg Outcome.result hhere).trans (congrArg Outcome.result hplain).symm
    · exact (congrArg (·.state.2) hhere).trans (congrArg (·.state.2) hplain).symm
    · rw [hhere]
      show (delays d).removed _ = (delays d).removed (D.sink.perform { o with device := d.removed o.device } call).state.1
      rw [hplain]
      exact congrArg (fun device => { o with device := device }) hremoved
    · rw [hhere]
      exact hcount

/-- A write of something to an open outlet comes to the device. -/
theorem write_of_open (D : Device ω) (hopen : o.shutDown = false) {src : Source} (hlive : src.isEmpty = false) :
    write D o src =
      ⟨orNotYet 0 (D.write o.device src.chunk).1,
        ({ o with device := (D.write o.device src.chunk).2 }, src.advance (taken (D.write o.device src.chunk).1)),
        []⟩ := by
  rw [write, hlive, if_neg Bool.false_ne_true, hopen, if_neg Bool.false_ne_true]

theorem meets_write (h : D.OnlyDelayed d) (o : Outlet ω) (src : Source) :
    (delays d).Meets D.sink o (.write src) := by
  have hwrite (device : ω) : D.sink.perform { o with device := device } (.write src) =
      Sink.perform.answer .count .write (Outlet.write D { o with device := device } src) := rfl
  cases hempty : src.isEmpty with
  | true =>
    apply meets_of_unasked (.ok (.count 0))
    intro device
    rw [hwrite, Outlet.write, if_pos hempty]
    rfl
  | false =>
    cases hshut : o.shutDown with
    | true =>
      apply meets_of_unasked (.error .closedChannel)
      intro device
      rw [hwrite, Outlet.write, hempty, if_neg Bool.false_ne_true, if_pos hshut]
      rfl
    | false =>
      apply meets_of_asked (D.write · src.chunk) (fun result => (orNotYet 0 result).map .count)
        (fun result => .write (src.advance (taken result))) _ (h.write o.device src.chunk)
      · intro e he
        rw [orNotYet_of_isRetryable 0 he, taken, Source.advance_zero]
        exact ⟨rfl, rfl⟩
      · exact (Bool.and_true _).trans hempty
      · intro device
        rw [hwrite, write_of_open D (o := { o with device := device }) hshut hempty]
        rfl

theorem meets_writeMany (h : D.OnlyDelayed d) (o : Outlet ω) (sources : List Source) :
    (delays d).Meets D.sink o (.writeMany sources) := by
  have hwrite (device : ω) : D.sink.perform { o with device := device } (.writeMany sources) =
      Sink.perform.answer .count .writeMany (Outlet.writeMany D { o with device := device } sources) := rfl
  cases hshut : o.shutDown with
  | true =>
    apply meets_of_unasked (.error .closedChannel)
    intro device
    rw [hwrite, Outlet.writeMany, if_pos hshut]
    rfl
  | false =>
    by_cases hruns : gather sources = []
    · apply meets_of_unasked (.ok (.count 0))
      intro device
      rw [hwrite, writeMany_of_gather_eq_nil D (o := { o with device := device }) hshut hruns]
      rfl
    · apply meets_of_asked (D.writeMany · (gather sources)) (fun result => (orNotYet 0 result).map .count)
        (fun result => .writeMany (spread (taken result) sources)) _ (h.writeMany o.device (gather sources))
      · intro e he
        rw [orNotYet_of_isRetryable 0 he, taken, spread_zero]
        exact ⟨rfl, rfl⟩
      · exact Bool.eq_false_iff.2 fun hall => hruns (gather_of_allEmpty hall)
      · intro device
        rw [hwrite, writeMany_of_gather D (o := { o with device := device }) hshut hruns]
        rfl

theorem meets_flush (h : D.OnlyDelayed d) (o : Outlet ω) : (delays d).Meets D.sink o .flush := by
  apply meets_of_asked D.flush (fun result => (orNotYet false (result.map fun _ => true)).map .flag) (fun _ => .flush) _
    (h.flush o.device)
  · intro e he
    exact ⟨congrArg (Except.map Yield.flag) (orNotYet_of_isRetryable false he), rfl⟩
  · rfl
  · intro device
    rfl

/-- An outlet is delayed as its device is. -/
theorem onlyDelayed (h : D.OnlyDelayed d) : D.sink.OnlyDelayed (delays d) := by
  intro o call hcall
  cases call with
  | write src => exact meets_write h o src
  | writeMany sources => exact meets_writeMany h o sources
  | flush => exact meets_flush h o
  | _ => cases hcall

end Outlet

/-! ### Gates -/

section Gates

variable {σ : Type}

/-- The delays of what lies below. -/
def Delays.gated (d : Delays σ) : Delays (Gated σ) where
  removed g := { g with below := d.removed g.below }
  count g := d.count g.below
  removed_removed g := by simp only [d.removed_removed]
  count_removed g := d.count_removed g.below

/-- The delays of the base. -/
def Delays.stacked (d : Delays σ) : (n : Nat) → Delays (Stack σ n)
  | 0 => d
  | n + 1 => (d.stacked n).gated

theorem Delays.gates_removed (d : Delays σ) {n : Nat} (s : Stack σ n) : ((d.stacked n).removed s).gates = s.gates := by
  induction n with
  | zero => rfl
  | succ n ih => exact congrArg (s.gate :: ·) (ih s.below)

theorem Delays.base_removed (d : Delays σ) {n : Nat} (s : Stack σ n) :
    ((d.stacked n).removed s).base = d.removed s.base := by
  induction n with
  | zero => rfl
  | succ n ih => exact ih s.below

theorem Delays.count_stacked (d : Delays σ) {n : Nat} (s : Stack σ n) : (d.stacked n).count s = d.count s.base := by
  induction n with
  | zero => rfl
  | succ n ih => exact ih s.below

/-- What a gate passes on for a call that is repeated offers the same. -/
theorem Gate.Passes.retried {g : Gate} {call down : Call} {shortfall : Option UInt64}
    (h : g.Passes call down shortfall) (hcall : call.isRetried = true) :
    down.isRetried = true ∧ shortfall = none ∧ down.notYet = call.notYet ∧ down.sources = call.sources := by
  cases h with
  | source src => exact ⟨rfl, rfl, rfl, rfl⟩
  | only src => exact ⟨rfl, rfl, rfl, rfl⟩
  | many sources => exact ⟨rfl, rfl, rfl, rfl⟩
  | flush => exact ⟨rfl, rfl, rfl, rfl⟩
  | _ => cases hcall

/-- A call that is repeated changes a gate only by what it learns, and "not yet" teaches it nothing. -/
theorem Gate.learn_notYet (g : Gate) {call : Call} (hcall : call.isRetried = true) :
    g.hear call = g ∧ g.learn call (.ok call.notYet) = g := by
  cases call with
  | write src => exact ⟨rfl, g.spend_zero⟩
  | writeMany sources => exact ⟨rfl, g.spend_zero⟩
  | flush => exact ⟨rfl, rfl⟩
  | _ => cases hcall

variable {S : Sink σ} {d : Delays σ}

/-- A gate is delayed as what lies below. -/
theorem Sink.OnlyDelayed.gated (h : S.OnlyDelayed d) : S.gated.OnlyDelayed d.gated := by
  intro g call hcall
  have hlast := Call.isLast_of_isRetried hcall
  cases hplan : g.gate.plan call with
  | answer result =>
    obtain ⟨hresult, hstate⟩ := S.perform_gated_answer hlast hplan
    obtain ⟨hresult', hstate'⟩ := S.perform_gated_answer (g := d.gated.removed g) hlast hplan
    apply Delays.Meets.act
    · rw [hresult, hresult']
    · rw [hstate, hstate']
    · rw [hstate, hstate']
      exact congrArg (Gated.mk _) (d.removed_removed _).symm
    · rw [hstate]
      rfl
  | pass down shortfall =>
    have hpass := Gate.passes_of_plan hlast hplan
    obtain ⟨hdown, rfl, hnotYet, hsources⟩ := hpass.retried hcall
    obtain ⟨hhear, hlearn⟩ := g.gate.learn_notYet hcall
    obtain ⟨hresult, hstate⟩ := S.perform_gated_pass hlast hplan
    cases h g.below down hdown with
    | delay hbelow hback hlive hremoved hcount =>
      rw [hbelow, hnotYet] at hresult hstate
      rw [hhear, hlearn, hback, hpass.restore_down] at hstate
      apply Delays.Meets.delay hresult
      · rw [hstate]
      · rw [← Call.isSettled_congr hsources, ← hnotYet]
        exact hlive
      · rw [hstate]
        exact congrArg (Gated.mk _) hremoved
      · rw [hstate]
        exact hcount
    | act hbelow hback hremoved hcount =>
      obtain ⟨hresult', hstate'⟩ := S.perform_gated_pass (g := d.gated.removed g) hlast hplan
      have hbelow' : (S.perform g.below down).result = (S.perform (d.gated.removed g).below down).result := hbelow
      have hback' : (S.perform g.below down).state.2 = (S.perform (d.gated.removed g).below down).state.2 := hback
      rw [← hbelow'] at hresult' hstate'
      rw [← hback'] at hstate'
      apply Delays.Meets.act
      · rw [hresult, hresult']
      · rw [hstate, hstate']
      · rw [hstate, hstate']
        exact congrArg (Gated.mk _) hremoved
      · rw [hstate]
        exact hcount

/-- A stack is delayed as its base. -/
theorem Sink.OnlyDelayed.stacked (h : S.OnlyDelayed d) (n : Nat) : (S.stacked n).OnlyDelayed (d.stacked n) := by
  induction n with
  | zero => exact h
  | succ n ih => exact ih.gated

end Gates

/-! ### A driver that repeats its calls -/

/-- One attempt at a call: what was called, and what came of it. What stood before and what stands after is seen without
the delays. -/
structure Attempt (σ : Type) where
  /-- What stood before. -/
  before : σ
  /-- The call. -/
  call : Call
  /-- The result. -/
  result : Except SinkError Yield
  /-- The call as it came back. -/
  back : Call
  /-- What stands after. -/
  after : σ

/-- The attempt told to come again, and changed nothing. -/
structure Attempt.IsIdle {σ : Type} (a : Attempt σ) : Prop where
  /-- It could not be done yet. -/
  result : a.result = .ok a.call.notYet
  /-- Nothing was taken. -/
  back : a.back = a.call
  /-- Nothing was changed. -/
  after : a.after = a.before

/-- Some attempts with a number of idle ones in between. -/
inductive WithIdle {σ : Type} : List (Attempt σ) → List (Attempt σ) → Nat → Prop where
  /-- There are none. -/
  | nil : WithIdle [] [] 0
  /-- One of the attempts. -/
  | keep (a : Attempt σ) {plain all : List (Attempt σ)} {n : Nat} (h : WithIdle plain all n) :
    WithIdle (a :: plain) (a :: all) n
  /-- An idle one. -/
  | idle {a : Attempt σ} (ha : a.IsIdle) {plain all : List (Attempt σ)} {n : Nat} (h : WithIdle plain all n) :
    WithIdle plain (a :: all) (n + 1)

theorem WithIdle.append {σ : Type} {plain plain' all all' : List (Attempt σ)} {m n : Nat} (h : WithIdle plain all m)
    (h' : WithIdle plain' all' n) : WithIdle (plain ++ plain') (all ++ all') (m + n) := by
  induction h with
  | nil => rwa [Nat.zero_add]
  | keep a _ ih => exact .keep a ih
  | idle ha _ ih =>
    rw [Nat.add_right_comm]
    exact .idle ha ih

/-- The second state is the first one without its delays. -/
structure Delays.Removes {σ : Type} (d : Delays σ) (state plain : σ) : Prop where
  /-- They are the same without delays. -/
  removed : d.removed plain = d.removed state
  /-- The second state holds none. -/
  count : d.count plain = 0

theorem Delays.removes_removed {σ : Type} (d : Delays σ) (state : σ) : d.Removes state (d.removed state) :=
  ⟨d.removed_removed state, d.count_removed state⟩

namespace Sink

variable {σ : Type} (S : Sink σ) (d : Delays σ)

/-- An attempt at a call. -/
def attempt (sink : σ) (call : Call) : Attempt σ :=
  let reply := S.perform sink call
  ⟨d.removed sink, call, reply.result, reply.state.2, d.removed reply.state.1⟩

/-- A call is repeated, each time with the arguments that came back, until it is settled. -/
inductive Settles : σ → Call → List (Attempt σ) → Except SinkError Yield × Call → σ → Prop where
  /-- It is settled. -/
  | settled (sink : σ) (call : Call)
    (h : (S.perform sink call).state.2.isSettled (S.perform sink call).result = true) :
    Settles sink call [S.attempt d sink call] ((S.perform sink call).result, (S.perform sink call).state.2)
      (S.perform sink call).state.1
  /-- It is not, and is repeated. -/
  | again {sink last : σ} {call : Call} {rest : List (Attempt σ)} {answer : Except SinkError Yield × Call}
    (h : (S.perform sink call).state.2.isSettled (S.perform sink call).result = false)
    (hrest : Settles (S.perform sink call).state.1 (S.perform sink call).state.2 rest answer last) :
    Settles sink call (S.attempt d sink call :: rest) answer last

/-- Calls are repeated until they are settled, one after the other. -/
inductive Works : σ → List Call → List (Attempt σ) → List (Except SinkError Yield × Call) → σ → Prop where
  /-- There are none. -/
  | nil (sink : σ) : Works sink [] [] [] sink
  /-- One is settled, and then the others. -/
  | cons {sink next last : σ} {call : Call} {calls : List Call} {first rest : List (Attempt σ)}
    {answer : Except SinkError Yield × Call} {answers : List (Except SinkError Yield × Call)}
    (hfirst : Settles S d sink call first answer next) (hrest : Works next calls rest answers last) :
    Works sink (call :: calls) (first ++ rest) (answer :: answers) last

variable {S d}

theorem Settles.unique {sink last last' : σ} {call : Call} {attempts attempts' : List (Attempt σ)}
    {answer answer' : Except SinkError Yield × Call} (h : S.Settles d sink call attempts answer last)
    (h' : S.Settles d sink call attempts' answer' last') :
    attempts = attempts' ∧ answer = answer' ∧ last = last' := by
  induction h generalizing attempts' with
  | settled sink call hsettled =>
    cases h' with
    | settled => exact ⟨rfl, rfl, rfl⟩
    | again hagain =>
      rw [hsettled] at hagain
      cases hagain
  | again hagain _ ih =>
    cases h' with
    | settled _ _ hsettled =>
      rw [hsettled] at hagain
      cases hagain
    | again _ hrest =>
      obtain ⟨rfl, rfl, rfl⟩ := ih hrest
      exact ⟨rfl, rfl, rfl⟩

theorem Works.unique {sink last last' : σ} {calls : List Call} {attempts attempts' : List (Attempt σ)}
    {answers answers' : List (Except SinkError Yield × Call)} (h : S.Works d sink calls attempts answers last)
    (h' : S.Works d sink calls attempts' answers' last') :
    attempts = attempts' ∧ answers = answers' ∧ last = last' := by
  induction h generalizing attempts' answers' with
  | nil sink =>
    cases h'
    exact ⟨rfl, rfl, rfl⟩
  | cons hfirst _ ih =>
    cases h' with
    | cons hfirst' hrest' =>
      obtain ⟨rfl, rfl, rfl⟩ := hfirst.unique hfirst'
      obtain ⟨rfl, rfl, rfl⟩ := ih hrest'
      exact ⟨rfl, rfl, rfl⟩

/-- Without delays an attempt goes as it went, unless it met one. -/
theorem OnlyDelayed.attempt (hS : S.OnlyDelayed d) {sink plain : σ} (hplain : d.Removes sink plain) {call : Call}
    (hcall : call.isRetried = true) :
    (S.perform sink call).state.2.isSettled (S.perform sink call).result = false ∧
        (S.attempt d sink call).IsIdle ∧ (S.perform sink call).state.2 = call ∧
        d.Removes (S.perform sink call).state.1 plain ∧ d.count (S.perform sink call).state.1 + 1 = d.count sink ∨
      (S.perform plain call).result = (S.perform sink call).result ∧
        (S.perform plain call).state.2 = (S.perform sink call).state.2 ∧
        S.attempt d plain call = S.attempt d sink call ∧
        d.Removes (S.perform sink call).state.1 (S.perform plain call).state.1 ∧
        d.count (S.perform sink call).state.1 = d.count sink := by
  cases hS sink call hcall with
  | delay hresult hback hlive hremoved hcount =>
    left
    refine ⟨?_, ⟨hresult, hback, hremoved⟩, hback, ⟨hplain.removed.trans hremoved.symm, hplain.count⟩, hcount⟩
    rw [hresult, hback]
    exact hlive
  | act hresult hback hremoved hcount =>
    cases hS plain call hcall with
    | delay _ _ _ _ hcount' =>
      rw [hplain.count] at hcount'
      omega
    | act hresult' hback' hremoved' hcount' =>
      rw [hplain.removed] at hresult' hback' hremoved'
      have hsame := hresult'.trans hresult.symm
      have hsame' := hback'.trans hback.symm
      have hsame'' := hremoved'.trans hremoved.symm
      right
      refine ⟨hsame, hsame', ?_, ⟨hsame'', hcount'.trans hplain.count⟩, hcount⟩
      rw [Sink.attempt, Sink.attempt, hplain.removed, hsame, hsame', hsame'']

/-- A call that is repeated until it is settled is settled alike without delays, in fewer attempts. -/
theorem Settles.removed (hS : S.OnlyDelayed d) {sink last : σ} {call : Call} {attempts : List (Attempt σ)}
    {answer : Except SinkError Yield × Call} (h : S.Settles d sink call attempts answer last)
    (hcall : call.isRetried = true) {plain : σ} (hplain : d.Removes sink plain) :
    ∃ few plain' n, S.Settles d plain call few answer plain' ∧ d.Removes last plain' ∧ WithIdle few attempts n ∧
      n + d.count last = d.count sink := by
  induction h generalizing plain with
  | settled sink call hsettled =>
    rcases hS.attempt hplain hcall with ⟨hlive, -⟩ | ⟨hresult, hback, hattempt, hremoves, hcount⟩
    · rw [hsettled] at hlive
      cases hlive
    · refine ⟨[S.attempt d plain call], (S.perform plain call).state.1, 0, ?_, hremoves, ?_, ?_⟩
      · rw [← hresult, ← hback]
        apply Settles.settled
        rw [hresult, hback]
        exact hsettled
      · rw [hattempt]
        exact .keep _ .nil
      · omega
  | @again sink last call rest answer hagain _ ih =>
    rcases hS.attempt hplain hcall with ⟨-, hidle, hback, hremoves, hcount⟩ | ⟨hresult, hback, hattempt, hremoves, hcount⟩
    · rw [hback] at ih
      obtain ⟨few, plain', n, hsettles, hremoves', hidles, hsum⟩ := ih hcall hremoves
      exact ⟨few, plain', n + 1, hsettles, hremoves', .idle hidle hidles, by omega⟩
    · obtain ⟨few, plain', n, hsettles, hremoves', hidles, hsum⟩ := ih (Call.isRetried_back S _ hcall) hremoves
      refine ⟨S.attempt d plain call :: few, plain', n, ?_, hremoves', ?_, by omega⟩
      · rw [← hback] at hsettles
        apply Settles.again _ hsettles
        rw [hresult, hback]
        exact hagain
      · rw [hattempt]
        exact .keep _ hidles

/-- Calls that are repeated until they are settled are settled alike without delays. The attempts are the same, but for
one idle attempt for each delay that was met. -/
theorem Works.removed (hS : S.OnlyDelayed d) {sink last : σ} {calls : List Call} {attempts : List (Attempt σ)}
    {answers : List (Except SinkError Yield × Call)} (h : S.Works d sink calls attempts answers last)
    (hcalls : ∀ call ∈ calls, call.isRetried = true) {plain : σ} (hplain : d.Removes sink plain) :
    ∃ few plain' n, S.Works d plain calls few answers plain' ∧ d.Removes last plain' ∧ WithIdle few attempts n ∧
      n + d.count last = d.count sink := by
  induction h generalizing plain with
  | nil sink => exact ⟨[], plain, 0, .nil plain, hplain, .nil, Nat.zero_add _⟩
  | cons hfirst _ ih =>
    obtain ⟨few, next', m, hsettles, hnext, hidles, hsum⟩ :=
      hfirst.removed hS (hcalls _ List.mem_cons_self) hplain
    obtain ⟨few', plain', n, hworks, hremoves, hidles', hsum'⟩ :=
      ih (fun call hcall => hcalls call (List.mem_cons_of_mem _ hcall)) hnext
    exact ⟨few ++ few', plain', m + n, .cons hsettles hworks, hremoves, hidles.append hidles', by omega⟩

/-- Two drivers whose sinks differ in their delays only get the same answers, and leave sinks that differ in their delays
only. -/
theorem Works.alike (hS : S.OnlyDelayed d) {sink sink' last last' : σ} {calls : List Call}
    {attempts attempts' : List (Attempt σ)} {answers answers' : List (Except SinkError Yield × Call)}
    (h : S.Works d sink calls attempts answers last) (h' : S.Works d sink' calls attempts' answers' last')
    (hsame : d.removed sink = d.removed sink') (hcalls : ∀ call ∈ calls, call.isRetried = true) :
    answers = answers' ∧ d.removed last = d.removed last' ∧
      ∃ few m n, WithIdle few attempts m ∧ m + d.count last = d.count sink ∧
        WithIdle few attempts' n ∧ n + d.count last' = d.count sink' := by
  obtain ⟨few, plain', m, hworks, hend, hidles, hsum⟩ := h.removed hS hcalls (d.removes_removed sink)
  obtain ⟨few', plain'', n, hworks', hplain', hidles', hsum'⟩ := h'.removed hS hcalls (d.removes_removed sink')
  rw [hsame] at hworks
  obtain ⟨rfl, rfl, rfl⟩ := hworks.unique hworks'
  exact ⟨rfl, hend.removed.symm.trans hplain'.removed, few, m, n, hidles, hsum, hidles', hsum'⟩

end Sink

/-! ### Scripted devices -/

/-- The action fails with an error that means "not yet". -/
def Action.isNotYet : Action → Bool
  | fail e => e.toIo.isRetryable
  | _ => false

namespace Script

/-- Some actions without those that mean "not yet". -/
def withoutDelays (actions : List Action) : List Action :=
  actions.filter fun action => !action.isNotYet

/-- How many of some actions mean "not yet". -/
def countDelays (actions : List Action) : Nat :=
  actions.countP Action.isNotYet

/-- It does not matter where such an action is inserted. -/
theorem withoutDelays_insert {action : Action} (h : action.isNotYet = true) (first rest : List Action) :
    withoutDelays (first ++ action :: rest) = withoutDelays (first ++ rest) := by
  simp [withoutDelays, h]

theorem countDelays_withoutDelays (actions : List Action) : countDelays (withoutDelays actions) = 0 := by
  simp [countDelays, withoutDelays, List.countP_eq_zero]

/-- The next action means "not yet", or it is next without such actions. -/
theorem next_of_delays (actions : List Action) :
    (∃ e, (next actions).1 = .fail e ∧ e.toIo.isRetryable = true ∧
        withoutDelays (next actions).2 = withoutDelays actions ∧
        countDelays (next actions).2 + 1 = countDelays actions) ∨
      next (withoutDelays actions) = ((next actions).1, withoutDelays (next actions).2) ∧
        countDelays (next actions).2 = countDelays actions := by
  cases actions with
  | nil => exact Or.inr ⟨rfl, rfl⟩
  | cons action rest =>
    cases h : action.isNotYet with
    | true =>
      cases action with
      | fail e => exact Or.inl ⟨e, rfl, h, by simp [next, withoutDelays, h], by simp [next, countDelays, h]⟩
      | _ => cases h
    | false => exact Or.inr ⟨by simp [next, withoutDelays, h], by simp [next, countDelays, h]⟩

/-- The script without its delays, and without what it has heard. -/
def steady (s : Script) : Script :=
  { s with
    writes := withoutDelays s.writes
    flushes := withoutDelays s.flushes
    heard := [] }

/-- The delays of a script. -/
def delays : Delays Script where
  removed := steady
  count s := countDelays s.writes + countDelays s.flushes
  removed_removed s := by simp [steady, withoutDelays]
  count_removed s := by simp only [steady, countDelays_withoutDelays]

/-- What a write of one run reports, and which bytes it takes. -/
def playRun (action : Action) (bytes : Bytes) : Except IoError UInt64 × Bytes :=
  match action.taking bytes.length bytes.length with
  | .error e => (.error e.toIo, [])
  | .ok (taken, reported) => (.ok reported, bytes.take taken)

/-- The script after a write that took some bytes. -/
def wrote (s : Script) (bytes : Bytes) (heard : List Heard) : Script :=
  { s with
    writes := (next s.writes).2
    taken := s.taken ++ (playRun (next s.writes).1 bytes).2
    heard := heard }

theorem writeRun_eq (s : Script) (bytes : Bytes) :
    s.writeRun bytes =
      ((playRun (next s.writes).1 bytes).1, s.wrote bytes (s.heard ++ [.writeRun bytes.length])) := by
  simp only [writeRun, nextWrite, hear, takeRun, playRun, wrote]
  cases (next s.writes).1.taking bytes.length bytes.length with
  | error e => simp [ioResult]
  | ok counts => rfl

/-- What a device writes of several runs. -/
def gathered (s : Script) (runs : List Bytes) : Bytes :=
  if s.gathers then runs.flatten else runs.headD []

theorem writeRuns_eq (s : Script) (runs : List Bytes) :
    ∃ heard, s.writeRuns runs = ((playRun (next s.writes).1 (s.gathered runs)).1, s.wrote (s.gathered runs) heard) := by
  rw [writeRuns, gathered]
  cases hgathers : s.gathers with
  | true =>
    refine ⟨s.heard ++ [.writeMany (runs.map List.length)], ?_⟩
    simp only [nextWrite, hear, takeRun, playRun, wrote, hgathers, if_true]
    cases (next s.writes).1.taking runs.flatten.length runs.flatten.length with
    | error e => simp [ioResult]
    | ok counts => rfl
  | false =>
    refine ⟨s.heard ++ [.writeMany (runs.map List.length)] ++ [.writeRun (runs.headD []).length], ?_⟩
    simp only [hear, hgathers, Bool.false_eq_true, if_false, writeRun_eq, wrote]

/-- A write meets a delay of the script, or plays the action that comes next without them. -/
theorem shows_wrote (s : Script) (bytes : Bytes) (heard heard' : List Heard) :
    delays.Shows s ((playRun (next s.writes).1 bytes).1, s.wrote bytes heard)
      ((playRun (next s.steady.writes).1 bytes).1, s.steady.wrote bytes heard') := by
  have hsteady : s.steady.writes = withoutDelays s.writes := rfl
  rcases next_of_delays s.writes with ⟨e, hnext, he, hrest, hcount⟩ | ⟨hnext, hcount⟩
  · have hplay : playRun (.fail e) bytes = (.error e.toIo, []) := rfl
    apply Delays.Shows.delay e.toIo _ he
    · simp [delays, steady, wrote, hnext, hplay, hrest]
    · simp only [delays, wrote]
      omega
    · rw [hnext, hplay]
  · apply Delays.Shows.act
    · rw [hsteady, hnext]
    · simp [delays, steady, wrote, hnext]
      simp [withoutDelays]
    · simp only [delays, wrote]
      omega

/-- A flush meets a delay of the script, or plays the action that comes next without them. -/
theorem shows_flush (s : Script) : delays.Shows s s.flushDevice s.steady.flushDevice := by
  have hsteady : s.steady.flushes = withoutDelays s.flushes := rfl
  rcases next_of_delays s.flushes with ⟨e, hnext, he, hrest, hcount⟩ | ⟨hnext, hcount⟩
  · apply Delays.Shows.delay e.toIo _ he
    · simp [delays, steady, flushDevice, nextFlush, hear, hrest]
    · simp only [delays, flushDevice, nextFlush, hear]
      omega
    · simp [flushDevice, nextFlush, hear, hnext, Action.succeeding, ioResult]
  · apply Delays.Shows.act
    · simp [flushDevice, nextFlush, hear, hsteady, hnext]
    · simp [delays, steady, flushDevice, nextFlush, hear, hnext]
      simp [withoutDelays]
    · simp only [delays, flushDevice, nextFlush, hear]
      omega

/-- A scripted device is delayed by the errors of its script that mean "not yet". -/
theorem onlyDelayed_device : device.OnlyDelayed delays where
  write s run := by
    show delays.Shows s (s.writeRun run) (s.steady.writeRun run)
    rw [writeRun_eq, writeRun_eq]
    exact s.shows_wrote run _ _
  writeMany s runs := by
    show delays.Shows s (s.writeRuns runs) (s.steady.writeRuns runs)
    obtain ⟨heard, hruns⟩ := s.writeRuns_eq runs
    obtain ⟨heard', hruns'⟩ := s.steady.writeRuns_eq runs
    rw [hruns, hruns']
    exact s.shows_wrote (s.gathered runs) heard heard'
  flush := shows_flush

end Script

namespace Stack

/-- A stack over a scripted device, over another script. -/
def overScript {n : Nat} (s : Stack (Outlet Script) n) (script : Script) : Stack (Outlet Script) n :=
  s.mapBase fun o => { o with device := script }

/-- The delays of the script below a stack. -/
def delays (n : Nat) : Delays (Stack (Outlet Script) n) :=
  (Outlet.delays Script.delays).stacked n

theorem removed_overScript {n : Nat} (s : Stack (Outlet Script) n) {x y : Script} (h : x.steady = y.steady) :
    (delays n).removed (s.overScript x) = (delays n).removed (s.overScript y) := by
  induction n with
  | zero =>
    show ({ s with device := x.steady } : Outlet Script) = { s with device := y.steady }
    rw [h]
  | succ n ih => exact congrArg (Gated.mk _) (ih (Gated.below s))

/-- **Delays are transparent.** Gates stand over a device, and a driver repeats each write until its sources are empty
and each flush until it is done, or until it fails. With two scripts for the device that differ only in errors that mean
"not yet", wherever they are inserted, if both drivers come to an end they have the same answers, with their sources as
they came back, the gates stand alike, and the device has taken the same bytes. Both have made the same attempts, but for
one idle attempt for each such error that was met. -/
theorem delays_transparent {n : Nat} (s : Stack (Outlet Script) n) {x y : Script} (hsteady : x.steady = y.steady)
    {calls : List Call} (hcalls : ∀ call ∈ calls, call.isRetried = true)
    {attempts attempts' : List (Attempt (Stack (Outlet Script) n))}
    {answers answers' : List (Except SinkError Yield × Call)} {last last' : Stack (Outlet Script) n}
    (h : (Script.device.sink.stacked n).Works (delays n) (s.overScript x) calls attempts answers last)
    (h' : (Script.device.sink.stacked n).Works (delays n) (s.overScript y) calls attempts' answers' last') :
    answers = answers' ∧ last.gates = last'.gates ∧ last.base.device.taken = last'.base.device.taken ∧
      (delays n).removed last = (delays n).removed last' ∧
      ∃ few k k', WithIdle few attempts k ∧ k + Script.delays.count last.base.device = Script.delays.count x ∧
        WithIdle few attempts' k' ∧ k' + Script.delays.count last'.base.device = Script.delays.count y := by
  have hstacked : (Script.device.sink.stacked n).OnlyDelayed (delays n) :=
    (Outlet.onlyDelayed Script.onlyDelayed_device).stacked n
  have hcount (script : Script) : (delays n).count (s.overScript script) = Script.delays.count script := by
    rw [delays, Delays.count_stacked, overScript, base_mapBase]
    rfl
  obtain ⟨hanswers, hlast, few, k, k', hidles, hsum, hidles', hsum'⟩ :=
    h.alike hstacked h' (s.removed_overScript hsteady) hcalls
  rw [hcount, delays, Delays.count_stacked] at hsum hsum'
  have hgates := congrArg gates hlast
  have hbase := congrArg base hlast
  rw [delays, Delays.gates_removed, Delays.gates_removed] at hgates
  rw [delays, Delays.base_removed, Delays.base_removed] at hbase
  have htaken : last.base.device.taken = last'.base.device.taken := congrArg (fun o => o.device.taken) hbase
  exact ⟨hanswers, hgates, htaken, hlast, few, k, k', hidles, hsum, hidles', hsum'⟩

/-- A writer that takes two bytes first. -/
def swift : Script :=
  { writes := [.take 2] }

/-- The same writer, which would block before, and whose flush is interrupted. -/
def delayed : Script :=
  { writes := [.fail (.io (.plain .wouldBlock)), .take 2], flushes := [.fail (.io (.plain .interrupted))] }

/-- Three bytes and a flush take five attempts with the one writer, and three with the other. -/
theorem delays_transparent_delayed :
    let s : Stack (Outlet Script) 1 := push (gateFor 3) (ofBase (.ofDevice {}))
    let calls := [Call.write (.ofBytes [1, 2, 3]), .flush]
    let T := Script.device.sink.stacked 1
    delayed.steady = swift.steady ∧ (∀ call ∈ calls, call.isRetried = true) ∧
      ∃ attempts answers last attempts' answers' last',
        T.Works (delays 1) (s.overScript delayed) calls attempts answers last ∧
        T.Works (delays 1) (s.overScript swift) calls attempts' answers' last' ∧
        attempts.length = 5 ∧ attempts'.length = 3 ∧ answers = answers' ∧ last.gates = last'.gates ∧
        last.base.device.taken = last'.base.device.taken ∧
        ∃ few, WithIdle few attempts 2 ∧ WithIdle few attempts' 0 := by
  intro s calls T
  have hsteady : delayed.steady = swift.steady := by decide
  have hcalls : ∀ call ∈ calls, call.isRetried = true := by decide
  obtain ⟨attempts, answers, last, hslow, hlength, hleft⟩ : ∃ attempts answers last,
      T.Works (delays 1) (s.overScript delayed) calls attempts answers last ∧ attempts.length = 5 ∧
        Script.delays.count last.base.device = 0 := by
    refine ⟨_, _, _, .cons (.again ?_ (.again ?_ (.settled _ _ ?_))) (.cons (.again ?_ (.settled _ _ ?_)) (.nil _)), rfl,
      ?_⟩ <;> decide
  obtain ⟨attempts', answers', last', hswift, hlength', hleft'⟩ : ∃ attempts answers last,
      T.Works (delays 1) (s.overScript swift) calls attempts answers last ∧ attempts.length = 3 ∧
        Script.delays.count last.base.device = 0 := by
    refine ⟨_, _, _, .cons (.again ?_ (.settled _ _ ?_)) (.cons (.settled _ _ ?_) (.nil _)), rfl, ?_⟩ <;> decide
  obtain ⟨hanswers, hgates, htaken, -, few, k, k', hidles, hsum, hidles', hsum'⟩ :=
    delays_transparent s hsteady hcalls hslow hswift
  obtain rfl : k = 2 := by
    rw [hleft] at hsum
    exact hsum
  obtain rfl : k' = 0 := by
    rw [hleft'] at hsum'
    exact hsum'
  exact ⟨hsteady, hcalls, attempts, answers, last, attempts', answers', last', hslow, hswift, hlength, hlength', hanswers,
    hgates, htaken, few, hidles, hidles'⟩

end Stack

end ExactLength
