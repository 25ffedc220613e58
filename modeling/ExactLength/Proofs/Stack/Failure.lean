import ExactLength.Proofs.Stack.Reach
import ExactLength.Proofs.Stack.Uncounted

/-!
# Failures

Over an honest base a failed call changes nothing that matters, at whatever level it enters and wherever in the
stack the error arises: every gate is as it was, the base has taken nothing, the sources of the call hold what they
held, and what a stream has lost is in the buffer (`Stack.failure_changes_nothing`). The same holds of a refused new
cycle.

Excepted are the calls for which a failure is meant to leave a mark: those that end the write side, and those that
bring the last data, since they go on to end it. Excepted are also several sources that cannot be counted in sixty-four
bits. The plain form of a write of several sources reports a failure only if nothing was taken before, and a count that
has wrapped to nothing makes it report one after `2 ^ 64` bytes (`Stack.failure_after_uncounted`).
-/

namespace ExactLength

/-- A call that neither ends the write side nor goes on to do so. -/
def Call.isOrdinary : Call → Bool
  | writeLast _ | writeManyLast _ | terminate | truncate => false
  | _ => true

namespace Gate

variable {g : Gate} {call down : Call} {shortfall : Option UInt64}

theorem hear_of_isOrdinary (g : Gate) (h : call.isOrdinary = true) : g.hear call = g := by
  cases call <;> first | rfl | cases h

/-- An ordinary call is passed on as one, and without a shortfall. -/
theorem Passes.isOrdinary_down (h : g.Passes call down shortfall) (hcall : call.isOrdinary = true) :
    down.isOrdinary = true ∧ shortfall = none := by
  cases h <;> first | exact ⟨rfl, rfl⟩ | cases hcall

end Gate

theorem Call.isLast_of_isOrdinary {call : Call} (h : call.isOrdinary = true) : call.isLast = false := by
  cases call <;> first | rfl | cases h

/-- A call from which nothing was taken has what it had. -/
theorem Call.Gives.untouched {call back : Call} {exact : Prop} (h : call.Gives exact [] back) (hexact : exact)
    (hcall : call.isOrdinary = true) :
    back.sources.map Source.bytes = call.sources.map Source.bytes ∧ back.onTheWay = call.onTheWay := by
  cases call with
  | writeLast src => cases hcall
  | writeManyLast sources => cases hcall
  | terminate => cases hcall
  | truncate => cases hcall
  | write src =>
    obtain ⟨src', rfl, hsrc⟩ := gives_write_iff.1 h
    rw [List.nil_append] at hsrc
    exact ⟨by simp [sources, hsrc], rfl⟩
  | writeMany sources =>
    obtain ⟨sources', rfl, -, hsources⟩ := gives_writeMany_iff.1 h
    rw [List.length_nil, Source.advanceAll_zero] at hsources
    exact ⟨hsources, rfl⟩
  | transferFile file position count =>
    obtain ⟨file', rfl, -⟩ := gives_transferFile_iff.1 h
    exact ⟨rfl, rfl⟩
  | transferStream reader count through =>
    obtain ⟨reader', through', rfl, -, hall⟩ := gives_transferStream_iff.1 h
    exact ⟨rfl, (hall hexact).symm⟩
  | _ =>
    obtain ⟨rfl, -⟩ := h
    exact ⟨rfl, rfl⟩

/-- A move that may fail without a mark: an ordinary call, or a new cycle. -/
def Move.IsOrdinary : Move → Prop
  | .call _ made => made.isOrdinary = true
  | _ => True

/-- The sources of a move. -/
def Move.sources : Move → List Source
  | .call _ made => made.sources
  | _ => []

/-- The bytes on their way from the stream of a move. -/
def Move.onTheWay : Move → Bytes
  | .call _ made => made.onTheWay
  | _ => []

namespace Stack

variable {σ : Type} {S : Sink σ} {out : σ → Bytes}

/-- The gates of a stack, when an ordinary call fails: none has learnt anything. -/
theorem gates_perform_of_error {n : Nat} (s : Stack σ n) {call : Call} (hcall : call.isOrdinary = true)
    {e : SinkError} (he : ((S.stacked n).perform s call).result = .error e) :
    gates ((S.stacked n).perform s call).state.1 = s.gates := by
  induction n generalizing call with
  | zero => rfl
  | succ n ih =>
    obtain ⟨gate, below, rfl⟩ := s.exists_push
    have hlast := Call.isLast_of_isOrdinary hcall
    cases hplan : gate.plan call with
    | answer result =>
      rw [(perform_push_answer S hlast hplan below).2, gates_push, gates_push, gate.hear_of_isOrdinary hcall]
    | pass down shortfall =>
      obtain ⟨hresult, hstate⟩ := perform_push_pass S hlast hplan below
      obtain ⟨hdown, rfl⟩ := (Gate.passes_of_plan hlast hplan).isOrdinary_down hcall
      rw [hresult] at he
      have hbelow : ((S.stacked n).perform below down).result = .error e := he
      rw [hstate, gates_push, gates_push, ih below hdown hbelow, hbelow, Gate.learn_error,
        gate.hear_of_isOrdinary hcall]

theorem gates_performAt_of_error {n : Nat} (s : Stack σ n) (level : Nat) {call : Call}
    (hcall : call.isOrdinary = true) {e : SinkError} (he : (s.performAt S level call).result = .error e) :
    (s.performAt S level call).state.1.gates = s.gates := by
  induction n generalizing level with
  | zero => cases level <;> rfl
  | succ n ih =>
    cases level with
    | zero => exact s.gates_perform_of_error hcall he
    | succ level =>
      obtain ⟨gate, below, rfl⟩ := s.exists_push
      exact congrArg (gate :: ·) (ih below level he)

/-- **A failure changes nothing.** Over an honest base, when a write of what can be counted, a transfer, a flush or a
new cycle fails at whatever level: all gates are as they were, the base has taken nothing, all sources stand where they stood, and of a
stream nothing is lost. -/
theorem failure_changes_nothing (h : S.HonestBase out) {n : Nat} (s : Stack σ n) {m : Move} (hm : m.IsOrdinary)
    (hfits : m.Fits) {e : SinkError} (he : (s.move S m).result = .error e) :
    (s.move S m).state.1.gates = s.gates ∧ out (s.move S m).state.1.base = out s.base ∧
      (s.move S m).state.2.sources.map Source.bytes = m.sources.map Source.bytes ∧
      (s.move S m).state.2.onTheWay = m.onTheWay := by
  cases m with
  | call level call =>
    have he' : (s.performAt S level call).result = .error e := he
    obtain ⟨bytes, hout, hgives, -, hcount⟩ := performAt_delivers h.honest s level hfits
    have hnil := hcount (Call.isLast_of_isOrdinary hm)
    rw [he', credited_error] at hnil
    obtain rfl := List.eq_nil_of_length_eq_zero hnil
    rw [List.append_nil] at hout
    exact ⟨s.gates_performAt_of_error level hm he', hout, hgives.untouched (Or.inr ⟨e, he'⟩) hm⟩
  | renew level length passesClose =>
    simp only [move] at he ⊢
    cases hr : s.renew level length passesClose with
    | ok s' =>
      rw [hr] at he
      cases he
    | error e' => exact ⟨rfl, rfl, rfl, rfl⟩
  | restart level length passesClose => cases he

/-- A gate over a tank that is full. -/
def overFull : Stack (Outlet Bytes) 1 :=
  push (gateFor 10) (ofBase (.ofDevice [1, 2, 3, 4]))

/-- Of a stream of two bytes, three are to be transferred. -/
def fromStream : Move :=
  .call 0 (.transferStream ⟨[7, 8], [], []⟩ 3 [])

/-- The bytes were read and could not be written: they are in the buffer. -/
theorem failure_changes_nothing_full :
    (overFull.move tank.sink fromStream).result = .error (.io (.plain .outOfMemory)) ∧
      (overFull.move tank.sink fromStream).state.1.gates = [gateFor 10] ∧
      (overFull.move tank.sink fromStream).state.1.base.device = [1, 2, 3, 4] ∧
      (overFull.move tank.sink fromStream).state.2 = .call 0 (.transferStream ⟨[], [], [3]⟩ 3 [7, 8]) ∧
      (overFull.move tank.sink fromStream).state.2.onTheWay = [7, 8] := by
  have he : (overFull.move tank.sink fromStream).result = .error (.io (.plain .outOfMemory)) := rfl
  have hm : fromStream.IsOrdinary := rfl
  obtain ⟨hgates, hout, -, hway⟩ := failure_changes_nothing (.outlet tank_honest) overFull hm trivial he
  exact ⟨he, hgates, hout, by decide, hway⟩

end Stack

/-! ### A count that has wrapped -/

/-- Takes a source whole if it can be counted and a store of `2 ^ 64` bytes has room for it, and fails otherwise. -/
def stow (stored : Bytes) (src : Source) : Reply (Bytes × Source) UInt64 :=
  if src.remaining < UInt64.size ∧ stored.length + src.remaining ≤ UInt64.size then
    .ok (UInt64.ofNat src.remaining) (stored ++ src.bytes, src.advance src.remaining)
  else .error (.io (.plain .outOfMemory)) (stored, src)

/-- A store of `2 ^ 64` bytes, which writes several sources in the plain form. -/
def store : Sink Bytes where
  write := stow
  flush stored := .ok true stored
  terminate stored := .ok () stored
  truncate stored := .ok () stored

theorem stow_of_room {stored : Bytes} {src : Source} (hcount : src.remaining < UInt64.size)
    (hroom : stored.length + src.remaining ≤ UInt64.size) :
    stow stored src = .ok (UInt64.ofNat src.remaining) (stored ++ src.bytes, src.advance src.remaining) :=
  if_pos ⟨hcount, hroom⟩

theorem stow_of_full {stored : Bytes} {src : Source} (hfull : UInt64.size < stored.length + src.remaining) :
    stow stored src = .error (.io (.plain .outOfMemory)) (stored, src) :=
  if_neg fun hroom => Nat.not_lt_of_le hroom.2 hfull

theorem store_honest : store.HonestBase id := by
  refine .sink ?_ (Or.inl rfl) (Or.inl rfl) (Or.inl rfl) ?_
  · intro stored src
    show ∃ bytes, Appends id stored bytes (stow stored src) ∧ src.bytes = bytes ++ (stow stored src).state.2.bytes
    by_cases hroom : src.remaining < UInt64.size ∧ stored.length + src.remaining ≤ UInt64.size
    · rw [stow_of_room hroom.1 hroom.2]
      refine ⟨src.bytes, ⟨rfl, (UInt64.toNat_ofNat_of_lt' hroom.1).symm⟩, ?_⟩
      show src.bytes = src.bytes ++ (src.advance src.remaining).bytes
      rw [Source.bytes_advance, Source.remaining, List.drop_length, List.append_nil]
    · rw [stow, if_neg hroom]
      exact ⟨[], ⟨(List.append_nil _).symm, rfl⟩, rfl⟩
  · exact ⟨fun _ => rfl, fun _ => rfl, fun _ => rfl, fun _ => rfl, fun _ => rfl, fun _ _ => rfl⟩

/-- Runs for which there is room are stored one after the other. Then the rest of the sources is written, with a count
that may have wrapped. -/
theorem writeEachFrom_stow {runs : List Bytes} (hruns : ∀ run ∈ runs, run ≠ [] ∧ run.length < UInt64.size)
    {stored : Bytes} (hroom : stored.length + runs.flatten.length ≤ UInt64.size) (total : UInt64)
    (rest : List Source) :
    let reply := writeEachFrom stow stored total (runs.map .ofBytes ++ rest)
    let ending := writeEachFrom stow (stored ++ runs.flatten) (total + UInt64.ofNat runs.flatten.length) rest
    reply.result = ending.result ∧ reply.state.1 = ending.state.1 := by
  induction runs generalizing stored total with
  | nil => simp
  | cons run runs ih =>
    obtain ⟨⟨hsome, hcount⟩, hruns⟩ := List.forall_mem_cons.1 hruns
    have hremaining : (Source.ofBytes run).remaining = run.length := Source.remaining_ofBytes run
    have hlive : (Source.ofBytes run).isEmpty = false := by
      rw [← Bool.not_eq_true, Source.isEmpty_iff, Source.bytes_ofBytes]
      exact hsome
    rw [List.flatten_cons, List.length_append] at hroom
    have hfirst : stored.length + (Source.ofBytes run).remaining ≤ UInt64.size := by omega
    have hrest : (stored ++ run).length + runs.flatten.length ≤ UInt64.size := by
      rw [List.length_append]
      omega
    have hstow := stow_of_room (hremaining ▸ hcount) hfirst
    rw [hremaining, Source.bytes_ofBytes] at hstow
    have hwhole : ¬ (UInt64.ofNat run.length).toNat < run.length := by
      rw [UInt64.toNat_ofNat_of_lt' hcount]
      exact Nat.lt_irrefl _
    obtain ⟨hresult, hstate⟩ := ih hruns hrest (total + UInt64.ofNat run.length)
    rw [List.map_cons, List.cons_append, writeEachFrom, hlive, hremaining, if_neg Bool.false_ne_true, hstow]
    simp only [Outcome.ok, if_neg hwhole, Outcome.after_result, Outcome.after_state, Outcome.mapState_result,
      Outcome.mapState_state]
    rw [List.flatten_cons, List.length_append, UInt64.ofNat_add, ← UInt64.add_assoc, ← List.append_assoc]
    exact ⟨hresult, hstate⟩

/-- Runs that fill an empty store, and a source more: the count of the runs has wrapped to nothing, so what comes of the
source is the result. -/
theorem writeEach_of_filled {runs : List Bytes} (hruns : ∀ run ∈ runs, run ≠ [] ∧ run.length < UInt64.size)
    (hfills : runs.flatten.length = UInt64.size) {src : Source} (hlive : src.isEmpty = false) :
    (writeEach stow [] (runs.map .ofBytes ++ [src])).result = .error (.io (.plain .outOfMemory)) ∧
      (writeEach stow [] (runs.map .ofBytes ++ [src])).state.1 = runs.flatten := by
  have hroom : ([] : Bytes).length + runs.flatten.length ≤ UInt64.size := by
    rw [hfills]
    decide
  have hpos := Source.remaining_pos hlive
  have hfull : UInt64.size < runs.flatten.length + src.remaining := by omega
  have hwrapped : (0 : UInt64) + UInt64.ofNat runs.flatten.length = 0 := by
    rw [hfills]
    rfl
  have hending : writeEachFrom stow runs.flatten 0 [src] =
      .error (.io (.plain .outOfMemory)) (runs.flatten, [src]) := by
    rw [writeEachFrom, hlive, if_neg Bool.false_ne_true, stow_of_full hfull]
    rfl
  obtain ⟨hresult, hstate⟩ := writeEachFrom_stow hruns hroom 0 [src]
  rw [hwrapped, List.nil_append, hending] at hresult hstate
  exact ⟨hresult, hstate⟩

namespace Stack

/-- A gate for five bytes over an empty store. -/
def fiveOverStore : Stack Bytes 1 :=
  push (gateFor 5) (ofBase [])

/-- Sources that count for one byte pass the gate. -/
theorem move_fiveOverStore {sources : List Source} (hmany : 2 ≤ sources.length)
    (hcounted : (Source.joined sources).length % UInt64.size = 1) :
    let reply := fiveOverStore.move store (.call 0 (.writeMany sources))
    reply.result = (writeEach stow [] sources).result.map .count ∧
      reply.state.1.base = (writeEach stow [] sources).state.1 := by
  have hroom : (gateFor 5).hasRoom 1 = true := rfl
  have hplan : (gateFor 5).plan (.writeMany sources) = .pass (.writeMany sources) none := by
    rw [Gate.plan_writeMany _ hmany, hcounted, if_pos hroom]
  obtain ⟨hresult, hstate⟩ := perform_push_pass store rfl hplan (ofBase [])
  refine ⟨(move_call_result store fiveOverStore _).trans hresult, ?_⟩
  rw [move_call_state, fiveOverStore, hstate]
  rfl

/-- Four quarters of `2 ^ 64` bytes, and one byte more. -/
def quartersAndOne : List Source :=
  quarters.map .ofBytes ++ [.ofBytes [1]]

theorem length_joined_quartersAndOne : (Source.joined quartersAndOne).length = UInt64.size + 1 := by
  have hjoined : Source.joined quartersAndOne = Source.joined (quarters.map .ofBytes) ++ [1] := by
    rw [quartersAndOne, Source.joined, List.map_append, List.flatten_append]
    rfl
  rw [hjoined, List.length_append, length_joined_quarters]
  rfl

/-- The gate counts one byte and passes all on. The store takes the quarters, and the call fails all the same. -/
theorem failure_after_uncounted :
    let write : Move := .call 0 (.writeMany quartersAndOne)
    store.HonestBase id ∧ fiveOverStore.IsNew ∧ write.IsOrdinary ∧
      (fiveOverStore.move store write).result = .error (.io (.plain .outOfMemory)) ∧ fiveOverStore.base = [] ∧
      (fiveOverStore.move store write).state.1.base.length = 18446744073709551616 := by
  have hnew : fiveOverStore.IsNew := (isNew_ofBase _).push (isNew_gateFor (by decide))
  have hmany : 2 ≤ quartersAndOne.length := by
    rw [quartersAndOne, List.length_append]
    exact Nat.le_add_right_of_le two_le_length_quarters
  have hcounted : (Source.joined quartersAndOne).length % UInt64.size = 1 := by
    rw [length_joined_quartersAndOne]
    decide
  have hruns : ∀ run ∈ quarters, run ≠ [] ∧ run.length < UInt64.size := by
    intro run hrun
    refine ⟨ne_nil_of_mem_quarters hrun, ?_⟩
    rw [length_of_mem_quarters hrun]
    decide
  have hlive : (Source.ofBytes [1]).isEmpty = false := rfl
  obtain ⟨hfailed, hstored⟩ := writeEach_of_filled hruns length_flatten_quarters hlive
  obtain ⟨hresult, hstate⟩ := move_fiveOverStore hmany hcounted
  refine ⟨store_honest, hnew, rfl, ?_, rfl, ?_⟩
  · rw [hresult, quartersAndOne, hfailed]
    rfl
  · rw [hstate, quartersAndOne, hstored]
    exact length_flatten_quarters

end Stack

end ExactLength
