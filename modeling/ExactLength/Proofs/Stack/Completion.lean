import ExactLength.Proofs.Stack.History
import ExactLength.Script.Sinks
import Mathlib.Data.List.Induction

/-!
# Cycles in a stack

What holds of every gate of a stack in every run, whatever the base does.

* `Stack.budget_invariant`: the budget of a gate is always in one of the states that a cycle may be in, within a
  cycle it only ever moves on, and a new cycle is granted exactly when the history of the present one shows that it
  is over.
* `Stack.completion_fires_iff`: the completion hook of a gate runs in the first flush that is complete below after
  all bytes of the cycle were reported, unless the cycle was spoilt before, and at no other time. Within one call
  the gates have their answers from the inside out.

Nothing is assumed of the base. In particular it may report more bytes than it was offered.
-/

namespace ExactLength

/-- What is true of a gate at any time of a cycle. -/
structure Cycle.WellKept (c : Cycle) : Prop where
  /-- No more remains than the cycle started with. -/
  remaining_le : c.gate.budget.remaining ≤ c.length
  /-- Unless the cycle was started without a check, it is no longer than a cycle may be. -/
  length_le : c.checked = true → c.length ≤ maxContentLength
  /-- A completed cycle has nothing left, and is over. -/
  of_finished : c.gate.budget.finished = true → c.gate.budget.remaining = 0 ∧ c.gate.budget.ended = true
  /-- A cycle that is over without a request for shutdown is completed. -/
  of_ended : c.gate.budget.ended = true → c.gate.budget.closing = false → c.gate.budget.finished = true
  /-- A shutdown with bytes owed ends the cycle. -/
  of_closing : c.gate.budget.closing = true → 0 < c.gate.budget.remaining → c.gate.budget.ended = true
  /-- The completion hook has run once in the cycle if it is completed, and not at all otherwise. -/
  completions : c.gate.completions = c.start.completions + if c.gate.budget.finished = true then 1 else 0

theorem Cycle.Sound.wellKept {c : Cycle} (h : c.Sound) : c.WellKept where
  remaining_le := by
    rw [UInt64.le_iff_toNat_le, h.remaining]
    exact Nat.sub_le _ _
  length_le := h.length_le
  of_finished hf := ⟨h.remaining_of_finished hf, h.ended_of_finished hf⟩
  of_ended := h.finished_of_ended
  of_closing := h.ended_of_closing
  completions := h.completions

/-- The episode is within a cycle. -/
def Episode.isExchange : Episode → Bool
  | .exchange _ => true
  | .cycle .. => false

/-- As long as no new cycle starts, a gate only moves on. -/
theorem Gate.follows_foldl_live (g : Gate) {episodes : List Episode} (h : ∀ e ∈ episodes, e.isExchange = true) :
    g.Follows (episodes.foldl live g) := by
  induction episodes generalizing g with
  | nil => exact Follows.refl g
  | cons e rest ih =>
    cases e with
    | exchange x =>
      exact (g.follows_react x).trans (ih (g.react x) fun e he => h e (List.mem_cons_of_mem _ he))
    | cycle length passesClose checked => cases h _ List.mem_cons_self

/-! ### When the completion hook runs -/

/-- The exchange is the first that completes a cycle of the given length. -/
def Fires (length : Nat) (before : List Exchange) (x : Exchange) : Prop :=
  Completes length before x ∧ ¬ Sometime (Completes length) before

/-- The exchange neither moves bytes, nor is a flush that is complete below, nor spoils the cycle. So are refused
calls, flushes that fail or are not complete, and requests for shutdown with nothing owed. -/
def Inert (length : Nat) (before : List Exchange) (x : Exchange) : Prop :=
  x.accepted = 0 ∧ ¬ x.IsFlushed ∧ ¬ Spoils length before x

/-- A property of moments that an inert exchange neither has nor affects is not affected by it at a distance. -/
theorem sometime_insert_iff {P : List Exchange → Exchange → Prop} {before rest : List Exchange} {y : Exchange}
    (hy : ¬ P before y) (hP : ∀ mid x, P (before ++ y :: mid) x ↔ P (before ++ mid) x) :
    Sometime P (before ++ y :: rest) ↔ Sometime P (before ++ rest) := by
  induction rest using List.reverseRecOn with
  | nil => rw [List.append_nil, sometime_concat, or_iff_left hy]
  | append_singleton mid x ih =>
    rw [← List.cons_append, ← List.append_assoc, ← List.append_assoc, sometime_concat, sometime_concat, ih, hP]

theorem reported_insert {before mid : List Exchange} {y : Exchange} (hy : y.accepted = 0) :
    reported (before ++ y :: mid) = reported (before ++ mid) := by
  rw [reported_append, reported_append, reported, hy, Nat.zero_add]

theorem sometime_spoils_insert_iff {length : Nat} {before rest : List Exchange} {y : Exchange}
    (hy : Inert length before y) :
    Sometime (Spoils length) (before ++ y :: rest) ↔ Sometime (Spoils length) (before ++ rest) := by
  refine sometime_insert_iff hy.2.2 fun mid x => ?_
  rw [Spoils, reported_insert hy.1, Spoils]

theorem completes_insert_iff {length : Nat} {before rest : List Exchange} {y : Exchange}
    (hy : Inert length before y) (x : Exchange) :
    Completes length (before ++ y :: rest) x ↔ Completes length (before ++ rest) x := by
  rw [Completes, reported_insert hy.1, sometime_spoils_insert_iff hy, Completes]

/-- An inert exchange neither causes, nor prevents, nor repeats the completion hook. -/
theorem fires_insert_iff {length : Nat} {before rest : List Exchange} {y : Exchange} (hy : Inert length before y)
    (x : Exchange) : Fires length (before ++ y :: rest) x ↔ Fires length (before ++ rest) x := by
  have hnot : ¬ Completes length before y := fun h => hy.2.1 h.1
  rw [Fires, completes_insert_iff hy, sometime_insert_iff hnot fun mid x => completes_insert_iff hy x, Fires]

/-! ### The order of the hooks -/

namespace Stack

variable {σ : Type} (S : Sink σ)

/-- What happens deeper in a call ends earlier. -/
def InsideOut {α : Type} (happened : List (Nat × α)) : Prop :=
  happened.Pairwise fun earlier later => later.1 < earlier.1

theorem insideOut_deeper {α : Type} {happened : List (Nat × α)} (h : InsideOut happened) :
    InsideOut (deeper happened) := by
  unfold InsideOut deeper
  rw [List.pairwise_map]
  exact h.imp fun hlt => Nat.succ_lt_succ hlt

theorem insideOut_exchanges {n : Nat} (s : Stack σ n) {call : Call} (hlast : call.isLast = false) :
    InsideOut (s.exchanges S call) := by
  induction n generalizing call with
  | zero => exact List.Pairwise.nil
  | succ n ih =>
    obtain ⟨gate, below, rfl⟩ := s.exists_push
    cases hplan : gate.plan call with
    | answer result =>
      rw [exchanges_push_answer S hplan]
      exact List.pairwise_singleton _ _
    | pass down shortfall =>
      rw [exchanges_push_pass S hplan]
      refine List.pairwise_append.2 ⟨?_, List.pairwise_singleton _ _, ?_⟩
      · exact insideOut_deeper (ih below (Gate.passes_of_plan hlast hplan).isLast_down)
      · intro a ha b hb
        obtain ⟨⟨level, e⟩, -, rfl⟩ := List.mem_map.1 ha
        rw [List.mem_singleton.1 hb]
        exact Nat.succ_pos level

/-- In a flush the hooks of inner gates run before those of outer ones. -/
theorem insideOut_flush {n : Nat} (s : Stack σ n) (level : Nat) : InsideOut (s.exchangesAt S level .flush) := by
  have hflush : ∀ {m : Nat} (t : Stack σ m), InsideOut (t.callExchanges S .flush) := fun t => by
    simp only [callExchanges, Sink.goesOn, Call.isLast, Bool.false_and, Bool.false_eq_true, if_false,
      List.append_nil]
    exact t.insideOut_exchanges S rfl
  induction n generalizing level with
  | zero =>
    cases level with
    | zero => exact hflush s
    | succ level => exact List.Pairwise.nil
  | succ n ih =>
    cases level with
    | zero => exact hflush s
    | succ level =>
      obtain ⟨gate, below, rfl⟩ := s.exists_push
      exact insideOut_deeper (ih below level)

/-- A gate tells of its completion after all that was told below. -/
theorem events_flush {n : Nat} (gate : Gate) (below : Stack σ n) (hopen : gate.isEnded = false) :
    ((S.stacked (n + 1)).flush (push gate below)).events =
      ((S.stacked n).flush below).events ++
        if ((S.stacked (n + 1)).flush (push gate below)).state.gate.completions = gate.completions + 1
          then [.completed] else [] := by
  have hflush : (S.stacked (n + 1)).flush (push gate below) = Gated.flush (S.stacked n) ⟨gate, below⟩ := rfl
  rw [hflush, Gated.flush]
  simp only [hopen, Bool.false_eq_true, if_false]
  cases ((S.stacked n).flush below).result with
  | error e => simp
  | ok flushed =>
    simp only [Gate.settle]
    by_cases hfires : (gate.budget.settle flushed).1 = true
    · simp [hfires]
    · simp [hfires]

/-! ### In every run -/

theorem move_renew_eq_ok_iff {n : Nat} {s : Stack σ n} {level : Nat} {length : UInt64} {passesClose : Bool} :
    (s.move S (.renew level length passesClose)).result = .ok .unit ↔
      ∃ s', s.renew level length passesClose = .ok s' := by
  simp only [move]
  cases s.renew level length passesClose <;> simp [Outcome.ok, Outcome.error]

theorem move_renew_of_error {n : Nat} {s : Stack σ n} {level : Nat} {length : UInt64} {passesClose : Bool}
    {e : SinkError} (h : (s.move S (.renew level length passesClose)).result = .error e) :
    (s.move S (.renew level length passesClose)).state = (s, .renew level length passesClose) := by
  simp only [move] at h ⊢
  cases hr : s.renew level length passesClose with
  | ok s' => rw [hr] at h; cases h
  | error e' => rfl

/-- **Cycles are well kept.** After any run over any base, the budget of a gate is in one of the states that a cycle
may be in. Since any earlier time of the same cycle it only moved on. A new cycle is granted if and only if its
length is acceptable and, in the present cycle, a flush was complete below with nothing owed, or a shutdown found
bytes owed, or the gate was truncated; if it is refused, nothing changes. -/
theorem budget_invariant {n : Nat} {s : Stack σ n} (hnew : s.IsNew) {level : Nat} {g : Gate}
    (hg : s.gates[level]? = some g) (moves : List Move) :
    let c := s.cycle S level g moves
    (s.run S moves).gates[level]? = some c.gate ∧ c.WellKept ∧
      (∀ first rest, moves = first ++ rest →
        (∀ e ∈ heardAt level ((s.run S first).history S rest), e.isExchange = true) →
        ∃ before, (s.run S first).gates[level]? = some before ∧ before.Follows c.gate) ∧
      ∀ length passesClose,
        let renewed := (s.run S moves).move S (.renew level length passesClose)
        (renewed.result = .ok .unit ↔ length ≤ maxContentLength ∧ Sometime (Ends c.length.toNat) c.past) ∧
          ∀ e, renewed.result = .error e → renewed.state.1 = s.run S moves := by
  intro c
  obtain ⟨hsound, hrun⟩ := cycle_sound S hnew hg moves
  refine ⟨hrun, hsound.wellKept, ?_, ?_⟩
  · rintro first rest rfl hrest
    obtain ⟨-, hfirst⟩ := cycle_sound S hnew hg first
    refine ⟨_, hfirst, ?_⟩
    have hnow := ((s.run S first).lived_run S rest level _ hfirst).2
    rw [← run_append, hrun] at hnow
    rw [Option.some.inj hnow]
    exact Gate.follows_foldl_live _ hrest
  · intro length passesClose renewed
    refine ⟨?_, fun e he => congrArg Prod.fst (move_renew_of_error S he)⟩
    rw [move_renew_eq_ok_iff, ← hsound.ended]
    constructor
    · rintro ⟨s', hs'⟩
      rcases renew_eq_ok_iff.1 hs' with ⟨g', hg', he, hle, -⟩ | ⟨hnone, -⟩
      · rw [hrun] at hg'
        cases hg'
        exact ⟨hle, he⟩
      · rw [hrun] at hnone
        cases hnone
    · rintro ⟨hle, he⟩
      exact ⟨_, renew_eq_ok_iff.2 (Or.inl ⟨_, hrun, he, hle, rfl⟩)⟩

/-- Two gates for five bytes over a base that reports a hundred bytes for its first write. -/
def boastful : Stack Script 2 :=
  push (gateFor 5) (push (gateFor 5) (ofBase { writes := [.claim 100] }))

/-- Three bytes and a flush. -/
def threeAndFlush : List Move :=
  [.call 0 (.write (.ofBytes [1, 2, 3])), .call 0 .flush]

theorem isNew_boastful : boastful.IsNew :=
  IsNew.push (isNew_gateFor (by decide)) (IsNew.push (isNew_gateFor (by decide)) (isNew_ofBase _))

/-- The outer of the two gates has nothing left after three bytes: its cycle is over, and a new one is granted. -/
theorem budget_invariant_boastful :
    boastful.IsNew ∧ boastful.gates[0]? = some (gateFor 5) ∧
      (boastful.cycle Script.leastSink 0 (gateFor 5) threeAndFlush).WellKept ∧
      ((boastful.run Script.leastSink threeAndFlush).move Script.leastSink (.renew 0 7 true)).result = .ok .unit ∧
      Sometime (Ends 5) (boastful.cycle Script.leastSink 0 (gateFor 5) threeAndFlush).past := by
  have hg : boastful.gates[0]? = some (gateFor 5) := rfl
  obtain ⟨-, hkept, -, hrenew⟩ := budget_invariant Script.leastSink isNew_boastful hg threeAndFlush
  have hok : ((boastful.run Script.leastSink threeAndFlush).move Script.leastSink (.renew 0 7 true)).result =
      .ok .unit := by decide
  exact ⟨isNew_boastful, hg, hkept, hok, ((hrenew 7 true).1.1 hok).2⟩

/-- **When the completion hook runs.** Of all that happens to a gate in a run, over any base, the hook runs in an
exchange that is the first of its cycle to complete it, once, and in nothing else; what is inert makes no difference
to that. In a flush of the stack the hooks of inner gates run before those of outer ones: inner exchanges end first,
and a gate tells of its completion after all that was told below. -/
theorem completion_fires_iff {n : Nat} {s : Stack σ n} (hnew : s.IsNew) {level : Nat} {g : Gate}
    (hg : s.gates[level]? = some g) (moves : List Move) :
    (s.run S moves).gates[level]? = some ((heardAt level (s.history S moves)).foldl Gate.live g) ∧
      (∀ before e after, heardAt level (s.history S moves) = before ++ e :: after →
        let c := Cycle.follow ⟨g, true, []⟩ before
        let now := before.foldl Gate.live g
        ((now.live e).completions = now.completions + 1 ↔
            ∃ x, e = .exchange x ∧ Fires c.length.toNat c.past x) ∧
          ((now.live e).completions = now.completions + 1 ∨ (now.live e).completions = now.completions)) ∧
      (∀ length before y rest x, Inert length before y →
        (Fires length (before ++ y :: rest) x ↔ Fires length (before ++ rest) x)) ∧
      (∀ l, InsideOut ((s.run S moves).exchangesAt S l .flush)) ∧
      ∀ {m : Nat} (gate : Gate) (below : Stack σ m), gate.isEnded = false →
        let inner := (S.stacked m).flush below
        let outer := (S.stacked (m + 1)).flush (push gate below)
        outer.events = inner.events ++
          if outer.state.gate.completions = gate.completions + 1 then [.completed] else [] := by
  obtain ⟨hmeets, hrun⟩ := s.lived_run S moves level g hg
  refine ⟨hrun, ?_, fun _ _ _ _ x hy => fires_insert_iff hy x, fun l => insideOut_flush S _ l, events_flush S⟩
  intro before e after heq c now
  rw [heq, Gate.meetsAll_append] at hmeets
  obtain ⟨hbefore, he, -⟩ := hmeets
  have hsound : c.Sound := (hnew g (List.mem_of_getElem? hg)).sound.follow hbefore
  have hnow : c.gate = now := Cycle.gate_follow _ before
  cases e with
  | exchange x =>
    obtain ⟨hiff, hor⟩ := hsound.completions_exchange (x := x) (hnow ▸ he)
    rw [hnow] at hiff hor
    refine ⟨hiff.trans ⟨fun h => ⟨x, rfl, h⟩, ?_⟩, hor⟩
    rintro ⟨x', hx', h⟩
    cases hx'
    exact h
  | cycle length passesClose checked =>
    refine ⟨⟨fun h => ?_, ?_⟩, Or.inr rfl⟩
    · exact absurd h (Nat.ne_of_lt (Nat.lt_succ_self _))
    · rintro ⟨x, hx, -⟩
      cases hx

/-- A gate for three bytes over a base whose first flush is not complete. -/
def hesitant : Stack Script 1 :=
  push (gateFor 3) (ofBase { flushes := [.answer false] })

/-- Three bytes, a flush, a shutdown with nothing owed, and a flush. -/
def hesitantMoves : List Move :=
  [.call 0 (.write (.ofBytes [1, 2, 3])), .call 0 .flush, .call 0 .terminate, .call 0 .flush]

/-- The hook runs in the second flush, in spite of the shutdown before it. -/
theorem completion_fires_iff_hesitant :
    hesitant.IsNew ∧ hesitant.gates[0]? = some (gateFor 3) ∧
      Fires 3 [⟨.write (.ofBytes [1, 2, 3]), some (.ok (.count 3))⟩, ⟨.flush, some (.ok (.flag false))⟩,
        ⟨.terminate, some (.ok .unit)⟩] ⟨.flush, some (.ok (.flag true))⟩ := by
  have hnew : hesitant.IsNew := IsNew.push (isNew_gateFor (by decide)) (isNew_ofBase _)
  have hg : hesitant.gates[0]? = some (gateFor 3) := rfl
  obtain ⟨-, hfires, -⟩ := completion_fires_iff Script.leastSink hnew hg hesitantMoves
  obtain ⟨x, hx, h⟩ := (hfires
    [.exchange ⟨.write (.ofBytes [1, 2, 3]), some (.ok (.count 3))⟩, .exchange ⟨.flush, some (.ok (.flag false))⟩,
      .exchange ⟨.terminate, some (.ok .unit)⟩] (.exchange ⟨.flush, some (.ok (.flag true))⟩) [] rfl).1.1 rfl
  cases hx
  exact ⟨hnew, hg, h⟩

end Stack

end ExactLength
