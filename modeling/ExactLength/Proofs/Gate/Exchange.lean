import ExactLength.Proofs.Gate.Plan

/-!
# What a gate exchanges

The history of one gate. Everything that concerns it is an `Exchange`: a call that it heard, with the answer from
below if it passed one on. Nothing is assumed of the answers: what lies below may report any counts, say anything
of its flushes, and fail at any time.

The first part states what a history tells: how many bytes were reported as accepted, and which exchange ends,
spoils or completes a cycle of a given length. A history is a list with the oldest exchange first. The second part
states what one exchange does to each field of a gate.
-/

namespace ExactLength

/-- A call that a gate heard, and the answer from below if the gate passed a call on. -/
structure Exchange where
  /-- The call heard. -/
  call : Call
  /-- The answer from below. -/
  below : Option (Except SinkError Yield)

/-- At some moment of a history, the property held of what had happened and of what happened next. -/
def Sometime (P : List Exchange → Exchange → Prop) (past : List Exchange) : Prop :=
  ∃ before x after, past = before ++ x :: after ∧ P before x

theorem not_sometime_nil (P : List Exchange → Exchange → Prop) : ¬ Sometime P [] := by
  rintro ⟨before, x, after, h, -⟩
  simp at h

/-- The last moment of a history is its last exchange. -/
theorem sometime_concat {P : List Exchange → Exchange → Prop} {past : List Exchange} {x : Exchange} :
    Sometime P (past ++ [x]) ↔ Sometime P past ∨ P past x := by
  constructor
  · rintro ⟨before, y, after, h, hP⟩
    rcases List.eq_nil_or_concat after with rfl | ⟨after, z, rfl⟩
    · obtain ⟨rfl, hxy⟩ := List.append_inj' h rfl
      cases hxy
      exact Or.inr hP
    · rw [List.concat_eq_append, ← List.cons_append, ← List.append_assoc] at h
      exact Or.inl ⟨before, y, after, (List.append_inj' h rfl).1, hP⟩
  · rintro (⟨before, y, after, rfl, hP⟩ | hP)
    · exact ⟨before, y, after ++ [x], by simp, hP⟩
    · exact ⟨past, x, [], rfl, hP⟩

theorem Sometime.mono {P Q : List Exchange → Exchange → Prop} (h : ∀ before x, P before x → Q before x)
    {past : List Exchange} : Sometime P past → Sometime Q past := by
  rintro ⟨before, x, after, rfl, hP⟩
  exact ⟨before, x, after, rfl, h before x hP⟩

/-! ### What a history tells -/

namespace Exchange

/-- How many bytes were reported as accepted below. -/
def accepted (x : Exchange) : Nat :=
  match x.below with
  | some (.ok (.count n)) => n.toNat
  | _ => 0

/-- A flush that was reported as complete below. -/
def IsFlushed (x : Exchange) : Prop :=
  x.call = .flush ∧ x.below = some (.ok (.flag true))

/-- A request to end the cycle, in order or not. -/
def IsRequest (x : Exchange) : Prop :=
  x.call = .terminate ∨ x.call = .truncate

end Exchange

/-- How many bytes were reported as accepted below in all. -/
def reported : List Exchange → Nat
  | [] => 0
  | x :: rest => x.accepted + reported rest

@[simp] theorem reported_nil : reported [] = 0 := rfl

theorem reported_append (first rest : List Exchange) :
    reported (first ++ rest) = reported first + reported rest := by
  induction first with
  | nil => exact (Nat.zero_add _).symm
  | cons x first ih => rw [List.cons_append, reported, reported, ih, Nat.add_assoc]

/-- The exchange ends a cycle of the given length for good: the gate is truncated, or shut down while it owes
bytes. -/
def Spoils (length : Nat) (before : List Exchange) (x : Exchange) : Prop :=
  x.call = .truncate ∨ x.call = .terminate ∧ reported before < length

theorem isRequest_of_spoils {length : Nat} {before : List Exchange} {x : Exchange}
    (h : Spoils length before x) : x.IsRequest := by
  rcases h with htrunc | ⟨hterm, -⟩
  · exact Or.inr htrunc
  · exact Or.inl hterm

/-- The exchange completes a cycle of the given length: a flush that is complete below, after all bytes were
reported and nothing spoilt the cycle. -/
def Completes (length : Nat) (before : List Exchange) (x : Exchange) : Prop :=
  x.IsFlushed ∧ length ≤ reported before ∧ ¬ Sometime (Spoils length) before

/-- The exchange ends a cycle of the given length one way or the other. -/
def Ends (length : Nat) (before : List Exchange) (x : Exchange) : Prop :=
  x.IsFlushed ∧ length ≤ reported before ∨ Spoils length before x

/-! ### What an exchange does to a gate -/

namespace Gate

/-- The gate after an exchange. -/
def react (g : Gate) (x : Exchange) : Gate :=
  match x.below with
  | none => g.hear x.call
  | some result => (g.hear x.call).learn x.call result

/-- The exchange is one that the gate may have: there is an answer from below if and only if it passes a call on. -/
def Hears (g : Gate) (x : Exchange) : Prop :=
  match g.plan x.call with
  | .answer _ => x.below = none
  | .pass _ _ => x.below.isSome = true

/-- A gate whose cycle is over flushes nothing below. -/
theorem not_ended_of_isFlushed {g : Gate} {x : Exchange} (h : g.Hears x) (hx : x.IsFlushed) :
    g.budget.ended = false := by
  obtain ⟨call, below⟩ := x
  obtain ⟨rfl, rfl⟩ := hx
  simp only [Hears, plan, isEnded] at h
  cases he : g.budget.ended
  · rfl
  · simp [he] at h

/-- A gate whose cycle is not over passes a flush on. -/
theorem plan_flush_of_open {g : Gate} (h : g.budget.ended = false) : g.plan .flush = .pass .flush none := by
  simp [plan, isEnded, h]

@[simp] theorem remaining_hear (g : Gate) (call : Call) :
    (g.hear call).budget.remaining = g.budget.remaining := by
  cases call <;> simp [hear, giveUp, Budget.giveUp]

@[simp] theorem finished_hear (g : Gate) (call : Call) :
    (g.hear call).budget.finished = g.budget.finished := by
  cases call <;> simp [hear, giveUp, Budget.giveUp]

@[simp] theorem completions_hear (g : Gate) (call : Call) : (g.hear call).completions = g.completions := by
  cases call <;> rfl

/-- Unless a flush was complete below, only what remains changes after the gate has heard a call. -/
theorem react_of_not_isFlushed {g : Gate} {x : Exchange} (hx : ¬ x.IsFlushed) :
    ∃ remaining, remaining.toNat = g.budget.remaining.toNat - x.accepted ∧
      g.react x =
        { g.hear x.call with budget := { (g.hear x.call).budget with remaining := remaining } } := by
  obtain ⟨call, below⟩ := x
  have hkeep : Exchange.accepted ⟨call, below⟩ = 0 → g.react ⟨call, below⟩ = g.hear call →
      ∃ remaining, remaining.toNat = g.budget.remaining.toNat - Exchange.accepted ⟨call, below⟩ ∧
        g.react ⟨call, below⟩ =
          { g.hear call with budget := { (g.hear call).budget with remaining := remaining } } := by
    intro hn hg
    exact ⟨(g.hear call).budget.remaining, by rw [hn, remaining_hear, Nat.sub_zero], hg⟩
  rcases below with _ | (e | (_ | n | b))
  · exact hkeep rfl rfl
  · exact hkeep rfl (learn_error _ call e)
  · exact hkeep rfl (learn_unit _ call)
  · refine ⟨((g.hear call).budget.spend n).remaining, ?_, learn_count _ call n⟩
    rw [Budget.toNat_remaining_spend, remaining_hear]
    rfl
  · by_cases hc : call = .flush
    · subst hc
      cases b
      · exact hkeep rfl (by simp [react, learn_flush, hear, settle, Budget.settle])
      · exact absurd ⟨rfl, rfl⟩ hx
    · exact hkeep rfl (learn_flag _ hc b)

/-- A flush that was complete below settles the budget. -/
theorem react_of_isFlushed {g : Gate} {x : Exchange} (hx : x.IsFlushed) : g.react x = (g.settle true).2 := by
  obtain ⟨call, below⟩ := x
  obtain ⟨rfl, rfl⟩ := hx
  rfl

theorem toNat_remaining_react (g : Gate) (x : Exchange) :
    (g.react x).budget.remaining.toNat = g.budget.remaining.toNat - x.accepted := by
  by_cases hx : x.IsFlushed
  · rw [react_of_isFlushed hx]
    obtain ⟨call, below⟩ := x
    obtain ⟨rfl, rfl⟩ := hx
    simp [settle, Exchange.accepted]
  · obtain ⟨remaining, hr, h⟩ := react_of_not_isFlushed (g := g) hx
    rw [h]
    exact hr

theorem closing_react (g : Gate) (x : Exchange) :
    (g.react x).budget.closing = true ↔ g.budget.closing = true ∨ x.IsRequest := by
  by_cases hx : x.IsFlushed
  · rw [react_of_isFlushed hx]
    simp [settle, Exchange.IsRequest, hx.1]
  · obtain ⟨remaining, -, h⟩ := react_of_not_isFlushed (g := g) hx
    rw [h]
    cases hc : x.call <;> simp [hear, giveUp, Budget.giveUp, Exchange.IsRequest, hc]

theorem finished_react (g : Gate) (x : Exchange) :
    (g.react x).budget.finished = true ↔
      g.budget.finished = true ∨ x.IsFlushed ∧ g.budget.remaining = 0 := by
  by_cases hx : x.IsFlushed
  · rw [react_of_isFlushed hx]
    simp [settle, Budget.finished_settle, hx]
  · obtain ⟨remaining, -, h⟩ := react_of_not_isFlushed (g := g) hx
    simp [h, hx]

theorem ended_react (g : Gate) (x : Exchange) :
    (g.react x).budget.ended = true ↔
      g.budget.ended = true ∨ x.IsFlushed ∧ (g.budget.closing = true ∨ g.budget.remaining = 0) ∨
        x.call = .truncate ∨ x.call = .terminate ∧ g.budget.closing = false ∧ 0 < g.budget.remaining := by
  by_cases hx : x.IsFlushed
  · rw [react_of_isFlushed hx]
    simp [settle, Budget.ended_settle, hx, hx.1]
  · obtain ⟨remaining, -, h⟩ := react_of_not_isFlushed (g := g) hx
    rw [h]
    cases hc : x.call <;> simp [hear, giveUp, Budget.giveUp, Budget.ended_close, hx]

/-- The completion hook runs in the exchange that raises `finished`, and in no other. -/
theorem completions_react (g : Gate) (x : Exchange) :
    (g.react x).completions =
      g.completions + if g.budget.finished = false ∧ (g.react x).budget.finished = true then 1 else 0 := by
  by_cases hx : x.IsFlushed
  · rw [react_of_isFlushed hx]
    cases hf : g.budget.finished <;> by_cases hr : g.budget.remaining = 0 <;>
      simp [settle, Budget.settle_fst, Budget.finished_settle, hf, hr]
  · obtain ⟨remaining, -, h⟩ := react_of_not_isFlushed (g := g) hx
    simp [h]

end Gate

end ExactLength
