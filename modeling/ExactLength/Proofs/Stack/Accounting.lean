import ExactLength.Proofs.Stack.Delivery

/-!
# Accounting

Over an honest base, what a gate still lets through and what the base has taken from calls that passed the gate make
up the length of the cycle, at any time. A `Book` is kept for each gate: the length of its present cycle, and the
growth of the base's output in calls that entered at the gate or above it. Calls that enter below a gate are not
booked for it, and a new cycle opens a new book.

One call keeps the sum of what remains at a gate and the size of the output, for all gates from where it enters down
(`Stack.sums_performAt`), and does not touch the gates above (`Stack.gates_performAt`). Hence every move keeps a book
balanced, and so does every run: `Stack.byte_accounting`.
-/

namespace ExactLength

/-- What is booked for a gate. -/
structure Book where
  /-- The length of its present cycle. -/
  length : UInt64
  /-- How many bytes the base took in this cycle from calls that entered at the gate or above it. -/
  accepted : Nat

theorem Gate.remaining_learn_hear (g : Gate) (call : Call) (result : Except SinkError Yield) :
    ((g.hear call).learn call result).budget.remaining.toNat = g.budget.remaining.toNat - credited result := by
  have h := g.toNat_remaining_react ⟨call, some result⟩
  rcases result with e | _ | _ | _ <;> exact h

namespace Stack

variable {σ : Type} (S : Sink σ) (out : σ → Bytes)

/-- The book of the gate at a level after a move. -/
def post {n : Nat} (s : Stack σ n) (level : Nat) (b : Book) : Move → Book
  | .call entry call =>
    if entry ≤ level then
      let after := (s.performAt S entry call).state.1
      { b with accepted := b.accepted + ((out after.base).length - (out s.base).length) }
    else b
  | .renew entry length passesClose =>
    if entry = level ∧ (s.renew entry length passesClose).toBool = true then ⟨length, 0⟩ else b
  | .restart entry length _ => if entry = level then ⟨length, 0⟩ else b

/-- The book of the gate at a level after a number of moves. -/
def book {n : Nat} (s : Stack σ n) (level : Nat) (b : Book) : List Move → Book
  | [] => b
  | m :: rest => book (s.move S m).state.1 level (s.post S out level b m) rest

/-- The book of the gate at a level is right. -/
def Balanced {n : Nat} (s : Stack σ n) (level : Nat) (b : Book) : Prop :=
  ∃ g, s.gates[level]? = some g ∧ b.accepted + g.budget.remaining.toNat = b.length.toNat

/-! ### One call -/

/-- What a gate still lets through and the size of the output, together. -/
def sums {n : Nat} (s : Stack σ n) : List Nat :=
  s.gates.map fun g => g.budget.remaining.toNat + (out s.base).length

theorem sums_push {n : Nat} (g : Gate) (s : Stack σ n) :
    (push g s).sums out = (g.budget.remaining.toNat + (out s.base).length) :: s.sums out := rfl

variable {S out} {exact : Prop}

theorem sums_perform (h : S.Honest out exact) {n : Nat} (s : Stack σ n) {call : Call} (hlast : call.isLast = false)
    (hfits : call.Fits) : sums out ((S.stacked n).perform s call).state.1 = s.sums out := by
  induction n generalizing call with
  | zero => rfl
  | succ n ih =>
    obtain ⟨gate, below, rfl⟩ := s.exists_push
    cases hplan : gate.plan call with
    | answer result =>
      rw [(perform_push_answer S hlast hplan below).2, sums_push, sums_push, Gate.remaining_hear]
    | pass down shortfall =>
      have hpass := Gate.passes_of_plan hlast hplan
      have hdown := hpass.fits_down hfits
      obtain ⟨bytes, hout, hcount, hgives⟩ := honest h n below down hpass.isLast_down hdown
      have hle := hpass.length_le hfits hgives
      dsimp only at hout
      rw [(perform_push_pass S hlast hplan below).2, sums_push, sums_push, ih below hpass.isLast_down hdown,
        Gate.remaining_learn_hear, ← hcount, hout, List.length_append]
      congr 1
      omega

theorem sums_perform_any (h : S.Honest out exact) {n : Nat} (s : Stack σ n) {call : Call} (hfits : call.Fits) :
    sums out ((S.stacked n).perform s call).state.1 = s.sums out := by
  have hopen := sums_perform h s call.isLast_opening hfits.opening
  rw [Sink.perform_state]
  split
  · exact (sums_perform h _ (show Call.isLast .terminate = false from rfl) trivial).trans hopen
  · exact hopen

/-- From where a call enters down, what the base gains is taken from what the gates let through. -/
theorem sums_performAt (h : S.Honest out exact) {n : Nat} (s : Stack σ n) {entry level : Nat} (hle : entry ≤ level)
    {call : Call} (hfits : call.Fits) :
    (sums out (s.performAt S entry call).state.1)[level]? = (s.sums out)[level]? := by
  induction n generalizing entry level with
  | zero =>
    cases entry with
    | zero => rw [performAt_zero, sums_perform_any h s hfits]
    | succ entry => rfl
  | succ n ih =>
    cases entry with
    | zero => rw [performAt_zero, sums_perform_any h s hfits]
    | succ entry =>
      obtain ⟨gate, below, rfl⟩ := s.exists_push
      obtain ⟨level, rfl⟩ : ∃ l, level = l + 1 := ⟨level - 1, by omega⟩
      exact ih below (Nat.le_of_succ_le_succ hle)

/-- Gates above where a call enters are as they were. -/
theorem gates_performAt {n : Nat} (s : Stack σ n) {entry level : Nat} (hlt : level < entry) (call : Call) :
    (s.performAt S entry call).state.1.gates[level]? = s.gates[level]? := by
  induction n generalizing entry level with
  | zero => cases entry <;> rfl
  | succ n ih =>
    obtain ⟨gate, below, rfl⟩ := s.exists_push
    obtain ⟨entry, rfl⟩ : ∃ l, entry = l + 1 := ⟨entry - 1, by omega⟩
    cases level with
    | zero => rfl
    | succ level => exact ih below (Nat.lt_of_succ_lt_succ hlt)

/-! ### Runs -/

theorem balanced_call (h : S.Honest out exact) {n : Nat} {s : Stack σ n} {level : Nat} {b : Book}
    (hb : s.Balanced level b) (entry : Nat) {call : Call} (hfits : call.Fits) :
    (s.move S (.call entry call)).state.1.Balanced level (s.post S out level b (.call entry call)) := by
  obtain ⟨g, hg, hsum⟩ := hb
  rw [post]
  split
  · next hle =>
    have hkept := sums_performAt h s hle hfits
    obtain ⟨bytes, hout, -⟩ := performAt_delivers h s entry hfits
    rw [sums, sums, List.getElem?_map, List.getElem?_map, hg, hout, List.length_append] at hkept
    obtain ⟨g', hg', heq⟩ := Option.map_eq_some_iff.1 hkept
    refine ⟨g', hg', ?_⟩
    dsimp only at heq ⊢
    rw [hout, List.length_append]
    omega
  · next hlt =>
    exact ⟨g, (gates_performAt s (Nat.lt_of_not_le hlt) call).trans hg, hsum⟩

theorem balanced_setGate {n : Nat} {s : Stack σ n} {level : Nat} {b : Book} (hb : s.Balanced level b) (entry : Nat)
    (g : Gate) (length : UInt64) (passesClose : Bool) :
    (s.setGate entry (g.restart length passesClose)).Balanced level (if entry = level then ⟨length, 0⟩ else b) := by
  obtain ⟨g', hg', hsum⟩ := hb
  unfold Balanced
  rw [gates_setGate]
  split
  · next heq =>
    subst heq
    obtain ⟨hlt, -⟩ := List.getElem?_eq_some_iff.1 hg'
    exact ⟨_, List.getElem?_set_self hlt, Nat.zero_add _⟩
  · next hne => exact ⟨g', by rw [List.getElem?_set_ne hne]; exact hg', hsum⟩

theorem balanced_move (h : S.Honest out exact) {n : Nat} {s : Stack σ n} {level : Nat} {b : Book}
    (hb : s.Balanced level b) {m : Move} (hfits : m.Fits) :
    (s.move S m).state.1.Balanced level (s.post S out level b m) := by
  cases m with
  | call entry call => exact balanced_call h hb entry hfits
  | renew entry length passesClose =>
    rw [post]
    simp only [move]
    cases hr : s.renew entry length passesClose with
    | error e =>
      rw [if_neg]
      · exact hb
      · rintro ⟨-, hok⟩
        cases hok
    | ok s' =>
      simp only [Except.toBool, and_true]
      rcases renew_eq_ok_iff.1 hr with ⟨g, hg, -, -, rfl⟩ | ⟨hnone, rfl⟩
      · exact balanced_setGate hb entry g length passesClose
      · rw [if_neg]
        · exact hb
        · rintro rfl
          obtain ⟨g, hg, -⟩ := hb
          rw [hnone] at hg
          cases hg
  | restart entry length passesClose =>
    rw [post]
    simp only [move, restart]
    cases hg : s.gates[entry]? with
    | some g => exact balanced_setGate hb entry g length passesClose
    | none =>
      rw [if_neg]
      · exact hb
      · rintro rfl
        obtain ⟨g, hg', -⟩ := hb
        rw [hg] at hg'
        cases hg'

theorem balanced_run (h : S.Honest out exact) {n : Nat} {s : Stack σ n} {level : Nat} {b : Book}
    (hb : s.Balanced level b) {moves : List Move} (hfits : ∀ m ∈ moves, m.Fits) :
    (s.run S moves).Balanced level (s.book S out level b moves) := by
  induction moves generalizing s b with
  | nil => exact hb
  | cons m rest ih =>
    exact ih (balanced_move h hb (hfits m List.mem_cons_self)) fun m' hm' => hfits m' (List.mem_cons_of_mem m hm')

/-- **Exact accounting.** In any run over an honest base, from the start of a cycle of a gate: the bytes that the
base took in its present cycle, from calls that entered at the gate or above it, and the bytes that it still lets
through make up the length of that cycle. At any time, what a call puts into the base comes from its arguments, in
order, and is what a success counts. Transfers are exact where the base has the plain ones, and where they fail. -/
theorem byte_accounting (h : S.HonestBase out) {n : Nat} {s : Stack σ n} {level : Nat} {g : Gate} {length : UInt64}
    (hg : s.gates[level]? = some g) (hnew : g.budget = Budget.fresh length) {moves : List Move}
    (hfits : ∀ m ∈ moves, m.Fits) :
    (s.run S moves).Balanced level (s.book S out level ⟨length, 0⟩ moves) ∧
      ∀ entry call, call.Fits → ∃ bytes,
        let after := (s.run S moves).performAt S entry call
        out after.state.1.base = out (s.run S moves).base ++ bytes ∧
          call.Gives (S.PlainTransfers ∨ ∃ e, after.result = .error e) bytes after.state.2 ∧
          (∀ value, after.result = .ok value → bytes.length = credited (.ok value)) ∧
          (call.isLast = false → bytes.length = credited after.result) := by
  have hstart : s.Balanced level ⟨length, 0⟩ := ⟨g, hg, by rw [hnew]; exact Nat.zero_add _⟩
  refine ⟨balanced_run h.honest hstart hfits, fun entry call hcall => ?_⟩
  exact performAt_delivers h.honest (s.run S moves) entry hcall

/-- A gate for three bytes over one for five over an empty tank. -/
def overTank : Stack (Outlet Bytes) 2 :=
  push (gateFor 3) (push (gateFor 5) (ofBase (.ofDevice [])))

/-- Two of three bytes are taken through both gates, and a byte through the inner gate only. -/
def intoTank : List Move :=
  [.call 0 (.write (.ofBytes [1, 2, 3])), .call 1 (.write (.ofBytes [9]))]

/-- The byte that entered below the outer gate is not booked for it. -/
theorem byte_accounting_tank :
    overTank.gates[0]? = some (gateFor 3) ∧ (∀ m ∈ intoTank, m.Fits) ∧
      (overTank.run tank.sink intoTank).base.device = [1, 2, 9] ∧
      (overTank.run tank.sink intoTank).Balanced 0 ⟨3, 2⟩ := by
  have hfits : ∀ m ∈ intoTank, m.Fits := by
    intro m hm
    simp only [intoTank, List.mem_cons, List.not_mem_nil, or_false] at hm
    rcases hm with rfl | rfl <;> trivial
  have hg : overTank.gates[0]? = some (gateFor 3) := rfl
  obtain ⟨hbalanced, -⟩ := byte_accounting (.outlet tank_honest) hg rfl hfits
  exact ⟨hg, hfits, by decide, hbalanced⟩

end Stack

end ExactLength
