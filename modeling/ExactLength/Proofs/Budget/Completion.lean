import ExactLength.Budget.Request
import Mathlib.Data.List.DropRight

/-!
# Completion of a budget

A budget by itself, asked for one thing after the other in any order. All that is kept to is that bytes are reported
as accepted only right after as many were allowed (`Budget.orderly`). Within a cycle a step raises `finished` if and
only if it completes the cycle, so a cycle completes once at most (`Budget.toNat_finished_run`).

Once a shutdown was requested nothing is allowed any more, and what remains stays as it is
(`Budget.remaining_of_closing`). Hence a cycle that was shut down or given up with bytes owed never completes. A cycle
that was given up with nothing owed does complete, by the next flush that is complete: `Budget.settle` looks at what
remains, and does not ask whether the cycle was given up (`Budget.completes_iff_of_closing`).

The main statement is `Budget.completes_once`.
-/

namespace ExactLength

namespace Budget

/-! ### Steps -/

/-- A request to a budget. -/
structure Step where
  /-- The budget when it is asked. -/
  before : Budget
  /-- What it is asked for. -/
  request : Request
  deriving DecidableEq

/-- The steps of a budget that is asked for one thing after the other. -/
def steps (b : Budget) : List Request → List Step
  | [] => []
  | request :: rest => ⟨b, request⟩ :: steps (b.serve request).2 rest

/-- The budget after that. -/
def run (b : Budget) (requests : List Request) : Budget :=
  requests.foldl (fun b request => (b.serve request).2) b

namespace Step

/-- What the budget answers. -/
def answer (x : Step) : Except SinkError Yield :=
  (x.before.serve x.request).1

/-- The budget after it was asked. -/
def after (x : Step) : Budget :=
  (x.before.serve x.request).2

/-- A flush is accounted for that completes the cycle. -/
def completes (x : Step) : Bool :=
  match x.request, x.answer with
  | .settle _, .ok (.flag completed) => completed
  | _, _ => false

/-- A new cycle starts. -/
def starts (x : Step) : Bool :=
  match x.request, x.answer with
  | .restart _, _ | .renew _, .ok _ => true
  | _, _ => false

/-- How many bytes may be written, if the budget was asked for that and allows it. -/
def allowance (x : Step) : Option UInt64 :=
  match x.request, x.answer with
  | .permit length, .ok _ => some length
  | .allow _, .ok (.count allowed) => some allowed
  | _, _ => none

/-- Bytes are reported as accepted only if as many were allowed. -/
def isAllowed (allowed : Option UInt64) (x : Step) : Bool :=
  match x.request with
  | .spend n => allowed.any (n ≤ ·)
  | _ => true

/-- A shutdown is requested, and bytes are owed. -/
def IsShort (x : Step) : Prop :=
  x.request = .close ∧ ∃ owed, x.answer = .ok (.shutdown (.short owed))

/-- The cycle is over before its time: it is given up, or shut down with bytes owed. -/
def GivesUp (x : Step) : Prop :=
  x.request = .giveUp ∨ x.IsShort

end Step

/-- All steps report bytes as accepted only right after as many were allowed. -/
def orderlyAfter (allowed : Option UInt64) : List Step → Bool
  | [] => true
  | x :: rest => x.isAllowed allowed && orderlyAfter x.allowance rest

/-- From the start on, bytes are reported as accepted only right after as many were allowed. -/
def orderly (past : List Step) : Bool :=
  orderlyAfter none past

/-- The steps of the present cycle: those since a cycle was started for the last time. -/
def thisCycle (past : List Step) : List Step :=
  past.rtakeWhile fun x => !x.starts

/-! ### What a step does -/

namespace Step

variable {x : Step}

/-- A cycle is completed by a complete flush with nothing owed, unless it was completed before. -/
theorem completes_iff (x : Step) :
    x.completes = true ↔ x.request = .settle true ∧ x.before.remaining = 0 ∧ x.before.finished = false := by
  obtain ⟨b, request⟩ := x
  cases request with
  | settle flushed =>
    show (b.settle flushed).1 = true ↔ _
    rw [settle_fst]
    cases flushed <;> simp
  | _ => simp [completes]

/-- What a refused new cycle leaves is what was there. -/
theorem after_of_renew_refused {b : Budget} {length : UInt64} (h : Step.starts ⟨b, .renew length⟩ = false) :
    Step.after ⟨b, .renew length⟩ = b := by
  unfold starts answer at h
  unfold after
  simp only [serve] at h ⊢
  cases hnew : b.renew length with
  | ok b' => simp [hnew] at h
  | error e => rfl

/-- A step within a cycle raises `finished` if and only if it completes the cycle. -/
theorem finished_after (h : x.starts = false) : x.after.finished = (x.before.finished || x.completes) := by
  obtain ⟨b, request⟩ := x
  cases request with
  | settle flushed =>
    show (b.settle flushed).2.finished = (b.finished || (b.settle flushed).1)
    rw [finished_settle, settle_fst]
    cases b.finished <;> simp
  | restart length => cases h
  | renew length =>
    rw [after_of_renew_refused h]
    exact (Bool.or_false _).symm
  | close => simp [after, completes, serve]
  | _ => exact (Bool.or_false _).symm

/-- A new cycle starts with a new budget. -/
theorem exists_after_of_starts (h : x.starts = true) : ∃ length, x.after = fresh length := by
  obtain ⟨b, request⟩ := x
  cases request with
  | restart length => exact ⟨length, rfl⟩
  | renew length =>
    unfold starts answer at h
    unfold after
    simp only [serve] at h ⊢
    cases hnew : b.renew length with
    | ok b' => exact ⟨length, (renew_eq_ok_iff.1 hnew).2.2⟩
    | error e => simp [hnew] at h
  | _ => cases h

/-- Within a cycle a requested shutdown stays requested. -/
theorem closing_after (h : x.starts = false) (hclosing : x.before.closing = true) : x.after.closing = true := by
  obtain ⟨b, request⟩ := x
  cases request with
  | settle flushed => exact (closing_settle b flushed).trans hclosing
  | restart length => cases h
  | renew length => rwa [after_of_renew_refused h]
  | close => exact closing_close b
  | giveUp => rfl
  | _ => exact hclosing

/-- Within a cycle what remains changes only by what is reported as accepted. -/
theorem remaining_after (h : x.starts = false) (hspend : ∀ n, x.request ≠ .spend n) :
    x.after.remaining = x.before.remaining := by
  obtain ⟨b, request⟩ := x
  cases request with
  | spend n => exact absurd rfl (hspend n)
  | settle flushed => exact remaining_settle b flushed
  | restart length => cases h
  | renew length => rw [after_of_renew_refused h]
  | close => exact remaining_close b
  | _ => rfl

/-- Nothing is allowed once a shutdown was requested. -/
theorem allowance_of_closing (hclosing : x.before.closing = true) : x.allowance = none := by
  obtain ⟨b, request⟩ := x
  change b.closing = true at hclosing
  cases request with
  | permit length => simp [allowance, answer, serve, permit, hclosing, Except.map]
  | allow count => simp [allowance, answer, serve, allow, hclosing, Except.map]
  | _ => rfl

/-- A shutdown with bytes owed leaves the budget as one that is given up. -/
theorem after_of_isShort (h : x.IsShort) : x.after = x.before.giveUp ∧ x.before.remaining ≠ 0 := by
  obtain ⟨b, request⟩ := x
  obtain ⟨hclose, owed, howed⟩ := h
  obtain rfl : request = .close := hclose
  have hshort : b.close.1 = .short owed := by simpa [answer, serve] using howed
  cases hclosing : b.closing with
  | true => simp [close_of_closing hclosing] at hshort
  | false =>
    by_cases hnone : b.remaining = 0
    · simp [close_of_clean hclosing hnone] at hshort
    · have hpos : 0 < b.remaining := UInt64.pos_iff_ne_zero.2 hnone
      exact ⟨congrArg Prod.snd (close_of_short hclosing hpos), hnone⟩

theorem GivesUp.after_eq (h : x.GivesUp) : x.after = x.before.giveUp := by
  rcases h with hrequest | hshort
  · unfold after
    rw [hrequest]
    rfl
  · exact (after_of_isShort hshort).1

/-- A step that ends a cycle before its time allows nothing, and completes nothing. -/
theorem GivesUp.quiet (h : x.GivesUp) : x.allowance = none ∧ x.completes = false := by
  have hrequest : x.request = .giveUp ∨ x.request = .close := h.imp_right And.left
  unfold allowance completes
  rcases hrequest with hrequest | hrequest <;> rw [hrequest] <;> exact ⟨rfl, rfl⟩

end Step

/-! ### What the steps of a cycle do -/

theorem run_append (b : Budget) (first rest : List Request) : b.run (first ++ rest) = (b.run first).run rest :=
  List.foldl_append

theorem steps_concat (b : Budget) (requests : List Request) (request : Request) :
    b.steps (requests ++ [request]) = b.steps requests ++ [⟨b.run requests, request⟩] := by
  induction requests generalizing b with
  | nil => rfl
  | cons first rest ih => exact congrArg (_ :: ·) (ih _)

/-- The steps before and after a step. -/
theorem exists_of_steps_eq {b : Budget} {requests : List Request} {earlier later : List Step} {x : Step}
    (h : b.steps requests = earlier ++ x :: later) :
    ∃ first rest, earlier = b.steps first ∧ x.before = b.run first ∧ later = x.after.steps rest := by
  induction requests generalizing b earlier with
  | nil => simp [steps] at h
  | cons request requests ih =>
    cases earlier with
    | nil =>
      obtain ⟨hx, hlater⟩ := List.cons.inj h
      subst hx
      exact ⟨[], requests, rfl, rfl, hlater.symm⟩
    | cons y earlier =>
      obtain ⟨hy, hrest⟩ := List.cons.inj h
      obtain ⟨first, rest, hearlier, hx, hlater⟩ := ih hrest
      refine ⟨request :: first, rest, ?_, hx, hlater⟩
      rw [hearlier, ← hy]
      rfl

/-- The present cycle is a history of its own, from a new budget on. -/
theorem exists_thisCycle (length : UInt64) (requests : List Request) :
    ∃ start later, thisCycle ((fresh length).steps requests) = (fresh start).steps later ∧
      (fresh length).run requests = (fresh start).run later := by
  induction requests using List.reverseRecOn with
  | nil => exact ⟨length, [], rfl, rfl⟩
  | append_singleton requests request ih =>
    obtain ⟨start, later, hcycle, hrun⟩ := ih
    unfold thisCycle at hcycle ⊢
    rw [steps_concat, List.rtakeWhile_concat, run_append]
    cases hstarts : Step.starts ⟨(fresh length).run requests, request⟩ with
    | true =>
      obtain ⟨start', hnew⟩ := Step.exists_after_of_starts hstarts
      exact ⟨start', [], rfl, hnew⟩
    | false =>
      refine ⟨start, later ++ [request], ?_, ?_⟩
      · rw [steps_concat, hcycle, hrun]
        rfl
      · rw [run_append, hrun]

section Within

variable {b : Budget} {requests : List Request} (hwithin : ∀ x ∈ b.steps requests, x.starts = false)

include hwithin

/-- Within a cycle the completions are counted by `finished`. -/
theorem toNat_finished_run :
    (b.run requests).finished.toNat = b.finished.toNat + (b.steps requests).countP Step.completes := by
  induction requests generalizing b with
  | nil => rfl
  | cons request requests ih =>
    rw [steps, List.forall_mem_cons] at hwithin
    have hfirst : (b.serve request).2.finished = (b.finished || _) := Step.finished_after hwithin.1
    have hrest : ((b.serve request).2.run requests).finished.toNat = _ := ih hwithin.2
    rw [steps, List.countP_cons]
    refine hrest.trans ?_
    rw [hfirst]
    cases hcompletes : Step.completes ⟨b, request⟩ with
    | false => simp
    | true =>
      obtain ⟨-, -, hopen⟩ := (Step.completes_iff _).1 hcompletes
      rw [show b.finished = false from hopen]
      simp [Nat.add_comm]

/-- Without a completion `finished` stays as it is. -/
theorem finished_of_not_completes (hnone : ∀ x ∈ b.steps requests, x.completes = false) :
    ∀ x ∈ b.steps requests, x.before.finished = b.finished ∧ x.after.finished = b.finished := by
  induction requests generalizing b with
  | nil => simp [steps]
  | cons request requests ih =>
    rw [steps, List.forall_mem_cons] at hwithin hnone ⊢
    have hfirst := Step.finished_after hwithin.1
    rw [hnone.1, Bool.or_false] at hfirst
    refine ⟨⟨rfl, hfirst⟩, fun x hx => ?_⟩
    have hrest := ih hwithin.2 hnone.2 x hx
    rwa [show (b.serve request).2.finished = b.finished from hfirst] at hrest

/-- Once a shutdown was requested nothing is written any more. -/
theorem remaining_of_closing (hclosing : b.closing = true) (horderly : orderlyAfter none (b.steps requests) = true) :
    ∀ x ∈ b.steps requests, x.before.remaining = b.remaining := by
  induction requests generalizing b with
  | nil => simp [steps]
  | cons request requests ih =>
    rw [steps, List.forall_mem_cons] at hwithin ⊢
    obtain ⟨hallowed, hrest⟩ := Bool.and_eq_true_iff.1 horderly
    have hspend : ∀ n, (⟨b, request⟩ : Step).request ≠ .spend n := by
      rintro n rfl
      cases hallowed
    have hsame : (b.serve request).2.remaining = b.remaining := Step.remaining_after hwithin.1 hspend
    rw [Step.allowance_of_closing (x := ⟨b, request⟩) hclosing] at hrest
    have hstays : (b.serve request).2.closing = true := Step.closing_after (x := ⟨b, request⟩) hwithin.1 hclosing
    refine ⟨rfl, fun x hx => ?_⟩
    rw [← hsame]
    exact ih hwithin.2 hstays hrest x hx

/-- A cycle that is closed completes if and only if nothing is owed and a flush is complete. -/
theorem completes_iff_of_closing (hclosing : b.closing = true) (hfinished : b.finished = false)
    (horderly : orderlyAfter none (b.steps requests) = true) :
    (∃ x ∈ b.steps requests, x.completes = true) ↔
      b.remaining = 0 ∧ ∃ x ∈ b.steps requests, x.request = .settle true := by
  have hremaining := remaining_of_closing hwithin hclosing horderly
  constructor
  · rintro ⟨x, hx, hcompletes⟩
    obtain ⟨hrequest, hnone, -⟩ := x.completes_iff.1 hcompletes
    exact ⟨(hremaining x hx).symm.trans hnone, x, hx, hrequest⟩
  · rintro ⟨hnone, x, hx, hrequest⟩
    apply Classical.byContradiction
    intro hnever
    have hquiet : ∀ y ∈ b.steps requests, y.completes = false := by
      intro y hy
      cases hcompletes : y.completes with
      | false => rfl
      | true => exact absurd ⟨y, hy, hcompletes⟩ hnever
    -- a complete flush of a cycle that was not completed before would complete it
    have hopen := (finished_of_not_completes hwithin hquiet x hx).1.trans hfinished
    have hcompletes := x.completes_iff.2 ⟨hrequest, (hremaining x hx).trans hnone, hopen⟩
    exact hnever ⟨x, hx, hcompletes⟩

end Within

/-- The steps after a step are orderly if all are. -/
theorem orderlyAfter_later {allowed : Option UInt64} {earlier later : List Step} {x : Step}
    (h : orderlyAfter allowed (earlier ++ x :: later) = true) : orderlyAfter x.allowance later = true := by
  induction earlier generalizing allowed with
  | nil => exact (Bool.and_eq_true_iff.1 h).2
  | cons y earlier ih => exact ih (Bool.and_eq_true_iff.1 h).2

/-- What follows in a cycle that is over before its time, and was not completed before: `finished` stays as it is unless
nothing is owed and a flush is complete. -/
theorem after_givesUp {start : UInt64} {since : List Request}
    (hwithin : ∀ x ∈ (fresh start).steps since, x.starts = false) {earlier later : List Step} {x : Step}
    (hsplit : (fresh start).steps since = earlier ++ x :: later) (hquiet : ∀ y ∈ earlier, y.completes = false)
    (horderly : orderlyAfter x.allowance later = true) (hgives : x.GivesUp) :
    ((∃ y ∈ later, y.completes = true) ↔ x.before.remaining = 0 ∧ ∃ y ∈ later, y.request = .settle true) ∧
      ((∀ y ∈ later, y.completes = false) → ∀ y ∈ x :: later, y.completes = false ∧ y.after.finished = false) := by
  obtain ⟨first, rest, rfl, hbefore, rfl⟩ := exists_of_steps_eq hsplit
  obtain ⟨hnone, hstill⟩ := hgives.quiet
  rw [hsplit] at hwithin
  have hopen : x.before.finished = false := by
    have hcount := toNat_finished_run fun y hy => hwithin y (List.mem_append_left _ hy)
    rw [List.countP_eq_zero.2 (by simpa using hquiet), ← hbefore] at hcount
    simpa [fresh] using hcount
  have hlater : ∀ y ∈ x.after.steps rest, y.starts = false :=
    fun y hy => hwithin y (List.mem_append_right _ (List.mem_cons_of_mem _ hy))
  have hafter : x.after.finished = false := by
    rw [hgives.after_eq]
    exact hopen
  rw [hnone] at horderly
  constructor
  · have hclosing : x.after.closing = true := by
      rw [hgives.after_eq]
      rfl
    rw [completes_iff_of_closing hlater hclosing hafter horderly, hgives.after_eq]
    rfl
  · intro hnever y hy
    rcases List.mem_cons.1 hy with rfl | hy
    · exact ⟨hstill, hafter⟩
    · exact ⟨hnever y hy, (finished_of_not_completes hlater hnever y hy).2.trans hafter⟩

/-! ### Completion -/

/-- **A cycle completes once at most, and not at all if it is cut short.** Whatever a budget is asked for, as long as
bytes are reported as accepted only right after as many were allowed: at most one step of the present cycle completes
it. If it is shut down or given up with bytes owed before it is completed, it never is, and `finished` stays down. If it
is given up with nothing owed, it still completes if and only if a complete flush follows. -/
theorem completes_once {length : UInt64} {b : Budget} (hnew : ofLength length = .ok b) {requests : List Request}
    (horderly : orderly (b.steps requests) = true) :
    let cycle := thisCycle (b.steps requests)
    cycle.countP Step.completes ≤ 1 ∧
      ∀ earlier x later, cycle = earlier ++ x :: later → (∀ y ∈ earlier, y.completes = false) →
        (x.IsShort ∨ x.request = .giveUp ∧ x.before.remaining ≠ 0 →
            ∀ y ∈ x :: later, y.completes = false ∧ y.after.finished = false) ∧
          (x.request = .giveUp →
            ((∃ y ∈ later, y.completes = true) ↔
              x.before.remaining = 0 ∧ ∃ y ∈ later, y.request = .settle true)) := by
  obtain ⟨-, rfl⟩ := ofLength_eq_ok_iff.1 hnew
  obtain ⟨start, since, hcycle, -⟩ := exists_thisCycle length requests
  intro cycle
  have hwithin : ∀ x ∈ (fresh start).steps since, x.starts = false := by
    intro x hx
    rw [← hcycle] at hx
    simpa using List.mem_rtakeWhile_imp hx
  constructor
  · have hcount := toNat_finished_run hwithin
    have hle := Bool.toNat_le ((fresh start).run since).finished
    show (thisCycle _).countP _ ≤ 1
    rw [hcycle]
    omega
  · intro earlier x later hsplit hquiet
    have hallowed : orderlyAfter x.allowance later = true := by
      obtain ⟨past, hpast⟩ := List.rtakeWhile_suffix (fun x : Step => !x.starts) ((fresh length).steps requests)
      rw [← hpast, show List.rtakeWhile _ _ = earlier ++ x :: later from hsplit, ← List.append_assoc] at horderly
      exact orderlyAfter_later horderly
    have hends (hgives : x.GivesUp) := after_givesUp hwithin (hcycle.symm.trans hsplit) hquiet hallowed hgives
    constructor
    · intro hcut
      obtain ⟨hgives, howed⟩ : x.GivesUp ∧ x.before.remaining ≠ 0 := by
        rcases hcut with hshort | ⟨hrequest, howed⟩
        · exact ⟨.inr hshort, (Step.after_of_isShort hshort).2⟩
        · exact ⟨.inl hrequest, howed⟩
      obtain ⟨hlater, hstays⟩ := hends hgives
      apply hstays
      intro y hy
      cases hcompletes : y.completes with
      | false => rfl
      | true => exact absurd (hlater.1 ⟨y, hy, hcompletes⟩).1 howed
    · intro hrequest
      exact (hends (.inl hrequest)).1

/-- A cycle that is completed, and one that is shut down with two bytes owed. -/
def twoCycles : List Request :=
  [.permit 2, .spend 2, .settle true, .settle true, .restart 5, .allow 9, .spend 3, .close, .settle true]

/-- The second flush of the first cycle does not complete it again, and the flush of the second cycle comes too late. -/
theorem completes_once_twoCycles :
    ofLength 2 = .ok (fresh 2) ∧ orderly ((fresh 2).steps twoCycles) = true ∧
      ((fresh 2).steps (twoCycles.take 4)).map Step.completes = [false, false, true, false] ∧
      (thisCycle ((fresh 2).steps (twoCycles.take 4))).countP Step.completes ≤ 1 ∧
      (thisCycle ((fresh 2).steps twoCycles)).map Step.request = [.allow 9, .spend 3, .close, .settle true] ∧
      Step.completes ⟨⟨2, true, true, false⟩, .settle true⟩ = false := by
  have hnew : ofLength 2 = .ok (fresh 2) := rfl
  have horderly : orderly ((fresh 2).steps twoCycles) = true := by decide
  obtain ⟨honce, -⟩ := completes_once hnew (show orderly ((fresh 2).steps (twoCycles.take 4)) = true by decide)
  obtain ⟨-, hcut⟩ := completes_once hnew horderly
  obtain ⟨hshort, -⟩ := hcut [⟨fresh 5, .allow 9⟩, ⟨fresh 5, .spend 3⟩] ⟨fresh 2, .close⟩
    [⟨⟨2, true, true, false⟩, .settle true⟩] (by decide) (by decide)
  have hlate := hshort (.inl ⟨rfl, 2, rfl⟩) _ (List.mem_cons_of_mem _ List.mem_cons_self)
  exact ⟨hnew, horderly, by decide, honce, by decide, hlate.1⟩

/-- A cycle of no bytes that is given up completes by the next flush. -/
theorem given_up_completes :
    orderly ((fresh 0).steps [.giveUp, .settle true]) = true ∧
      ((fresh 0).steps [.giveUp, .settle true]).map Step.starts = [false, false] ∧
      ((fresh 0).steps [.giveUp, .settle true]).map Step.completes = [false, true] ∧
      ((fresh 0).run [.giveUp]).finished = false ∧ ((fresh 0).run [.giveUp, .settle true]).finished = true := by
  decide

end Budget

end ExactLength
