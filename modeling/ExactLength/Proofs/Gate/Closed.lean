import ExactLength.Proofs.Gate.Cycle
import ExactLength.Proofs.Gate.Offer

/-!
# Closed gates

What a gate still does once a shutdown was requested of it, or once its cycle is over. A gate of which a shutdown was
requested answers every call that brings bytes by itself, so what remains is fixed for the rest of the cycle
(`Gate.shut_foldl`). A gate whose cycle is over also keeps flushes, wake-ups and questions to itself, and a shutdown
goes through it in order if at all (`Gate.Over`).

The cycle of a gate may be over without a request. Then nothing remains, and several sources that are all empty are
still passed on: they need no room.
-/

namespace ExactLength

namespace Call

/-- A call that brings bytes in its arguments. -/
def brings : Call → Bool
  | write _ | writeLast _ | writeMany _ | writeManyLast _ | transferFile .. | transferStream .. => true
  | _ => false

/-- A call that needs the leave of a gate: a source that is not empty, several sources, or a transfer of at least one
byte. -/
def NeedsLeave : Call → Prop
  | write src | writeLast src => src.isEmpty = false
  | writeMany sources | writeManyLast sources =>
    2 ≤ sources.length ∨ ∃ src, sources = [src] ∧ src.isEmpty = false
  | transferFile _ _ count | transferStream _ count _ => count ≠ 0
  | _ => False

/-- A call that is no use to a gate whose cycle is over: a flush, a wake-up, or the question whether writes are
resumed. -/
def isSignal : Call → Bool
  | flush | wake | isResumed => true
  | _ => false

@[simp] theorem brings_opening (call : Call) : call.opening.brings = call.brings := by
  cases call <;> rfl

end Call

namespace Gate

variable {g : Gate} {call : Call}

/-- A gate plans a call as the call that it opens with. -/
theorem plan_opening (g : Gate) (call : Call) : g.plan call.opening = g.plan call := by
  cases call with
  | writeManyLast sources => rcases sources with _ | ⟨src, _ | ⟨next, rest⟩⟩ <;> rfl
  | _ => rfl

theorem hear_of_brings (g : Gate) (h : call.brings = true) : g.hear call = g := by
  cases call <;> first | rfl | cases h

theorem hear_of_isSignal (g : Gate) (h : call.isSignal = true) : g.hear call = g := by
  cases call <;> first | rfl | cases h

/-! ### A shutdown was requested -/

theorem hasRoom_of_closing (h : g.budget.closing = true) (size : Nat) : g.hasRoom size = false := by
  simp [hasRoom, h]

theorem refusal_of_closing (h : g.budget.closing = true) : g.refusal = .closedChannel :=
  if_pos h

theorem planWrite_of_closing (h : g.budget.closing = true) (size : Nat) (down : Call) :
    g.planWrite size down = .answer (.error .closedChannel) := by
  rw [planWrite_eq, hasRoom_of_closing h, refusal_of_closing h]
  rfl

theorem planSource_of_closing (h : g.budget.closing = true) (src : Source) :
    g.planSource src = .answer (if src.isEmpty then .ok (.count 0) else .error .closedChannel) := by
  unfold planSource
  rw [planWrite_of_closing h]
  split <;> rfl

theorem planTransfer_of_closing (h : g.budget.closing = true) (count : UInt64) (down : UInt64 → Call) :
    g.planTransfer count down = .answer (if count = 0 then .ok (.count 0) else .error .closedChannel) := by
  by_cases hcount : count = 0
  · rw [if_pos hcount]
    exact if_pos hcount
  · rw [if_neg hcount, planTransfer_eq g hcount, hasRoom_of_closing h, refusal_of_closing h]
    rfl

/-- A gate of which a shutdown was requested answers every call that brings bytes by itself. -/
theorem exists_answer_of_closing (h : g.budget.closing = true) (hcall : call.brings = true) :
    ∃ result, g.plan call = .answer result := by
  rw [← plan_opening]
  cases hopened : call.opening with
  | write src => exact ⟨_, planSource_of_closing h src⟩
  | writeMany sources =>
    rcases sources with _ | ⟨src, _ | ⟨next, rest⟩⟩
    · exact ⟨_, rfl⟩
    · exact ⟨_, planSource_of_closing h src⟩
    · exact ⟨_, planWrite_of_closing h _ _⟩
  | transferFile file position count => exact ⟨_, planTransfer_of_closing h count _⟩
  | transferStream reader count through => exact ⟨_, planTransfer_of_closing h count _⟩
  | writeLast src => cases call <;> cases hopened
  | writeManyLast sources => cases call <;> cases hopened
  | _ =>
    rw [← Call.brings_opening, hopened] at hcall
    cases hcall

/-- It refuses every call that needs leave. -/
theorem plan_of_closing (h : g.budget.closing = true) (hcall : call.NeedsLeave) :
    g.plan call = .answer (.error .closedChannel) := by
  have hsource {src : Source} (hlive : src.isEmpty = false) :
      g.planSource src = .answer (.error .closedChannel) := by
    rw [planSource_of_closing h, hlive]
    rfl
  have hmany {sources : List Source}
      (hsources : 2 ≤ sources.length ∨ ∃ src, sources = [src] ∧ src.isEmpty = false) :
      g.plan (.writeMany sources) = .answer (.error .closedChannel) := by
    rcases hsources with htwo | ⟨src, rfl, hlive⟩
    · rcases sources with _ | ⟨src, _ | ⟨next, rest⟩⟩
      · cases htwo
      · simp at htwo
      · exact planWrite_of_closing h _ _
    · exact hsource hlive
  have htransfer {count : UInt64} (hcount : count ≠ 0) (down : UInt64 → Call) :
      g.planTransfer count down = .answer (.error .closedChannel) := by
    rw [planTransfer_of_closing h, if_neg hcount]
  cases call with
  | write src => exact hsource hcall
  | writeLast src => exact hsource hcall
  | writeMany sources => exact hmany hcall
  | writeManyLast sources =>
    rw [← plan_opening]
    exact hmany hcall
  | transferFile file position count => exact htransfer hcall _
  | transferStream reader count through => exact htransfer hcall _
  | _ => exact absurd hcall id

/-- It passes on nothing of a call that brings bytes. -/
theorem Hears.below_of_closing {x : Exchange} (hx : g.Hears x) (h : g.budget.closing = true)
    (hcall : x.call.brings = true) : x.below = none := by
  obtain ⟨result, hplan⟩ := exists_answer_of_closing h hcall
  rw [Hears, hplan] at hx
  exact hx

/-! ### The cycle is over -/

/-- The cycle of the gate is over, and a shutdown was requested unless nothing remains. -/
structure Over (g : Gate) : Prop where
  /-- The cycle is over. -/
  ended : g.budget.ended = true
  /-- A shutdown was requested, or nothing remains. -/
  nothing : g.budget.closing = true ∨ g.budget.remaining = 0

theorem Over.react (h : g.Over) (x : Exchange) : (g.react x).Over where
  ended := (ended_react g x).2 (Or.inl h.ended)
  nothing := by
    rcases h.nothing with hclosing | hnothing
    · exact Or.inl ((closing_react g x).2 (Or.inl hclosing))
    · refine Or.inr (UInt64.toNat_inj.1 ?_)
      rw [toNat_remaining_react, hnothing]
      exact Nat.zero_sub _

theorem Over.hasRoom (h : g.Over) {size : Nat} (hsize : 0 < size) : g.hasRoom size = false := by
  rw [Bool.eq_false_iff, Ne, hasRoom_iff]
  rintro ⟨hopen, hle⟩
  rcases h.nothing with hclosing | hnothing
  · rw [hclosing] at hopen
    cases hopen
  · rw [hnothing, UInt64.toNat_zero] at hle
    omega

/-- A gate whose cycle is over refuses every byte. -/
theorem Over.plan (h : g.Over) (hfits : call.Fits) (hasked : 0 < call.opening.asked) :
    g.plan call = .answer (.error g.refusal) := by
  have hsource {src : Source} (hlive : 0 < src.remaining) : g.planSource src = .answer (.error g.refusal) := by
    have hempty : ¬ src.isEmpty = true := by
      rw [Source.isEmpty_iff, ← List.length_eq_zero_iff]
      exact Nat.ne_of_gt hlive
    unfold planSource
    rw [if_neg hempty, planWrite_eq, h.hasRoom hlive]
    rfl
  have htransfer {count : UInt64} (hcount : 0 < count.toNat) (down : UInt64 → Call) :
      g.planTransfer count down = .answer (.error g.refusal) := by
    have hne : count ≠ 0 := by
      rintro rfl
      cases hcount
    rw [planTransfer_eq g hne, h.hasRoom Nat.zero_lt_one]
    rfl
  rw [← plan_opening]
  have hfits' : call.opening.Fits := by cases call <;> exact hfits
  cases hopened : call.opening with
  | write src =>
    rw [hopened] at hasked
    exact hsource hasked
  | writeMany sources =>
    rw [hopened] at hasked hfits'
    rcases sources with _ | ⟨src, _ | ⟨next, rest⟩⟩
    · cases hasked
    · exact hsource (by simpa [Call.asked, Source.joined_cons, Source.remaining] using hasked)
    · have hoffered : 0 < (Source.joined (src :: next :: rest)).length := hasked
      show g.planWrite _ _ = _
      rw [planWrite_eq, Source.toNat_total hfits', h.hasRoom hoffered]
      rfl
  | transferFile file position count =>
    rw [hopened] at hasked
    exact htransfer hasked _
  | transferStream reader count through =>
    rw [hopened] at hasked
    exact htransfer hasked _
  | writeLast src => cases call <;> cases hopened
  | writeManyLast sources => cases call <;> cases hopened
  | _ =>
    rw [hopened] at hasked
    cases hasked

/-- A shutdown is passed on in order, if at all. -/
theorem Over.plan_terminate (h : g.Over) :
    g.plan .terminate = .answer (.ok .unit) ∨ g.plan .terminate = .pass .terminate none := by
  show g.planShutdown = _ ∨ g.planShutdown = _
  unfold planShutdown
  cases hclosing : g.budget.closing with
  | true =>
    rw [Budget.close_of_closing hclosing]
    exact Or.inl rfl
  | false =>
    have hnothing : g.budget.remaining = 0 := h.nothing.resolve_left (Bool.eq_false_iff.1 hclosing)
    rw [Budget.close_of_clean hclosing hnothing]
    dsimp only
    split
    · exact Or.inr rfl
    · exact Or.inl rfl

/-- How a gate whose cycle is over answers a flush, a wake-up, and the question whether writes are resumed. -/
def signalAnswer : Call → Yield
  | .flush => .flag true
  | .isResumed => .flag false
  | _ => .unit

theorem Over.plan_signal (h : g.Over) (hcall : call.isSignal = true) :
    g.plan call = .answer (.ok (signalAnswer call)) := by
  cases call <;> first | exact if_pos h.ended | cases hcall

/-- What it passes on has no bytes. -/
theorem Hears.asked_of_over {x : Exchange} (hx : g.Hears x) (h : g.Over) (hfits : x.call.Fits)
    (hbelow : x.below.isSome = true) : x.call.opening.asked = 0 := by
  refine Nat.eq_zero_of_not_pos fun hasked => ?_
  rw [Hears, h.plan hfits hasked] at hx
  rw [hx] at hbelow
  cases hbelow

theorem Hears.below_of_over {x : Exchange} (hx : g.Hears x) (h : g.Over) (hcall : x.call.isSignal = true) :
    x.below = none := by
  rw [Hears, h.plan_signal hcall] at hx
  exact hx

/-! ### For the rest of a cycle -/

theorem hears_of_split {past before after : List Exchange} {x : Exchange}
    (h : g.MeetsAll (past.map .exchange)) (hpast : past = before ++ x :: after) : (before.foldl react g).Hears x := by
  rw [hpast, List.map_append, meetsAll_append, List.foldl_map] at h
  exact h.2.1

theorem Over.foldl (h : g.Over) (past : List Exchange) : (past.foldl Gate.react g).Over := by
  induction past generalizing g with
  | nil => exact h
  | cons x rest ih => exact ih (h.react x)

/-- For the rest of a cycle in which a shutdown was requested, what remains is fixed, and no call that brings bytes is
passed on. -/
theorem shut_foldl {past : List Exchange} (hpast : g.MeetsAll (past.map .exchange))
    (hcounts : ∀ x ∈ past, x.accepted ≠ 0 → x.call.brings = true) (h : g.budget.closing = true) :
    (past.foldl react g).budget.closing = true ∧ (past.foldl react g).budget.remaining = g.budget.remaining ∧
      ∀ x ∈ past, x.call.brings = true → x.below = none := by
  induction past generalizing g with
  | nil => exact ⟨h, rfl, fun _ hx => (List.not_mem_nil hx).elim⟩
  | cons x rest ih =>
    obtain ⟨hx, hrest⟩ := hpast
    have hbelow : x.call.brings = true → x.below = none := Hears.below_of_closing hx h
    have hsame : (g.react x).budget.remaining = g.budget.remaining := by
      have haccepted : x.accepted = 0 := Decidable.not_not.1 fun hne => by
        have hnone := hbelow (hcounts x List.mem_cons_self hne)
        simp [Exchange.accepted, hnone] at hne
      rw [← UInt64.toNat_inj, toNat_remaining_react, haccepted, Nat.sub_zero]
    obtain ⟨hclosing, hremaining, hlater⟩ :=
      ih hrest (fun y hy => hcounts y (List.mem_cons_of_mem x hy)) ((closing_react g x).2 (Or.inl h))
    refine ⟨hclosing, hremaining.trans hsame, fun y hy => ?_⟩
    rcases List.mem_cons.1 hy with rfl | hy
    · exact hbelow
    · exact hlater y hy

end Gate

end ExactLength
