import ExactLength.Proofs.Sink.Honest

/-!
# Offers to a gate

Which calls a gate lets pass that offer bytes. A write needs room for all of its bytes, a transfer for one: it is cut
to what remains. A gate without room refuses by itself, and names a requested shutdown before an excess
(`Gate.plan_offer`). What is passed on is an offer again that needs the same room, so the next gate may be asked in
the same way. What is counted below is charged to the gates above (`Gate.map_learn_count`), and charges add up
(`Gate.spend_spend`).
-/

namespace ExactLength

namespace Gate

/-- No shutdown was requested, and so many bytes may still pass. -/
def hasRoom (g : Gate) (size : Nat) : Bool :=
  !g.budget.closing && decide (size ≤ g.budget.remaining.toNat)

/-- How a gate without room refuses. -/
def refusal (g : Gate) : SinkError :=
  if g.budget.closing then .closedChannel else .overflow

/-- A count cut to what remains at each of some gates. -/
def cap (gates : List Gate) (count : UInt64) : UInt64 :=
  (gates.map fun g => g.budget.remaining).foldl min count

theorem hasRoom_iff {g : Gate} {size : Nat} :
    g.hasRoom size = true ↔ g.budget.closing = false ∧ size ≤ g.budget.remaining.toNat := by
  simp [hasRoom]

/-- An open gate has room unless too little remains. -/
theorem hasRoom_iff_of_open {g : Gate} (hopen : g.budget.closing = false) (size : Nat) :
    g.hasRoom size = true ↔ size ≤ g.budget.remaining.toNat := by
  rw [hasRoom_iff]
  exact and_iff_right hopen

theorem hasRoom_of_le {g : Gate} {size size' : Nat} (hle : size ≤ size') (h : g.hasRoom size' = true) :
    g.hasRoom size = true := by
  obtain ⟨hopen, hroom⟩ := hasRoom_iff.1 h
  exact hasRoom_iff.2 ⟨hopen, Nat.le_trans hle hroom⟩

/-- A gate that was charged for part of what it has room for has room for the rest. -/
theorem hasRoom_spend {g : Gate} {n : UInt64} {size : Nat} (h : g.hasRoom (n.toNat + size) = true) :
    (g.spend n).hasRoom size = true := by
  obtain ⟨hopen, hle⟩ := hasRoom_iff.1 h
  have hspend := g.budget.toNat_remaining_spend n
  apply hasRoom_iff.2
  constructor
  · exact hopen
  · show size ≤ (g.budget.spend n).remaining.toNat
    omega

theorem refusal_of_open {g : Gate} (hopen : g.budget.closing = false) : g.refusal = .overflow := by
  simp [refusal, hopen]

theorem permit_eq (g : Gate) (size : Nat) :
    g.budget.permit size = if g.hasRoom size then .ok () else .error g.refusal := by
  unfold Budget.permit hasRoom refusal
  cases g.budget.closing
  · by_cases h : size ≤ g.budget.remaining.toNat <;> simp [h]
  · simp

theorem allow_eq (g : Gate) (count : UInt64) :
    g.budget.allow count = if g.hasRoom 1 then .ok (min count g.budget.remaining) else .error g.refusal := by
  unfold Budget.allow hasRoom refusal
  cases g.budget.closing
  · by_cases h : g.budget.remaining = 0
    · simp [h]
    · have hpos : 1 ≤ g.budget.remaining.toNat := by
        rw [← UInt64.toNat_inj] at h
        exact Nat.pos_of_ne_zero h
      simp [h, hpos]
  · simp

theorem cap_le_count (gates : List Gate) (count : UInt64) : (cap gates count).toNat ≤ count.toNat := by
  induction gates generalizing count with
  | nil => exact Nat.le_refl _
  | cons g gates ih =>
    have h := ih (min count g.budget.remaining)
    rw [toNat_min] at h
    exact Nat.le_trans h (Nat.min_le_left _ _)

/-- A gate with room leaves something of a count. -/
theorem cap_ne_zero {g : Gate} {count : UInt64} (hcount : count ≠ 0) (hroom : g.hasRoom 1 = true) :
    cap [g] count ≠ 0 := by
  intro hzero
  have hmin : min count.toNat g.budget.remaining.toNat = 0 := by
    rw [← toNat_min]
    exact congrArg UInt64.toNat hzero
  have hpos : count.toNat ≠ 0 := fun h => hcount (UInt64.toNat_inj.1 h)
  have hremaining := (hasRoom_iff.1 hroom).2
  omega

theorem cap_le_remaining {gates : List Gate} {g : Gate} (hg : g ∈ gates) (count : UInt64) :
    (cap gates count).toNat ≤ g.budget.remaining.toNat := by
  induction gates generalizing count with
  | nil => cases hg
  | cons g' gates ih =>
    rcases List.mem_cons.1 hg with rfl | hg
    · have h := cap_le_count gates (min count g.budget.remaining)
      rw [toNat_min] at h
      exact Nat.le_trans h (Nat.min_le_right _ _)
    · exact ih hg (min count g'.budget.remaining)

end Gate

namespace Call

/-- A call that offers bytes: a source that is not empty, several sources that can be counted, or a transfer of at
least one byte. -/
def IsOffer : Call → Prop
  | write src => src.isEmpty = false
  | writeMany sources => 2 ≤ sources.length ∧ (Source.joined sources).length < UInt64.size
  | transferFile _ _ count | transferStream _ count _ => count ≠ 0
  | _ => False

/-- The room that an offer needs: for all of its bytes, or for one if it may be cut. -/
def need : Call → Nat
  | write src => src.remaining
  | writeMany sources => (Source.joined sources).length
  | transferFile .. | transferStream .. => 1
  | _ => 0

/-- How many bytes an offer asks to be taken. -/
def asked : Call → Nat
  | write src => src.remaining
  | writeMany sources => (Source.joined sources).length
  | transferFile _ _ count | transferStream _ count _ => count.toNat
  | _ => 0

/-- An offer behind some gates: a transfer is cut to what remains at each of them, and a write is as it was. -/
def cutBy (gates : List Gate) : Call → Call
  | transferFile file position count => transferFile file position (Gate.cap gates count)
  | transferStream reader count through => transferStream reader (Gate.cap gates count) through
  | call => call

variable {call : Call}

theorem IsOffer.isLast (h : call.IsOffer) : call.isLast = false := by
  cases call <;> first | rfl | exact absurd h id

@[simp] theorem cutBy_nil (call : Call) : call.cutBy [] = call := by
  cases call <;> rfl

theorem cutBy_cons (g : Gate) (gates : List Gate) (call : Call) :
    call.cutBy (g :: gates) = (call.cutBy [g]).cutBy gates := by
  cases call <;> rfl

@[simp] theorem need_cutBy (gates : List Gate) (call : Call) : (call.cutBy gates).need = call.need := by
  cases call <;> rfl

theorem IsOffer.cutBy (h : call.IsOffer) {g : Gate} (hroom : g.hasRoom call.need = true) :
    (call.cutBy [g]).IsOffer := by
  cases call with
  | transferFile file position count => exact Gate.cap_ne_zero h hroom
  | transferStream reader count through => exact Gate.cap_ne_zero h hroom
  | _ => exact h

/-- An offer asks no gate that it passed for more than remains there. -/
theorem asked_cutBy_le {gates : List Gate} (hroom : ∀ g ∈ gates, g.hasRoom call.need = true) {g : Gate}
    (hg : g ∈ gates) : (call.cutBy gates).asked ≤ g.budget.remaining.toNat := by
  have hneed := (Gate.hasRoom_iff.1 (hroom g hg)).2
  cases call with
  | write src => exact hneed
  | writeMany sources => exact hneed
  | transferFile file position count => exact Gate.cap_le_remaining hg count
  | transferStream reader count through => exact Gate.cap_le_remaining hg count
  | _ => exact Nat.zero_le _

@[simp] theorem isLast_cutBy (gates : List Gate) (call : Call) : (call.cutBy gates).isLast = call.isLast := by
  cases call <;> rfl

theorem restore_self_cutBy (gates : List Gate) (call : Call) : call.restore (call.cutBy gates) = call := by
  cases call <;> rfl

/-- A cut makes no difference to what comes back. -/
theorem restore_cutBy (gates : List Gate) (call back : Call) :
    call.restore ((call.cutBy gates).restore back) = call.restore back := by
  cases call <;> cases back <;> rfl

end Call

namespace Gate

/-- A cut makes no difference to what a gate learns. -/
theorem learn_cutBy (g : Gate) (gates : List Gate) (call : Call) (result : Except SinkError Yield) :
    g.learn (call.cutBy gates) result = g.learn call result := by
  cases call <;> rcases result with e | (_ | n | b) <;> rfl

theorem hear_of_isOffer (g : Gate) {call : Call} (h : call.IsOffer) : g.hear call = g := by
  cases call <;> first | rfl | exact absurd h id

theorem planWrite_eq (g : Gate) (size : Nat) (down : Call) :
    g.planWrite size down = if g.hasRoom size then .pass down none else .answer (.error g.refusal) := by
  unfold planWrite
  rw [permit_eq]
  by_cases hroom : g.hasRoom size = true <;> simp [hroom]

theorem planTransfer_eq (g : Gate) {count : UInt64} (hcount : count ≠ 0) (down : UInt64 → Call) :
    g.planTransfer count down =
      if g.hasRoom 1 then .pass (down (cap [g] count)) none else .answer (.error g.refusal) := by
  unfold planTransfer
  rw [if_neg hcount, allow_eq]
  by_cases hroom : g.hasRoom 1 = true <;> simp [hroom, cap]

/-- Several sources pass if there is room for what they hold modulo `2 ^ 64`. -/
theorem plan_writeMany (g : Gate) {sources : List Source} (hmany : 2 ≤ sources.length) :
    g.plan (.writeMany sources) =
      if g.hasRoom ((Source.joined sources).length % UInt64.size) then .pass (.writeMany sources) none
      else .answer (.error g.refusal) := by
  rw [← Source.toNat_total_eq_mod]
  rcases sources with _ | ⟨first, _ | ⟨second, rest⟩⟩
  · cases hmany
  · simp at hmany
  · exact g.planWrite_eq _ _

/-- **What a gate makes of an offer**: with room it passes the offer on, cut to what remains; without, it refuses. -/
theorem plan_offer (g : Gate) {call : Call} (h : call.IsOffer) :
    g.plan call =
      if g.hasRoom call.need then .pass (call.cutBy [g]) none else .answer (.error g.refusal) := by
  cases call with
  | write src =>
    have hlive : src.isEmpty = false := h
    simp only [plan, planSource, hlive, Bool.false_eq_true, if_false]
    exact g.planWrite_eq src.remaining (.write src)
  | writeMany sources =>
    obtain ⟨hmany, hfits⟩ := h
    rw [g.plan_writeMany hmany, Nat.mod_eq_of_lt hfits]
    rfl
  | transferFile file position count => exact g.planTransfer_eq h _
  | transferStream reader count through => exact g.planTransfer_eq h _
  | _ => exact absurd h id

end Gate

/-! ### Charges -/

/-- A count can be told from its yield. -/
theorem map_count_inj {a b : Except SinkError UInt64} (h : a.map Yield.count = b.map Yield.count) : a = b := by
  cases a <;> cases b <;> simp_all [Except.map]

namespace Gate

/-- What gates learn from a count below is what they are charged for. -/
theorem map_learn_count (gates : List Gate) (call : Call) (result : Except SinkError UInt64) :
    gates.map (fun g => g.learn call (result.map .count)) = gates.map (·.spend (UInt64.ofNat (counted result))) := by
  apply List.map_congr_left
  intro g _
  cases result with
  | error e =>
    rw [counted_error, show UInt64.ofNat 0 = 0 from rfl, spend_zero]
    exact g.learn_error call e
  | ok n =>
    rw [counted_ok, UInt64.ofNat_toNat]
    exact g.learn_count call n

/-- Charging for two counts is charging for their sum. -/
theorem spend_spend (g : Gate) {m n : Nat} (h : m + n < UInt64.size) :
    (g.spend (UInt64.ofNat m)).spend (UInt64.ofNat n) = g.spend (UInt64.ofNat (m + n)) := by
  have hm : (UInt64.ofNat m).toNat = m := UInt64.toNat_ofNat_of_lt' (by omega)
  have hn : (UInt64.ofNat n).toNat = n := UInt64.toNat_ofNat_of_lt' (by omega)
  have hsum : (UInt64.ofNat (m + n)).toNat = m + n := UInt64.toNat_ofNat_of_lt' h
  have hremaining : ((g.budget.spend (UInt64.ofNat m)).spend (UInt64.ofNat n)).remaining =
      (g.budget.spend (UInt64.ofNat (m + n))).remaining := by
    rw [← UInt64.toNat_inj, Budget.toNat_remaining_spend, Budget.toNat_remaining_spend,
      Budget.toNat_remaining_spend, hm, hn, hsum]
    omega
  exact congrArg (fun r => { g with budget := { g.budget with remaining := r } }) hremaining

end Gate

end ExactLength
