import ExactLength.Proofs.Gate.Exchange

/-!
# Cycles of a gate

A `Cycle` is a gate at the start of a cycle together with its exchanges since. `Cycle.Sound` states that this
history determines the budget: what remains is the length less the counts reported below, and a shutdown was
requested, the cycle is over, or it is complete, exactly when the history shows why. It holds at the start of a
cycle and is kept by everything that may happen to a gate (`Cycle.Sound.next`).

The completion hook runs in one exchange of a cycle at most, the first that completes it
(`Cycle.Sound.completions_exchange`).
-/

namespace ExactLength

/-- What may happen to a gate. -/
inductive Episode where
  /-- It hears a call. -/
  | exchange (x : Exchange)
  /-- A new cycle starts, after a check that the one before is over, or without. -/
  | cycle (length : UInt64) (passesClose checked : Bool)

namespace Gate

/-- The gate after an episode. -/
def live (g : Gate) : Episode → Gate
  | .exchange x => g.react x
  | .cycle length passesClose _ => g.restart length passesClose

/-- The episode is one that the gate may live through. -/
def Meets (g : Gate) : Episode → Prop
  | .exchange x => g.Hears x
  | .cycle length _ checked => checked = true → g.budget.ended = true ∧ length ≤ maxContentLength

/-- The episodes, one after the other, are such that the gate may live through them. -/
def MeetsAll (g : Gate) : List Episode → Prop
  | [] => True
  | e :: rest => g.Meets e ∧ (g.live e).MeetsAll rest

theorem meetsAll_append {g : Gate} {first rest : List Episode} :
    g.MeetsAll (first ++ rest) ↔ g.MeetsAll first ∧ (first.foldl live g).MeetsAll rest := by
  induction first generalizing g with
  | nil => simp [MeetsAll]
  | cons e first ih => simp [MeetsAll, ih, and_assoc]

/-- A later stand of a gate in the same cycle: no more remains, and no flag is cleared. -/
structure Follows (g g' : Gate) : Prop where
  /-- No more remains. -/
  remaining : g'.budget.remaining ≤ g.budget.remaining
  /-- A requested shutdown stays requested. -/
  closing : g.budget.closing = true → g'.budget.closing = true
  /-- A cycle that is over stays over. -/
  ended : g.budget.ended = true → g'.budget.ended = true
  /-- A completed cycle stays completed. -/
  finished : g.budget.finished = true → g'.budget.finished = true

theorem Follows.refl (g : Gate) : g.Follows g :=
  ⟨UInt64.le_refl _, id, id, id⟩

theorem Follows.trans {g g' g'' : Gate} (h : g.Follows g') (h' : g'.Follows g'') : g.Follows g'' :=
  ⟨UInt64.le_trans h'.remaining h.remaining, h'.closing ∘ h.closing, h'.ended ∘ h.ended, h'.finished ∘ h.finished⟩

theorem follows_react (g : Gate) (x : Exchange) : g.Follows (g.react x) where
  remaining := by
    rw [UInt64.le_iff_toNat_le, toNat_remaining_react]
    exact Nat.sub_le _ _
  closing h := (closing_react g x).2 (Or.inl h)
  ended h := (ended_react g x).2 (Or.inl h)
  finished h := (finished_react g x).2 (Or.inl h)

end Gate

/-- What a gate has gone through since its present cycle started. -/
structure Cycle where
  /-- The gate as it stood at the start. -/
  start : Gate
  /-- The start was checked. -/
  checked : Bool
  /-- The exchanges since, the oldest first. -/
  past : List Exchange

namespace Cycle

/-- The length of the cycle. -/
def length (c : Cycle) : UInt64 :=
  c.start.budget.remaining

/-- The gate as it stands now. -/
def gate (c : Cycle) : Gate :=
  c.past.foldl Gate.react c.start

/-- The cycle that the gate is in after an episode. -/
def next (c : Cycle) : Episode → Cycle
  | .exchange x => { c with past := c.past ++ [x] }
  | .cycle length passesClose checked => ⟨c.gate.restart length passesClose, checked, []⟩

/-- The cycle that the gate is in after a number of episodes. -/
def follow (c : Cycle) (episodes : List Episode) : Cycle :=
  episodes.foldl next c

@[simp] theorem gate_next (c : Cycle) (e : Episode) : (c.next e).gate = c.gate.live e := by
  cases e with
  | exchange x => simp [next, gate, Gate.live]
  | cycle length passesClose checked => rfl

theorem gate_follow (c : Cycle) (episodes : List Episode) :
    (c.follow episodes).gate = episodes.foldl Gate.live c.gate := by
  induction episodes generalizing c with
  | nil => rfl
  | cons e rest ih =>
    rw [List.foldl_cons, ← gate_next]
    exact ih (c.next e)

/-- The history of the cycle determines the gate's budget. -/
structure Sound (c : Cycle) : Prop where
  /-- The cycle started afresh. -/
  fresh : c.start.budget = Budget.fresh c.length
  /-- A checked cycle is no longer than a cycle may be. -/
  length_le : c.checked = true → c.length ≤ maxContentLength
  /-- What remains is the length less what was reported below, or nothing. -/
  remaining : c.gate.budget.remaining.toNat = c.length.toNat - reported c.past
  /-- A shutdown is requested once it was asked for, or the gate truncated. -/
  closing : c.gate.budget.closing = true ↔ ∃ x ∈ c.past, x.IsRequest
  /-- The cycle is over once something ended it. -/
  ended : c.gate.budget.ended = true ↔ Sometime (Ends c.length.toNat) c.past
  /-- The cycle is complete once something completed it. -/
  finished : c.gate.budget.finished = true ↔ Sometime (Completes c.length.toNat) c.past
  /-- The completion hook ran once if the cycle is complete, and not otherwise. -/
  completions : c.gate.completions = c.start.completions + if c.gate.budget.finished = true then 1 else 0

namespace Sound

variable {c : Cycle}

theorem remaining_eq_zero_iff (h : c.Sound) :
    c.gate.budget.remaining = 0 ↔ c.length.toNat ≤ reported c.past := by
  rw [← UInt64.toNat_inj, h.remaining]
  show c.length.toNat - reported c.past = 0 ↔ _
  omega

theorem remaining_pos_iff (h : c.Sound) :
    0 < c.gate.budget.remaining ↔ reported c.past < c.length.toNat := by
  rw [UInt64.lt_iff_toNat_lt, h.remaining]
  show 0 < c.length.toNat - reported c.past ↔ _
  omega

/-- A completed cycle has nothing left. -/
theorem remaining_of_finished (h : c.Sound) (hf : c.gate.budget.finished = true) :
    c.gate.budget.remaining = 0 := by
  obtain ⟨before, x, after, hpast, -, hle, -⟩ := h.finished.1 hf
  rw [h.remaining_eq_zero_iff, hpast, reported_append]
  omega

/-- A completed cycle is over. -/
theorem ended_of_finished (h : c.Sound) (hf : c.gate.budget.finished = true) : c.gate.budget.ended = true :=
  h.ended.2 ((h.finished.1 hf).mono fun _ _ hx => Or.inl ⟨hx.1, hx.2.1⟩)

/-- A cycle that is over without a request for shutdown is completed. -/
theorem finished_of_ended (h : c.Sound) (he : c.gate.budget.ended = true) (hc : c.gate.budget.closing = false) :
    c.gate.budget.finished = true := by
  have hnone : ∀ x ∈ c.past, ¬ x.IsRequest := fun x hx hr => by
    rw [h.closing.2 ⟨x, hx, hr⟩] at hc
    cases hc
  obtain ⟨before, x, after, hpast, hx | hx⟩ := h.ended.1 he
  · refine h.finished.2 ⟨before, x, after, hpast, hx.1, hx.2, ?_⟩
    rintro ⟨before', y, after', rfl, hy⟩
    exact hnone y (by simp [hpast]) (isRequest_of_spoils hy)
  · exact absurd (isRequest_of_spoils hx) (hnone x (by simp [hpast]))

/-- A shutdown with bytes owed ends the cycle. -/
theorem ended_of_closing (h : c.Sound) (hc : c.gate.budget.closing = true) (hr : 0 < c.gate.budget.remaining) :
    c.gate.budget.ended = true := by
  obtain ⟨x, hx, hreq⟩ := h.closing.1 hc
  obtain ⟨before, after, hpast⟩ := List.append_of_mem hx
  have hlt := h.remaining_pos_iff.1 hr
  rw [hpast, reported_append] at hlt
  refine h.ended.2 ⟨before, x, after, hpast, Or.inr ?_⟩
  rcases hreq with hterm | htrunc
  · exact Or.inr ⟨hterm, by omega⟩
  · exact Or.inl htrunc

/-- A cycle that was spoilt is over. -/
theorem ended_of_spoils (h : c.Sound) (hs : Sometime (Spoils c.length.toNat) c.past) :
    c.gate.budget.ended = true :=
  h.ended.2 (hs.mono fun _ _ => Or.inr)

/-- A flush that is passed on finds nothing owed by a gate that is closing. -/
theorem remaining_of_isFlushed (h : c.Sound) {x : Exchange} (hx : c.gate.Hears x) (hfl : x.IsFlushed)
    (hc : c.gate.budget.closing = true) : c.gate.budget.remaining = 0 := by
  by_cases hr : 0 < c.gate.budget.remaining
  · have hended := h.ended_of_closing hc hr
    rw [Gate.not_ended_of_isFlushed hx hfl] at hended
    cases hended
  · exact UInt64.le_antisymm (UInt64.not_lt.1 hr) UInt64.zero_le

theorem ended_exchange (h : c.Sound) {x : Exchange} (hx : c.gate.Hears x) :
    (c.gate.react x).budget.ended = true ↔ Sometime (Ends c.length.toNat) (c.past ++ [x]) := by
  rw [Gate.ended_react, sometime_concat, ← h.ended]
  constructor
  · rintro (he | ⟨hfl, hc | hr⟩ | htrunc | ⟨hterm, -, hr⟩)
    · exact Or.inl he
    · exact Or.inr (Or.inl ⟨hfl, h.remaining_eq_zero_iff.1 (h.remaining_of_isFlushed hx hfl hc)⟩)
    · exact Or.inr (Or.inl ⟨hfl, h.remaining_eq_zero_iff.1 hr⟩)
    · exact Or.inr (Or.inr (Or.inl htrunc))
    · exact Or.inr (Or.inr (Or.inr ⟨hterm, h.remaining_pos_iff.1 hr⟩))
  · rintro (he | ⟨hfl, hle⟩ | htrunc | ⟨hterm, hlt⟩)
    · exact Or.inl he
    · exact Or.inr (Or.inl ⟨hfl, Or.inr (h.remaining_eq_zero_iff.2 hle)⟩)
    · exact Or.inr (Or.inr (Or.inl htrunc))
    · have hr := h.remaining_pos_iff.2 hlt
      by_cases hc : c.gate.budget.closing = true
      · exact Or.inl (h.ended_of_closing hc hr)
      · exact Or.inr (Or.inr (Or.inr ⟨hterm, Bool.eq_false_iff.2 hc, hr⟩))

/-- A flush completes the cycle below if and only if it finds nothing owed: had the cycle been spoilt, it would not
have been passed on. -/
theorem completes_iff (h : c.Sound) {x : Exchange} (hx : c.gate.Hears x) :
    Completes c.length.toNat c.past x ↔ x.IsFlushed ∧ c.gate.budget.remaining = 0 := by
  rw [h.remaining_eq_zero_iff]
  constructor
  · rintro ⟨hfl, hle, -⟩
    exact ⟨hfl, hle⟩
  · rintro ⟨hfl, hle⟩
    refine ⟨hfl, hle, fun hspoilt => ?_⟩
    have hended := h.ended_of_spoils hspoilt
    rw [Gate.not_ended_of_isFlushed hx hfl] at hended
    cases hended

theorem finished_exchange (h : c.Sound) {x : Exchange} (hx : c.gate.Hears x) :
    (c.gate.react x).budget.finished = true ↔ Sometime (Completes c.length.toNat) (c.past ++ [x]) := by
  rw [Gate.finished_react, sometime_concat, h.finished, h.completes_iff hx]

/-- The completion hook runs in the first exchange that completes the cycle, and in no other. -/
theorem completions_exchange (h : c.Sound) {x : Exchange} (hx : c.gate.Hears x) :
    ((c.gate.react x).completions = c.gate.completions + 1 ↔
        Completes c.length.toNat c.past x ∧ ¬ Sometime (Completes c.length.toNat) c.past) ∧
      ((c.gate.react x).completions = c.gate.completions + 1 ∨
        (c.gate.react x).completions = c.gate.completions) := by
  have hfin := h.finished_exchange hx
  rw [sometime_concat, ← h.finished] at hfin
  rw [Gate.completions_react, ← h.finished]
  cases hf : c.gate.budget.finished <;> by_cases hc : Completes c.length.toNat c.past x <;> simp_all

/-- The history keeps determining the budget. -/
theorem exchange (h : c.Sound) {x : Exchange} (hx : c.gate.Hears x) : (c.next (.exchange x)).Sound where
  fresh := h.fresh
  length_le := h.length_le
  remaining := by
    rw [gate_next, Gate.live, Gate.toNat_remaining_react, h.remaining]
    show _ = c.length.toNat - reported (c.past ++ [x])
    rw [reported_append, Nat.sub_add_eq]
    simp [reported]
  closing := by
    rw [gate_next, Gate.live, Gate.closing_react, h.closing]
    simp only [next, List.mem_append, List.mem_singleton]
    constructor
    · rintro (⟨y, hy, hreq⟩ | hreq)
      · exact ⟨y, Or.inl hy, hreq⟩
      · exact ⟨x, Or.inr rfl, hreq⟩
    · rintro ⟨y, hy | rfl, hreq⟩
      · exact Or.inl ⟨y, hy, hreq⟩
      · exact Or.inr hreq
  ended := by
    rw [gate_next]
    exact h.ended_exchange hx
  finished := by
    rw [gate_next]
    exact h.finished_exchange hx
  completions := by
    rw [gate_next, Gate.live, Gate.completions_react, h.completions]
    show _ = c.start.completions + _
    have hmono := (c.gate.follows_react x).finished
    cases hf : c.gate.budget.finished <;> cases hf' : (c.gate.react x).budget.finished <;> simp_all

/-- A gate at the start of a cycle. -/
theorem start {g : Gate} {checked : Bool} {length : UInt64} (hg : g.budget = Budget.fresh length)
    (hle : checked = true → length ≤ maxContentLength) : Sound ⟨g, checked, []⟩ where
  fresh := by simp [Cycle.length, hg, Budget.fresh]
  length_le hc := by simpa [Cycle.length, hg, Budget.fresh] using hle hc
  remaining := by simp [gate, Cycle.length]
  closing := by simp [gate, hg, Budget.fresh]
  ended := by simp [gate, hg, Budget.fresh, not_sometime_nil]
  finished := by simp [gate, hg, Budget.fresh, not_sometime_nil]
  completions := by simp [gate, hg, Budget.fresh]

theorem next (h : c.Sound) {e : Episode} (he : c.gate.Meets e) : (c.next e).Sound := by
  cases e with
  | exchange x => exact h.exchange he
  | cycle length passesClose checked => exact start rfl fun hc => (he hc).2

/-- The history determines the budget in whatever cycle the gate gets to. -/
theorem follow (h : c.Sound) {episodes : List Episode} (he : c.gate.MeetsAll episodes) :
    (c.follow episodes).Sound := by
  induction episodes generalizing c with
  | nil => exact h
  | cons e rest ih =>
    obtain ⟨hfirst, hrest⟩ := he
    rw [← gate_next] at hrest
    exact ih (h.next hfirst) hrest

end Sound

end Cycle

/-- A gate as it is made. -/
def Gate.IsNew (g : Gate) : Prop :=
  ∃ config hooked, Gate.ofConfig config hooked = .ok g

theorem Gate.IsNew.sound {g : Gate} (h : g.IsNew) : Cycle.Sound ⟨g, true, []⟩ := by
  obtain ⟨config, hooked, h⟩ := h
  obtain ⟨hle, rfl⟩ := Gate.ofConfig_eq_ok_iff.1 h
  exact Cycle.Sound.start rfl fun _ => hle

end ExactLength
