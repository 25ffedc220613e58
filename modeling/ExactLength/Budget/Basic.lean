import ExactLength.Error.Basic

/-!
# The write budget

The budget of one cycle: how many bytes may still be written, and how far the cycle has come. A cycle is open at
first; a shutdown is requested of it; it ends, and then nothing more passes. `finished` is raised once, by the flush
that completes a cycle with nothing left to write. A cycle that is closed with bytes owed ends without it.

A budget does no work of its own. Whoever writes asks it first (`permit`, `allow`), writes, and then tells it what
was accepted (`spend`), how a flush ended (`settle`), or that the cycle is to end (`close`, `giveUp`).
-/

namespace ExactLength

/-- The largest content length: sixty bits. -/
def maxContentLength : UInt64 :=
  0xFFFFFFFFFFFFFFF

/-- A content length is refused when it exceeds the largest one. -/
def checkLength (length : UInt64) : Except SinkError Unit :=
  if length > maxContentLength then .error (.invalidArgument .tooLong) else .ok ()

theorem checkLength_eq_ok_iff {length : UInt64} : checkLength length = .ok () ↔ length ≤ maxContentLength := by
  unfold checkLength
  split
  · next h => simpa using h
  · next h => simpa using h

theorem toNat_min (a b : UInt64) : (min a b).toNat = min a.toNat b.toNat := by
  rw [show min a b = if a ≤ b then a else b from rfl]
  split
  · next h => exact (Nat.min_eq_left (UInt64.le_iff_toNat_le.1 h)).symm
  · next h => exact (Nat.min_eq_right (Nat.le_of_not_le (mt UInt64.le_iff_toNat_le.2 h))).symm

/-- What may still be written in a cycle, and how far the cycle has come. -/
structure Budget where
  /-- The number of bytes that may still be written. -/
  remaining : UInt64
  /-- A shutdown was requested. -/
  closing : Bool
  /-- The cycle is over: no write and no wake-up passes any more. -/
  ended : Bool
  /-- Completion was signalled in this cycle. -/
  finished : Bool
  deriving DecidableEq

/-- What a request for shutdown comes to. -/
inductive Shutdown where
  /-- It was requested before. -/
  | repeated
  /-- Nothing is owed. -/
  | clean
  /-- Bytes were still owed, and the cycle is over. -/
  | short (remaining : UInt64)
  deriving DecidableEq

namespace Budget

/-- An open cycle of the given length. -/
def fresh (length : UInt64) : Budget where
  remaining := length
  closing := false
  ended := false
  finished := false

/-- An open cycle of the given length, if the length is acceptable. -/
def ofLength (length : UInt64) : Except SinkError Budget := do
  checkLength length
  return fresh length

/-- A new cycle once the present one is complete. -/
def renew (b : Budget) (length : UInt64) : Except SinkError Budget :=
  if b.ended then ofLength length else .error (.invalidArgument .cycleOpen)

/-- Whether a write of `length` bytes is allowed: all of it or nothing. A requested shutdown is named before an
excess. -/
def permit (b : Budget) (length : Nat) : Except SinkError Unit :=
  if b.closing then .error .closedChannel
  else if length > b.remaining.toNat then .error .overflow
  else .ok ()

/-- How many bytes of a transfer of `count` bytes are allowed. A transfer is cut to what remains, and exceeds the
budget only when nothing remains. -/
def allow (b : Budget) (count : UInt64) : Except SinkError UInt64 :=
  if b.closing then .error .closedChannel
  else if b.remaining = 0 then .error .overflow
  else .ok (min count b.remaining)

/-- Accounts for bytes that were accepted. A report beyond what remains leaves nothing. -/
def spend (b : Budget) (written : UInt64) : Budget :=
  { b with remaining := if written ≤ b.remaining then b.remaining - written else 0 }

/-- Accounts for a flush, and tells whether it is the one that completes the cycle with every byte written. -/
def settle (b : Budget) (flushed : Bool) : Bool × Budget :=
  if flushed && (b.closing || b.remaining == 0) then
    if !b.finished && b.remaining == 0 then
      (true, { b with ended := true, finished := true })
    else
      (false, { b with ended := true })
  else
    (false, b)

/-- Requests a shutdown. With bytes still owed the cycle is over at once. -/
def close (b : Budget) : Shutdown × Budget :=
  if b.closing then (.repeated, b)
  else if b.remaining > 0 then
    (.short b.remaining, { b with closing := true, ended := true })
  else (.clean, { b with closing := true })

/-- Ends the cycle without completing it. -/
def giveUp (b : Budget) : Budget :=
  { b with closing := true, ended := true }

/-! ### What each operation does to the fields -/

theorem ofLength_eq_ok_iff {length : UInt64} {b : Budget} :
    ofLength length = .ok b ↔ length ≤ maxContentLength ∧ b = fresh length := by
  rw [← checkLength_eq_ok_iff]
  unfold ofLength
  cases checkLength length <;> simp [bind, Except.bind, pure, Except.pure, eq_comm]

theorem renew_eq_ok_iff {b b' : Budget} {length : UInt64} :
    b.renew length = .ok b' ↔ b.ended = true ∧ length ≤ maxContentLength ∧ b' = fresh length := by
  unfold renew
  cases b.ended <;> simp [ofLength_eq_ok_iff]

theorem le_remaining_of_permit {b : Budget} {length : Nat} (h : b.permit length = .ok ()) :
    length ≤ b.remaining.toNat := by
  unfold permit at h
  split at h
  · cases h
  · split at h
    · cases h
    · omega

/-- A write is refused for a reason of the budget's own. -/
theorem ne_io_of_permit {b : Budget} {size : Nat} {e : SinkError} (h : b.permit size = .error e) :
    ∀ cause, e ≠ .io cause := by
  unfold permit at h
  split at h
  · cases h
    intro cause hio
    cases hio
  · split at h <;> cases h
    intro cause hio
    cases hio

theorem allow_le {b : Budget} {count allowed : UInt64} (h : b.allow count = .ok allowed) :
    allowed.toNat ≤ count.toNat ∧ allowed.toNat ≤ b.remaining.toNat := by
  unfold allow at h
  split at h
  · cases h
  · split at h
    · cases h
    · cases h
      rw [toNat_min]
      exact ⟨Nat.min_le_left _ _, Nat.min_le_right _ _⟩

theorem toNat_remaining_spend (b : Budget) (n : UInt64) :
    (b.spend n).remaining.toNat = b.remaining.toNat - n.toNat := by
  unfold spend
  split
  · next h => exact UInt64.toNat_sub_of_le _ _ h
  · next h =>
    rw [UInt64.le_iff_toNat_le] at h
    show 0 = _
    omega

@[simp] theorem spend_zero (b : Budget) : b.spend 0 = b := by
  unfold spend
  rw [if_pos UInt64.zero_le, UInt64.sub_zero]

/-- A flush completes a cycle in which nothing remains and completion was not signalled. -/
theorem settle_fst (b : Budget) (flushed : Bool) :
    (b.settle flushed).1 = (flushed && b.remaining == 0 && !b.finished) := by
  unfold settle
  cases flushed <;> cases b.closing <;> cases b.finished <;> cases b.remaining == 0 <;> rfl

@[simp] theorem remaining_settle (b : Budget) (flushed : Bool) :
    (b.settle flushed).2.remaining = b.remaining := by
  unfold settle
  split
  · split <;> rfl
  · rfl

@[simp] theorem closing_settle (b : Budget) (flushed : Bool) : (b.settle flushed).2.closing = b.closing := by
  unfold settle
  split
  · split <;> rfl
  · rfl

theorem ended_settle (b : Budget) (flushed : Bool) :
    (b.settle flushed).2.ended = (b.ended || flushed && (b.closing || b.remaining == 0)) := by
  unfold settle
  split
  · next h => rw [h, Bool.or_true]; split <;> rfl
  · next h => rw [Bool.eq_false_iff.2 h, Bool.or_false]

theorem finished_settle (b : Budget) (flushed : Bool) :
    (b.settle flushed).2.finished = (b.finished || flushed && b.remaining == 0) := by
  unfold settle
  cases flushed <;> cases b.closing <;> cases hf : b.finished <;> cases b.remaining == 0 <;> simp [hf]

theorem close_of_closing {b : Budget} (h : b.closing = true) : b.close = (.repeated, b) := by
  simp [close, h]

theorem close_of_clean {b : Budget} (h : b.closing = false) (hr : b.remaining = 0) :
    b.close = (.clean, { b with closing := true }) := by
  simp [close, h, hr]

theorem close_of_short {b : Budget} (h : b.closing = false) (hr : 0 < b.remaining) :
    b.close = (.short b.remaining, b.giveUp) := by
  simp [close, giveUp, h, hr]

/-- A request is repeated if there was one before. -/
theorem close_fst_eq_repeated_iff {b : Budget} : b.close.1 = .repeated ↔ b.closing = true := by
  unfold close
  split
  · next h => simp [h]
  · next h => split <;> simp [h]

/-- A repeated request changes nothing. -/
theorem close_snd_of_repeated {b : Budget} (h : b.close.1 = .repeated) : b.close.2 = b := by
  rw [close_of_closing (close_fst_eq_repeated_iff.1 h)]

@[simp] theorem remaining_close (b : Budget) : b.close.2.remaining = b.remaining := by
  unfold close
  split
  · rfl
  · split <;> rfl

@[simp] theorem closing_close (b : Budget) : b.close.2.closing = true := by
  unfold close
  split
  · assumption
  · split <;> rfl

theorem ended_close (b : Budget) : b.close.2.ended = (b.ended || !b.closing && decide (0 < b.remaining)) := by
  unfold close
  cases b.closing
  · by_cases h : 0 < b.remaining <;> simp [h]
  · simp

@[simp] theorem finished_close (b : Budget) : b.close.2.finished = b.finished := by
  unfold close
  split
  · rfl
  · split <;> rfl

end Budget

end ExactLength
