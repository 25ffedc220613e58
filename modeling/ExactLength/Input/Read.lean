import ExactLength.Error.Basic
import ExactLength.Source

/-!
# Reading

The inputs of a transfer may be told beforehand how each call of theirs is to go: give fewer bytes than asked for,
or fail. A call that is told nothing reads plainly.
-/

namespace ExactLength

/-- How one read is to go. -/
inductive ReadAction where
  /-- At most so many bytes are read. -/
  | cap (size : Nat)
  /-- The read fails, and takes nothing. -/
  | fail (e : IoError)
  deriving DecidableEq

/-- The bytes of `data` from an offset on, at most `size` of them. Beyond the end there are none. -/
def slice (data : Bytes) (offset : UInt64) (size : Nat) : Bytes :=
  (data.drop offset.toNat).take size

/-- The size that a read is allowed by the next action, or the error it meets, and the actions left. -/
def nextRead (actions : List ReadAction) (size : Nat) : Except IoError Nat × List ReadAction :=
  match actions with
  | [] => (.ok size, [])
  | .cap most :: rest => (.ok (min most size), rest)
  | .fail e :: rest => (.error e, rest)

/-- A stream with a position. -/
structure Reader where
  /-- The bytes not read yet. -/
  unread : Bytes
  /-- How the next reads are to go. -/
  actions : List ReadAction
  /-- The size of the buffer of each read so far. -/
  sizes : List Nat := []
  deriving DecidableEq

/-- Reads at most `size` bytes from a stream. -/
def Reader.read (r : Reader) (size : Nat) : Except IoError Bytes × Reader :=
  let turn := nextRead r.actions size
  let asked := { r with actions := turn.2, sizes := r.sizes ++ [size] }
  match turn.1 with
  | .ok n => (.ok (r.unread.take n), { asked with unread := r.unread.drop n })
  | .error e => (.error e, asked)

/-! ### What a read takes -/

theorem length_nextRead_le (actions : List ReadAction) (size : Nat) :
    (nextRead actions size).2.length ≤ actions.length := by
  rcases actions with _ | ⟨_ | _, rest⟩ <;> simp [nextRead]

theorem length_nextRead_of_error {actions : List ReadAction} {size : Nat} {e : IoError}
    (h : (nextRead actions size).1 = .error e) : (nextRead actions size).2.length + 1 = actions.length := by
  rcases actions with _ | ⟨_ | _, rest⟩ <;> simp_all [nextRead]

theorem nextRead_le {actions : List ReadAction} {size n : Nat} (h : (nextRead actions size).1 = .ok n) :
    n ≤ size := by
  rcases actions with _ | ⟨_ | _, rest⟩ <;> simp [nextRead] at h <;> omega

/-- The front of what a read got is what a shorter read gets. -/
theorem eq_slice_of_prefix {data bytes : Bytes} {offset : UInt64} {size : Nat}
    (h : bytes <+: slice data offset size) : bytes = slice data offset bytes.length :=
  List.prefix_iff_eq_take.1 (h.trans (List.take_prefix _ _))

theorem length_slice_le (data : Bytes) (offset : UInt64) (size : Nat) : (slice data offset size).length ≤ size :=
  List.length_take_le _ _

namespace Reader

/-- A read that succeeds takes its bytes from the front. -/
theorem append_unread_of_read_ok {r : Reader} {size : Nat} {bytes : Bytes} (h : (r.read size).1 = .ok bytes) :
    bytes ++ (r.read size).2.unread = r.unread := by
  unfold read at h ⊢
  dsimp only at h ⊢
  split at h <;> simp_all
  rw [← h, List.take_append_drop]

/-- A read gets no more than it asks for. -/
theorem length_le_of_read_ok {r : Reader} {size : Nat} {bytes : Bytes} (h : (r.read size).1 = .ok bytes) :
    bytes.length ≤ size := by
  unfold read at h
  dsimp only at h
  split at h
  · next n hn =>
    cases h
    exact Nat.le_trans (List.length_take_le _ _) (nextRead_le hn)
  · cases h

/-- A read that fails takes nothing. -/
theorem unread_of_read_error {r : Reader} {size : Nat} {e : IoError} (h : (r.read size).1 = .error e) :
    (r.read size).2.unread = r.unread := by
  unfold read at h ⊢
  dsimp only at h ⊢
  split at h <;> simp_all

theorem length_actions_read_le (r : Reader) (size : Nat) :
    (r.read size).2.actions.length ≤ r.actions.length := by
  have := length_nextRead_le r.actions size
  unfold read
  dsimp only
  split <;> exact this

/-- A read that fails uses up an action. -/
theorem length_actions_of_read_error {r : Reader} {size : Nat} {e : IoError}
    (h : (r.read size).1 = .error e) : (r.read size).2.actions.length + 1 = r.actions.length := by
  unfold read at h ⊢
  dsimp only at h ⊢
  split at h
  · simp at h
  · next heq => simpa [heq] using length_nextRead_of_error heq

end Reader

end ExactLength
