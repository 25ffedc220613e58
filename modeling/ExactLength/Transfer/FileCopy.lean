import ExactLength.Reply
import ExactLength.Source
import ExactLength.Transfer.Round

/-!
# Copying from a file

The plain way to transfer bytes from a file into a sink, given how the file is read at an offset and how the sink
is written to. Each round reads the next window of the file and writes what it got. The copy ends when it has
reached the count, at the end of the file, after a write that did not take all it was offered, and after an error.
An interrupted read is repeated. Once a byte has been accepted an error only ends the copy, and the count so far
is its result.

The count so far and the offset are kept in sixty-four bits and wrap.
-/

namespace ExactLength

/-- The most bytes that one round of a transfer reads. -/
def windowSize : Nat :=
  16384

/-- The size of the next window when `left` bytes are still to be transferred. -/
def window (left : UInt64) : Nat :=
  min left.toNat windowSize

/-- While the count is not reached something is left to transfer, also in sixty-four bits. -/
theorem toNat_sub_pos {total count : UInt64} (h : total < count) : 0 < (count - total).toNat := by
  have h' := UInt64.lt_iff_toNat_lt.1 h
  rw [UInt64.toNat_sub_of_le _ _ (UInt64.le_iff_toNat_le.2 (by omega))]
  omega

/-- A window is never empty while the count is not reached. -/
theorem window_pos {total count : UInt64} (h : total < count) : 0 < window (count - total) :=
  Nat.lt_min.2 ⟨toNat_sub_pos h, by decide⟩

/-- How a sink is written to. -/
abbrev Write (σ : Type) := σ → Source → Reply (σ × Source) UInt64

/-- How a file is read: at most so many bytes from an offset on. -/
abbrev ReadFrom (φ : Type) := φ → UInt64 → Nat → Except IoError Bytes × φ

/-- A copy from a file under way. -/
structure FileCopy (σ φ : Type) where
  /-- The sink. -/
  sink : σ
  /-- The file. -/
  file : φ
  /-- The number of bytes accepted so far. -/
  total : UInt64
  /-- The events told so far. -/
  events : List Event

namespace FileCopy

variable {σ φ : Type}

/-- Ends the copy with the count so far. -/
def finish (c : FileCopy σ φ) : Reply (σ × φ) UInt64 :=
  ⟨.ok c.total, (c.sink, c.file), c.events⟩

/-- Ends the copy at an error, which shows only if nothing was accepted before. -/
def fail (c : FileCopy σ φ) (e : SinkError) : Reply (σ × φ) UInt64 :=
  ⟨if c.total = 0 then .error e else .ok c.total, (c.sink, c.file), c.events⟩

/-- Writes what was read. -/
def pour (write : Write σ) (c : FileCopy σ φ) (bytes : Bytes) :
    Round (FileCopy σ φ) (Reply (σ × φ) UInt64) :=
  let reply := write c.sink (.ofBytes bytes)
  let c := { c with sink := reply.state.1, events := c.events ++ reply.events }
  match reply.result with
  | .error e => .done (c.fail e)
  | .ok written =>
    let c := { c with total := c.total + written }
    if written.toNat < bytes.length then .done c.finish else .again c

/-- One round of the copy. -/
def round (readAt : ReadFrom φ) (write : Write σ) (position count : UInt64) (c : FileCopy σ φ) :
    Round (FileCopy σ φ) (Reply (σ × φ) UInt64) :=
  if c.total < count then
    let read := readAt c.file (position + c.total) (window (count - c.total))
    let c := { c with file := read.2 }
    match read.1 with
    | .error e => if e.isInterrupted then .again c else .done (c.fail (.io e))
    | .ok [] => .done c.finish
    | .ok bytes => c.pour write bytes
  else .done c.finish

/-- The number of rounds that every copy can do with when the sink reports no more than it was offered: one per
byte, and one per read that is interrupted. -/
def rounds (interruptions : Nat) : Nat :=
  interruptions + UInt64.size

/-- Copies `count` bytes of a file, from `position` on, into a sink. -/
def run (readAt : ReadFrom φ) (write : Write σ) (rounds : Nat) (sink : σ) (file : φ) (position count : UInt64) :
    Reply (σ × φ) UInt64 :=
  (Round.iterate (round readAt write position count) rounds ⟨sink, file, 0, []⟩).resultD finish

end FileCopy

end ExactLength
