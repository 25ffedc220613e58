import ExactLength.Input.Read
import ExactLength.Transfer.FileCopy

/-!
# Files

A file is read at an absolute offset, without a position of its own. Besides plain data there are files whose
reads go as they were told to, and relays: a relay answers a read by copying from the file behind it, through
as many stages as it has.
-/

namespace ExactLength

/-- A file. -/
inductive File where
  /-- Bytes that are read plainly. -/
  | plain (data : Bytes)
  /-- Bytes that are read through a number of stages, each of which copies from the one before. -/
  | relay (stages : Nat) (data : Bytes)
  /-- Bytes whose next reads go as told; `reads` holds the offset and the size of each read so far. -/
  | scripted (data : Bytes) (actions : List ReadAction) (reads : List (UInt64 × Nat))
  deriving DecidableEq

/-- Writing into memory: all that is shown is taken. -/
def collect : Write Bytes := fun stored source =>
  .ok (UInt64.ofNat source.chunk.length) (stored ++ source.chunk, source.advance source.chunk.length)

/-- What a relay of the given number of stages reads. Each stage copies from the one before into memory. -/
def relayRead (data : Bytes) : Nat → UInt64 → Nat → Bytes
  | 0, offset, size => slice data offset size
  | stages + 1, offset, size =>
    let readAt : ReadFrom Unit := fun _ offset size => (.ok (relayRead data stages offset size), ())
    (FileCopy.run readAt collect (FileCopy.rounds 0) [] () offset (UInt64.ofNat size)).state.1

namespace File

/-- The bytes of a file. -/
def data : File → Bytes
  | plain data => data
  | relay _ data => data
  | scripted data _ _ => data

/-- How the next reads of a file are to go. -/
def actions : File → List ReadAction
  | scripted _ actions _ => actions
  | _ => []

/-- The offset and the size of each read so far, where they are kept. -/
def reads : File → List (UInt64 × Nat)
  | scripted _ _ reads => reads
  | _ => []

/-- Reads at most `size` bytes from an offset on. -/
def readAt (f : File) (offset : UInt64) (size : Nat) : Except IoError Bytes × File :=
  match f with
  | plain data => (.ok (slice data offset size), f)
  | relay stages data => (.ok (relayRead data stages offset size), f)
  | scripted data actions reads =>
    let turn := nextRead actions size
    (turn.1.map (slice data offset), .scripted data turn.2 (reads ++ [(offset, size)]))

end File

end ExactLength
