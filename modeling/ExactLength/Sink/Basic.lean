import ExactLength.Input.File
import ExactLength.Transfer.StreamCopy

/-!
# Sinks

A sink takes bytes and is driven from outside. A write may take fewer bytes than it is offered, also none, and
takes them from the front of its source. What a sink must bring along is a write, a flush and the two ways to end
it: to terminate it, and to truncate it, which gives up whatever is still underway. The other operations have
plain forms built on the write, which a sink may replace.

In the plain forms progress comes before failure: once a byte has been accepted, an error ends the call early with
the count so far.
-/

namespace ExactLength

/-- Writes a list of sources in order, `total` bytes having been accepted before. Stops at the first source that is
not taken whole. -/
def writeEachFrom {σ : Type} (write : Write σ) (sink : σ) (total : UInt64) :
    List Source → Reply (σ × List Source) UInt64
  | [] => .ok total (sink, [])
  | src :: rest =>
    if src.isEmpty then
      (writeEachFrom write sink total rest).mapState fun (sink, rest) => (sink, src :: rest)
    else
      let reply := write sink src
      match reply.result with
      | .error e =>
        ⟨if total = 0 then .error e else .ok total, (reply.state.1, reply.state.2 :: rest), reply.events⟩
      | .ok written =>
        if written.toNat < src.remaining then
          ⟨.ok (total + written), (reply.state.1, reply.state.2 :: rest), reply.events⟩
        else
          ((writeEachFrom write reply.state.1 (total + written) rest).mapState fun (sink, rest) =>
            (sink, reply.state.2 :: rest)).after reply.events

/-- Writes a list of sources in order, one write for each that is not empty. -/
def writeEach {σ : Type} (write : Write σ) (sink : σ) (sources : List Source) :
    Reply (σ × List Source) UInt64 :=
  writeEachFrom write sink 0 sources

/-- Copies from a file, one write for each window that is read. -/
def copyFile {σ : Type} (write : Write σ) (sink : σ) (file : File) (position count : UInt64) :
    Reply (σ × File) UInt64 :=
  FileCopy.run File.readAt write (FileCopy.rounds file.actions.length) sink file position count

/-- The operations of a sink whose state has type `σ`. -/
structure Sink (σ : Type) where
  /-- Writes from a source, and takes from it what was accepted. -/
  write : Write σ
  /-- Flushes, and tells whether everything is flushed. -/
  flush : σ → Reply σ Bool
  /-- Ends the write side in order. -/
  terminate : σ → Reply σ Unit
  /-- Gives the write side up. -/
  truncate : σ → Reply σ Unit
  /-- Writes from several sources in order. -/
  writeMany : σ → List Source → Reply (σ × List Source) UInt64 := writeEach write
  /-- Transfers up to a count of bytes from a file, from a position on. -/
  transferFile : σ → File → (position count : UInt64) → Reply (σ × File) UInt64 := copyFile write
  /-- Transfers up to a count of bytes from a stream, through a buffer. -/
  transferStream : σ → Reader → (count : UInt64) → (through : Bytes) → Reply (σ × Reader × Bytes) UInt64 :=
    StreamCopy.run write
  /-- Whether the driver is to call back when the sink can be written to. -/
  isResumed : σ → Bool × σ := fun sink => (false, sink)
  /-- Asks the driver to call back at once. -/
  wake : σ → σ := id
  /-- Waits until the sink can be written to, at most so many milliseconds. -/
  wait : σ → Option UInt64 → Reply σ Unit := fun sink _ => .ok () sink

namespace Sink

variable {σ : Type} (S : Sink σ)

/-- Goes on after a write of the last data: if everything was taken, the write side is terminated. The count is
the result unless that fails. -/
def endWrite {κ : Type} (drained : κ → Bool) (reply : Reply (σ × κ) UInt64) : Reply (σ × κ) UInt64 :=
  match reply.result with
  | .error _ => reply
  | .ok written =>
    if drained reply.state.2 then
      let ended := S.terminate reply.state.1
      ⟨ended.result.map fun _ => written, (ended.state, reply.state.2), reply.events ++ ended.events⟩
    else reply

/-- Writes from a source that holds the last data, and terminates the write side once the source is empty. -/
def writeLast (sink : σ) (src : Source) : Reply (σ × Source) UInt64 :=
  S.endWrite Source.isEmpty (S.write sink src)

/-- Writes from sources that hold the last data, and terminates the write side once all are empty. -/
def writeManyLast (sink : σ) (sources : List Source) : Reply (σ × List Source) UInt64 :=
  S.endWrite Source.allEmpty (S.writeMany sink sources)

end Sink

end ExactLength
