import ExactLength.Sink.Basic
import ExactLength.Text.Outline

/-!
# Outlets

A device takes runs of bytes: it can write one run, write several at once, and flush. An outlet makes a sink of a
device. It remembers whether the write side was shut down, after which it writes no more, and whether writes are
resumed.

An error that only means "not yet" is no failure of an outlet: the write took nothing, or the flush is not complete.

A write of several sources offers the device the first chunks of the sources in order. A source with more than one
chunk is the last one offered, since the bytes of the next source come after all of its bytes.
-/

namespace ExactLength

/-- The operations of a device whose state has type `ω`. A write reports how many bytes it took. -/
structure Device (ω : Type) where
  /-- Writes from a run of bytes. -/
  write : ω → Bytes → Except IoError UInt64 × ω
  /-- Writes from several runs of bytes in order. -/
  writeMany : ω → List Bytes → Except IoError UInt64 × ω
  /-- Flushes. -/
  flush : ω → Except IoError Unit × ω

/-- A device in use as a sink. -/
structure Outlet (ω : Type) where
  /-- The device. -/
  device : ω
  /-- The write side was terminated or truncated. -/
  shutDown : Bool
  /-- Writes are resumed. -/
  resumed : Bool
  deriving DecidableEq

/-- The result of a device, where "not yet" counts as the given value. -/
def orNotYet {α : Type} (notYet : α) : Except IoError α → Except SinkError α
  | .ok value => .ok value
  | .error e => if e.isRetryable then .ok notYet else .error (.io e)

/-- The number of bytes that a device took: none, if it failed. -/
def taken : Except IoError UInt64 → Nat
  | .ok count => count.toNat
  | .error _ => 0

namespace Outlet

variable {ω : Type}

/-- An outlet over a device, open and not resumed. -/
def ofDevice (device : ω) : Outlet ω where
  device := device
  shutDown := false
  resumed := false

/-- Marks writes as resumed. -/
def resume (o : Outlet ω) : Outlet ω :=
  { o with resumed := true }

/-- Marks writes as suspended. -/
def suspend (o : Outlet ω) : Outlet ω :=
  { o with resumed := false }

/-- Whether the driver is to call back when the outlet can be written to. -/
def isResumed (o : Outlet ω) : Bool :=
  o.resumed && !o.shutDown

/-- The runs of bytes that a write of several sources offers the device. -/
def gather : List Source → List Bytes
  | [] => []
  | src :: rest =>
    if src.isEmpty then gather rest
    else if src.chunk.length < src.remaining then [src.chunk]
    else src.chunk :: gather rest

/-- Takes `left` bytes from the sources in order, from the first chunk of each. -/
def spread (left : Nat) : List Source → List Source
  | [] => []
  | src :: rest =>
    if left = 0 then src :: rest
    else
      let step := min left src.chunk.length
      src.advance step :: spread (left - step) rest

variable (D : Device ω)

/-- A write of one source: the device is offered its first chunk. -/
def write (o : Outlet ω) (src : Source) : Reply (Outlet ω × Source) UInt64 :=
  if src.isEmpty then .ok 0 (o, src)
  else if o.shutDown then .error .closedChannel (o, src)
  else
    let reply := D.write o.device src.chunk
    ⟨orNotYet 0 reply.1, ({ o with device := reply.2 }, src.advance (taken reply.1)), []⟩

/-- A write of several sources. -/
def writeMany (o : Outlet ω) (sources : List Source) : Reply (Outlet ω × List Source) UInt64 :=
  if o.shutDown then .error .closedChannel (o, sources)
  else
    match gather sources with
    | [] => .ok 0 (o, sources)
    | runs =>
      let reply := D.writeMany o.device runs
      ⟨orNotYet 0 reply.1, ({ o with device := reply.2 }, spread (taken reply.1) sources), []⟩

/-- A flush, complete unless the device is not ready. -/
def flush (o : Outlet ω) : Reply (Outlet ω) Bool :=
  let reply := D.flush o.device
  ⟨orNotYet false (reply.1.map fun _ => true), { o with device := reply.2 }, []⟩

/-- The end of the write side: the first time, the device is flushed. -/
def terminate (o : Outlet ω) : Reply (Outlet ω) Unit :=
  if o.shutDown then .ok () o
  else
    let flushed := flush D { o with shutDown := true }
    ⟨flushed.result.map fun _ => (), flushed.state, flushed.events⟩

/-- Giving the write side up. -/
def truncate (o : Outlet ω) : Reply (Outlet ω) Unit :=
  .ok () { o with shutDown := true }

/-- The outline of an outlet, given that of its device. -/
def outline (ofDevice : ω → Text.Outline) (o : Outlet ω) : Text.Outline :=
  .record "IoSink" [("inner", ofDevice o.device), ("shut_down", .ofBool o.shutDown),
    ("resumed", .ofBool o.resumed)]

end Outlet

/-- The sink made of a device. -/
def Device.sink {ω : Type} (D : Device ω) : Sink (Outlet ω) where
  write := Outlet.write D
  flush := Outlet.flush D
  terminate := Outlet.terminate D
  truncate := Outlet.truncate
  writeMany := Outlet.writeMany D
  isResumed o := (o.isResumed, o)
  wake := Outlet.resume

end ExactLength
