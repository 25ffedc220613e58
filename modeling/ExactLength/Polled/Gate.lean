import ExactLength.Gate.Basic
import ExactLength.Polled.Device

/-!
# A gate over a polled device

A gate in front of a polled device is a polled device again. It asks the same budget the same questions as over a
sink, and reports a refusal as an I/O error that carries it. A pending answer from below leaves the gate as it is.

To close a gate is one operation that may take several polls: the shutdown is requested, everything is flushed,
and what lies below is closed if the gate passes that on. Each poll starts over: the request stands, a flush that
ended the cycle is not repeated, and the close below is polled again. Bytes owed are reported once, and then there
is nothing left to do: what lies below is left as it stands.
-/

namespace ExactLength

namespace Gated

variable {ω : Type} (D : PolledDevice ω)

/-- A ready answer of a gate that told nothing and asked nothing below. -/
def answer {α : Type} (result : Except IoError α) (g : Gated ω) : PollReply (Gated ω) α :=
  ⟨.ready result, g, []⟩

/-- The answer of a gate to a write that it passed on: what was accepted below is accounted for, and told. -/
def chargePoll (gate : Gate) (event : (accepted remaining : UInt64) → Event) (reply : PollReply ω UInt64) :
    PollReply (Gated ω) UInt64 :=
  match reply.result with
  | .ready (.ok accepted) =>
    let gate := gate.spend accepted
    ⟨reply.result, ⟨gate, reply.state⟩, reply.events ++ [event accepted gate.budget.remaining]⟩
  | _ => reply.mapState (Gated.mk gate)

/-- A write through a gate. Nothing needs no leave. -/
def pollWrite (g : Gated ω) (bytes : Bytes) : PollReply (Gated ω) UInt64 :=
  if bytes.isEmpty then answer (.ok 0) g
  else
    match g.gate.budget.permit bytes.length with
    | .error e => answer (.error e.toIo) g
    | .ok _ => chargePoll g.gate .polledWrite (D.pollWrite g.below bytes)

/-- The number of bytes in several runs, counted in sixty-four bits: the count wraps. -/
def totalLength : List Bytes → UInt64
  | [] => 0
  | run :: rest => UInt64.ofNat run.length + totalLength rest

/-- A write of several runs through a gate. No runs need no leave. -/
def pollWriteMany (g : Gated ω) (runs : List Bytes) : PollReply (Gated ω) UInt64 :=
  if runs.isEmpty then answer (.ok 0) g
  else
    match g.gate.budget.permit (totalLength runs).toNat with
    | .error e => answer (.error e.toIo) g
    | .ok _ => chargePoll g.gate .polledWriteMany (D.pollWriteMany g.below runs)

/-- A flush through a gate: not passed on when the cycle is over. -/
def pollFlush (g : Gated ω) : PollReply (Gated ω) Unit :=
  if g.gate.isEnded then answer (.ok ()) g
  else
    let reply := D.pollFlush g.below
    match reply.result with
    | .ready (.ok ()) =>
      let outcome := g.gate.settle true
      ⟨reply.result, ⟨outcome.2, reply.state⟩, reply.events ++ if outcome.1 then [.completed] else []⟩
    | _ => reply.mapState (Gated.mk g.gate)

/-- The later part of closing a gate, once the shutdown is requested: flush, then close below. -/
def pollFlushAndClose (g : Gated ω) : PollReply (Gated ω) Unit :=
  let flushed := pollFlush D g
  match flushed.result with
  | .ready (.ok ()) =>
    let g := flushed.state
    if g.gate.passesClose then
      ((D.pollClose g.below).mapState (Gated.mk g.gate)).after flushed.events
    else flushed
  | _ => flushed

/-- Closing a gate. -/
def pollClose (g : Gated ω) : PollReply (Gated ω) Unit :=
  match g.gate.budget.close with
  | (.short remaining, budget) =>
    ⟨.ready (.error (SinkError.underflow remaining).toIo), ⟨{ g.gate with budget := budget }, g.below⟩,
      [.polledClosedShort remaining]⟩
  | (.repeated, budget) =>
    if budget.remaining > 0 then answer (.ok ()) g else pollFlushAndClose D g
  | (.clean, budget) => pollFlushAndClose D ⟨{ g.gate with budget := budget }, g.below⟩

end Gated

/-- The polled device made of a gate in front of a polled device. -/
def PolledDevice.gated {ω : Type} (D : PolledDevice ω) : PolledDevice (Gated ω) where
  pollWrite := Gated.pollWrite D
  pollWriteMany := Gated.pollWriteMany D
  pollFlush := Gated.pollFlush D
  pollClose := Gated.pollClose D

end ExactLength
