import ExactLength.Gate.Basic
import ExactLength.Sink.Call

/-!
# A gate over a sink

A gate in front of a sink is a sink again, so gates stack. It asks its budget first, passes the call on, and then
accounts for what was accepted below:

* A write is allowed whole or not at all. An empty source needs no leave, and one source among several is written
  as if it were alone.
* A transfer is cut to what remains. A transfer of nothing needs no leave.
* A flush that finds the cycle over is not passed on. One that completes it runs the completion hook, after all
  that lies below has been flushed.
* A shutdown with nothing owed is passed on if the gate does so at all. One with bytes owed truncates what lies
  below, whatever becomes of that, and reports the shortfall.
-/

namespace ExactLength

namespace Gated

variable {σ : Type} (S : Sink σ)

/-- The reply of a gate that refuses a call, or has nothing to do for it. -/
def unmoved {κ α : Type} (result : Except SinkError α) (g : Gated σ) (arguments : κ) :
    Reply (Gated σ × κ) α :=
  ⟨result, (g, arguments), []⟩

/-- The reply of a gate to a call that it passed on: what was accepted below is accounted for, and told. -/
def charge {κ : Type} (gate : Gate) (event : (accepted remaining : UInt64) → Event)
    (reply : Reply (σ × κ) UInt64) : Reply (Gated σ × κ) UInt64 :=
  match reply.result with
  | .error e => ⟨.error e, (⟨gate, reply.state.1⟩, reply.state.2), reply.events⟩
  | .ok accepted =>
    let gate := gate.spend accepted
    ⟨.ok accepted, (⟨gate, reply.state.1⟩, reply.state.2),
      reply.events ++ [event accepted gate.budget.remaining]⟩

/-- A write through a gate. -/
def write (g : Gated σ) (src : Source) : Reply (Gated σ × Source) UInt64 :=
  if src.isEmpty then unmoved (.ok 0) g src
  else
    match g.gate.budget.permit src.remaining with
    | .error e => unmoved (.error e) g src
    | .ok _ => charge g.gate .wrote (S.write g.below src)

/-- A write of several sources through a gate. -/
def writeMany (g : Gated σ) : List Source → Reply (Gated σ × List Source) UInt64
  | [] => unmoved (.ok 0) g []
  | [src] => (write S g src).mapState fun (g, src) => (g, [src])
  | sources =>
    match g.gate.budget.permit (Source.total sources).toNat with
    | .error e => unmoved (.error e) g sources
    | .ok _ => charge g.gate .wroteMany (S.writeMany g.below sources)

/-- A transfer from a file through a gate. -/
def transferFile (g : Gated σ) (file : File) (position count : UInt64) : Reply (Gated σ × File) UInt64 :=
  if count = 0 then unmoved (.ok 0) g file
  else
    match g.gate.budget.allow count with
    | .error e => unmoved (.error e) g file
    | .ok allowed => charge g.gate (.transferredFile count) (S.transferFile g.below file position allowed)

/-- A transfer from a stream through a gate. -/
def transferStream (g : Gated σ) (reader : Reader) (count : UInt64) (through : Bytes) :
    Reply (Gated σ × Reader × Bytes) UInt64 :=
  if count = 0 then unmoved (.ok 0) g (reader, through)
  else
    match g.gate.budget.allow count with
    | .error e => unmoved (.error e) g (reader, through)
    | .ok allowed => charge g.gate (.transferredStream count) (S.transferStream g.below reader allowed through)

/-- A flush through a gate. -/
def flush (g : Gated σ) : Reply (Gated σ) Bool :=
  if g.gate.isEnded then .ok true g
  else
    let reply := S.flush g.below
    match reply.result with
    | .error e => ⟨.error e, ⟨g.gate, reply.state⟩, reply.events⟩
    | .ok flushed =>
      let outcome := g.gate.settle flushed
      ⟨.ok flushed, ⟨outcome.2, reply.state⟩, reply.events ++ if outcome.1 then [.completed] else []⟩

/-- A shutdown of a gate. -/
def terminate (g : Gated σ) : Reply (Gated σ) Unit :=
  match g.gate.budget.close with
  | (.repeated, _) => .ok () g
  | (.short remaining, budget) =>
    let truncated := S.truncate g.below
    let failure :=
      match truncated.result with
      | .ok _ => []
      | .error e => [.truncationFailed e]
    ⟨.error (.underflow remaining), ⟨{ g.gate with budget := budget }, truncated.state⟩,
      [.closedShort remaining] ++ truncated.events ++ failure⟩
  | (.clean, budget) =>
    let gate := { g.gate with budget := budget }
    if gate.passesClose then
      ((S.terminate g.below).mapState (Gated.mk gate)).after [.closePassedOn]
    else .ok () ⟨gate, g.below⟩

/-- Giving a gate up. -/
def truncate (g : Gated σ) : Reply (Gated σ) Unit :=
  (S.truncate g.below).mapState (Gated.mk g.gate.giveUp)

/-- Whether the driver is to call back: not for a cycle that is over. -/
def isResumed (g : Gated σ) : Bool × Gated σ :=
  if g.gate.isEnded then (false, g)
  else
    let reply := S.isResumed g.below
    (reply.1, ⟨g.gate, reply.2⟩)

/-- A wake-up through a gate: none for a cycle that is over. -/
def wake (g : Gated σ) : Gated σ :=
  if g.gate.isEnded then g else ⟨g.gate, S.wake g.below⟩

/-- Waiting is left to what lies below. -/
def wait (g : Gated σ) (milliseconds : Option UInt64) : Reply (Gated σ) Unit :=
  (S.wait g.below milliseconds).mapState (Gated.mk g.gate)

end Gated

/-- The sink made of a gate in front of a sink. -/
def Sink.gated {σ : Type} (S : Sink σ) : Sink (Gated σ) where
  write := Gated.write S
  flush := Gated.flush S
  terminate := Gated.terminate S
  truncate := Gated.truncate S
  writeMany := Gated.writeMany S
  transferFile := Gated.transferFile S
  transferStream := Gated.transferStream S
  isResumed := Gated.isResumed S
  wake := Gated.wake S
  wait := Gated.wait S

end ExactLength
