import ExactLength.Script.Devices
import ExactLength.Script.Sinks
import ExactLength.Text.Outline

/-!
# Benches

The bases that a session can work on: one of the scripted sinks, or an outlet over the scripted device. A bench tells
how to get at the script of a base, and at its outlet if it has one.
-/

namespace ExactLength

open Text (Outline)

/-- A base to work on, with a state of type `σ`. -/
structure Bench (σ : Type) where
  /-- The operations of the base. -/
  sink : Sink σ
  /-- A base over a script. -/
  ofScript : Script → σ
  /-- The script of a base. -/
  script : σ → Script
  /-- Changes the script of a base. -/
  mapScript : (Script → Script) → σ → σ
  /-- The outlet that a base is, if it is one. -/
  outlet : σ → Option (Outlet Script)
  /-- Marks writes as resumed, or as suspended. -/
  setResumed : Bool → σ → σ
  /-- The outline of a base. -/
  outline : σ → Outline

namespace Bench

/-- A bench with a scripted sink. -/
def ofSink (sink : Sink Script) : Bench Script where
  sink := sink
  ofScript := id
  script := id
  mapScript := id
  outlet _ := none
  setResumed _ := id
  outline _ := .word "Base"

/-- The bench with an outlet over the scripted device. -/
def ofDevice : Bench (Outlet Script) where
  sink := Script.device.sink
  ofScript := Outlet.ofDevice
  script := Outlet.device
  mapScript f p := { p with device := f p.device }
  outlet := some
  setResumed resumed p := if resumed then p.resume else p.suspend
  outline := Outlet.outline fun _ => .word "W"

end Bench

end ExactLength
