import ExactLength.Polled.Stack
import ExactLength.Script.Devices
import ExactLength.Session.Basic

/-!
# Sessions on a polled device

A session that works on a stack over the scripted polled device. It needs no pools, since a poll takes nothing from
its arguments.
-/

namespace ExactLength

/-- A step of a session on a polled device. -/
inductive PollStep where
  /-- A move of the stack. -/
  | move (m : PollMove)
  /-- More for the device to do. -/
  | instruct (more : Script)
  /-- A new gate on top. -/
  | wrap (spec : GateSpec)
  /-- Takes the top gate away. -/
  | unwrap

namespace Tower

/-- The outcome of a step that does not concern the device. -/
def settled (t : Tower Script) (result : Except SinkError Yield) : Outcome (Tower Script) PollResult :=
  ⟨.settled result, t, []⟩

/-- Takes a step. -/
def pollStep (t : Tower Script) : PollStep → Outcome (Tower Script) PollResult
  | .move m => (t.stack.pollMove Script.polledDevice m).mapState (Tower.mk t.height)
  | .instruct more => (t.mapBase (Script.extend · more none)).settled (.ok .unit)
  | .wrap spec =>
    match t.wrap spec with
    | .ok wrapped => wrapped.settled (.ok .unit)
    | .error e => t.settled (.error e)
  | .unwrap =>
    match t.unwrap? with
    | some below => below.settled (.ok (.flag true))
    | none => t.settled (.ok (.flag false))

/-- Takes a step, with the record of what reached the device starting anew. -/
def recordPollStep (t : Tower Script) (next : PollStep) : Outcome (Tower Script) PollResult :=
  (t.mapBase Script.forget).pollStep next

end Tower

end ExactLength
