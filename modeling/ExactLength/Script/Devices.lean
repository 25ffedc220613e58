import ExactLength.Device.Outlet
import ExactLength.Polled.Device
import ExactLength.Script.Basic

/-!
# Scripted devices

A device and a polled device over one script. A device that does not gather writes only one of several runs: the
first for the plain device, the first that is not empty for the polled one.
-/

namespace ExactLength.Script

/-- Takes bytes from a run as the action tells, and reports a count. -/
def takeRun (action : Action) (s : Script) (bytes : Bytes) : Except SinkError UInt64 × Script :=
  match action.taking bytes.length bytes.length with
  | .error e => (.error e, s)
  | .ok (taken, reported) => (.ok reported, s.accept (bytes.take taken))

/-- The result of a device, whose errors are I/O errors. -/
def ioResult {α : Type} : Except SinkError α → Except IoError α
  | .ok value => .ok value
  | .error e => .error e.toIo

/-! ### The device -/

/-- A scripted write of one run. -/
def writeRun (s : Script) (bytes : Bytes) : Except IoError UInt64 × Script :=
  let (action, s) := (s.hear (.writeRun bytes.length)).nextWrite
  let (result, s) := takeRun action s bytes
  (ioResult result, s)

/-- A scripted write of several runs. -/
def writeRuns (s : Script) (runs : List Bytes) : Except IoError UInt64 × Script :=
  let s := s.hear (.writeMany (runs.map List.length))
  if s.gathers then
    let (action, s) := s.nextWrite
    let (result, s) := takeRun action s runs.flatten
    (ioResult result, s)
  else s.writeRun (runs.headD [])

/-- A scripted flush of a device. -/
def flushDevice (s : Script) : Except IoError Unit × Script :=
  let (action, s) := (s.hear .flush).nextFlush
  (ioResult action.succeeding, s)

/-- The scripted device. -/
def device : Device Script where
  write := writeRun
  writeMany := writeRuns
  flush := flushDevice

/-! ### The polled device -/

/-- The answer to a poll: pending, if the action says so. -/
def pollAnswer {α : Type} (action : Action) (result : Except SinkError α) : Poll α :=
  match action with
  | .pending => .pending
  | _ => .ready (ioResult result)

/-- A scripted poll for a write, once it is recorded. -/
def pollTake (s : Script) (bytes : Bytes) : PollReply Script UInt64 :=
  match s.nextWrite with
  | (.pending, s) => ⟨.pending, s, []⟩
  | (action, s) =>
    let (result, s) := takeRun action s bytes
    ⟨.ready (ioResult result), s, []⟩

/-- A scripted poll for a write of one run. -/
def pollWriteRun (s : Script) (bytes : Bytes) : PollReply Script UInt64 :=
  (s.hear (.writeRun bytes.length)).pollTake bytes

/-- A scripted poll for a write of several runs. -/
def pollWriteRuns (s : Script) (runs : List Bytes) : PollReply Script UInt64 :=
  let s := s.hear (.writeMany (runs.map List.length))
  if s.gathers then s.pollTake runs.flatten
  else s.pollWriteRun ((runs.find? (!·.isEmpty)).getD [])

/-- The scripted polled device. -/
def polledDevice : PolledDevice Script where
  pollWrite := pollWriteRun
  pollWriteMany := pollWriteRuns
  pollFlush s :=
    let (action, s) := (s.hear .flush).nextFlush
    ⟨pollAnswer action action.succeeding, s, []⟩
  pollClose s :=
    let (action, s) := (s.hear .close).nextClose
    ⟨pollAnswer action action.succeeding, s, []⟩

end ExactLength.Script
