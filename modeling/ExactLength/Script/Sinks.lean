import ExactLength.Script.Basic
import ExactLength.Sink.Basic

/-!
# Scripted sinks

Three sinks over one script. The least one brings along only what a sink must, the attentive one also minds when
it can be written to, and the one that does everything itself replaces the plain forms of the vectored write and
of both transfers.
-/

namespace ExactLength.Script

/-- A scripted write. -/
def write : Write Script := fun s src =>
  let (action, s) := (s.hear (.write src.remaining src.chunk.length)).nextWrite
  match action.taking src.chunk.length src.remaining with
  | .error e => .error e (s, src)
  | .ok (taken, reported) => .ok reported (s.accept (src.bytes.take taken), src.advance taken)

/-- A scripted flush. -/
def flush (s : Script) : Reply Script Bool :=
  let (action, s) := (s.hear .flush).nextFlush
  ⟨action.flushing, s, []⟩

/-- A scripted termination. -/
def terminate (s : Script) : Reply Script Unit :=
  let (action, s) := (s.hear .terminate).nextTermination
  ⟨action.succeeding, s, []⟩

/-- A scripted truncation. -/
def truncate (s : Script) : Reply Script Unit :=
  let (action, s) := (s.hear .truncate).nextTruncation
  ⟨action.succeeding, s, []⟩

/-- A scripted wait. -/
def wait (s : Script) (milliseconds : Option UInt64) : Reply Script Unit :=
  let (action, s) := (s.hear (.wait milliseconds)).nextWait
  ⟨action.succeeding, s, []⟩

/-- A scripted write of several sources: all of them count as shown. -/
def writeMany (s : Script) (sources : List Source) : Reply (Script × List Source) UInt64 :=
  let (action, s) := (s.hear (.writeMany (sources.map Source.remaining))).nextWrite
  let offered := sources.flatMap Source.bytes
  match action.taking offered.length offered.length with
  | .error e => .error e (s, sources)
  | .ok (taken, reported) => .ok reported (s.accept (offered.take taken), Source.advanceAll taken sources)

/-- The most bytes that a scripted transfer takes. -/
def transferLimit (count : UInt64) : Nat :=
  min count.toNat 4096

/-- The count that a scripted transfer reports: what it got, or the count that it was told to claim. -/
def transferred (asked : Nat) (reported : UInt64) (got : Bytes) : UInt64 :=
  if reported.toNat = asked then UInt64.ofNat got.length else reported

/-- A scripted transfer from a file: one read. -/
def transferFile (s : Script) (file : File) (position count : UInt64) : Reply (Script × File) UInt64 :=
  let (action, s) := (s.hear (.transferFile position count)).nextWrite
  match action.taking (transferLimit count) (transferLimit count) with
  | .error e => .error e (s, file)
  | .ok (size, reported) =>
    match file.readAt position size with
    | (.error e, file) => .error (.io e) (s, file)
    | (.ok bytes, file) => .ok (transferred size reported bytes) (s.accept bytes, file)

/-- A scripted transfer from a stream: one read, and the buffer is left alone. -/
def transferStream (s : Script) (reader : Reader) (count : UInt64) (through : Bytes) :
    Reply (Script × Reader × Bytes) UInt64 :=
  let (action, s) := (s.hear (.transferStream count)).nextWrite
  match action.taking (transferLimit count) (transferLimit count) with
  | .error e => .error e (s, reader, through)
  | .ok (size, reported) =>
    match reader.read size with
    | (.error e, reader) => .error (.io e) (s, reader, through)
    | (.ok bytes, reader) => .ok (transferred size reported bytes) (s.accept bytes, reader, through)

/-- The sink that brings along no more than it must. -/
def leastSink : Sink Script where
  write := write
  flush := flush
  terminate := terminate
  truncate := truncate

/-- The sink that also minds when it can be written to. -/
def attentiveSink : Sink Script where
  write := write
  flush := flush
  terminate := terminate
  truncate := truncate
  isResumed s := (s.resumed, s.hear .isResumed)
  wake s := s.hear .wake
  wait := wait

/-- The sink that does everything itself. -/
def selfReliantSink : Sink Script where
  write := write
  flush := flush
  terminate := terminate
  truncate := truncate
  writeMany := writeMany
  transferFile := transferFile
  transferStream := transferStream
  isResumed s := (s.resumed, s.hear .isResumed)
  wake s := s.hear .wake
  wait := wait

end ExactLength.Script
