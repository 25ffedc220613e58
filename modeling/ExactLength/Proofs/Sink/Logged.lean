import ExactLength.Proofs.Sink.Honest

/-!
# Logged sinks

A sink with a log of what it was asked and how it answered. An entry holds a call with its arguments, the answer, and
the output after it, the oldest entry first. The sink does what the sink does that it is made of
(`Sink.perform_logged`), and is as honest as that one (`Sink.Honest.logged`).

The log shows more than the list of a recorded sink: whether a flush was done, and what the output was then.
-/

namespace ExactLength

/-- A call that a sink heard, and what came of it. -/
structure Answered where
  /-- The call heard. -/
  call : Call
  /-- The answer. -/
  answer : Except SinkError Yield
  /-- The output after it. -/
  output : Bytes

namespace Sink

section Logging

variable {σ : Type} (out : σ → Bytes) (log : List Answered)

/-- The log after a call. -/
def logAfter (call : Call) (answer : Except SinkError Yield) (sink : σ) : σ × List Answered :=
  (sink, log ++ [⟨call, answer, out sink⟩])

/-- The reply to a call that returns its arguments, with the call added to the log. -/
def noted {κ α : Type} (value : α → Yield) (call : Call) (r : Reply (σ × κ) α) :
    Reply ((σ × List Answered) × κ) α :=
  r.mapState fun (sink, arguments) => (logAfter out log call (r.result.map value) sink, arguments)

/-- The reply to a call without arguments of its own, with the call added to the log. -/
def notedEnd {α : Type} (value : α → Yield) (call : Call) (r : Reply σ α) : Reply (σ × List Answered) α :=
  r.mapState (logAfter out log call (r.result.map value))

end Logging

variable {σ : Type} (S : Sink σ) (out : σ → Bytes)

/-- The sink that keeps a log of the calls that it hears. -/
def logged : Sink (σ × List Answered) where
  write := fun (sink, log) src => noted out log .count (.write src) (S.write sink src)
  flush := fun (sink, log) => notedEnd out log .flag .flush (S.flush sink)
  terminate := fun (sink, log) => notedEnd out log Yield.ofUnit .terminate (S.terminate sink)
  truncate := fun (sink, log) => notedEnd out log Yield.ofUnit .truncate (S.truncate sink)
  writeMany := fun (sink, log) sources => noted out log .count (.writeMany sources) (S.writeMany sink sources)
  transferFile := fun (sink, log) file position count =>
    noted out log .count (.transferFile file position count) (S.transferFile sink file position count)
  transferStream := fun (sink, log) reader count through =>
    noted out log .count (.transferStream reader count through) (S.transferStream sink reader count through)
  isResumed := fun (sink, log) =>
    let reply := S.isResumed sink
    (reply.1, logAfter out log .isResumed (.ok (.flag reply.1)) reply.2)
  wake := fun (sink, log) => logAfter out log .wake (.ok .unit) (S.wake sink)
  wait := fun (sink, log) milliseconds =>
    notedEnd out log Yield.ofUnit (.wait milliseconds) (S.wait sink milliseconds)

/-- A logged sink does what the sink does, and adds an entry to its log. -/
theorem perform_logged (sink : σ) (log : List Answered) {call : Call} (hlast : call.isLast = false) :
    (S.logged out).perform (sink, log) call =
      (S.perform sink call).mapState fun (after, back) =>
        (logAfter out log call (S.perform sink call).result after, back) := by
  cases call with
  | writeLast src => cases hlast
  | writeManyLast sources => cases hlast
  | _ => rfl

variable {S out}

/-- A logged sink is as honest as the sink. -/
theorem Honest.logged {exact : Prop} (h : S.Honest out exact) :
    (S.logged out).Honest (fun sink => out sink.1) exact := by
  rintro ⟨sink, log⟩ call hlast hfits
  unfold Delivers
  rw [perform_logged S out sink log hlast]
  exact h sink call hlast hfits

end Sink

end ExactLength
