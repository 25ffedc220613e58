import ExactLength.Proofs.Gate.Plan

/-!
# Recorded sinks

A sink with a list of the calls that it has heard, each with its arguments, the oldest first. It answers as the sink
that it is made of (`Sink.perform_recorded`), so what is said of the list is said of that sink.
-/

namespace ExactLength

namespace Sink

variable {σ : Type} (S : Sink σ)

/-- The sink that keeps a list of the calls that it hears. -/
def recorded : Sink (σ × List Call) where
  write := fun (sink, heard) src =>
    (S.write sink src).mapState fun (sink, back) => ((sink, heard ++ [.write src]), back)
  flush := fun (sink, heard) => (S.flush sink).mapState fun sink => (sink, heard ++ [.flush])
  terminate := fun (sink, heard) => (S.terminate sink).mapState fun sink => (sink, heard ++ [.terminate])
  truncate := fun (sink, heard) => (S.truncate sink).mapState fun sink => (sink, heard ++ [.truncate])
  writeMany := fun (sink, heard) sources =>
    (S.writeMany sink sources).mapState fun (sink, back) => ((sink, heard ++ [.writeMany sources]), back)
  transferFile := fun (sink, heard) file position count =>
    (S.transferFile sink file position count).mapState fun (sink, back) =>
      ((sink, heard ++ [.transferFile file position count]), back)
  transferStream := fun (sink, heard) reader count through =>
    (S.transferStream sink reader count through).mapState fun (sink, back) =>
      ((sink, heard ++ [.transferStream reader count through]), back)
  isResumed := fun (sink, heard) =>
    let reply := S.isResumed sink
    (reply.1, (reply.2, heard ++ [.isResumed]))
  wake := fun (sink, heard) => (S.wake sink, heard ++ [.wake])
  wait := fun (sink, heard) milliseconds =>
    (S.wait sink milliseconds).mapState fun sink => (sink, heard ++ [.wait milliseconds])

/-- A recorded sink does what the sink does, and adds the call to its list. -/
theorem perform_recorded (sink : σ) (heard : List Call) {call : Call} (hlast : call.isLast = false) :
    S.recorded.perform (sink, heard) call =
      (S.perform sink call).mapState fun (sink, back) => ((sink, heard ++ [call]), back) := by
  cases call with
  | writeLast src => cases hlast
  | writeManyLast sources => cases hlast
  | _ => rfl

end Sink

end ExactLength
