import ExactLength.Sink.Basic

/-!
# Calls

The operations of a sink as values, with their arguments. `Sink.perform` carries a call out; since a call takes
bytes from its arguments, it is returned with the arguments as they are afterwards. A history of a sink is a list
of calls.
-/

namespace ExactLength

/-- An operation of a sink together with its arguments. -/
inductive Call where
  /-- A write from a source. -/
  | write (src : Source)
  /-- A write from a source that holds the last data. -/
  | writeLast (src : Source)
  /-- A write from several sources. -/
  | writeMany (sources : List Source)
  /-- A write from several sources that hold the last data. -/
  | writeManyLast (sources : List Source)
  /-- A transfer from a file. -/
  | transferFile (file : File) (position count : UInt64)
  /-- A transfer from a stream through a buffer. -/
  | transferStream (reader : Reader) (count : UInt64) (through : Bytes)
  /-- A flush. -/
  | flush
  /-- The question whether writes are resumed. -/
  | isResumed
  /-- A wake-up. -/
  | wake
  /-- A wait of at most so many milliseconds. -/
  | wait (milliseconds : Option UInt64)
  /-- The end of the write side in order. -/
  | terminate
  /-- The write side is given up. -/
  | truncate
  deriving DecidableEq

/-- What a call yields. -/
inductive Yield where
  /-- Nothing more. -/
  | unit
  /-- A number of bytes. -/
  | count (n : UInt64)
  /-- An answer to a question. -/
  | flag (b : Bool)
  deriving DecidableEq

/-- The yield of an operation that has no value. -/
def Yield.ofUnit : Unit → Yield := fun _ => .unit

/-- Carries a call out. -/
def Sink.perform {σ : Type} (S : Sink σ) (sink : σ) : Call → Reply (σ × Call) Yield
  | .write src => answer .count .write (S.write sink src)
  | .writeLast src => answer .count .writeLast (S.writeLast sink src)
  | .writeMany sources => answer .count .writeMany (S.writeMany sink sources)
  | .writeManyLast sources => answer .count .writeManyLast (S.writeManyLast sink sources)
  | .transferFile file position count =>
    answer .count (.transferFile · position count) (S.transferFile sink file position count)
  | .transferStream reader count through =>
    answer .count (fun (reader, through) => .transferStream reader count through)
      (S.transferStream sink reader count through)
  | .flush => ended .flag .flush (S.flush sink)
  | .isResumed =>
    let (resumed, sink) := S.isResumed sink
    .ok (.flag resumed) (sink, .isResumed)
  | .wake => .ok .unit (S.wake sink, .wake)
  | .wait milliseconds => ended Yield.ofUnit (.wait milliseconds) (S.wait sink milliseconds)
  | .terminate => ended Yield.ofUnit .terminate (S.terminate sink)
  | .truncate => ended Yield.ofUnit .truncate (S.truncate sink)
where
  /-- The reply to a call that returns its arguments. -/
  answer {κ α : Type} (value : α → Yield) (call : κ → Call) (r : Reply (σ × κ) α) : Reply (σ × Call) Yield :=
    (r.mapResult (Except.map value)).mapState fun (sink, arguments) => (sink, call arguments)
  /-- The reply to a call without arguments of its own. -/
  ended {α : Type} (value : α → Yield) (call : Call) (r : Reply σ α) : Reply (σ × Call) Yield :=
    (r.mapResult (Except.map value)).mapState fun sink => (sink, call)

end ExactLength
