import ExactLength.Budget.Basic
import ExactLength.Text.Outline

/-!
# Requests to a budget

The operations on a budget as values, with `Budget.serve` to carry one out, so that any history of a budget is a
list of requests.
-/

namespace ExactLength

open Text (Outline)

/-- An operation on a budget. -/
inductive Budget.Request where
  /-- May so many bytes be written? -/
  | permit (length : UInt64)
  /-- How many bytes of a transfer are allowed? -/
  | allow (count : UInt64)
  /-- So many bytes were accepted. -/
  | spend (written : UInt64)
  /-- A flush ended. -/
  | settle (flushed : Bool)
  /-- The cycle is to be shut down. -/
  | close
  /-- The cycle is given up. -/
  | giveUp
  /-- A new cycle, unconditionally. -/
  | restart (length : UInt64)
  /-- A new cycle after a complete one. -/
  | renew (length : UInt64)
  /-- Is the budget that of a new cycle of this length? -/
  | isFresh (length : UInt64)
  /-- The budget's description. -/
  | describe
  deriving DecidableEq

/-- What a request yields besides the new budget. -/
inductive Budget.Yield where
  /-- Nothing more. -/
  | unit
  /-- A number of bytes. -/
  | count (n : UInt64)
  /-- An answer to a question. -/
  | flag (b : Bool)
  /-- What a request for shutdown came to. -/
  | shutdown (s : Shutdown)
  /-- A description. -/
  | text (s : String)
  deriving DecidableEq

namespace Budget

/-- The outline of a budget. -/
def outline (b : Budget) : Outline :=
  .record "WriteBudget" [("remaining", .ofNat b.remaining.toNat), ("close_requested", .ofBool b.closing),
    ("close_complete", .ofBool b.ended), ("finished_called", .ofBool b.finished)]

/-- Carries out a request. A refused request leaves the budget as it is. -/
def serve (b : Budget) : Request → Except SinkError Yield × Budget
  | .permit length => ((b.permit length.toNat).map fun _ => .unit, b)
  | .allow count => ((b.allow count).map .count, b)
  | .spend written => (.ok .unit, b.spend written)
  | .settle flushed =>
    let (completed, after) := b.settle flushed
    (.ok (.flag completed), after)
  | .close =>
    let (outcome, after) := b.close
    (.ok (.shutdown outcome), after)
  | .giveUp => (.ok .unit, b.giveUp)
  | .restart length => (.ok .unit, fresh length)
  | .renew length =>
    match b.renew length with
    | .ok after => (.ok .unit, after)
    | .error e => (.error e, b)
  | .isFresh length => ((ofLength length).map fun new => .flag (new == b), b)
  | .describe => (.ok (.text b.outline.line), b)

end Budget

end ExactLength
