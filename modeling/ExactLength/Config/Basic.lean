import ExactLength.Budget.Basic
import ExactLength.Text.Outline

/-!
# Configuration

What a gate is told when it is set up: the content length of its first cycle, whether configuration calls pass
through it, and whether a graceful shutdown is passed on to what lies below. A length beyond the largest one is
refused when a configuration is built from a number; it may be put into an existing one, and is then refused by
`validate`.
-/

namespace ExactLength

open Text (Outline)

/-- The set-up of a gate. -/
structure Config where
  /-- The number of bytes to pass. -/
  contentLength : UInt64
  /-- Configuration calls pass through to what lies below. -/
  configurable : Bool
  /-- A graceful shutdown is passed on to what lies below. -/
  passesClose : Bool
  deriving DecidableEq

namespace Config

/-- An empty body with both flags on. -/
def default : Config where
  contentLength := 0
  configurable := true
  passesClose := true

instance : Inhabited Config := ⟨default⟩

/-- A configuration is valid when its content length is acceptable. -/
def validate (c : Config) : Except SinkError Unit :=
  checkLength c.contentLength

/-- A body of the given length with both flags on. -/
def ofLength (length : UInt64) : Except SinkError Config := do
  checkLength length
  return { default with contentLength := length }

/-- A body of a length given as a signed number. -/
def ofInt (length : Int64) : Except SinkError Config :=
  if length < 0 then .error (.invalidArgument .negative) else ofLength length.toUInt64

/-- The outline of a configuration. -/
def outline (c : Config) : Outline :=
  .record "FixedLengthConfig" [("content_length", .ofNat c.contentLength.toNat),
    ("configurable", .ofBool c.configurable), ("propagate_close", .ofBool c.passesClose)]

end Config

end ExactLength
