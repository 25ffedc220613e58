import ExactLength.Error.Basic

/-!
# Passages between the two kinds of error

An error may change hands many times: it is packed, unpacked, passed on, or wrapped once more. A passage that does
not fit the present kind of error leaves it as it is.
-/

namespace ExactLength

/-- An error of either kind. -/
inductive AnyError where
  | sink (e : SinkError)
  | io (e : IoError)
  deriving DecidableEq

/-- One change of hands. -/
inductive Passage where
  /-- A sink error is packed into an I/O error. -/
  | pack
  /-- A sink error is unpacked from an I/O error. -/
  | unpack
  /-- An I/O error is passed on as a sink error. -/
  | passOn
  /-- The error becomes the payload of a new I/O error. -/
  | wrap (kind : IoKind)
  deriving DecidableEq

/-- The error after a passage. -/
def AnyError.pass : AnyError → Passage → AnyError
  | sink e, .pack => io e.toIo
  | io e, .unpack => sink (.ofIo e)
  | io e, .passOn => sink (.io e)
  | sink e, .wrap kind => io (.carrying kind e)
  | io e, .wrap kind => io (.wrapping kind e)
  | e, _ => e

end ExactLength
