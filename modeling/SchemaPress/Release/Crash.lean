/-!
# Crashes

A failure that the program foresees is reported with a message (`SchemaPress.ReleaseError` and the
errors of the single stages). What it does not foresee stops it without one; only the kind of such a
crash is told.
-/

namespace SchemaPress

/-- Why the program stops without a report. -/
inductive Crash where
  /-- An operation met a value of a kind that it is not defined on. -/
  | wrongKind
  /-- A value was asked for a part that values of its kind do not have. -/
  | noSuchPart
  /-- A table was asked for a key that it does not hold. -/
  | unknownKey
  /-- A name was to be defined where it is defined already. -/
  | nameTaken
  /-- A value of the right kind that an operation cannot work with. -/
  | badValue
  /-- A file that should be text is not UTF-8. -/
  | badEncoding
  /-- A text that is to be written holds half of a surrogate pair, which has no UTF-8. -/
  | unencodable
  /-- A text that should be JSON is not. -/
  | badJson
  /-- A value that is read from JSON holds half of a surrogate pair. What becomes of such a value in schemas
  and settings is not followed any further. -/
  | halfPair
  /-- Symbolic links that lead back to themselves. -/
  | linkLoop
  /-- A task without an end. -/
  | endless
  /-- A file operation that failed where no failure is expected, with the system's number. -/
  | system (errno : Nat)
deriving DecidableEq, Repr

/-- Why a stage stops: an error that it reports, or a crash. -/
inductive Stop (ε : Type) where
  /-- An error with a message. -/
  | error (cause : ε)
  /-- Something unforeseen. -/
  | crash (cause : Crash)
deriving DecidableEq, Repr

end SchemaPress
