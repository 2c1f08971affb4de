/-!
# Status codes

Each way in which a run can fail has a fixed number, zero or negative, that a
caller can test without reading the diagnostic.
-/

namespace TraceScript

/-- The outcome of a run as a number's name. -/
inductive ErrorCode
  | success
  | internal
  | noMemory
  | fileOpen
  | fileWrite
  | noDirective
  | missingDirective
  | unknownDirective
  | trailingTokens
  | unknownChar
  | parseInt
  | intTooBig
  | missingOperand
  | invalidArgument
  | noLabel
  | labelName
  | labelNotUnique
  | encoder
  deriving DecidableEq, Repr

namespace ErrorCode

/-- Every code, by falling number. -/
def all : List ErrorCode :=
  [success, internal, noMemory, fileOpen, fileWrite, noDirective, missingDirective,
    unknownDirective, trailingTokens, unknownChar, parseInt, intTooBig, missingOperand,
    invalidArgument, noLabel, labelName, labelNotUnique, encoder]

/-- The number of a code: minus its place in the list. -/
def number (c : ErrorCode) : Int :=
  -(all.idxOf c : Int)

/-- The code with this number. -/
def ofNumber? (n : Int) : Option ErrorCode :=
  all.find? fun c => c.number == n

/-- Only success is not negative. -/
theorem number_neg_iff (c : ErrorCode) : c.number < 0 ↔ c ≠ success := by
  cases c <;> decide

end ErrorCode
end TraceScript
