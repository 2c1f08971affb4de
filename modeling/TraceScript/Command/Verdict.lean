import TraceScript.Command.Arguments

/-!
# Verdicts

How the command ends after a failure: an exit status and a line for the error
output.  Failures fall into five classes.  A script error speaks for itself;
any other line starts by saying what kind of failure it is.

A file that is missing or may not be read counts as a wrong argument, and any
other refusal of the system as unexpected; so does a lack of memory.
-/

namespace TraceScript

/-- The classes of failures that the command tells apart. -/
inductive FailureClass
  | script
  | internal
  | generation
  | argument
  | unexpected
  deriving DecidableEq, Repr

namespace FailureClass

/-- The exit status of a class. -/
def exit : FailureClass → Nat
  | script => 1
  | internal => 3
  | generation => 1
  | argument => 2
  | unexpected => 3

/-- What the line of a class starts with; `what` names the activity. -/
def heading (what : Text) : FailureClass → Text
  | script => []
  | internal => "Internal error: ".toList
  | generation => if what.isEmpty then "Error: ".toList else what ++ " error: ".toList
  | argument => "Error: ".toList
  | unexpected => "Internal error: ".toList

/-- The line of a failure with this diagnostic. -/
def diagnosis (c : FailureClass) (what diagnostic : Text) : Text :=
  c.heading what ++ diagnostic

/-- That line where the error output is no terminal. -/
def line (c : FailureClass) (what diagnostic : Text) : Text :=
  CommandLine.piped.errors (c.diagnosis what diagnostic)

end FailureClass

/-- The class of a failure. -/
def Failure.classOf : Failure → FailureClass
  | .script _ => .script
  | .output _ => .generation
  | .internal _ => .internal
  | .system .noSuchFile _ => .argument
  | .system .accessDenied _ => .argument
  | .system _ _ => .unexpected
  | .value .outOfMemory => .unexpected
  | .value _ => .argument
  | .overflow => .unexpected

end TraceScript
