import TraceScript.Disk
import TraceScript.Error.Failure
import TraceScript.Text.ControlSequence

/-!
# Orders and the command line

The command carries out an `Order`.  What it does not decide itself is handed to
it as a `CommandLine`: what arguments mean, and how a line appears on each of its
two outputs.  A command line may refuse arguments, read them as it likes, and
show lines as it likes.

The only thing that is relied on is `CommandLine.ShowsPlain`: a line without an
escape character appears as it is.  This is so on a terminal, where every line
appears as it is, and where control sequences are taken out of lines because the
output is none.
-/

namespace TraceScript

/-- What a run of the command is asked to do. -/
structure Order where
  script : Path
  symbols : List Path
  definitions : List Text
  bufferSize : Nat
  verbose : Bool

/-- Why arguments are refused: they are no use of the command, or they name a
file in a way that the system cannot even be asked about. -/
inductive Objection
  | misuse
  | failure (reason : Failure)
  deriving DecidableEq, Repr

/-- What the arguments mean. -/
inductive Invocation
  | run (order : Order)
  | version

/-- What the command is built on: what arguments mean on a disk, and how a
line appears on the standard output and on the error output. -/
structure CommandLine where
  interpret : Disk → List Text → Except Objection Invocation
  output : Text → Text
  errors : Text → Text

namespace CommandLine

/-- Lines without an escape character appear as they are. -/
structure ShowsPlain (c : CommandLine) : Prop where
  output : ∀ t, Text.escape ∉ t → c.output t = t
  errors : ∀ t, Text.escape ∉ t → c.errors t = t

/-- Plain lines appear as they are, one by one. -/
theorem ShowsPlain.map_output {c : CommandLine} (h : c.ShowsPlain) {lines : List Text}
    (hlines : ∀ t ∈ lines, Text.escape ∉ t) : lines.map c.output = lines := by
  have hsame : ∀ t ∈ lines, c.output t = id t := fun t ht => h.output t (hlines t ht)
  calc lines.map c.output
      = lines.map id := List.map_congr_left hsame
    _ = lines := List.map_id lines

end CommandLine
end TraceScript
