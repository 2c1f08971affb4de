import TraceScript.Directive.Shape
import TraceScript.Expectation.Placeholder
import TraceScript.Expectation.Writer

/-!
# The expected output of a script

Every terminator in a script is a checkpoint of the expected output, and
every line with a comment and no directive behind the first of them is one
line of it, with its placeholders replaced.  Other directives are passed
over, and nothing before the first checkpoint is looked at.

The first failure ends the pass; the file being written is then removed, and
those that are complete stay.
-/

namespace TraceScript

/-- What a line of the script knows about an error in it. -/
def ScriptLine.context (l : ScriptLine) : Context :=
  ⟨some l.location, some l.text, []⟩

namespace Writer

/-- Handles a line with a directive. -/
def takeDirective (w : Writer) (script : Script) (line : ScriptLine) (text : Text) :
    Except Failure Unit × Writer :=
  match Directive.split text (some line.location) (some line.text) with
  | .error f => (.error f, w)
  | .ok d =>
      if d.isTerminator then
        match w.checkpoint script d.payload with
        | (.error f, w) => (.error f, w)
        | (.ok _, w) => (.ok (), w)
      else (.ok (), w)

/-- Handles a line without a directive. -/
def takeComment (w : Writer) (labels : Labels) (line : ScriptLine) :
    Except Failure Unit × Writer :=
  if w.current.isNone then (.ok (), w)
  else
    match annotation? line.text with
    | none => (.ok (), w)
    | some t =>
        match inContext line.context (expand labels t) with
        | .error f => (.error f, w)
        | .ok shown => w.writeLine shown

/-- Handles a line. -/
def take (w : Writer) (script : Script) (labels : Labels) (line : ScriptLine) :
    Except Failure Unit × Writer :=
  match line.directive with
  | some text => w.takeDirective script line text
  | none => w.takeComment labels line

/-- Handles lines up to the first failure. -/
def takeAll (script : Script) (labels : Labels) :
    List ScriptLine → Writer → Except Failure Unit × Writer
  | [], w => (.ok (), w)
  | line :: rest, w =>
      match w.take script labels line with
      | (.error f, w) => (.error f, w)
      | (.ok (), w) => takeAll script labels rest w

/-- Writes all expected output of a script; the answer lists the files. -/
def run (disk : Disk) (script : Script) (labels : Labels) : Except Failure (List Path) × Writer :=
  match takeAll script labels script.lines (start disk) with
  | (.error f, w) => (.error f, w.discard)
  | (.ok (), w) =>
      match w.close with
      | (.error f, w) => (.error f, w.discard)
      | (.ok (), w) => (.ok w.written, w)

end Writer
end TraceScript
