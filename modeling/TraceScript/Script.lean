import TraceScript.Directive.Marker
import TraceScript.Error.Script
import TraceScript.Path
import TraceScript.Text.Line

/-!
# Scripts

A script is an assembly source whose comments carry directives and expected
output.  `Script.ofText` numbers its lines from one and finds the directive
on each; `Script.outputPath` names the files that a run makes: the root of
the script's own name, an extra part behind a hyphen where one is asked for,
and a suffix.
-/

namespace TraceScript

/-- A line of a script. -/
structure ScriptLine where
  location : Location
  text : Text
  directive : Option Text
  deriving DecidableEq, Repr

/-- The line with a number and a text. -/
def ScriptLine.ofText (filename : Text) (number : Nat) (text : Text) : ScriptLine :=
  match Marked.find? text with
  | some m => ⟨⟨filename, number, m.column⟩, text, some m.directive⟩
  | none => ⟨⟨filename, number, 0⟩, text, none⟩

/-- Whether a line carries a directive. -/
def ScriptLine.isDirective (l : ScriptLine) : Bool :=
  l.directive.isSome

/-- A script with the root of the names of its output files. -/
structure Script where
  filename : Text
  root : Text
  lines : List ScriptLine
  deriving DecidableEq, Repr

namespace Script

/-- The lines from a number on. -/
def numberLines (filename : Text) : Nat → List Text → List ScriptLine
  | _, [] => []
  | n, t :: rest => ScriptLine.ofText filename n t :: numberLines filename (n + 1) rest

/-- The script of a text. -/
def ofText (filename root text : Text) : Script :=
  ⟨filename, root, numberLines filename 1 (Text.lines text)⟩

/-- The script of a text whose output is named after the stem of its name. -/
def named (filename text : Text) : Script :=
  ofText filename (Path.ofText filename).stem text

/-- The script of a file. -/
def ofFile (file : Path) (content : Text) : Script :=
  ofText file.text file.withoutSuffix.text content

/-- The lines with directives, in order. -/
def directiveLines (s : Script) : List ScriptLine :=
  s.lines.filter (·.isDirective)

/-- The name of an output file. -/
def outputPath (s : Script) (suffix extra : Text) : Path :=
  Path.ofText ((if extra.isEmpty then s.root else s.root ++ '-' :: extra) ++ suffix)

/-- The name of the trace stream. -/
def streamPath (s : Script) : Path :=
  s.outputPath ".pt".toList []

/-- The name of a file of expected output. -/
def expectationPath (s : Script) (extra : Text) : Path :=
  s.outputPath ".exp".toList extra

/-- No line is lost as the lines are numbered. -/
theorem length_numberLines (filename : Text) (n : Nat) (ts : List Text) :
    (numberLines filename n ts).length = ts.length := by
  induction ts generalizing n with
  | nil => rfl
  | cons t rest ih => simp [numberLines, ih]

end Script
end TraceScript
