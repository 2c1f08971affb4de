import TraceScript.Error.Failure
import TraceScript.Label.Scope
import TraceScript.Script

/-!
# The shape of a directive

A directive is an optional label with a colon, a name, and a payload: what
stands between the first parenthesis and the last, or else the rest of the
text.  `Directive.split` takes a text apart and judges nothing but the
parentheses.  `Directive.ofLine` also asks for a known name, and for a label
that is new; a label clash comes before anything that is wrong behind it.

The blanks around a label are ASCII blanks, those around name and payload are
blanks of any script.
-/

namespace TraceScript

/-- A directive with its payload still unread. -/
structure Directive where
  name : Text
  payload : Text
  label : Option Text
  location : Option Location
  sourceLine : Option Text
  deriving DecidableEq, Repr

/-- An ASCII letter or digit, or the low line. -/
def isLabelChar (c : Char) : Bool :=
  ('a' ≤ c && c ≤ 'z') || ('A' ≤ c && c ≤ 'Z') || ('0' ≤ c && c ≤ '9') || c == '_'

/-- A character of a directive's name. -/
def isNameChar (c : Char) : Bool :=
  isLabelChar c || c == '.'

/-- An ASCII blank. -/
def isAsciiBlank (c : Char) : Bool :=
  c == ' ' || ('\t' ≤ c && c ≤ '\r')

namespace Directive

/-- The label in front of a colon, and what follows the colon. -/
def splitLabel? (t : Text) : Option (Text × Text) :=
  let start := t.dropWhile isAsciiBlank
  let label := start.takeWhile isLabelChar
  match (start.dropWhile isLabelChar).dropWhile isAsciiBlank with
  | ':' :: rest => if label.isEmpty then none else some (label, rest)
  | _ => none

/-- The payload in what follows the name. -/
def payloadOf (name rest : Text) : Except Cause Text :=
  match rest with
  | '(' :: inside =>
      match Text.cutAt ')' inside.reverse with
      | none => .error (.missingClose name)
      | some (after, payload) =>
          if (Text.trim after.reverse).isEmpty then .ok (Text.trim payload.reverse)
          else .error (.textAfterClose name)
  | rest => .ok rest

/-- The parts of a directive. -/
def split (t : Text) (location : Option Location) (sourceLine : Option Text) :
    Except Failure Directive :=
  let (label, body) :=
    match splitLabel? t with
    | some (label, rest) => (some label, rest)
    | none => (none, t)
  let body := Text.trimStart body
  let name := body.takeWhile isNameChar
  let rest := Text.trim (body.dropWhile isNameChar)
  match payloadOf name rest with
  | .error cause => .error (.script (ScriptError.located cause location sourceLine))
  | .ok payload => .ok ⟨name, payload, label, location, sourceLine⟩

/-- The directive ends the trace stream. -/
def isTerminator (d : Directive) : Bool :=
  d.name == Keyword.exp.text

/-- What a directive knows about an error in it. -/
def context (d : Directive) (note : Text) : Context :=
  ⟨d.location, d.sourceLine, note⟩

/-- Refuses a label that is already defined. -/
def checkLabel (labels : Labels) (line : ScriptLine) (label : Option Text) :
    Except Failure Unit :=
  match label with
  | none => .ok ()
  | some name =>
      inContext ⟨some line.location, some line.text, "label lookup".toList⟩
        (labels.checkUnique name)

/-- The failure of a line. -/
def fault (line : ScriptLine) (cause : Cause) : Failure :=
  .script (ScriptError.located cause (some line.location) (some line.text))

/-- Refuses a name that is none, or that no directive has. -/
def checkName (line : ScriptLine) (name : Text) : Except Failure Unit :=
  if name.isEmpty then .error (fault line .missingDirective)
  else if (Keyword.ofText? name).isNone then .error (fault line (.unknownDirective name))
  else .ok ()

/-- The directive of a line, checked as far as its name and label go. -/
def ofLine (labels : Labels) (line : ScriptLine) : Except Failure Directive :=
  match line.directive with
  | none => .error (fault line .noDirective)
  | some t => do
      let d ← split t (some line.location) (some line.text)
      checkLabel labels line d.label
      checkName line d.name
      return d

end Directive
end TraceScript
