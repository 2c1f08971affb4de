import TraceScript.Label.Table
import TraceScript.Notice
import TraceScript.TextFile

/-!
# Reading assembly labels

Assembly labels come from symbol files and from definitions.

A symbol file has one label on a line, its name and its value between blanks.
A number sign starts a comment, and a line without text is passed over, as is
one with another number of words, which is worth a warning.  A definition is
a name and a value around an equals sign.

Either way the labels are added one after another, and the first that cannot
be read or is already there ends the reading.
-/

namespace TraceScript.LabelTable

/-- What is left of a symbol file's line without its comment. -/
def symbolText (line : Text) : Text :=
  Text.trim (line.takeWhile (· != '#'))

/-- Adds the labels on the lines of a symbol file. -/
def readSymbolLines (file : Path) :
    List Text → LabelTable → List Notice → Except Failure LabelTable × List Notice
  | [], t, notices => (.ok t, notices ++ [.symbolsLoaded t.size file])
  | line :: rest, t, notices =>
      let line := symbolText line
      if line.isEmpty then readSymbolLines file rest t notices
      else
        match Text.blankWords line with
        | [name, value] =>
            match (readWord value).bind fun v => t.add name v with
            | .ok t => readSymbolLines file rest t notices
            | .error f => (.error f, notices)
        | _ => readSymbolLines file rest t (notices ++ [.symbolLineIgnored file line])

/-- The labels of a symbol file's text. -/
def ofSymbolText (file : Path) (content : Text) : Except Failure LabelTable × List Notice :=
  readSymbolLines file (Text.lines content) empty []

/-- The labels of a symbol file's octets. -/
def ofSymbolOctets (file : Path) (octets : Octets) : Except Failure LabelTable × List Notice :=
  match textOfOctets octets with
  | .error f => (.error f, [])
  | .ok content => ofSymbolText file content

/-- The name and the value text of a definition. -/
def splitDefinition (definition : Text) : Except Failure (Text × Text) :=
  match Text.cutAt '=' definition with
  | none => .error (.value (.badDefinition definition))
  | some (name, value) =>
      if (Text.trim name).isEmpty then .error (.value (.badDefinition definition))
      else .ok (Text.trim name, value)

/-- Adds the labels of definitions. -/
def readDefinitions : List Text → LabelTable → Except Failure LabelTable
  | [], t => .ok t
  | definition :: rest, t => do
      let (name, value) ← splitDefinition definition
      let v ← readWord value
      readDefinitions rest (← t.add name v)

/-- The labels of definitions. -/
def ofDefinitions (definitions : List Text) : Except Failure LabelTable :=
  readDefinitions definitions empty

end TraceScript.LabelTable
