import TraceScript.Command.Arguments
import TraceScript.Command.Script
import TraceScript.Command.Verdict
import TraceScript.Label.Reading

/-!
# The command

`Command.runOn` is the whole command as a function: from a command line, a disk
and arguments to an exit status, the lines of both outputs, and the disk
afterwards.  `Command.run` is the command on the command line of the program.

The labels of the symbol files come first, in the order of the options, then
those of the definitions.  Notices go to the error output, all of them with
`-v` and otherwise the warnings; with `-v` the command also tells what it
does on its standard output.  What the command says itself is shown by the command
line, while a notice is logged as it is.
-/

namespace TraceScript

/-- How the command ended. -/
structure Ending where
  exit : Nat
  output : List Text
  errors : List Text
  disk : Disk

namespace Command

/-- What the command calls itself when asked for its version. -/
def versionLine : Text := "tracegen, version 1.0.0".toList

/-- What the command does, for the line of a failure. -/
def activity : Text := "Generation".toList

/-- The labels of one symbol file. -/
def readSymbols (d : Disk) (file : Path) : Except Failure LabelTable × List Notice :=
  match d.loadText file with
  | .error f => (.error f, [])
  | .ok content => LabelTable.ofSymbolText file content

/-- Adds the labels of symbol files to a table. -/
def mergeSymbols (d : Disk) :
    List Path → LabelTable → List Notice → Except Failure LabelTable × List Notice
  | [], t, notices => (.ok t, notices)
  | file :: rest, t, notices =>
      match readSymbols d file with
      | (.error f, more) => (.error f, notices ++ more)
      | (.ok labels, more) =>
          match t.merge labels with
          | (.error f, _) => (.error f, notices ++ more)
          | (.ok (), t) => mergeSymbols d rest t (notices ++ more)

/-- Adds the labels of definitions to a table. -/
def mergeDefinitions (t : LabelTable) (definitions : List Text) : Except Failure LabelTable :=
  match LabelTable.ofDefinitions definitions with
  | .error f => .error f
  | .ok labels =>
      match t.merge labels with
      | (.error f, _) => .error f
      | (.ok (), t) => .ok t

/-- All assembly labels of an order. -/
def readLabels (d : Disk) (o : Order) : Except Failure LabelTable × List Notice :=
  match mergeSymbols d o.symbols LabelTable.empty [] with
  | (.error f, notices) => (.error f, notices)
  | (.ok t, notices) => (mergeDefinitions t o.definitions, notices)

/-- The lines of a log, as far as they are wanted. -/
def logLines (verbose : Bool) (notices : List Notice) : List Text :=
  (notices.filter fun n => verbose || n.severity == .warning).map (·.logLine)

/-- What the command tells before it starts on the script. -/
def openingLines (o : Order) (labels : LabelTable) : List Text :=
  if o.verbose then
    ["Assembly labels: ".toList ++ Text.decimal labels.size,
      "Processing ".toList ++ o.script.text ++ "...".toList]
  else []

/-- What the command tells when it has succeeded. -/
def closingLines (o : Order) (s : Session Scratch) : List Text :=
  if o.verbose then
    ["Wrote ".toList ++ Text.decimal s.stream.offset ++ " bytes to ".toList ++
        s.script.streamPath.text,
      "Defined ".toList ++ Text.decimal s.stream.labels.directive.size ++
        " directive labels".toList]
  else []

section

variable (c : CommandLine)

/-- The ending after a failure. -/
def fail (o : Order) (f : Failure) (output : List Text) (notices : List Notice) (d : Disk) :
    Ending :=
  ⟨f.classOf.exit, output.map c.output,
    logLines o.verbose notices ++ [c.errors (f.classOf.diagnosis activity f.text)], d⟩

/-- The ending of a run without a failure. -/
def succeed (o : Order) (output : List Text) (notices : List Notice) (d : Disk) : Ending :=
  ⟨0, output.map c.output, logLines o.verbose notices, d⟩

/-- Carries out an order with its assembly labels at hand. -/
def generate (d : Disk) (o : Order) (labels : LabelTable) (notices : List Notice) : Ending :=
  let opening := openingLines o labels
  match prepare d o.script labels o.bufferSize with
  | .error f => fail c o f opening notices d
  | .ok session =>
      let (result, s) := session.run
      let output := opening ++ s.reported.map (·.text)
      let notices := notices ++ s.notices
      match result with
      | .error f => fail c o f output notices s.disk
      | .ok _ => succeed c o (output ++ closingLines o s) notices s.disk

/-- Carries out an order. -/
def perform (d : Disk) (o : Order) : Ending :=
  match readLabels d o with
  | (.error f, notices) => fail c o f [] notices d
  | (.ok labels, notices) => generate c d o labels notices

/-- The command, unless its arguments are refused. -/
def runOn (d : Disk) (args : List Text) : Except Objection Ending :=
  (c.interpret d args).map fun
    | .version => ⟨0, [c.output versionLine], [], d⟩
    | .run o => perform c d o

end

/-- The command as the program runs it. -/
def run (d : Disk) (args : List Text) : Except Objection Ending :=
  runOn CommandLine.piped d args

end Command
end TraceScript
