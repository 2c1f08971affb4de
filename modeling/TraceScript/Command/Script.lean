import TraceScript.Session
import TraceScript.TextFile

/-!
# Running a script file

`prepare` reads a script file into a session that is ready to run, and
`runScript` runs it and reduces the outcome to a status: zero, or the number
of a failure's code.  Each complete file of expected output is printed, and a
failure's diagnostic goes to the error output.

A script file that the system refuses counts as one that cannot be opened, and
a buffer that there is no memory for has a code of its own.  Other value faults
and overflows have no code; they are the outcome themselves.

Memory is asked for in one place, where the buffer is made; the texts and tables
of a run are taken to fit.
-/

namespace TraceScript

/-- The lines of a text for a terminal. -/
def printed (lines : List Text) : Text :=
  lines.flatMap (· ++ ['\n'])

/-- A session over a script file that is ready to run. -/
def prepare (disk : Disk) (file : Path) (assembly : LabelTable) (bufferSize : Nat) :
    Except Failure (Session Scratch) := do
  let content ← disk.loadText file
  let buffer ← Scratch.allocate disk.faults.memory bufferSize
  return Session.start disk (Script.ofFile file content) assembly ptEncoder buffer

/-- The outcome of running a script file. -/
structure Report where
  outcome : Except Failure Int
  output : List Text
  errors : List Text
  notices : List Notice
  disk : Disk

namespace Report

/-- The status of a failure and the diagnostic that goes with it. -/
def settle : Failure → Except Failure Int × List Text
  | .system r path =>
      (.ok ErrorCode.fileOpen.number, ["error: ".toList ++ (Failure.system r path).text])
  | .value .outOfMemory => (.ok ErrorCode.noMemory.number, ["error: out of memory".toList])
  | f =>
      match f.code? with
      | some code => (.ok code.number, [f.text])
      | none => (.error f, [])

/-- The status of a result. -/
def settleResult {α : Type} : Except Failure α → Except Failure Int × List Text
  | .ok _ => (.ok ErrorCode.success.number, [])
  | .error f => settle f

end Report

/-- Runs a script file. -/
def runScript (disk : Disk) (file : Path) (assembly : LabelTable) (bufferSize : Nat) : Report :=
  match prepare disk file assembly bufferSize with
  | .error f =>
      let (outcome, errors) := Report.settle f
      ⟨outcome, [], errors, [], disk⟩
  | .ok session =>
      let (result, s) := session.run
      let (outcome, errors) := Report.settleResult result
      ⟨outcome, s.reported.map (·.text), errors, s.notices, s.disk⟩

end TraceScript
