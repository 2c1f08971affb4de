import TraceScript.Command.Run

/-!
# What a run looks at

The paths that a run of the command may have to do with: those that its
arguments spell, and the output files of its script.  Whoever runs the
command on a real disk has to know beforehand what stands there.
-/

namespace TraceScript.Command

/-- The paths that the arguments spell, files or not. -/
def spelledPaths (args : List Text) : List Path :=
  match Arguments.read args none Arguments.none with
  | none => []
  | some a => (a.positionals ++ a.values .symbols).map Path.ofText

/-- The file of expected output that a line opens. -/
def checkpointPath? (script : Script) (line : ScriptLine) : Option Path :=
  match line.directive with
  | none => none
  | some t =>
      match Directive.split t none none with
      | .ok d => if d.isTerminator then some (script.expectationPath d.payload) else none
      | .error _ => none

/-- The files that a script may open. -/
def scriptPaths (script : Script) : List Path :=
  script.streamPath :: script.lines.filterMap (checkpointPath? script)

/-- The output files of the command. -/
def outputPaths (d : Disk) (args : List Text) : List Path :=
  match Invocation.ofArguments d args with
  | .ok (.run o) =>
      match d.readText o.script with
      | .ok content => scriptPaths (Script.ofFile o.script content)
      | .error _ => []
  | _ => []

end TraceScript.Command
