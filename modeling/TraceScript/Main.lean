import TraceScript.Command.Survey

/-!
# The command on a real disk

Looks up what stands where the command may read and write, runs the command
on that, and carries the differences back.  All decisions are those of
`Command.run`.
-/

namespace TraceScript

/-- A text for the outside world. -/
def outside (t : Text) : String := String.ofList t

/-- Whether a directory stands under this name. -/
def standsDirectory (name : String) : IO Bool := do
  try
    let _ ← IO.FS.realPath (name ++ "/.")
    return true
  catch _ => return false

/-- Takes note of what stands at a path whose parents are known. -/
def look (d : Disk) (p : Path) : IO Disk := do
  match d.locate p with
  | .error _ => return d
  | .ok key =>
      if d.isDirectory key then return d
      else if ← standsDirectory (outside p.text) then
        return { d with directories := d.directories ++ [key] }
      else
        try
          let octets ← IO.FS.readBinFile (outside p.text)
          return d.put key octets.toList
        catch _ => return d

/-- Takes note of what stands at a path and above it. -/
def survey (d : Disk) (p : Path) : IO Disk :=
  (List.range p.parts.length).foldlM
    (fun d n => look d ⟨p.anchor, p.parts.take (n + 1)⟩) d

/-- Carries one difference to the real disk. -/
def store (change : Path × Option Octets) : IO Unit :=
  match change with
  | (key, some octets) => IO.FS.writeBinFile (outside key.text) ⟨octets.toArray⟩
  | (key, none) => IO.FS.removeFile (outside key.text)

/-- Runs the command with these arguments. -/
def runCommand (args : List Text) : IO UInt32 := do
  let named ← (Command.spelledPaths args).foldlM survey Disk.empty
  let d ← (Command.outputPaths named args).foldlM survey named
  match Command.run d args with
  | .error .misuse =>
      IO.eprintln "Usage: tracegen [OPTIONS] SCRIPT"
      return 2
  | .error (.failure f) =>
      IO.eprintln (outside f.text)
      return 1
  | .ok e =>
      (Disk.differences d e.disk).forM store
      IO.print (outside (printed e.output))
      IO.eprint (outside (printed e.errors))
      return UInt32.ofNat e.exit

end TraceScript

def main (args : List String) : IO UInt32 :=
  TraceScript.runCommand (args.map (·.toList))
