import TraceScript.Error.Failure
import TraceScript.Text.Line

/-!
# Text files

A text file is stored as UTF-8, and the returns in it are read as line feeds.
-/

namespace TraceScript

/-- The text that a file's octets stand for. -/
def textOfOctets (octets : Octets) : Except Failure Text :=
  match Text.Utf8.decode octets with
  | .error m => .error (.value (.undecodable m))
  | .ok t => .ok (Text.unifyNewlines t)

/-- The text that comes of asking for a file's octets. -/
def textOfAnswer (file : Path) : Except OpenError Octets → Except Failure Text
  | .error e => .error (.ofReadError file e)
  | .ok octets => textOfOctets octets

/-- The text that a file holds. -/
def Disk.readText (d : Disk) (file : Path) : Except Failure Text :=
  textOfAnswer file (d.read file)

/-- The text of a file, unless the system refuses to open it. -/
def Disk.loadText (d : Disk) (file : Path) : Except Failure Text :=
  textOfAnswer file (d.load file)

end TraceScript
