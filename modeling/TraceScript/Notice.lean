import TraceScript.Path
import TraceScript.Text.Numeral
import TraceScript.Text.Utf8

/-!
# Notices

What a run tells about itself besides its results: the packets and labels it
makes, the files it opens, writes and removes, and the lines of a symbol file
that it passes over.  Every notice has a severity and a wording; a run keeps
them in the order in which they arise.
-/

namespace TraceScript

/-- How much a notice matters. -/
inductive Severity
  | debug
  | info
  | warning
  deriving DecidableEq, Repr

/-- The name of a severity. -/
def Severity.text : Severity → Text
  | debug => "DEBUG".toList
  | info => "INFO".toList
  | warning => "WARNING".toList

/-- Something that happened in a run. -/
inductive Notice
  | symbolLineIgnored (file : Path) (line : Text)
  | symbolsLoaded (count : Nat) (file : Path)
  | labelDefined (name : Text) (address : Nat)
  | streamEnded (offset : Nat)
  | packetEncoded (offset : Nat) (directive : Text) (packet : Octets)
  | streamWritten (size : Nat) (file : Path)
  | noCheckpoint (script : Text)
  | opened (file : Path)
  | overwriting (file : Path)
  | wrote (file : Path)
  | removing (file : Path)
  | closeIgnored (file : Path)
  deriving DecidableEq, Repr

namespace Notice

/-- The severity of a notice. -/
def severity : Notice → Severity
  | symbolLineIgnored _ _ => .warning
  | symbolsLoaded _ _ => .debug
  | labelDefined _ _ => .debug
  | streamEnded _ => .debug
  | packetEncoded _ _ _ => .debug
  | streamWritten _ _ => .info
  | noCheckpoint _ => .info
  | opened _ => .debug
  | overwriting _ => .warning
  | wrote _ => .info
  | removing _ => .warning
  | closeIgnored _ => .debug

/-- The wording of a notice. -/
def text : Notice → Text
  | symbolLineIgnored file line =>
      file.text ++ ": ignoring malformed symbol line ".toList ++ Text.quoted line
  | symbolsLoaded count file =>
      "Loaded ".toList ++ Text.decimal count ++ " external labels from ".toList ++ file.text
  | labelDefined name address =>
      "Label ".toList ++ Text.quoted name ++ " = ".toList ++ Text.signedHexMarked address
  | streamEnded offset => "End of stream at offset ".toList ++ Text.signedHexMarked offset
  | packetEncoded offset directive packet =>
      "0x".toList ++ Text.padLeft 4 '0' (Text.hex offset) ++ ": ".toList ++ directive ++
        " (".toList ++ Text.decimal packet.length ++ " bytes) ".toList ++ Text.hexBytes packet
  | streamWritten size file =>
      "Wrote ".toList ++ Text.decimal size ++ " bytes to ".toList ++ file.text
  | noCheckpoint script => script ++ ": no .exp directive, no expected output".toList
  | opened file => "Opened ".toList ++ file.text
  | overwriting file =>
      "Overwriting ".toList ++ file.text ++ " from an earlier .exp directive".toList
  | wrote file => "Wrote ".toList ++ file.text
  | removing file => "Removing incomplete ".toList ++ file.text
  | closeIgnored file => "Ignoring close failure on discarded ".toList ++ file.text

/-- The wordings of the warnings among the notices. -/
def warnings (notices : List Notice) : List Text :=
  (notices.filter (·.severity == .warning)).map text

/-- The lines of a log. -/
def logLine (n : Notice) : Text :=
  n.severity.text ++ ": ".toList ++ n.text

end Notice
end TraceScript
