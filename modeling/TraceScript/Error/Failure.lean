import TraceScript.Disk
import TraceScript.Error.Script
import TraceScript.Text.Printable

/-!
# Failures

Everything that can end an operation of this library, by family:

* `script`: a line of the script is wrong;
* `output`: a file of the result cannot be opened or written;
* `internal`: an invariant of the library does not hold;
* `system`: the operating system refuses a file that is no result;
* `value`: an argument is outside what the operation is defined for, or a size
  beyond what memory there is;
* `overflow`: a size is asked for that no memory can have.

Only script errors carry a context; `Failure.inContext` leaves the other
families alone.  `Failure.text` is the diagnostic of each.
-/

namespace TraceScript

/-- A file of the result that cannot be opened or written. -/
structure OutputError where
  path : Text
  reason : Text
  code : ErrorCode
  deriving DecidableEq, Repr

/-- The diagnostic of an output error. -/
def OutputError.text (e : OutputError) : Text :=
  "cannot ".toList ++ (if e.code = .fileOpen then "open ".toList else "write ".toList) ++
    Text.quoted e.path ++ ": ".toList ++ e.reason

/-- An invariant that does not hold. -/
inductive InternalFault
  | addressTooWide (name : Text) (address : Int)
  | noHandler (name : Text)
  | overlongPacket (name : Text) (count : Int) (room : Nat)
  | sessionSpent (phase : Text)
  | stated (message : Text)
  deriving DecidableEq, Repr

/-- The diagnostic of an internal fault. -/
def InternalFault.text : InternalFault → Text
  | addressTooWide name address =>
      "label ".toList ++ Text.quoted name ++ " address ".toList ++ Text.signedHexMarked address ++
        " exceeds 64 bits".toList
  | noHandler name => "no handler for directive ".toList ++ Text.quoted name
  | overlongPacket name count room =>
      "encoder reported ".toList ++ Text.signedDecimal count ++ " bytes for ".toList ++
        Text.quoted name ++ ", buffer holds ".toList ++ Text.decimal room
  | sessionSpent phase => "session already run (phase ".toList ++ phase ++ ")".toList
  | stated message => message

/-- An argument outside what an operation is defined for, or what there is
memory for. -/
inductive ValueFault
  | longDecimal (digits : Nat)
  | negativeShift
  | negativeCount
  | nullByte
  | badDefinition (definition : Text)
  | badBufferSize (size : Int)
  | undecodable (octets : Text.Utf8.Malformed)
  | outOfMemory
  deriving DecidableEq, Repr

/-- The most digits that a decimal literal may have. -/
def maxDecimalDigits : Nat := 4300

/-- The diagnostic of a value fault.  Where memory is short, there is none. -/
def ValueFault.text : ValueFault → Text
  | longDecimal digits =>
      "Exceeds the limit (".toList ++ Text.decimal maxDecimalDigits ++
        " digits) for integer string conversion: value has ".toList ++ Text.decimal digits ++
        " digits; use sys.set_int_max_str_digits() to increase the limit".toList
  | negativeShift => "negative shift count".toList
  | negativeCount => "negative count".toList
  | nullByte => "embedded null byte".toList
  | badDefinition definition => "expected NAME=VALUE, got ".toList ++ Text.quoted definition
  | badBufferSize size => "buffer_size must be positive, got ".toList ++ Text.signedDecimal size
  | undecodable octets => octets.message
  | outOfMemory => []

/-- What ends an operation. -/
inductive Failure
  | script (error : ScriptError)
  | output (error : OutputError)
  | internal (fault : InternalFault)
  | system (reason : Refusal) (path : Option Path)
  | value (fault : ValueFault)
  | overflow
  deriving DecidableEq, Repr

namespace Failure

/-- A script error without a place. -/
def ofCause (cause : Cause) : Failure :=
  .script (ScriptError.ofCause cause)

/-- Attaches a context to a script error. -/
def inContext (f : Failure) (c : Context) : Failure :=
  match f with
  | .script e => .script (e.inContext c)
  | f => f

/-- The failure of an operation that writes results. -/
def ofOpenError (path : Path) : OpenError → Failure
  | .nullByte => .value .nullByte
  | .refused r => .output ⟨path.text, r.text, .fileOpen⟩

/-- The failure of writing or closing a file of the result. -/
def ofRefusedWrite (path : Path) (r : Refusal) : Failure :=
  .output ⟨path.text, r.text, .fileWrite⟩

/-- The failure of reading a file. -/
def ofReadError (path : Path) : OpenError → Failure
  | .nullByte => .value .nullByte
  | .refused r => .system r (some path)

/-- The status code of a failure, for the families that have one. -/
def code? : Failure → Option ErrorCode
  | .script e => some e.code
  | .output e => some e.code
  | .internal _ => some .internal
  | .system _ _ => none
  | .value _ => none
  | .overflow => none

/-- The diagnostic. -/
def text : Failure → Text
  | .script e => e.render
  | .output e => e.text
  | .internal f => f.text
  | .system r path =>
      "[Errno ".toList ++ Text.decimal r.number ++ "] ".toList ++ r.text ++
        match path with
        | some p => ": ".toList ++ Text.quotation p.text
        | none => []
  | .value f => f.text
  | .overflow => "cannot fit 'int' into an index-sized integer".toList

end Failure

/-- An operation's failure in a context. -/
def inContext {α : Type} (c : Context) : Except Failure α → Except Failure α
  | .ok a => .ok a
  | .error f => .error (f.inContext c)

end TraceScript
