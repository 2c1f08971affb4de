import TraceScript.Command.Order
import TraceScript.Packet.Encoder
import TraceScript.Text.Alphanumeric

/-!
# Arguments of the command

`CommandLine.piped` is the command line that the program itself is run with, by
the usual conventions and with outputs that are no terminal.  The rest of the
library takes any command line.

The command takes one script and these options, before or after it:

* `-s`, `--symbols`: a symbol file, any number of times;
* `-L`, `--label`: a definition, any number of times;
* `--buffer-size`: the size of the encoder's buffer, the last one counting;
* `-v`, `--verbose` and `--version`.

A long option takes its value behind an equals sign or from the next
argument.  Short options may stand together behind one hyphen, the last of
them taking the rest of the argument or the next one as its value.  After two
hyphens alone, nothing is an option.

`Invocation.ofArguments` then asks what the command cannot do without: files
that exist, a buffer of at least one octet, and one script.  The options are
looked at in the order in which they were given, all values of a repeated one
at its first place, and the script after them; the first fault counts.  Whether
the system lets a file be read is found out when it is.
-/

namespace TraceScript

/-- The options of the command. -/
inductive Switch
  | symbols
  | label
  | bufferSize
  | verbose
  | version
  deriving DecidableEq, Repr

namespace Switch

/-- The option with this long spelling. -/
def ofLong? (t : Text) : Option Switch :=
  if t = "--symbols".toList then some symbols
  else if t = "--label".toList then some label
  else if t = "--buffer-size".toList then some bufferSize
  else if t = "--verbose".toList then some verbose
  else if t = "--version".toList then some version
  else none

/-- The option with this short spelling. -/
def ofShort? (c : Char) : Option Switch :=
  if c = 's' then some symbols
  else if c = 'L' then some label
  else if c = 'v' then some verbose
  else none

/-- The option needs a value. -/
def takesValue : Switch → Bool
  | symbols | label | bufferSize => true
  | verbose | version => false

end Switch

/-- The arguments as they were given, options with their values in order. -/
structure Arguments where
  positionals : List Text
  options : List (Switch × Text)
  deriving DecidableEq, Repr

namespace Arguments

/-- No arguments. -/
def none : Arguments := ⟨[], []⟩

/-- The arguments with an option and its value; the value of a flag is empty. -/
def give (a : Arguments) (s : Switch) (value : Text) : Arguments :=
  { a with options := a.options ++ [(s, value)] }

/-- The values that an option was given, in order. -/
def values (a : Arguments) (s : Switch) : List Text :=
  (a.options.filter (·.1 == s)).map (·.2)

/-- Whether an option was given. -/
def has (a : Arguments) (s : Switch) : Bool :=
  a.options.any (·.1 == s)

/-- Reads short options; the answer may be an option that still needs its
value. -/
def readShort : Text → Arguments → Option (Arguments × Option Switch)
  | [], a => some (a, .none)
  | c :: rest, a =>
      match Switch.ofShort? c with
      | .none => .none
      | some s =>
          if s.takesValue then
            if rest.isEmpty then some (a, some s) else some (a.give s rest, .none)
          else readShort rest (a.give s [])

/-- Reads an argument that starts with a hyphen. -/
def readOption (a : Arguments) (arg : Text) : Option (Arguments × Option Switch) :=
  let (name, value) :=
    match Text.cutAt '=' arg with
    | some (name, value) => (name, some value)
    | .none => (arg, .none)
  match Switch.ofLong? name with
  | some s =>
      match s.takesValue, value with
      | true, some v => some (a.give s v, .none)
      | true, .none => some (a, some s)
      | false, some _ => .none
      | false, .none => some (a.give s [], .none)
  | .none => if arg.take 2 = ['-', '-'] then .none else readShort (arg.drop 1) a

/-- Reads arguments; the second argument is an option that waits for its
value. -/
def read : List Text → Option Switch → Arguments → Option Arguments
  | [], .none, a => some a
  | [], some _, _ => .none
  | arg :: rest, some s, a => read rest .none (a.give s arg)
  | arg :: rest, .none, a =>
      if arg = ['-', '-'] then some { a with positionals := a.positionals ++ rest }
      else if arg.head? = some '-' ∧ 1 < arg.length then
        match readOption a arg with
        | .none => .none
        | some (a, pending) => read rest pending a
      else read rest .none { a with positionals := a.positionals ++ [arg] }

end Arguments

/-- The values of decimal digits of any script, with single low lines between
digits; the first argument says whether a digit went before. -/
def digitRun? : Bool → Text → Option (List Nat)
  | after, [] => if after then some [] else none
  | after, c :: rest =>
      match Text.decimalDigit? c with
      | some d => (digitRun? true rest).map (d :: ·)
      | none => if after && c == '_' then digitRun? false rest else none

/-- A blank that may stand around a size; the information separators are
none. -/
def isPadding (c : Char) : Bool :=
  Text.isBlank c && !(0x1C ≤ c.toNat && c.toNat ≤ 0x1F)

/-- A size: digits behind an optional sign and between blanks, at least one
and of no more digits than a decimal literal may have. -/
def readSize? (t : Text) : Option Nat :=
  let digits? :=
    match ((t.dropWhile isPadding).reverse.dropWhile isPadding).reverse with
    | '+' :: digits => digitRun? false digits
    | digits => digitRun? false digits
  match digits? with
  | none => none
  | some digits =>
      let n := digits.foldl (fun n d => 10 * n + d) 0
      if digits.length ≤ maxDecimalDigits ∧ 1 ≤ n then some n else none

namespace Invocation

/-- The spelling leads to a file as it stands: a slash or a point at its end
would ask for a directory, and its length counts before anything is dropped
from it. -/
def isFile (d : Disk) (spelling : Text) : Bool :=
  Text.Utf8.size spelling ≤ Disk.maxPathOctets &&
    spelling.getLast? != some '/' &&
    (Text.words (· == '/') spelling).getLast? != some ['.'] &&
    match d.read (Path.ofText spelling) with
    | .ok _ => true
    | .error _ => false

/-- Refuses the spelling of no file. -/
def checkFile (d : Disk) (spelling : Text) : Except Objection Unit :=
  if spelling.contains '\x00' then .error (.failure (.value .nullByte))
  else if isFile d spelling then .ok ()
  else .error .misuse

/-- Refuses spellings, the first of no file ending the search. -/
def checkFiles (d : Disk) : List Text → Except Objection Unit
  | [] => .ok ()
  | spelling :: rest => do
      checkFile d spelling
      checkFiles d rest

/-- The size that is asked for: that of the last option. -/
def size? (a : Arguments) : Option Nat :=
  match (a.values .bufferSize).getLast? with
  | none => some defaultBufferSize
  | some t => readSize? t

/-- The size that is asked for, unless it is none. -/
def size (a : Arguments) : Except Objection Nat :=
  match size? a with
  | some n => .ok n
  | none => .error .misuse

/-- Refuses the values that an option was given. -/
def checkSwitch (d : Disk) (a : Arguments) : Switch → Except Objection Unit
  | .symbols => checkFiles d (a.values .symbols)
  | .bufferSize => (size a).map fun _ => ()
  | .label | .verbose | .version => .ok ()

/-- Refuses options, in the order in which they were given. -/
def checkSwitches (d : Disk) (a : Arguments) : List Switch → Except Objection Unit
  | [] => .ok ()
  | s :: rest => do
      checkSwitch d a s
      checkSwitches d a rest

/-- The one script among the arguments that are no options.  It has to be a
file before it may be one too many. -/
def script (d : Disk) : List Text → Except Objection Text
  | [] => .error .misuse
  | t :: more => do
      checkFile d t
      if more.isEmpty then return t else .error .misuse

/-- What the arguments ask for, on this disk. -/
def order (d : Disk) (a : Arguments) : Except Objection Order := do
  checkSwitches d a (a.options.map (·.1))
  let t ← script d a.positionals
  let size ← size a
  return ⟨Path.ofText t, (a.values .symbols).map Path.ofText, a.values .label, size,
    a.has .verbose⟩

/-- What the arguments mean on this disk. -/
def ofArguments (d : Disk) (args : List Text) : Except Objection Invocation :=
  match Arguments.read args none Arguments.none with
  | none => .error .misuse
  | some a => if a.has .version then .ok version else (order d a).map run

end Invocation

namespace CommandLine

/-- The usual conventions, and no control sequences on either output. -/
def piped : CommandLine where
  interpret := Invocation.ofArguments
  output := Text.withoutControls
  errors := Text.withoutControls

/-- Where the output is piped, texts without control sequences are shown as
they are. -/
theorem showsPlain_piped : piped.ShowsPlain where
  output _ h := Text.withoutControls_eq_self h
  errors _ h := Text.withoutControls_eq_self h

end CommandLine
end TraceScript
