import TraceScript.Directive.Shape
import TraceScript.Literal
import TraceScript.Packet.Request

/-!
# Operands

The payload of each directive read as the operands of its packet.  Operands
stand between separators, which depend on the directive; where the number of
operands is wrong, the missing one is reported before anything else and the
superfluous ones after everything else that is wrong.

An address operand is a literal or, after a percent sign, the name of a
label.  A pattern is a row of `t` and `n` for taken and not taken, the
highest bit first, with points and blanks anywhere.
-/

namespace TraceScript.Operand

/-- The failure of a payload. -/
def refuse {α : Type} (cause : Cause) : Except Failure α :=
  .error (.ofCause cause)

/-- The parts of a payload between separators. -/
def tokens (separators : Text) (payload : Text) : List Text :=
  Text.words (separators.contains ·) (Text.trim payload)

/-- The superfluous parts in one text. -/
def leftover (tokens : List Text) : Cause :=
  .trailingTokens (Text.joinWith [' '] tokens)

/-- A payload without operands. -/
def readEmpty (payload : Text) : Except Failure Unit :=
  let t := Text.trim payload
  if t.isEmpty then .ok () else refuse (.trailingTokens t)

/-- The bits of a pattern, highest first. -/
def patternBits : Text → Except Failure (List Bool)
  | [] => .ok []
  | c :: rest =>
      if Text.isBlank c || c == '.' then patternBits rest
      else if c = 't' then (patternBits rest).map (true :: ·)
      else if c = 'n' then (patternBits rest).map (false :: ·)
      else refuse (.unknownCharacter c)

/-- The number that bits spell, highest first. -/
def bitsValue (bits : List Bool) : Nat :=
  bits.foldl (fun n b => 2 * n + b.toNat) 0

/-- A pattern as its value and its size. -/
def readPattern (payload : Text) : Except Failure (Nat × Nat) := do
  let bits ← patternBits payload
  if bits.length > Cause.maxPatternBits then refuse (.patternTooLong bits.length)
  else return (bitsValue bits, bits.length)

/-- The compression code in front of an address. -/
def readCompression (token : Text) : Except Failure Nat := do
  let code ← readWord token
  if code > 0xFF then refuse (.compressionTooLarge code) else return code

/-- An address, written out or as a label. -/
def readAddress (labels : Option Labels) (token : Text) : Except Failure Nat :=
  match token with
  | '%' :: name =>
      match labels with
      | none => refuse (.labelWithoutTable token)
      | some l => (l.resolve name).map (·.1)
  | token => readWord token

/-- A compression code and an address, given in return as address and code. -/
def readAddressPair (labels : Option Labels) (payload : Text) : Except Failure (Nat × Nat) :=
  match tokens " \t:".toList payload with
  | [] => refuse .missingOperands
  | first :: more => do
      let code ← readCompression first
      match more with
      | [] => refuse .missingAddress
      | second :: rest => do
          let address ← readAddress labels second
          if rest.isEmpty then return (address, code) else refuse (leftover rest)

/-- An execution mode. -/
def readExecMode (payload : Text) : Except Failure ExecMode :=
  let t := Text.trim payload
  if t = "16bit".toList then .ok .bit16
  else if t = "32bit".toList then .ok .bit32
  else if t = "64bit".toList then .ok .bit64
  else refuse .badExecMode

/-- A transaction state. -/
def readTsxState (payload : Text) : Except Failure TsxState :=
  let t := Text.trim payload
  if t = "begin".toList then .ok .begin
  else if t = "abort".toList then .ok .abort
  else if t = "commit".toList then .ok .commit
  else refuse .badTsxState

/-- A single word. -/
def readWord64 (payload : Text) : Except Failure Nat :=
  match tokens " \t,".toList payload with
  | [] => refuse .missingOperand
  | [token] => readWord token
  | _ :: rest => refuse (leftover rest)

/-- A single word of eight bits. -/
def readWord8 (payload : Text) : Except Failure Nat := do
  let v ← readWord64 payload
  if v > 0xFF then refuse (.byteTooLarge v) else return v

/-- The packet that a directive asks for.  The terminator asks for none, and
its payload is no operand. -/
def request? (labels : Labels) (payload : Text) : Keyword → Option (Except Failure Request)
  | .exp => none
  | .psb => some ((readEmpty payload).map fun _ => .psb)
  | .psbend => some ((readEmpty payload).map fun _ => .psbend)
  | .pad => some ((readEmpty payload).map fun _ => .pad)
  | .ovf => some ((readEmpty payload).map fun _ => .ovf)
  | .tnt => some ((readPattern payload).map fun (bits, size) => .tnt8 bits size)
  | .tnt64 => some ((readPattern payload).map fun (bits, size) => .tnt64 bits size)
  | .tip => some (addressed .tip)
  | .tipPge => some (addressed .tipPge)
  | .tipPgd => some (addressed .tipPgd)
  | .fup => some (addressed .fup)
  | .modeExec => some ((readExecMode payload).map fun m => .modeExec m.number)
  | .modeTsx => some ((readTsxState payload).map fun s => .modeTsx s.number)
  | .pip => some ((readWord64 payload).map fun v => .pip v)
  | .tsc => some ((readWord64 payload).map fun v => .tsc v)
  | .cbr => some ((readWord8 payload).map fun v => .cbr v)
where
  /-- A packet with an address. -/
  addressed (kind : AddressKind) : Except Failure Request :=
    (readAddressPair (some labels) payload).map fun (ip, code) => .address kind ip code

end TraceScript.Operand
