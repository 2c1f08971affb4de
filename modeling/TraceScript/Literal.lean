import TraceScript.Error.Failure

/-!
# Integer literals

An integer is written with an optional sign and digits in one of five
spellings: `0x` or `0X` and hexadecimal digits, `$` and hexadecimal digits,
`0b` or `0B` and binary digits, a zero and octal digits, or a decimal number
that does not start with a zero.  `Literal.read?` takes a whole text apart
and `Literal.text` puts it together again; `Literal.value` is the number
meant, and `Literal.word` what a register of 64 bits holds of it.

`readWord` reads an operand: the literal may stand between blanks, and a
decimal one may have no more than `maxDecimalDigits` digits.
-/

namespace TraceScript

/-- How many words there are. -/
def wordCount : Nat := 0x10000000000000000

/-- The word that stands for an integer. -/
def toWord (v : Int) : Nat :=
  (v % (wordCount : Int)).toNat

/-- The word of an integer is a word, whatever its sign and size. -/
theorem toWord_lt (v : Int) : toWord v < wordCount := by
  have h := Int.emod_lt_of_pos v (b := (wordCount : Int)) (by decide)
  have := Int.emod_nonneg v (b := (wordCount : Int)) (by decide)
  unfold toWord
  omega

/-- The five spellings. -/
inductive Radix
  | hexadecimal
  | dollar
  | binary
  | octal
  | decimal
  deriving DecidableEq, Repr

/-- The base of a spelling. -/
def Radix.base : Radix → Nat
  | hexadecimal => 16
  | dollar => 16
  | binary => 2
  | octal => 8
  | decimal => 10

/-- The signs that may precede the digits. -/
inductive Sign
  | absent
  | plus
  | minus
  deriving DecidableEq, Repr

/-- An integer as written: sign, what marks the spelling, and digits. -/
structure Literal where
  sign : Sign
  radix : Radix
  mark : Text
  digits : Text
  deriving DecidableEq, Repr

namespace Literal

/-- The literal without its sign; a row of octal digits starts with the zero
that marks it. -/
def readUnsigned? (sign : Sign) (t : Text) : Option Literal :=
  let row (radix : Radix) (mark digits : Text) : Option Literal :=
    if !digits.isEmpty && digits.all (Text.isDigitOf radix.base) then
      some ⟨sign, radix, mark, digits⟩
    else none
  match t with
  | '0' :: 'x' :: digits => row .hexadecimal ['0', 'x'] digits
  | '0' :: 'X' :: digits => row .hexadecimal ['0', 'X'] digits
  | '0' :: 'b' :: digits => row .binary ['0', 'b'] digits
  | '0' :: 'B' :: digits => row .binary ['0', 'B'] digits
  | '$' :: digits => row .dollar ['$'] digits
  | '0' :: _ => row .octal [] t
  | _ => row .decimal [] t

/-- The literal that a whole text spells. -/
def read? : Text → Option Literal
  | '+' :: t => readUnsigned? .plus t
  | '-' :: t => readUnsigned? .minus t
  | t => readUnsigned? .absent t

/-- The spelling of a sign. -/
def signText : Sign → Text
  | .absent => []
  | .plus => ['+']
  | .minus => ['-']

/-- The spelling of a literal. -/
def text (l : Literal) : Text :=
  signText l.sign ++ l.mark ++ l.digits

/-- The integer that a literal denotes. -/
def value (l : Literal) : Int :=
  let n : Int := Text.valueOf l.radix.base l.digits
  if l.sign = .minus then -n else n

/-- The word that a literal denotes. -/
def word (l : Literal) : Nat :=
  toWord l.value

end Literal

/-- The word that an operand denotes. -/
def readWord (t : Text) : Except Failure Nat :=
  match Literal.read? (Text.trim t) with
  | none => .error (.ofCause (.badInteger t))
  | some l =>
      if l.radix = .decimal ∧ l.digits.length > maxDecimalDigits then
        .error (.value (.longDecimal l.digits.length))
      else .ok l.word

end TraceScript
