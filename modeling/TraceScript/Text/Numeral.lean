import TraceScript.Text.Blank

/-!
# Numerals

Numbers in positional notation.  `numeral base n` is the shortest writing of
`n`, most significant digit first and letters in lower case; `valueOf base`
reads a row of digits back.  `hex` and `decimal` are the two instances that
messages use, and the remaining definitions dress them: a sign, a `0x`, a
width that is filled with zeros.

Main fact: `valueOf_numeral`, reading inverts writing in every base from two
to sixteen.
-/

namespace TraceScript.Text

/-- The digit of a value below sixteen. -/
def digitChar (d : Nat) : Char :=
  if d < 10 then Char.ofNat ('0'.toNat + d) else Char.ofNat ('a'.toNat + (d - 10))

/-- The value of a hexadecimal digit in either case. -/
def digitValue? (c : Char) : Option Nat :=
  if '0' ≤ c ∧ c ≤ '9' then some (c.toNat - '0'.toNat)
  else if 'a' ≤ c ∧ c ≤ 'f' then some (c.toNat - 'a'.toNat + 10)
  else if 'A' ≤ c ∧ c ≤ 'F' then some (c.toNat - 'A'.toNat + 10)
  else none

/-- A digit of the base. -/
def isDigitOf (base : Nat) (c : Char) : Bool :=
  (digitValue? c).any (· < base)

/-- The number that a row of digits denotes. -/
def valueOf (base : Nat) (digits : Text) : Nat :=
  digits.foldl (fun n c => n * base + (digitValue? c).getD 0) 0

/-- The digits of a number, most significant first. -/
def numeral (base n : Nat) : Text :=
  if n < base ∨ base < 2 then [digitChar n]
  else numeral base (n / base) ++ [digitChar (n % base)]
termination_by n
decreasing_by exact Nat.div_lt_self (by omega) (by omega)

/-- Lower-case hexadecimal. -/
def hex (n : Nat) : Text := numeral 16 n

/-- Decimal. -/
def decimal (n : Nat) : Text := numeral 10 n

/-- A text filled at its start up to a width. -/
def padLeft (width : Nat) (fill : Char) (t : Text) : Text :=
  List.replicate (width - t.length) fill ++ t

/-- A minus sign for a negative number. -/
def signOf (v : Int) : Text :=
  if v < 0 then ['-'] else []

/-- Decimal with a minus sign where needed. -/
def signedDecimal (v : Int) : Text :=
  signOf v ++ decimal v.natAbs

/-- Hexadecimal with a minus sign where needed. -/
def signedHex (v : Int) : Text :=
  signOf v ++ hex v.natAbs

/-- Hexadecimal filled with zeros behind the sign; the width counts the sign. -/
def signedHexPadded (width : Nat) (v : Int) : Text :=
  signOf v ++ padLeft (width - (signOf v).length) '0' (hex v.natAbs)

/-- Hexadecimal behind the sign and `0x`. -/
def signedHexMarked (v : Int) : Text :=
  signOf v ++ "0x".toList ++ hex v.natAbs

/-- Two hexadecimal digits. -/
def hexByte (b : UInt8) : Text :=
  padLeft 2 '0' (hex b.toNat)

/-- Two hexadecimal digits for each octet. -/
def hexBytes (bs : List UInt8) : Text :=
  bs.flatMap hexByte

/-- The character of a hexadecimal digit has the value of the digit. -/
theorem digitValue?_digitChar {d : Nat} (h : d < 16) : digitValue? (digitChar d) = some d := by
  have : ∀ k : Fin 16, digitValue? (digitChar k.val) = some k.val := by decide
  exact this ⟨d, h⟩

/-- One more digit at the end counts for itself, and the others for the base
times what they did. -/
theorem valueOf_append_singleton (base : Nat) (t : Text) (c : Char) :
    valueOf base (t ++ [c]) = valueOf base t * base + (digitValue? c).getD 0 := by
  simp [valueOf]

/-- Reading inverts writing. -/
theorem valueOf_numeral {base : Nat} (hlo : 2 ≤ base) (hhi : base ≤ 16) (n : Nat) :
    valueOf base (numeral base n) = n := by
  fun_induction numeral base n with
  | case1 n h =>
      have hn : n < 16 := by omega
      simp [valueOf, digitValue?_digitChar hn]
  | case2 n h ih =>
      have hd : n % base < 16 := by
        have := Nat.mod_lt n (show 0 < base by omega)
        omega
      rw [valueOf_append_singleton, ih, digitValue?_digitChar hd, Option.getD_some]
      exact Nat.div_add_mod' n base

end TraceScript.Text
