import TraceScript.Text.Numeral

/-!
# Encoder status

Why an encoder makes no packet.  It answers with a negative number;
`statusText` puts any number in words, also one that no status has.
-/

namespace TraceScript

/-- Why an encoder makes no packet. -/
inductive Status
  | internal
  | invalid
  | noSpace
  | badOpcode
  | badPacket
  | badIpCompression
  deriving DecidableEq, Repr

namespace Status

/-- Every status, by falling number. -/
def all : List Status :=
  [internal, invalid, noSpace, badOpcode, badPacket, badIpCompression]

/-- The number of a status. -/
def number : Status → Int
  | internal => -1
  | invalid => -2
  | noSpace => -3
  | badOpcode => -4
  | badPacket => -5
  | badIpCompression => -6

/-- The words for a status. -/
def text : Status → Text
  | internal => "internal error".toList
  | invalid => "invalid argument".toList
  | noSpace => "not enough space".toList
  | badOpcode => "unknown opcode".toList
  | badPacket => "unknown packet".toList
  | badIpCompression => "bad ip compression".toList

/-- The number of a status is never that of octets. -/
theorem number_neg (s : Status) : s.number < 0 := by
  cases s <;> decide

end Status

/-- The words for an encoder's answer. -/
def statusText (n : Int) : Text :=
  if n = 0 then "success".toList
  else
    match Status.all.find? fun s => s.number == n with
    | some s => s.text
    | none => "unknown status ".toList ++ Text.signedDecimal n

/-- A status has the text of its number. -/
theorem statusText_number (s : Status) : statusText s.number = s.text := by
  cases s <;> decide

end TraceScript
