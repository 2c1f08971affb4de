import TraceScript.Octets
import TraceScript.Text.Numeral

/-!
# Octets of a text

`encode` writes a text as UTF-8 and `decode` reads it back strictly: no
overlong form, no surrogate, nothing above U+10FFFF.  What cannot be read is
refused with its position, the octets from the lead up to the first that
cannot continue it, and the reason; `Malformed.message` puts that in words.

A lead octet fixes how many octets follow and the closed range of the first
of them (`Lead`); every later one lies in 80–BF.
-/

namespace TraceScript.Text.Utf8

/-- Why octets are no text. -/
inductive Reason
  | invalidStart
  | invalidContinuation
  | unexpectedEnd
  deriving DecidableEq, Repr

/-- The octets that are no text, with the place where they start. -/
structure Malformed where
  position : Nat
  octets : Octets
  reason : Reason
  deriving DecidableEq, Repr

/-- What a lead octet announces: its payload, the range of the octet after it,
and how many octets follow in all. -/
structure Lead where
  payload : Nat
  low : Nat
  high : Nat
  count : Nat

/-- The announcement of a lead octet; `none` for an octet that leads nothing. -/
def lead? (b : UInt8) : Option Lead :=
  let n := b.toNat
  if n < 0x80 then some ⟨n, 0x80, 0xBF, 0⟩
  else if n < 0xC2 then none
  else if n < 0xE0 then some ⟨n - 0xC0, 0x80, 0xBF, 1⟩
  else if n < 0xF0 then
    some ⟨n - 0xE0, if n = 0xE0 then 0xA0 else 0x80, if n = 0xED then 0x9F else 0xBF, 2⟩
  else if n < 0xF5 then
    some ⟨n - 0xF0, if n = 0xF0 then 0x90 else 0x80, if n = 0xF4 then 0x8F else 0xBF, 3⟩
  else none

/-- The outcome of reading the octets that follow a lead. -/
inductive Tail
  | complete (scalar : Nat) (rest : Octets)
  | refused (taken : Octets) (reason : Reason)

/-- Reads `count` continuation octets, the first between `low` and `high`. -/
def readTail (scalar low high : Nat) : Nat → Octets → Tail
  | 0, rest => .complete scalar rest
  | _ + 1, [] => .refused [] .unexpectedEnd
  | count + 1, b :: rest =>
      if low ≤ b.toNat ∧ b.toNat ≤ high then
        match readTail (scalar * 64 + b.toNat % 64) 0x80 0xBF count rest with
        | .complete s r => .complete s r
        | .refused taken reason => .refused (b :: taken) reason
      else .refused [] .invalidContinuation

/-- Continuation octets are taken off the front, so what is left is no longer
than what was there. -/
theorem length_readTail {scalar low high count : Nat} {bs rest : Octets} {s : Nat}
    (h : readTail scalar low high count bs = .complete s rest) : rest.length ≤ bs.length := by
  induction count generalizing scalar low high bs with
  | zero => simp_all [readTail]
  | succ n ih =>
      cases bs with
      | nil => simp [readTail] at h
      | cons b bs =>
          rw [readTail] at h
          split at h
          · split at h
            · rename_i hr
              cases h
              exact Nat.le_succ_of_le (ih hr)
            · cases h
          · cases h

/-- The text that the octets from `position` on stand for. -/
def decodeFrom (position : Nat) (bs : Octets) : Except Malformed Text :=
  match bs with
  | [] => .ok []
  | b :: rest =>
      match lead? b with
      | none => .error ⟨position, [b], .invalidStart⟩
      | some l =>
          match h : readTail l.payload l.low l.high l.count rest with
          | .refused taken reason => .error ⟨position, b :: taken, reason⟩
          | .complete scalar more =>
              (decodeFrom (position + l.count + 1) more).map (Char.ofNat scalar :: ·)
termination_by bs.length
decreasing_by exact Nat.lt_succ_of_le (length_readTail h)

/-- The text that octets stand for. -/
def decode (bs : Octets) : Except Malformed Text :=
  decodeFrom 0 bs

/-- The octets of a code point. -/
def encodeChar (c : Char) : Octets :=
  let n := c.toNat
  let tail (high : Nat) : UInt8 := UInt8.ofNat (0x80 + high % 64)
  if n < 0x80 then [UInt8.ofNat n]
  else if n < 0x800 then [UInt8.ofNat (0xC0 + n / 64), tail n]
  else if n < 0x10000 then [UInt8.ofNat (0xE0 + n / 4096), tail (n / 64), tail n]
  else [UInt8.ofNat (0xF0 + n / 262144), tail (n / 4096), tail (n / 64), tail n]

/-- The octets of a text. -/
def encode (t : Text) : Octets :=
  t.flatMap encodeChar

/-- The octet count of a text. -/
def size (t : Text) : Nat :=
  (encode t).length

/-- The words for a reason. -/
def Reason.text : Reason → Text
  | .invalidStart => "invalid start byte".toList
  | .invalidContinuation => "invalid continuation byte".toList
  | .unexpectedEnd => "unexpected end of data".toList

/-- The span of the refused octets in words: the octet itself if it is alone. -/
def Malformed.span (m : Malformed) : Text :=
  match m.octets with
  | [b] => "byte 0x".toList ++ hexByte b ++ " in position ".toList ++ decimal m.position
  | bs =>
      "bytes in position ".toList ++ decimal m.position ++ "-".toList ++
        decimal (m.position + bs.length - 1)

/-- The diagnostic for octets that are no text. -/
def Malformed.message (m : Malformed) : Text :=
  "'utf-8' codec can't decode ".toList ++ m.span ++ ": ".toList ++ m.reason.text

end TraceScript.Text.Utf8
