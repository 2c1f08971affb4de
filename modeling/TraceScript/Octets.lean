/-!
# Octets

Stored data is a list of octets.  Numbers are stored with the lowest octet
first: `littleEndian` writes as many low octets of a number as there is room
for and `ofLittleEndian` reads them back.  `lowOctets` does the same for an
integer of either sign, whose high octets repeat its sign without end.

Main fact: `ofLittleEndian_littleEndian`, what is read back is the number cut
to the octets that were written.
-/

namespace TraceScript

/-- Stored data. -/
abbrev Octets := List UInt8

/-- The `size` low octets of a number, lowest first. -/
def littleEndian : Nat → Nat → Octets
  | 0, _ => []
  | size + 1, n => UInt8.ofNat (n % 256) :: littleEndian size (n / 256)

/-- How many numbers a row of octets can hold. -/
def octetRange (size : Nat) : Nat := Nat.pow 256 size

/-- The `size` low octets of an integer, lowest first. -/
def lowOctets (size : Nat) (v : Int) : Octets :=
  littleEndian size (v % (octetRange size : Int)).toNat

/-- The number that octets spell, lowest first. -/
def ofLittleEndian : Octets → Nat
  | [] => 0
  | b :: rest => b.toNat + 256 * ofLittleEndian rest

/-- A number is written in as many octets as there is room for. -/
theorem length_littleEndian (size n : Nat) : (littleEndian size n).length = size := by
  induction size generalizing n with
  | zero => rfl
  | succ size ih => simp [littleEndian, ih]

theorem length_lowOctets (size : Nat) (v : Int) : (lowOctets size v).length = size :=
  length_littleEndian _ _

/-- One more octet holds 256 times as many numbers. -/
theorem octetRange_succ (size : Nat) : octetRange (size + 1) = 256 * octetRange size :=
  Nat.mul_comm _ _

/-- The octets of a number read back as the number, cut to their width. -/
theorem ofLittleEndian_littleEndian (size n : Nat) :
    ofLittleEndian (littleEndian size n) = n % octetRange size := by
  induction size generalizing n with
  | zero => exact (Nat.mod_one n).symm
  | succ size ih =>
      have hb : (UInt8.ofNat (n % 256)).toNat = n % 256 := by simp
      calc ofLittleEndian (littleEndian (size + 1) n)
          = n % 256 + 256 * ofLittleEndian (littleEndian size (n / 256)) := by
            rw [littleEndian, ofLittleEndian, hb]
        _ = n % 256 + 256 * (n / 256 % octetRange size) := by rw [ih]
        _ = n % octetRange (size + 1) := by rw [octetRange_succ, Nat.mod_mul]

end TraceScript
