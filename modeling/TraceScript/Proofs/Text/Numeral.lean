import TraceScript.Octets
import TraceScript.Text.Numeral

/-!
# Digits

The ways in which a number is written in hexadecimal have its digits in common: as many
as it needs, filled with zeros, or two for each of its octets.  A number has one row of
last digits of each length (`lastDigits`), and every filled writing is such a row
(`padLeft_hex`, `hexBytes_reverse_littleEndian`); a longer row ends with the shorter
(`lastDigits_add`).  Read back, a row of last digits is the number cut to its length
(`valueOf_lastDigits`).
-/

namespace TraceScript.Text

variable {base : Nat} {t : Text} {c : Char}

/-- The last hexadecimal digits of a number, highest first. -/
def lastDigits : Nat → Nat → Text
  | 0, _ => []
  | k + 1, n => lastDigits k (n / 16) ++ [digitChar (n % 16)]

/-- How many numbers a row of hexadecimal digits can hold. -/
def digitRange (k : Nat) : Nat := Nat.pow 16 k

/-- One more digit holds sixteen times as many numbers. -/
theorem digitRange_succ (k : Nat) : digitRange (k + 1) = 16 * digitRange k :=
  Nat.mul_comm _ _

@[simp] theorem signOf_natCast (n : Nat) : signOf (n : Int) = [] :=
  if_neg (Int.not_lt.mpr (Int.natCast_nonneg n))

/-- An octet is two digits. -/
theorem octetRange_eq_digitRange (k : Nat) : octetRange k = digitRange (2 * k) :=
  (Nat.pow_mul 16 2 k).symm

/-- There are as many last digits as are asked for, also of a shorter number. -/
@[simp] theorem length_lastDigits (k n : Nat) : (lastDigits k n).length = k := by
  induction k generalizing n with
  | zero => rfl
  | succ k ih => simp [lastDigits, ih]

/-- A row of digits ends with every shorter one.  The digits in front of it
are those of the number without its last ones. -/
theorem lastDigits_add (j k n : Nat) :
    lastDigits (j + k) n = lastDigits j (n / digitRange k) ++ lastDigits k n := by
  induction k generalizing n with
  | zero => simp [lastDigits, digitRange]
  | succ k ih =>
      have hdiv : n / 16 / digitRange k = n / digitRange (k + 1) := by
        rw [Nat.div_div_eq_div_mul, digitRange_succ]
      calc lastDigits (j + (k + 1)) n
          = lastDigits (j + k) (n / 16) ++ [digitChar (n % 16)] := by
            rw [← Nat.add_assoc, lastDigits]
        _ = (lastDigits j (n / 16 / digitRange k) ++ lastDigits k (n / 16)) ++
              [digitChar (n % 16)] := by rw [ih]
        _ = lastDigits j (n / digitRange (k + 1)) ++ lastDigits (k + 1) n := by
            rw [hdiv, List.append_assoc, lastDigits]

/-- What is cut off a number does not show in its last digits. -/
theorem lastDigits_mod (k n : Nat) : lastDigits k (n % digitRange k) = lastDigits k n := by
  induction k generalizing n with
  | zero => rfl
  | succ k ih =>
      have hdiv : n % digitRange (k + 1) / 16 = n / 16 % digitRange k := by
        rw [digitRange_succ, Nat.mod_mul_right_div_self]
      have hmod : n % digitRange (k + 1) % 16 = n % 16 := by
        rw [digitRange_succ, Nat.mod_mul_right_mod]
      calc lastDigits (k + 1) (n % digitRange (k + 1))
          = lastDigits k (n / 16 % digitRange k) ++ [digitChar (n % 16)] := by
            rw [lastDigits, hdiv, hmod]
        _ = lastDigits k (n / 16) ++ [digitChar (n % 16)] := by rw [ih]
        _ = lastDigits (k + 1) n := rfl

theorem lastDigits_zero (k : Nat) : lastDigits k 0 = List.replicate k '0' := by
  induction k with
  | zero => rfl
  | succ k ih =>
      rw [lastDigits, Nat.zero_div, ih, List.replicate_succ']
      rfl

/-! ### Filled numerals -/

/-- Every number is printed with one digit at least. -/
theorem numeral_ne_nil (base n : Nat) : numeral base n ≠ [] := by
  rw [numeral]
  split <;> simp

/-- A numeral behind zeros is a row of last digits.  There are as many zeros
as the numeral has digits less. -/
theorem replicate_append_hex {k n : Nat} (h : (hex n).length ≤ k) :
    List.replicate (k - (hex n).length) '0' ++ hex n = lastDigits k n := by
  induction n using Nat.strongRecOn generalizing k with
  | ind n ih =>
      obtain ⟨k, rfl⟩ : ∃ j, k = j + 1 := by
        refine Nat.exists_eq_add_one.mpr (Nat.lt_of_lt_of_le ?_ h)
        exact List.length_pos_iff.mpr (numeral_ne_nil 16 n)
      by_cases hn : n < 16
      · have hhex : hex n = [digitChar n] := by
          rw [hex, numeral, if_pos (.inl hn)]
        rw [hhex, lastDigits, Nat.div_eq_of_lt hn, Nat.mod_eq_of_lt hn, lastDigits_zero]
        rfl
      · have hhex : hex n = hex (n / 16) ++ [digitChar (n % 16)] := by
          rw [hex, numeral, if_neg (by omega)]
          rfl
        have hsize : (hex n).length = (hex (n / 16)).length + 1 := by
          rw [hhex, List.length_append]
          rfl
        have hrest := ih (n / 16) (by omega) (k := k) (by omega)
        calc List.replicate (k + 1 - (hex n).length) '0' ++ hex n
            = (List.replicate (k - (hex (n / 16)).length) '0' ++ hex (n / 16)) ++
                [digitChar (n % 16)] := by
              rw [hsize, Nat.add_sub_add_right, hhex, List.append_assoc]
          _ = lastDigits k (n / 16) ++ [digitChar (n % 16)] := by rw [hrest]
          _ = lastDigits (k + 1) n := rfl

/-- A numeral is no longer than the power of the base that it is below.  The
lowest digit is split off, and what is left is below the next lower power. -/
theorem length_hex_le {k n : Nat} (h : n < digitRange (k + 1)) : (hex n).length ≤ k + 1 := by
  induction k generalizing n with
  | zero =>
      have hn : n < 16 := h
      rw [hex, numeral, if_pos (.inl hn)]
      simp
  | succ k ih =>
      rw [hex, numeral]
      split
      · simp
      · have hquotient : n / 16 < digitRange (k + 1) := by
          rw [digitRange_succ] at h
          exact Nat.div_lt_of_lt_mul h
        have hle := ih hquotient
        simp only [List.length_append, List.length_singleton]
        exact Nat.succ_le_succ hle

/-- A filled numeral is a row of last digits, as long as the number fits it. -/
theorem padLeft_hex {k n : Nat} (h : n < digitRange (k + 1)) :
    padLeft (k + 1) '0' (hex n) = lastDigits (k + 1) n :=
  replicate_append_hex (length_hex_le h)

/-- The octets of a number, highest first, are its last digits in pairs.  Each
octet is written in two digits, with a zero in front where one would do. -/
theorem hexBytes_reverse_littleEndian (k n : Nat) :
    hexBytes (littleEndian k n).reverse = lastDigits (2 * k) n := by
  induction k generalizing n with
  | zero => rfl
  | succ k ih =>
      have hoctet : hexByte (UInt8.ofNat (n % 256)) = lastDigits 2 n := by
        have hlt : n % 256 < digitRange (1 + 1) := Nat.mod_lt n (by decide)
        have htoNat : (UInt8.ofNat (n % 256)).toNat = n % 256 := by simp
        rw [hexByte, htoNat, padLeft_hex hlt]
        exact lastDigits_mod 2 n
      have hrow : lastDigits (2 * (k + 1)) n = lastDigits (2 * k) (n / 256) ++ lastDigits 2 n :=
        lastDigits_add (2 * k) 2 n
      calc hexBytes (littleEndian (k + 1) n).reverse
          = hexBytes (littleEndian k (n / 256)).reverse ++ hexByte (UInt8.ofNat (n % 256)) := by
            rw [littleEndian, List.reverse_cons, hexBytes, List.flatMap_append,
              List.flatMap_singleton, hexBytes]
        _ = lastDigits (2 * k) (n / 256) ++ lastDigits 2 n := by rw [ih, hoctet]
        _ = lastDigits (2 * (k + 1)) n := hrow.symm

/-! ### Digits read back -/

/-- The character of a digit is one of its base. -/
theorem isDigitOf_digitChar {d : Nat} (hd : d < base) (hbase : base ≤ 16) :
    isDigitOf base (digitChar d) := by
  rw [isDigitOf, digitValue?_digitChar (Nat.lt_of_lt_of_le hd hbase)]
  simpa using hd

/-- A numeral is made of digits of its base. -/
theorem isDigitOf_of_mem_numeral {n : Nat} (hlo : 2 ≤ base) (hhi : base ≤ 16)
    (h : c ∈ numeral base n) : isDigitOf base c := by
  fun_induction numeral base n with
  | case1 n hn =>
      obtain rfl := List.mem_singleton.mp h
      exact isDigitOf_digitChar (by omega) hhi
  | case2 n hn ih =>
      rcases List.mem_append.mp h with h | h
      · exact ih h
      · obtain rfl := List.mem_singleton.mp h
        exact isDigitOf_digitChar (Nat.mod_lt n (by omega)) hhi

theorem isDigitOf_of_mem_lastDigits {k n : Nat} (h : c ∈ lastDigits k n) : isDigitOf 16 c := by
  induction k generalizing n with
  | zero => cases h
  | succ k ih =>
      rcases List.mem_append.mp h with h | h
      · exact ih h
      · obtain rfl := List.mem_singleton.mp h
        exact isDigitOf_digitChar (Nat.mod_lt n (by decide)) (Nat.le_refl 16)

/-- Read back, the last digits are the number cut to as many. -/
theorem valueOf_lastDigits (k n : Nat) : valueOf 16 (lastDigits k n) = n % digitRange k := by
  induction k generalizing n with
  | zero => exact (Nat.mod_one n).symm
  | succ k ih =>
      have hdigit : (digitValue? (digitChar (n % 16))).getD 0 = n % 16 := by
        rw [digitValue?_digitChar (Nat.mod_lt n (by decide)), Option.getD_some]
      calc valueOf 16 (lastDigits (k + 1) n)
          = valueOf 16 (lastDigits k (n / 16)) * 16 + n % 16 := by
            rw [lastDigits, valueOf_append_singleton, hdigit]
        _ = n % 16 + 16 * (n / 16 % digitRange k) := by rw [ih, Nat.add_comm, Nat.mul_comm]
        _ = n % digitRange (k + 1) := by rw [digitRange_succ, Nat.mod_mul]

end TraceScript.Text
