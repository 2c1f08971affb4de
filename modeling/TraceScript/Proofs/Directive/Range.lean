import TraceScript.Proofs.Directive.Literal
import TraceScript.Proofs.Expectation.Rendering

/-!
# Ranges of operands

Three operands have a range narrower than a word: a byte, the compression code in front of
an address, and the width behind a label.  Each is held against its limit after it has been
read as a word (`checked`), so what is checked, and kept, is what a word holds of the
number and not the number itself (`range_checked`).  Up to the last word these are the
same; a larger number is cut first, and one that is small behind the cut passes.
-/

namespace TraceScript

open Placeholder (shown)

variable {labels : Labels} {l : Literal} {name : Text} {a : Nat}

/-- The number that the digits of a literal denote. -/
def Literal.magnitude (l : Literal) : Nat :=
  Text.valueOf l.radix.base l.digits

/-- A value up to a limit, or the failure of a larger one. -/
def checked (limit : Nat) (cause : Nat → Cause) (value : Nat) : Except Failure Nat :=
  if value ≤ limit then .ok value else .error (.ofCause (cause value))

/-- A literal that may be read: no sign or a plus, and not too many digits. -/
structure Literal.Unsigned (l : Literal) : Prop where
  written : l.Written
  sign : l.sign ≠ .minus
  short : ¬ l.IsLong

namespace Literal.Unsigned

/-- Such a literal is read as its word. -/
theorem readWord_text (h : l.Unsigned) : readWord l.text = .ok l.word := by
  rw [Literal.readWord_text h.written, if_neg h.short]

/-- Its word is what its digits denote, cut to a word: a positive number is
cut like a negative one. -/
theorem word_eq (h : l.Unsigned) : l.word = l.magnitude % wordCount :=
  Literal.word_unsigned h.sign

end Literal.Unsigned

/-! ### Operands of a directive -/

namespace Operand

/-- What is refused above a limit is checked against it. -/
theorem refuse_above (limit : Nat) (cause : Nat → Cause) (value : Nat) :
    (if value > limit then refuse (cause value) else pure value) = checked limit cause value := by
  by_cases hle : value ≤ limit
  · rw [checked, if_pos hle, if_neg (Nat.not_lt.mpr hle)]
    rfl
  · rw [checked, if_neg hle, if_pos (Nat.not_le.mp hle)]
    rfl

/-- A byte operand is checked against the largest byte only after it has been
cut to a word. -/
theorem readWord8_unsigned (h : l.Unsigned) :
    readWord8 l.text = checked 0xFF .byteTooLarge l.word := by
  have htokens : tokens " \t,".toList l.text = [l.text] := h.written.tokens_text (by decide)
  have hread : readWord64 l.text = .ok l.word := by
    rw [readWord64, htokens]
    exact h.readWord_text
  rw [readWord8, hread]
  exact refuse_above 0xFF .byteTooLarge l.word

theorem readCompression_unsigned (h : l.Unsigned) :
    readCompression l.text = checked 0xFF .compressionTooLarge l.word := by
  rw [readCompression, h.readWord_text]
  exact refuse_above 0xFF .compressionTooLarge l.word

/-- A code that is out of range is refused, whatever stands behind it. -/
theorem readAddressPair_code_error {scope : Option Labels} {payload code : Text}
    {more : List Text} {f : Failure} (htokens : tokens " \t:".toList payload = code :: more)
    (hcode : readCompression code = .error f) : readAddressPair scope payload = .error f := by
  rw [readAddressPair, htokens]
  simp only [hcode]
  rfl

/-- A code in range is given in return with the address behind it. -/
theorem readAddressPair_code_ok {scope : Option Labels} {payload code second : Text} {kept : Nat}
    (htokens : tokens " \t:".toList payload = [code, second])
    (hcode : readCompression code = .ok kept) (haddress : readAddress scope second = .ok a) :
    readAddressPair scope payload = .ok (a, kept) := by
  rw [readAddressPair, htokens]
  simp only [hcode, haddress]
  rfl

end Operand

/-! ### Widths -/

/-- A width that is read as a word is held against the octets of an address.
The comparison is made with the word, so a literal beyond all words may come
out as a small width. -/
theorem expand_width {flag : Option Flag} {literal : Text} {kept : Nat} (hlength : IsName name)
    (hname : ∀ c ∈ name, isLabelChar c) (hflag : flag = none → name.head? ≠ some '0')
    (hfind : labels.assembly.find? name = some a) (hwidth : IsWidth literal)
    (hread : readWord literal = .ok kept) :
    expand labels (Placeholder.text ⟨flag, name, some literal⟩) =
      (checked Cause.addressOctets .maskWidthOutOfRange kept).map fun n =>
        shown flag (some n) .assembly a := by
  have hspelled : Placeholder.Spelled ⟨flag, name, some literal⟩ (some kept) .assembly := by
    refine ⟨hlength, hname, hflag, ?_, congrArg some hread, nofun⟩
    rintro w ⟨⟩
    exact hwidth
  by_cases hle : kept ≤ Cause.addressOctets
  · rw [checked, if_pos hle]
    refine Placeholder.expand_spelled hspelled ?_ (.assembly hfind)
    rintro n ⟨⟩
    exact hle
  · have hdelimited : Delimited literal literal [] :=
      ⟨Placeholder.longest_of_isWidth hwidth, nofun⟩
    have hrefused : WidthRefused ('.' :: literal) (.ofCause (.maskWidthOutOfRange kept)) :=
      .outOfRange hdelimited hread (Nat.lt_of_not_le hle)
    rw [checked, if_neg hle]
    exact expand_of_fails
      (.here List.not_mem_nil (.width hspelled.named hlength hfind hrefused))

/-- **Ranges are checked behind the cut.**  A literal without a minus sign is
read as the word that is left of its number, which is the number itself below
the count of words and a smaller one from there on.  That word is what a byte,
a compression code and a width are held against their limits by: up to the
limit it is kept, and above it is out of range. -/
theorem range_checked (h : l.Unsigned) :
    (l.word = l.magnitude % wordCount ∧ (l.magnitude < wordCount → l.word = l.magnitude) ∧
      (wordCount ≤ l.magnitude → l.word < l.magnitude)) ∧
    Operand.readWord8 l.text = checked 0xFF .byteTooLarge l.word ∧
    (∀ scope payload more, Operand.tokens " \t:".toList payload = l.text :: more →
      (0xFF < l.word →
        Operand.readAddressPair scope payload = .error (.ofCause (.compressionTooLarge l.word))) ∧
      (l.word ≤ 0xFF → ∀ second a, more = [second] → Operand.readAddress scope second = .ok a →
        Operand.readAddressPair scope payload = .ok (a, l.word))) ∧
    ∀ (labels : Labels) (flag : Option Flag) (name : Text) (a : Nat), IsName name →
      (∀ c ∈ name, isLabelChar c) → (flag = none → name.head? ≠ some '0') →
      labels.assembly.find? name = some a → IsWidth l.text →
      expand labels (Placeholder.text ⟨flag, name, some l.text⟩) =
        (checked Cause.addressOctets .maskWidthOutOfRange l.word).map fun n =>
          shown flag (some n) .assembly a := by
  have hcode := Operand.readCompression_unsigned h
  -- the three callers differ in the bound and the cause; the word they check is the same
  refine ⟨⟨h.word_eq, fun hlt => ?_, fun hle => ?_⟩, Operand.readWord8_unsigned h, ?_, ?_⟩
  · rw [h.word_eq, Nat.mod_eq_of_lt hlt]
  · rw [h.word_eq]
    exact Nat.lt_of_lt_of_le (Nat.mod_lt _ (by decide)) hle
  · intro scope payload more htokens
    constructor
    · intro hlarge
      rw [checked, if_neg (Nat.not_le.mpr hlarge)] at hcode
      exact Operand.readAddressPair_code_error htokens hcode
    · rintro hsmall second a rfl haddress
      rw [checked, if_pos hsmall] at hcode
      exact Operand.readAddressPair_code_ok htokens hcode haddress
  · intro labels flag name a hlength hname hflag hfind hwidth
    exact expand_width hlength hname hflag hfind hwidth h.readWord_text

/-- Octal digits for the largest byte, which is no width. -/
theorem range_checked_at_largest_byte :
    Literal.Unsigned ⟨.absent, .octal, [], "0377".toList⟩ ∧
    Operand.readWord8 "0377".toList = .ok 0xFF ∧
    Operand.readAddressPair none "0377: $10".toList = .ok (0x10, 0xFF) ∧
    expand ⟨⟨[("l".toList, 0x10)]⟩, .empty⟩ "%l.0377".toList =
      .error (.ofCause (.maskWidthOutOfRange 0xFF)) := by
  have hdigits : Text.IsRow (Text.isDigitOf 8) "0377".toList :=
    ⟨nofun, List.all_eq_true.mp (by decide)⟩
  have hunsigned : Literal.Unsigned ⟨.absent, .octal, [], "0377".toList⟩ := by
    refine ⟨⟨.octal, hdigits, fun _ => rfl, nofun⟩, by decide, by decide⟩
  have hwidth : IsWidth "0377".toList := .inl (.inr ⟨nofun, List.all_eq_true.mp (by decide)⟩)
  obtain ⟨-, hbyte, hpair, hmask⟩ := range_checked hunsigned
  refine ⟨hunsigned, hbyte, ?_, ?_⟩
  · exact (hpair none "0377: $10".toList ["$10".toList] rfl).2 (by decide) "$10".toList 0x10 rfl rfl
  · exact hmask ⟨⟨[("l".toList, 0x10)]⟩, .empty⟩ none "l".toList 0x10 (by decide)
      (List.all_eq_true.mp (by decide)) (by decide) rfl hwidth

/-- The count of words is read as zero, which passes as a byte, a code and a
width. -/
theorem range_unchecked_above_words :
    let literal := "18446744073709551616".toList
    Text.valueOf 10 literal = 0x10000000000000000 ∧
    Operand.readWord8 literal = .ok 0 ∧
    Operand.readAddressPair none (literal ++ " 16".toList) = .ok (16, 0) ∧
    expand ⟨⟨[("l".toList, 0x1234)]⟩, .empty⟩ ("%l.".toList ++ literal) = .ok "0x0".toList := by
  refine ⟨?_, ?_, ?_, ?_⟩ <;> decide +kernel

end TraceScript
