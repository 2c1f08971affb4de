import Mathlib.Tactic.ByContra
import TraceScript.Directive.Shape

/-!
# Characters of labels, names and blanks

Digits are characters of a label, and these are characters of a directive's name; none of
them is a blank of any script.  The ASCII blanks are among the blanks.  So a row of one
kind ends where a character of another begins.  All of them are ranges of code points
(`code_of_isLabelChar`, `code_of_isAsciiBlank`).
-/

namespace TraceScript

variable {c : Char}

/-- The code points of a label's characters. -/
theorem code_of_isLabelChar (h : isLabelChar c) :
    (97 ≤ c.toNat ∧ c.toNat ≤ 122) ∨ (65 ≤ c.toNat ∧ c.toNat ≤ 90) ∨
      (48 ≤ c.toNat ∧ c.toNat ≤ 57) ∨ c.toNat = 95 := by
  simp only [isLabelChar, Bool.or_eq_true, Bool.and_eq_true, decide_eq_true_eq, beq_iff_eq] at h
  rcases h with ((h | h) | h) | rfl
  · exact .inl h
  · exact .inr (.inl h)
  · exact .inr (.inr (.inl h))
  · exact .inr (.inr (.inr rfl))

/-- The code points of the ASCII blanks. -/
theorem code_of_isAsciiBlank (h : isAsciiBlank c) :
    c.toNat = 32 ∨ (9 ≤ c.toNat ∧ c.toNat ≤ 13) := by
  simp only [isAsciiBlank, Bool.or_eq_true, Bool.and_eq_true, decide_eq_true_eq, beq_iff_eq] at h
  rcases h with rfl | h
  · exact .inl rfl
  · exact .inr h

/-- A digit, whatever its base, is a character of a label.  Letters are digits
up to the base that they denote, in both cases. -/
theorem isLabelChar_of_isDigitOf {base : Nat} {c : Char} (h : Text.isDigitOf base c) :
    isLabelChar c := by
  unfold Text.isDigitOf Text.digitValue? at h
  unfold isLabelChar
  split at h
  · rename_i hdigit
    simp [hdigit]
  split at h
  · rename_i hlow
    have hz : c ≤ 'z' := Char.le_trans hlow.2 (by decide)
    simp [hlow.1, hz]
  split at h
  · rename_i hhigh
    have hz : c ≤ 'Z' := Char.le_trans hhigh.2 (by decide)
    simp [hhigh.1, hz]
  · cases h

/-- Every character of a label is one of a directive's name. -/
theorem isNameChar_of_isLabelChar (h : isLabelChar c) : isNameChar c := by
  simp [isNameChar, h]

/-- A character that no name of a directive has, no label has. -/
theorem isLabelChar_of_not_isNameChar (h : isNameChar c = false) : isLabelChar c = false := by
  rw [isNameChar, Bool.or_eq_false_iff] at h
  exact h.1

/-- No character of a directive's name is a blank. -/
theorem isBlank_of_isNameChar (h : isNameChar c) : Text.isBlank c = false := by
  rw [isNameChar, Bool.or_eq_true, beq_iff_eq] at h
  rcases h with h | rfl
  · have hcode := code_of_isLabelChar h
    simp only [Text.isBlank, Bool.or_eq_false_iff, Bool.and_eq_false_iff, decide_eq_false_iff_not,
      beq_eq_false_iff_ne]
    omega
  · rfl

/-- No character of a label is a blank. -/
theorem isBlank_of_isLabelChar (h : isLabelChar c) : Text.isBlank c = false :=
  isBlank_of_isNameChar (isNameChar_of_isLabelChar h)

theorem isBlank_of_isAsciiBlank (h : isAsciiBlank c) : Text.isBlank c := by
  have hcode := code_of_isAsciiBlank h
  simp only [Text.isBlank, Bool.or_eq_true, Bool.and_eq_true, decide_eq_true_eq]
  omega

/-- No blank is a character of a directive's name. -/
theorem isNameChar_of_isBlank (h : Text.isBlank c) : isNameChar c = false := by
  by_contra hname
  rw [isBlank_of_isNameChar (by simpa using hname)] at h
  cases h

/-- No blank is a character of a label. -/
theorem isLabelChar_of_isBlank (h : Text.isBlank c) : isLabelChar c = false := by
  by_contra hlabel
  rw [isBlank_of_isLabelChar (by simpa using hlabel)] at h
  cases h

/-- What is no blank of any script is no ASCII blank. -/
theorem isAsciiBlank_of_not_isBlank (h : Text.isBlank c = false) : isAsciiBlank c = false := by
  by_contra hascii
  rw [isBlank_of_isAsciiBlank (by simpa using hascii)] at h
  cases h

end TraceScript
