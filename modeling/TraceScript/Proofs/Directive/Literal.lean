import TraceScript.Directive.Operand
import TraceScript.Proofs.Script.Character
import TraceScript.Proofs.Text.Trim

/-!
# Literals as they are written

A literal is a sign or none, the mark of its spelling and digits of its base
(`Literal.Written`).  A row of octal digits starts with a zero and a decimal one does not,
so the first two characters behind the sign tell the spellings apart: `Literal.read?`
takes just the written literals, and each as what it is written as (`read?_eq_some_iff`).

The value of a literal is a word, whatever its digits denote.  Without a minus sign it is
the number that they denote, cut to a word (`word_unsigned`).
-/

namespace TraceScript

variable {t : Text} {l : Literal}

/-! ### Spellings -/

/-- What stands in front of the digits of a spelling. -/
inductive IsMark : Radix → Text → Prop
  | hexadecimal {x : Char} (hx : x = 'x' ∨ x = 'X') : IsMark .hexadecimal ['0', x]
  | dollar : IsMark .dollar ['$']
  | binary {b : Char} (hb : b = 'b' ∨ b = 'B') : IsMark .binary ['0', b]
  | octal : IsMark .octal []
  | decimal : IsMark .decimal []

/-- A character of a literal: one of a label, a sign, or the mark of its own. -/
def isLiteralChar (c : Char) : Bool :=
  isLabelChar c || "+-$".toList.contains c

theorem isBlank_of_isLiteralChar {c : Char} (h : isLiteralChar c) : Text.isBlank c = false := by
  rcases Bool.or_eq_true_iff.mp h with h | h
  · exact isBlank_of_isLabelChar h
  · have hsigns : "+-$".toList.any Text.isBlank = false := by decide
    exact Bool.eq_false_iff.mpr (List.any_eq_false.mp hsigns c (List.contains_iff_mem.mp h))

/-- The marks of the radices are made of such characters. -/
theorem IsMark.chars {radix : Radix} {mark : Text} (h : IsMark radix mark) :
    ∀ c ∈ mark, isLiteralChar c := by
  cases h with
  | hexadecimal hx => rcases hx with rfl | rfl <;> exact List.all_eq_true.mp (by decide)
  | dollar => exact List.all_eq_true.mp (by decide)
  | binary hb => rcases hb with rfl | rfl <;> exact List.all_eq_true.mp (by decide)
  | octal | decimal => nofun

namespace Literal

/-- A literal by the rules of its spelling. -/
structure Written (l : Literal) : Prop where
  mark : IsMark l.radix l.mark
  digits : Text.IsRow (Text.isDigitOf l.radix.base) l.digits
  octal : l.radix = .octal → l.digits.head? = some '0'
  decimal : l.radix = .decimal → l.digits.head? ≠ some '0'

/-- A spelling is told by the characters in front of its digits, or by the
first of these. -/
theorem readUnsigned?_written (h : l.Written) :
    readUnsigned? l.sign (l.mark ++ l.digits) = some l := by
  obtain ⟨sign, radix, mark, digits⟩ := l
  obtain ⟨hmark, ⟨hne, hdigit⟩, hoctal, hdecimal⟩ := h
  dsimp only at hmark hne hdigit hoctal hdecimal ⊢
  have hall : digits.all (Text.isDigitOf radix.base) := List.all_eq_true.mpr hdigit
  cases hmark with
  | hexadecimal hx => rcases hx with rfl | rfl <;> simp [readUnsigned?, hne, hall]
  | dollar => simp [readUnsigned?, hne, hall]
  | binary hb => rcases hb with rfl | rfl <;> simp [readUnsigned?, hne, hall]
  | octal =>
      obtain ⟨more, rfl⟩ := List.head?_eq_some_iff.mp (hoctal rfl)
      simp only [readUnsigned?, List.nil_append]
      split
      -- no letter of a mark is an octal digit
      iterate 4
        rename_i heq
        cases heq
        exact absurd (hdigit _ (List.mem_cons_of_mem '0' List.mem_cons_self)) (by decide)
      · rename_i heq
        cases heq
      · simp [hall]
      · rename_i hzero
        exact absurd rfl (hzero more)
  | decimal =>
      have hzero : ∀ more, digits ≠ '0' :: more := by
        rintro more rfl
        exact hdecimal rfl rfl
      simp only [readUnsigned?, List.nil_append]
      split
      iterate 4 exact absurd rfl (hzero _)
      · exact absurd (hdigit _ List.mem_cons_self) (by decide)
      · exact absurd rfl (hzero _)
      · simp [hne, hall]

/-- A mark, or else a digit, is no sign. -/
theorem Written.ne_sign_of_head? (h : l.Written) (c : Char)
    (hhead : (l.mark ++ l.digits).head? = some c) : c ≠ '+' ∧ c ≠ '-' := by
  obtain ⟨sign, radix, mark, digits⟩ := l
  obtain ⟨hmark, ⟨hne, hdigit⟩, -, -⟩ := h
  dsimp only at hmark hne hdigit hhead
  have hrow (hc : digits.head? = some c) : c ≠ '+' ∧ c ≠ '-' := by
    have hc := isLabelChar_of_isDigitOf (hdigit c (List.mem_of_mem_head? hc))
    constructor <;> rintro rfl <;> exact absurd hc (by decide)
  cases hmark with
  | hexadecimal | dollar | binary =>
      obtain rfl := Option.some.inj hhead
      decide
  | octal | decimal => exact hrow hhead

/-- A written literal is read as what it is.  Its first character tells
whether there is a sign, since neither a mark nor a digit is one. -/
theorem read?_text (h : l.Written) : read? l.text = some l := by
  have hread := readUnsigned?_written h
  have hsign := h.ne_sign_of_head?
  obtain ⟨sign, radix, mark, digits⟩ := l
  cases sign with
  | plus => exact hread
  | minus => exact hread
  | absent =>
      dsimp only [text, signText, List.nil_append] at hread hsign ⊢
      unfold read?
      split
      · rename_i hplus
        exact absurd rfl (hsign '+' (congrArg List.head? hplus)).1
      · rename_i hminus
        exact absurd rfl (hsign '-' (congrArg List.head? hminus)).2
      · exact hread

/-- What is taken for a literal without its sign is written as one.  The rules
of the spellings are met branch by branch, in the order in which the spellings
are tried. -/
theorem written_of_readUnsigned? {sign : Sign} (h : readUnsigned? sign t = some l) :
    l.Written ∧ l.sign = sign ∧ t = l.mark ++ l.digits := by
  have hrow {radix : Radix} {mark digits : Text} (hmark : IsMark radix mark)
      (hoctal : radix = .octal → digits.head? = some '0')
      (hdecimal : radix = .decimal → digits.head? ≠ some '0') (hparts : t = mark ++ digits)
      (hread : (if !digits.isEmpty && digits.all (Text.isDigitOf radix.base) then
        some (⟨sign, radix, mark, digits⟩ : Literal) else none) = some l) :
      l.Written ∧ l.sign = sign ∧ t = l.mark ++ l.digits := by
    split at hread
    · rename_i hall
      cases hread
      rw [Bool.and_eq_true_iff, Bool.not_eq_true', List.isEmpty_eq_false_iff] at hall
      exact ⟨⟨hmark, ⟨hall.1, List.all_eq_true.mp hall.2⟩, hoctal, hdecimal⟩, rfl, hparts⟩
    · cases hread
  unfold readUnsigned? at h
  split at h
  · exact hrow (.hexadecimal (.inl rfl)) nofun nofun rfl h
  · exact hrow (.hexadecimal (.inr rfl)) nofun nofun rfl h
  · exact hrow (.binary (.inl rfl)) nofun nofun rfl h
  · exact hrow (.binary (.inr rfl)) nofun nofun rfl h
  · exact hrow .dollar nofun nofun rfl h
  · exact hrow .octal (fun _ => rfl) nofun rfl h
  · rename_i hzero
    refine hrow .decimal nofun (fun _ hhead => ?_) rfl h
    obtain ⟨more, hmore⟩ := List.head?_eq_some_iff.mp hhead
    exact hzero more hmore

/-- A text is read as a literal just if it is written as that literal. -/
theorem read?_eq_some_iff : read? t = some l ↔ l.Written ∧ t = l.text := by
  constructor
  · intro h
    unfold read? at h
    -- a plus, a minus, or neither
    split at h
    all_goals
      obtain ⟨hwritten, hsign, rfl⟩ := written_of_readUnsigned? h
      exact ⟨hwritten, by simp [text, hsign, signText]⟩
  · rintro ⟨hwritten, rfl⟩
    exact read?_text hwritten

/-- The digits of a literal stand in its text. -/
theorem digits_of_read? (h : read? t = some l) :
    l.digits <:+ t ∧ ∀ c ∈ l.digits, Text.isDigitOf l.radix.base c := by
  obtain ⟨hwritten, rfl⟩ := read?_eq_some_iff.mp h
  exact ⟨List.suffix_append _ _, hwritten.digits.2⟩

/-! ### Operands -/

/-- The text of a literal has such characters only: those of its sign, its
mark and its digits. -/
theorem Written.chars (h : l.Written) : ∀ c ∈ l.text, isLiteralChar c := by
  have hsign : ∀ c ∈ signText l.sign, isLiteralChar c := by
    cases l.sign <;> exact List.all_eq_true.mp (by decide)
  intro c hc
  rcases List.mem_append.mp hc with hc | hc
  · rcases List.mem_append.mp hc with hc | hc
    · exact hsign c hc
    · exact h.mark.chars c hc
  · have hlabel := isLabelChar_of_isDigitOf (h.digits.2 c hc)
    simp [isLiteralChar, hlabel]

theorem Written.text_ne_nil (h : l.Written) : l.text ≠ [] :=
  List.append_ne_nil_of_right_ne_nil _ h.digits.1

/-- A literal has no blanks at its ends, so trimming leaves it alone. -/
theorem Written.trim_text (h : l.Written) : Text.trim l.text = l.text :=
  Text.trim_eq_self (Text.tight_of_no_blank fun c hc => isBlank_of_isLiteralChar (h.chars c hc))

/-- A literal is one operand, whatever stands between operands. -/
theorem Written.tokens_text (h : l.Written) {separators : Text}
    (hsep : separators.any isLiteralChar = false) :
    Operand.tokens separators l.text = [l.text] := by
  rw [Operand.tokens, h.trim_text]
  exact Text.words_of_not_sep h.text_ne_nil fun c hc => Text.contains_eq_false hsep (h.chars c hc)

/-- A literal is decimal and has more digits than are ever read. -/
def IsLong (l : Literal) : Prop :=
  l.radix = .decimal ∧ maxDecimalDigits < l.digits.length

instance (l : Literal) : Decidable l.IsLong :=
  inferInstanceAs (Decidable (_ ∧ _))

/-- The word that a written literal is read as. -/
theorem readWord_text (h : l.Written) :
    readWord l.text =
      if l.IsLong then .error (.value (.longDecimal l.digits.length)) else .ok l.word := by
  simp only [readWord, h.trim_text, read?_text h]
  rfl

/-- Without a minus sign the digits are cut to a word. -/
theorem word_unsigned (hsign : l.sign ≠ .minus) :
    l.word = Text.valueOf l.radix.base l.digits % wordCount := by
  have hvalue : l.value = (Text.valueOf l.radix.base l.digits : Int) := if_neg hsign
  rw [word, hvalue, toWord]
  exact_mod_cast Int.toNat_natCast _

end Literal
end TraceScript
