import TraceScript.Proofs.Directive.Literal
import TraceScript.Proofs.Text.Numeral

/-!
# Notations of integers

A text denotes the literal that stands in it between blanks, or none
(`Literal.Denoted`).  Reading an operand goes by that alone: a literal gives the word that
is congruent to its integer, a decimal one of too many digits fails by its size, and a
text that denotes none is no integer (`readWord_notations`).

Every integer can be printed in each of the five notations (`Radix.printed`).  What is printed
denotes a literal of that integer, so reading inverts printing up to the cut to a word
(`readWord_printed`); only a decimal print can be too long for it.
-/

namespace TraceScript

variable {t : Text} {l : Literal} {base n : Nat}

/-- The word of an integer is congruent to it. -/
theorem toWord_cast (v : Int) : (toWord v : Int) = v % wordCount :=
  Int.toNat_of_nonneg (Int.emod_nonneg v (by decide))

/-! ### Texts and the literals they denote -/

/-- A literal is all that stands in a text, but for blanks around it. -/
structure Literal.Denoted (l : Literal) (t : Text) : Prop where
  written : l.Written
  text : Text.trim t = l.text

/-- The literal that a text denotes is the one that is read from the text
without its outer blanks, so there is one at most. -/
theorem Literal.denoted_iff : l.Denoted t ↔ read? (Text.trim t) = some l := by
  rw [read?_eq_some_iff]
  exact ⟨fun h => ⟨h.written, h.text⟩, fun h => ⟨h.1, h.2⟩⟩

/-- What an operand is read as, by the literal that it denotes. -/
theorem readWord_denoted (h : l.Denoted t) :
    readWord t =
      if l.IsLong then .error (.value (.longDecimal l.digits.length)) else .ok l.word := by
  rw [readWord, Literal.denoted_iff.mp h]
  rfl

/-- A text that denotes no literal is refused as no integer, and the whole of
it is reported. -/
theorem readWord_undenoted (h : ∀ l : Literal, ¬ l.Denoted t) :
    readWord t = .error (.ofCause (.badInteger t)) := by
  have hread : Literal.read? (Text.trim t) = none := by
    apply Option.eq_none_iff_forall_ne_some.mpr
    intro l hl
    exact h l (Literal.denoted_iff.mpr hl)
  rw [readWord, hread]

/-- What is read as a word denotes a literal. -/
theorem exists_denoted_of_readWord {w : Nat} (h : readWord t = .ok w) :
    ∃ l : Literal, l.Denoted t := by
  apply Classical.byContradiction
  intro hnone
  rw [readWord_undenoted fun l hl => hnone ⟨l, hl⟩] at h
  cases h

/-- Blanks at the ends of an operand make no difference to its word. -/
theorem readWord_of_trim {u : Text} {w : Nat} (htrim : Text.trim t = Text.trim u)
    (h : readWord u = .ok w) : readWord t = .ok w := by
  obtain ⟨l, hl⟩ := exists_denoted_of_readWord h
  rw [readWord_denoted hl] at h
  rw [readWord_denoted ⟨hl.written, htrim.trans hl.text⟩, h]

/-! ### Printing -/

/-- The digits of a positive number do not start with a zero. -/
theorem Text.head?_numeral_ne_zero (hlo : 2 ≤ base) (hhi : base ≤ 16) (hn : 0 < n) :
    (numeral base n).head? ≠ some '0' := by
  fun_induction numeral base n with
  | case1 n hsmall =>
      intro hhead
      have hdigit : digitChar n = '0' := Option.some.inj hhead
      have hvalue := digitValue?_digitChar (d := n) (by omega)
      rw [hdigit] at hvalue
      have hzero : 0 = n := Option.some.inj hvalue
      omega
  | case2 n hlarge ih =>
      rw [List.head?_append_of_ne_nil _ (numeral_ne_nil base (n / base))]
      exact ih (Nat.div_pos (by omega) (by omega))

/-- A zero in front of digits adds nothing to their value. -/
theorem Text.valueOf_zero_cons (base : Nat) (digits : Text) :
    valueOf base ('0' :: digits) = valueOf base digits := by
  have hzero : (digitValue? '0').getD 0 = 0 := rfl
  rw [valueOf, List.foldl_cons, hzero, Nat.zero_mul]
  rfl

/-- Every base is one whose digits can be printed. -/
theorem Radix.base_bounds (radix : Radix) : 2 ≤ radix.base ∧ radix.base ≤ 16 := by
  cases radix <;> decide

/-- The digits of a number are digits of the notation that it is printed in. -/
theorem Radix.isRow_numeral (radix : Radix) (n : Nat) :
    Text.IsRow (Text.isDigitOf radix.base) (Text.numeral radix.base n) := by
  obtain ⟨hlo, hhi⟩ := radix.base_bounds
  exact ⟨Text.numeral_ne_nil radix.base n, fun _ hc => Text.isDigitOf_of_mem_numeral hlo hhi hc⟩

/-- A printed number has the value of the number. -/
theorem Radix.valueOf_numeral (radix : Radix) (n : Nat) :
    Text.valueOf radix.base (Text.numeral radix.base n) = n :=
  Text.valueOf_numeral radix.base_bounds.1 radix.base_bounds.2 n

/-- The sign that an integer is printed with. -/
def Sign.ofInt (v : Int) : Sign :=
  if v < 0 then .minus else .absent

/-- The sign that a literal of an integer is written with is the one the
integer is printed with. -/
theorem Sign.signText_ofInt (v : Int) : Literal.signText (.ofInt v) = Text.signOf v := by
  rw [Sign.ofInt, Text.signOf]
  split <;> rfl

/-- What is printed in front of the digits. -/
def Radix.mark : Radix → Text
  | hexadecimal => ['0', 'x']
  | dollar => ['$']
  | binary => ['0', 'b']
  | octal => ['0']
  | decimal => []

/-- An integer as it is printed in a notation. -/
def Radix.printed (radix : Radix) (v : Int) : Text :=
  Text.signOf v ++ radix.mark ++ Text.numeral radix.base v.natAbs

namespace Literal

/-- The literal of an integer whose magnitude some digits denote. -/
theorem value_ofInt {v : Int} {radix : Radix} {mark digits : Text}
    (hdigits : Text.valueOf radix.base digits = v.natAbs) :
    value ⟨.ofInt v, radix, mark, digits⟩ = v := by
  by_cases hv : v < 0
  · have hsign : Sign.ofInt v = .minus := if_pos hv
    simp only [value, hdigits, hsign, if_true]
    omega
  · have hsign : Sign.ofInt v = .absent := if_neg hv
    simp only [value, hdigits, hsign, reduceCtorEq, if_false]
    omega

/-- Where the digits make a literal under a mark, so they do with the sign of
an integer. -/
theorem denoted_ofInt {v : Int} {radix : Radix} {mark digits : Text}
    (hwritten : Written ⟨.ofInt v, radix, mark, digits⟩)
    (ht : t = Text.signOf v ++ mark ++ digits) :
    Denoted ⟨.ofInt v, radix, mark, digits⟩ t := by
  refine ⟨hwritten, ?_⟩
  rw [ht, ← Sign.signText_ofInt]
  exact hwritten.trim_text

/-- Behind a mark that is no digit, the digits of an integer make a literal. -/
theorem denoted_marked {radix : Radix} (v : Int) (hoctal : radix ≠ .octal)
    (hdecimal : radix ≠ .decimal) :
    Denoted ⟨.ofInt v, radix, radix.mark, Text.numeral radix.base v.natAbs⟩ (radix.printed v) := by
  have hmark : IsMark radix radix.mark := by
    cases radix with
    | hexadecimal => exact .hexadecimal (.inl rfl)
    | dollar => exact .dollar
    | binary => exact .binary (.inl rfl)
    | octal => exact absurd rfl hoctal
    | decimal => exact .decimal
  have hwritten : Written ⟨.ofInt v, radix, radix.mark, Text.numeral radix.base v.natAbs⟩ :=
    ⟨hmark, radix.isRow_numeral v.natAbs, fun h => absurd h hoctal, fun h => absurd h hdecimal⟩
  exact denoted_ofInt hwritten rfl

theorem octal_ne_decimal : Radix.octal ≠ .decimal := by decide

/-- The mark of octal digits is the first of them. -/
theorem denoted_octal (v : Int) :
    Denoted ⟨.ofInt v, .octal, [], '0' :: Text.numeral 8 v.natAbs⟩ (Radix.octal.printed v) := by
  have hdigits : Text.IsRow (Text.isDigitOf 8) ('0' :: Text.numeral 8 v.natAbs) := by
    refine ⟨List.cons_ne_nil _ _, ?_⟩
    intro c hc
    rcases List.mem_cons.mp hc with rfl | hc
    · decide
    · exact (Radix.octal.isRow_numeral v.natAbs).2 c hc
  have hwritten : Written ⟨.ofInt v, .octal, [], '0' :: Text.numeral 8 v.natAbs⟩ :=
    ⟨.octal, hdigits, fun _ => rfl, fun h => absurd h octal_ne_decimal⟩
  refine denoted_ofInt hwritten ?_
  simp [Radix.printed, Radix.mark, Radix.base]

/-- An integer that is not zero is printed in decimal as a row of digits with
no zero in front, which is what decimal literals are. -/
theorem denoted_decimal {v : Int} (hv : v ≠ 0) :
    Denoted ⟨.ofInt v, .decimal, [], Text.decimal v.natAbs⟩ (Radix.decimal.printed v) := by
  have hwritten : Written ⟨.ofInt v, .decimal, [], Text.decimal v.natAbs⟩ := by
    refine ⟨.decimal, Radix.decimal.isRow_numeral v.natAbs,
      fun h => absurd h.symm octal_ne_decimal, ?_⟩
    intro _
    exact Text.head?_numeral_ne_zero (by decide) (by decide) (by omega)
  exact denoted_ofInt hwritten rfl

/-- The decimal print of zero is a row of octal digits. -/
theorem denoted_zero : Denoted ⟨.absent, .octal, [], ['0']⟩ (Radix.decimal.printed 0) := by
  have htext : Radix.decimal.printed 0 = ['0'] := by
    rw [Radix.printed, Text.numeral, if_pos (.inl (by decide))]
    rfl
  rw [htext]
  exact denoted_iff.mpr rfl

/-- What is printed denotes a literal of the integer.  It is decimal just if
it was printed so, but for the zero. -/
theorem exists_denoted_printed (radix : Radix) (v : Int) :
    ∃ l : Literal, l.Denoted (radix.printed v) ∧ l.value = v ∧
      (l.radix = .decimal → radix = .decimal ∧ l.digits = Text.decimal v.natAbs) := by
  by_cases hoctal : radix = .octal
  · subst hoctal
    have hvalue : Text.valueOf 8 ('0' :: Text.numeral 8 v.natAbs) = v.natAbs := by
      rw [Text.valueOf_zero_cons]
      exact Radix.octal.valueOf_numeral v.natAbs
    exact ⟨_, denoted_octal v, value_ofInt hvalue, fun h => absurd h octal_ne_decimal⟩
  by_cases hdecimal : radix = .decimal
  · subst hdecimal
    by_cases hv : v = 0
    · subst hv
      exact ⟨_, denoted_zero, rfl, fun h => absurd h octal_ne_decimal⟩
    · exact ⟨_, denoted_decimal hv, value_ofInt (Radix.decimal.valueOf_numeral v.natAbs),
        fun _ => ⟨rfl, rfl⟩⟩
  · exact ⟨_, denoted_marked v hoctal hdecimal, value_ofInt (radix.valueOf_numeral v.natAbs),
      fun h => absurd h hdecimal⟩

end Literal

/-- Reading inverts printing, up to the cut to a word and as far as a decimal
print is not too long. -/
theorem readWord_printed (radix : Radix) (v : Int)
    (hshort : radix = .decimal → (Text.decimal v.natAbs).length ≤ maxDecimalDigits) :
    readWord (radix.printed v) = .ok (toWord v) := by
  obtain ⟨l, hdenoted, hvalue, hdecimal⟩ := Literal.exists_denoted_printed radix v
  have hlong : ¬ l.IsLong := by
    rintro ⟨hradix, hsize⟩
    obtain ⟨hprinted, hdigits⟩ := hdecimal hradix
    have hle := hshort hprinted
    rw [hdigits] at hsize
    omega
  rw [readWord_denoted hdenoted, if_neg hlong, Literal.word, hvalue]

/-! ### What reading gives -/

/-- **An operand is read just if it is an integer in one of the five
notations.**  A text that denotes a literal, with a sign or none and any
number of digits, gives the word that is congruent to its integer, except that
a decimal literal of more than `maxDecimalDigits` digits fails by its size.  A
text that denotes none is refused as no integer.  So every integer is read
back from each of its prints, but for decimal prints beyond that size. -/
theorem readWord_notations (t : Text) :
    (∀ l : Literal, l.Denoted t → ¬ l.IsLong →
      ∃ w, readWord t = .ok w ∧ w < wordCount ∧ (w : Int) = l.value % wordCount) ∧
    (∀ l : Literal, l.Denoted t → l.IsLong →
      readWord t = .error (.value (.longDecimal l.digits.length))) ∧
    ((∀ l : Literal, ¬ l.Denoted t) →
      ∃ e, readWord t = .error (.script e) ∧ e = .ofCause (.badInteger t) ∧
        e.kind = .directiveSyntax ∧ e.code = .parseInt) ∧
    ∀ (radix : Radix) (v : Int), t = radix.printed v →
      (radix = .decimal → (Text.decimal v.natAbs).length ≤ maxDecimalDigits) →
      ∃ w, readWord t = .ok w ∧ w < wordCount ∧ (w : Int) = v % wordCount := by
  refine ⟨?_, ?_, ?_, ?_⟩
  · intro l hdenoted hshort
    refine ⟨l.word, ?_, toWord_lt l.value, toWord_cast l.value⟩
    rw [readWord_denoted hdenoted, if_neg hshort]
  · intro l hdenoted hlong
    rw [readWord_denoted hdenoted, if_pos hlong]
  · intro hnone
    exact ⟨_, readWord_undenoted hnone, rfl, rfl, rfl⟩
  · intro radix v ht hshort
    rw [ht]
    exact ⟨toWord v, readWord_printed radix v hshort, toWord_lt v, toWord_cast v⟩

/-- A negative number between blanks, and a digit that its base does not
have. -/
theorem readWord_notations_around_zero :
    Literal.Denoted ⟨.minus, .hexadecimal, ['0', 'x'], "1F".toList⟩ " -0x1F\t".toList ∧
    readWord " -0x1F\t".toList = .ok 0xFFFFFFFFFFFFFFE1 ∧
    (∀ l : Literal, ¬ l.Denoted "0b2".toList) ∧
    (∃ e, readWord "0b2".toList = .error (.script e) ∧ e.code = .parseInt) ∧
    ∃ w, readWord (Radix.binary.printed (-1)) = .ok w ∧ (w : Int) = 0xFFFFFFFFFFFFFFFF := by
  have hdenoted :
      Literal.Denoted ⟨.minus, .hexadecimal, ['0', 'x'], "1F".toList⟩ " -0x1F\t".toList :=
    Literal.denoted_iff.mpr (by decide)
  have hnone : ∀ l : Literal, ¬ l.Denoted "0b2".toList := by
    intro l hl
    have hnothing : Literal.read? (Text.trim "0b2".toList) = none := by decide
    rw [Literal.denoted_iff, hnothing] at hl
    cases hl
  refine ⟨hdenoted, ?_, hnone, ?_, ?_⟩
  · obtain ⟨w, hw, -, hvalue⟩ := (readWord_notations " -0x1F\t".toList).1 _ hdenoted (by decide)
    have hword : w = 0xFFFFFFFFFFFFFFE1 := Int.ofNat.inj hvalue
    rw [hw, hword]
  · obtain ⟨e, he, -, -, hcode⟩ := (readWord_notations "0b2".toList).2.2.1 hnone
    exact ⟨e, he, hcode⟩
  · obtain ⟨w, hw, -, hvalue⟩ := (readWord_notations _).2.2.2 .binary (-1) rfl nofun
    exact ⟨w, hw, hvalue⟩

/-- More ones than a decimal literal may have digits: a literal, but never a
word. -/
theorem readWord_long_decimal :
    let ones := List.replicate 4301 '1'
    Literal.Denoted ⟨.absent, .decimal, [], ones⟩ ones ∧
    readWord ones = .error (.value (.longDecimal 4301)) ∧ ¬ ∃ w, readWord ones = .ok w := by
  intro ones
  have hsize : ones.length = 4301 := List.length_replicate
  have hwritten : Literal.Written ⟨.absent, .decimal, [], ones⟩ := by
    refine ⟨.decimal, ⟨List.cons_ne_nil _ _, ?_⟩, nofun, fun _ => ?_⟩
    · intro c hc
      rw [List.eq_of_mem_replicate hc]
      decide
    · simp [ones]
  have hdenoted : Literal.Denoted ⟨.absent, .decimal, [], ones⟩ ones :=
    ⟨hwritten, hwritten.trim_text⟩
  have hlong : Literal.IsLong ⟨.absent, .decimal, [], ones⟩ := by
    refine ⟨rfl, ?_⟩
    dsimp only
    rw [hsize]
    decide
  have hread : readWord ones = .error (.value (.longDecimal 4301)) := by
    rw [readWord_denoted hdenoted, if_pos hlong]
    dsimp only
    rw [hsize]
  refine ⟨hdenoted, hread, ?_⟩
  rintro ⟨w, hw⟩
  rw [hread] at hw
  cases hw

end TraceScript
