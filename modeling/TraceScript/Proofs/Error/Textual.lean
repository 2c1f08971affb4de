import TraceScript.Proofs.Directive.Literal
import TraceScript.Proofs.Script.Part

/-!
# Failures of a text

Taking a directive apart, reading a literal and expanding a line can only fail
because of the text that they are given: with a script error, or with a decimal
literal that is too long, whose digits then stand in the text
(`Text.HoldsLongDecimal`).  Opening, writing and closing a file fail otherwise,
and opening fails otherwise than writing and closing.

What takes a bare text apart is a `Reading`: it fails, if at all, with a cause
that stands in the text, and defines no label.  What is made of readings is one
(`Reading.map`, `Reading.bind`), and a reading of a part is one of the whole
(`Reading.mono`).  Nobody has placed such a failure yet: a reading is `Unplaced`,
and so is a look into the tables of labels.
-/

namespace TraceScript

/-- A cause that is found in a script, and not stated from outside. -/
def Cause.IsFound : Cause → Prop
  | .stated _ _ _ => False
  | _ => True

/-- A cause that is found in a text alone, without a table in which a label
may stand already. -/
def Cause.IsRead : Cause → Prop
  | .stated _ _ _ => False
  | .duplicateLabel _ _ => False
  | _ => True

/-- What is found in a text alone is found in the script. -/
theorem Cause.IsRead.isFound {c : Cause} (h : c.IsRead) : c.IsFound := by
  cases c <;> trivial

/-- A row of decimal digits of this length, too long for a number, stands in a
text. -/
def Text.HoldsLongDecimal (t : Text) (size : Nat) : Prop :=
  ∃ digits, digits <:+: t ∧ (∀ c ∈ digits, Text.isDigitOf 10 c) ∧ digits.length = size ∧
    maxDecimalDigits < size

/-- A long row of digits in a part of a text stands in the whole text. -/
theorem Text.HoldsLongDecimal.mono {part t : Text} {size : Nat} (h : part.HoldsLongDecimal size)
    (hpart : part <:+: t) : t.HoldsLongDecimal size := by
  obtain ⟨digits, hdigits, hlong⟩ := h
  exact ⟨digits, hdigits.trans hpart, hlong⟩

namespace Failure

/-- A failure for which a text is at fault. -/
def Textual : Failure → Prop
  | .script _ => True
  | .value (.longDecimal _) => True
  | _ => False

/-- A failure to open a file of the result. -/
def Opening (f : Failure) : Prop :=
  ∃ p e, f = .ofOpenError p e

/-- A failure of a text is never one of opening a file. -/
theorem Textual.not_opening {f : Failure} (h : f.Textual) : ¬ f.Opening := by
  rintro ⟨p, e, rfl⟩
  cases e <;> exact h

/-- Neither is a refused writing or closing: its code is another. -/
theorem not_opening_ofRefusedWrite (p : Path) (r : Refusal) : ¬ (ofRefusedWrite p r).Opening := by
  rintro ⟨q, e, h⟩
  cases e with
  | nullByte => cases h
  | refused reason =>
      have hcode := congrArg OutputError.code (Failure.output.inj h)
      cases hcode

/-- A context leaves a failure of a text one. -/
theorem Textual.inContext {f : Failure} (h : f.Textual) (c : Context) :
    (f.inContext c).Textual := by
  cases f <;> exact h

/-- A failure for which a text is at fault, as its reader makes it. -/
inductive Bare (t : Text) : Failure → Prop
  | cause (c : Cause) (hfound : c.IsFound) : Bare t (.ofCause c)
  | longDecimal (size : Nat) (hlong : t.HoldsLongDecimal size) :
      Bare t (.value (.longDecimal size))

/-- What a reader makes of a text's fault is a failure of a text. -/
theorem Bare.textual {t : Text} {f : Failure} (h : f.Bare t) : f.Textual := by
  cases h with
  | cause => exact trivial
  | longDecimal => exact trivial

/-- A failure of taking a text apart, as its reader makes it. -/
inductive Misread (t : Text) : Failure → Prop
  | cause (c : Cause) (hread : c.IsRead) : Misread t (.ofCause c)
  | longDecimal (size : Nat) (hlong : t.HoldsLongDecimal size) :
      Misread t (.value (.longDecimal size))

/-- A failure of taking a text apart is a bare failure of that text. -/
theorem Misread.bare {t : Text} {f : Failure} (h : f.Misread t) : f.Bare t := by
  cases h with
  | cause c hread => exact .cause c hread.isFound
  | longDecimal size hlong => exact .longDecimal size hlong

/-- What is wrong with a part of a text is wrong with the whole. -/
theorem Misread.mono {part t : Text} {f : Failure} (h : f.Misread part) (hpart : part <:+: t) :
    f.Misread t := by
  cases h with
  | cause c hread => exact .cause c hread
  | longDecimal size hlong => exact .longDecimal size (hlong.mono hpart)

end Failure

/-- A context does not change what succeeds. -/
theorem eq_ok_of_inContext {α : Type} {c : Context} {r : Except Failure α} {a : α}
    (h : inContext c r = .ok a) : r = .ok a := by
  cases r with
  | ok b =>
      cases h
      rfl
  | error g => cases h

/-- A placeholder without the name of a label is refused for its own text. -/
theorem Reference.isRead_of_readLabel {zeroPad hideOctets : Bool} {t : Text} {cause : Cause}
    (h : readLabel zeroPad hideOctets t = .error cause) : cause.IsRead := by
  unfold readLabel at h
  split at h
  · cases h
    trivial
  · split at h <;> cases h
    trivial

/-- So is every placeholder that is refused before its label is looked up. -/
theorem Reference.isRead_of_read {t : Text} {cause : Cause} (h : read t = .error cause) :
    cause.IsRead := by
  unfold read at h
  split at h
  · cases h
    trivial
  · exact isRead_of_readLabel h
  · exact isRead_of_readLabel h
  · split at h
    · cases h
      trivial
    · exact isRead_of_readLabel h

/-- Whatever keeps a directive from being taken apart is in its text. -/
theorem textual_of_split {t : Text} {location : Option Location} {sourceLine : Option Text}
    {f : Failure} (h : Directive.split t location sourceLine = .error f) : f.Textual := by
  unfold Directive.split at h
  simp only at h
  split at h
  · cases h
    trivial
  · cases h

/-- A text is taken apart, or the reader fails on what stands in it. -/
def Reading {α : Type} (t : Text) (r : Except Failure α) : Prop :=
  ∀ f, r = .error f → f.Misread t

section Reading

variable {α β : Type} {t : Text} {r : Except Failure α}

theorem reading_ok (a : α) : Reading t (.ok a) := by
  intro f h
  cases h

/-- A failure of the text is what a reading may end with. -/
theorem reading_error {f : Failure} (h : f.Misread t) : Reading (α := α) t (.error f) := by
  rintro g ⟨⟩
  exact h

/-- So is a cause that is found in the text alone. -/
theorem reading_cause {c : Cause} (hread : c.IsRead) : Reading (α := α) t (.error (.ofCause c)) :=
  reading_error (.cause c hread)

/-- What is made of the result does not matter to a reading. -/
theorem Reading.map (h : Reading t r) (g : α → β) : Reading t (r.map g) := by
  cases r with
  | error f => exact reading_error (h f rfl)
  | ok a => exact reading_ok (g a)

/-- Two readings of a text in sequence are one. -/
theorem Reading.bind {g : α → Except Failure β} (h : Reading t r) (hg : ∀ a, Reading t (g a)) :
    Reading t (r >>= g) := by
  cases r with
  | error f => exact reading_error (h f rfl)
  | ok a => exact hg a

/-- A reading of a part of a text is a reading of the whole. -/
theorem Reading.mono {part : Text} (h : Reading part r) (hpart : part <:+: t) : Reading t r :=
  fun f hf => (h f hf).mono hpart

end Reading

/-- An operation on a text fails, if at all, without a place. -/
def Unplaced {α : Type} (t : Text) (r : Except Failure α) : Prop :=
  ∀ f, r = .error f → f.Bare t

section Unplaced

variable {α : Type} {t : Text} {r : Except Failure α}

theorem Reading.unplaced (h : Reading t r) : Unplaced t r :=
  fun f hf => (h f hf).bare

theorem unplaced_ok (a : α) : Unplaced t (.ok a) :=
  (reading_ok a).unplaced

/-- A cause that is found in a script has no place of its own. -/
theorem unplaced_cause {c : Cause} (hfound : c.IsFound) :
    Unplaced (α := α) t (.error (.ofCause c)) := by
  rintro f ⟨⟩
  exact .cause c hfound

/-- In a context, a text is still at fault. -/
theorem textual_of_inContext {c : Context} {f : Failure} (hr : Unplaced t r)
    (h : inContext c r = .error f) : f.Textual := by
  cases r with
  | ok a => cases h
  | error g =>
      cases h
      exact (hr g rfl).textual.inContext c

end Unplaced

variable {t : Text}

/-- A text that is no literal is refused, and a decimal literal that is too
long for a number stands in the text with all its digits. -/
theorem reading_readWord (t : Text) : Reading t (readWord t) := by
  unfold readWord
  split
  · exact reading_cause trivial
  · rename_i l hread
    split
    · rename_i hlong
      obtain ⟨hdigits, hall⟩ := Literal.digits_of_read? hread
      rw [hlong.1] at hall
      exact reading_error (.longDecimal _
        ⟨l.digits, hdigits.isInfix.trans (Text.trim_isInfix t), hall, rfl, hlong.2⟩)
    · exact reading_ok _

/-- A label that no table has is refused for its name. -/
theorem reading_resolve (labels : Labels) (name : Text) : Reading t (labels.resolve name) := by
  unfold Labels.resolve Labels.resolveFrom
  split
  · exact reading_ok _
  · split
    · exact reading_ok _
    · exact reading_cause trivial

/-! ### Placeholders -/

/-- A mask is a literal behind a point, so its fault is one of the
placeholder. -/
theorem reading_readMask (t : Text) : Reading t (readMask t) := by
  unfold readMask
  split
  · rename_i after
    split
    · exact reading_cause trivial
    · rename_i literal rest hliteral
      split
      · exact reading_cause trivial
      split
      · rename_i hword
        have hpart : literal <+: after := by
          rw [eq_append_of_maskLiteral? hliteral]
          exact List.prefix_append literal rest
        exact reading_error ((reading_readWord literal _ hword).mono
          (List.infix_cons hpart.isInfix))
      split
      · exact reading_ok _
      · exact reading_cause trivial
  · exact reading_ok _

/-- Only behind an assembly label a mask is looked for; a directive label has
none. -/
theorem reading_readWidth (origin : LabelOrigin) (t : Text) :
    Reading t (readWidth origin t) := by
  cases origin with
  | directive => exact reading_ok _
  | assembly => exact reading_readMask t

/-- A placeholder is refused for its name, its label or its width.  They are
read in this order, each in a part of the text behind the percent sign. -/
theorem reading_readPlaceholder (labels : Labels) (t : Text) :
    Reading t (readPlaceholder labels t) := by
  unfold readPlaceholder
  split
  · rename_i cause hread
    exact reading_cause (Reference.isRead_of_read hread)
  · rename_i r rest hread
    split
    · rename_i hresolve
      exact reading_error (reading_resolve labels _ _ hresolve)
    split
    · rename_i hwidth
      have hrest : rest <:+: t := (Reference.parts_of_read hread).2.isInfix
      exact reading_error ((reading_readWidth _ rest _ hwidth).mono hrest)
    · exact reading_ok _

/-- Expanding a text fails with the fault of one of its placeholders, each of
which is a part of the text. -/
theorem reading_expand (labels : Labels) (t : Text) : Reading t (expand labels t) := by
  fun_induction expand labels t with
  | case1 => exact reading_ok _
  | case2 t before after hcut g hplaceholder =>
      have hafter := (Text.suffix_of_cutAt hcut).isInfix
      exact reading_error ((reading_readPlaceholder labels after g hplaceholder).mono hafter)
  | case3 t before after hcut shown rest hplaceholder _ g hrest ih =>
      have hbehind := (suffix_of_readPlaceholder hplaceholder).trans (Text.suffix_of_cutAt hcut)
      exact reading_error ((ih g hrest).mono hbehind.isInfix)
  | case4 => exact reading_ok _

end TraceScript
