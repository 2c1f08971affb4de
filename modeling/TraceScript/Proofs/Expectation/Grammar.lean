import TraceScript.Proofs.Error.Textual
import TraceScript.Proofs.Expectation.Width
import TraceScript.Proofs.Script.Character

/-!
# The grammar of placeholders

A placeholder is a percent sign, a flag or none, a name and, behind a label of the
assembly source, a point and a width or neither (`Placeholder`, `Placeholder.text`).
Which flag, name and width stand behind a percent sign is a matter of the text alone,
since each is taken wherever and as far as it can be (`Named`, `Widened`); so a text
behind a percent sign is shown with one address (`Shows`) or refused for one reason
(`Refuses`).

A text is expanded if each of its percent signs, from left to right, starts a
placeholder, and what does not belong to one is kept (`Expands`); otherwise it fails
at the first that starts none (`Fails`).  The two cover every text, and they are what
`expand` answers (`expand_grammar`).
-/

namespace TraceScript

open Text (Longest StartsWithNo)

variable {labels : Labels} {t u name behind rest shown : Text} {f : Failure}

/-! ### Placeholders as they are written -/

/-- What may stand between a percent sign and a name. -/
inductive Flag
  | zero
  | question
  deriving DecidableEq, Repr

/-- The character of a flag. -/
def Flag.char : Flag → Char
  | zero => '0'
  | question => '?'

/-- A placeholder by its parts. -/
structure Placeholder where
  flag : Option Flag
  name : Text
  width : Option Text
  deriving DecidableEq, Repr

namespace Placeholder

/-- The flag as it is written. -/
def flagText (flag : Option Flag) : Text :=
  (flag.map Flag.char).toList

/-- The width as it is written, behind its point. -/
def widthText : Option Text → Text
  | none => []
  | some literal => '.' :: literal

/-- What a placeholder writes behind the percent sign. -/
def body (p : Placeholder) : Text :=
  flagText p.flag ++ (p.name ++ widthText p.width)

/-- A placeholder as it is written. -/
def text (p : Placeholder) : Text :=
  '%' :: p.body

/-- How a placeholder with this flag and width shows an address. -/
def format (flag : Option Flag) (kept : Option Nat) : AddressFormat :=
  ⟨flag.isSome, flag = some .question, kept⟩

end Placeholder

open Placeholder (flagText widthText format)

/-! ### Names -/

/-- A flag is taken if one is there, and behind it the longest row of a
label's characters is the name. -/
structure Named (flag : Option Flag) (name behind : Text) : Prop where
  flagged : flag = none → ∀ other : Flag, (name ++ behind).head? ≠ some other.char
  longest : Longest (∀ c ∈ ·, isLabelChar c) (name ++ behind) name behind

/-- Every text behind a percent sign has a flag or none, a name that may be
empty, and what follows the name. -/
theorem exists_named (t : Text) :
    ∃ flag name behind, t = flagText flag ++ (name ++ behind) ∧ Named flag name behind := by
  by_cases hflag : ∃ (flag : Flag) (u : Text), t = flag.char :: u
  · obtain ⟨flag, u, rfl⟩ := hflag
    obtain ⟨name, behind, rfl, hlongest, -⟩ := Text.exists_row isLabelChar u
    exact ⟨some flag, name, behind, rfl, nofun, hlongest⟩
  · obtain ⟨name, behind, rfl, hlongest, -⟩ := Text.exists_row isLabelChar t
    refine ⟨none, name, behind, rfl, fun _ other hhead => ?_, hlongest⟩
    obtain ⟨u, hu⟩ := List.head?_eq_some_iff.mp hhead
    exact hflag ⟨other, u, hu⟩

/-- The row of label characters that is taken is the name. -/
theorem Named.readLabel (h : Named flag name behind) (zeroPad hideOctets : Bool) :
    Reference.readLabel zeroPad hideOctets (name ++ behind) =
      if name = [] then .error .missingLabelName
      else if Cause.maxLabelLength < name.length then .error (.labelNameTooLong name.length)
      else .ok (⟨name, zeroPad, hideOctets⟩, behind) := by
  obtain ⟨hname, hbehind⟩ := (Text.longest_takeWhile isLabelChar (name ++ behind)).unique h.longest
  unfold Reference.readLabel Text.run?
  rw [hname, hbehind]
  by_cases hempty : name = []
  · simp [hempty]
  · simp [hempty]

/-- A flag is told apart from a name by its character, and a blank starts no
name. -/
theorem Named.read (h : Named flag name behind) :
    Reference.read (flagText flag ++ (name ++ behind)) =
      Reference.readLabel flag.isSome (flag = some .question) (name ++ behind) := by
  match flag with
  | some .zero => rfl
  | some .question => rfl
  | none =>
      have hflagged := h.flagged rfl
      change Reference.read (name ++ behind) = Reference.readLabel false false (name ++ behind)
      generalize name ++ behind = t at hflagged
      unfold Reference.read
      split
      · rfl
      · exact absurd rfl (hflagged .zero)
      · exact absurd rfl (hflagged .question)
      · rename_i c more _ _
        split
        · rename_i hblank
          have hlabel := isLabelChar_of_isBlank hblank
          simp [Reference.readLabel, Text.run?, hlabel]
        · rfl

/-! ### Widths -/

/-- The longest text that may be a width, with no letter or digit behind it. -/
structure Delimited (after literal rest : Text) : Prop where
  longest : Longest IsWidth after literal rest
  ends : ¬ rest.head?.any Text.isAlphanumeric

/-- Behind the label of a directive no width is read, and behind one of the
assembly source just where a point is; it keeps no more octets than an address
has. -/
inductive Widened : LabelOrigin → Text → Option Text → Option Nat → Text → Prop
  | directive (t : Text) : Widened .directive t none none t
  | whole {t : Text} (h : t.head? ≠ some '.') : Widened .assembly t none none t
  | kept {after literal rest : Text} {n : Nat} (hliteral : Delimited after literal rest)
      (hvalue : readWord literal = .ok n) (hrange : n ≤ Cause.addressOctets) :
      Widened .assembly ('.' :: after) (some literal) (some n) rest

/-- Why a text from a point on has no width. -/
inductive WidthRefused : Text → Failure → Prop
  | absent {after : Text} (h : StartsWithNo IsWidth after) :
      WidthRefused ('.' :: after) (.ofCause (.badMaskWidth ('.' :: after)))
  | joined {after literal rest : Text} (hlongest : Longest IsWidth after literal rest)
      (hjoined : rest.head?.any Text.isAlphanumeric) :
      WidthRefused ('.' :: after) (.ofCause (.badMaskWidth ('.' :: after)))
  | unreadable {after literal rest : Text} {f : Failure} (hliteral : Delimited after literal rest)
      (hvalue : readWord literal = .error f) : WidthRefused ('.' :: after) f
  | outOfRange {after literal rest : Text} {n : Nat} (hliteral : Delimited after literal rest)
      (hvalue : readWord literal = .ok n) (hrange : Cause.addressOctets < n) :
      WidthRefused ('.' :: after) (.ofCause (.maskWidthOutOfRange n))

/-- A width is a part of the placeholder, behind the label. -/
theorem Widened.parts {origin : LabelOrigin} {literal : Option Text} {kept : Option Nat}
    (h : Widened origin behind literal kept rest) : behind = widthText literal ++ rest := by
  cases h with
  | directive => rfl
  | whole => rfl
  | kept hliteral => exact congrArg ('.' :: ·) hliteral.longest.parts

/-- Once a width is delimited, it is read as an operand and held against the
octets of an address. -/
theorem readMask_of_delimited {after literal : Text} (h : Delimited after literal rest) :
    readMask ('.' :: after) = (readWord literal).bind fun width =>
      if width ≤ Cause.addressOctets then .ok (some width, rest)
      else .error (.ofCause (.maskWidthOutOfRange width)) := by
  simp only [readMask, maskLiteral?_eq_some_iff.mpr h.longest, h.ends, Bool.false_eq_true,
    if_false]
  cases readWord literal with
  | error f => rfl
  | ok width => rfl

/-- A width of the grammar is read as it is meant.  Behind the label of a
directive nothing is read, and behind one of the assembly only a colon opens a
width. -/
theorem readWidth_of_widened {origin : LabelOrigin} {literal : Option Text} {kept : Option Nat}
    (h : Widened origin behind literal kept rest) :
    readWidth origin behind = .ok (kept, rest) := by
  cases h with
  | directive => rfl
  | whole h =>
      change readMask behind = _
      unfold readMask
      split
      · exact absurd rfl h
      · rfl
  | kept hliteral hvalue hrange =>
      rw [readWidth, readMask_of_delimited hliteral, hvalue]
      exact if_pos hrange

/-- A mask that the grammar refuses is refused by the reader, for the same
cause. -/
theorem readMask_of_refused (h : WidthRefused behind f) : readMask behind = .error f := by
  cases h with
  | absent h => simp only [readMask, maskLiteral?_eq_none_iff.mpr h]
  | joined hlongest hjoined =>
      simp only [readMask, maskLiteral?_eq_some_iff.mpr hlongest, hjoined, if_true]
  | unreadable hliteral hvalue =>
      rw [readMask_of_delimited hliteral, hvalue]
      rfl
  | outOfRange hliteral hvalue hrange =>
      rw [readMask_of_delimited hliteral, hvalue]
      exact if_neg (Nat.not_le_of_lt hrange)

/-- Behind a label of the assembly source there is a width or none, or a point
without one. -/
theorem widened_or_refused (behind : Text) :
    (∃ literal kept rest, Widened .assembly behind literal kept rest) ∨
      ∃ f, WidthRefused behind f := by
  by_cases hpoint : behind.head? = some '.'
  · obtain ⟨after, rfl⟩ := List.head?_eq_some_iff.mp hpoint
    cases hmask : maskLiteral? after with
    | none => exact .inr ⟨_, .absent (maskLiteral?_eq_none_iff.mp hmask)⟩
    | some parts =>
        obtain ⟨literal, rest⟩ := parts
        have hlongest := maskLiteral?_eq_some_iff.mp hmask
        by_cases hjoined : rest.head?.any Text.isAlphanumeric
        · exact .inr ⟨_, .joined hlongest hjoined⟩
        · have hliteral : Delimited after literal rest := ⟨hlongest, hjoined⟩
          cases hvalue : readWord literal with
          | error f => exact .inr ⟨f, .unreadable hliteral hvalue⟩
          | ok n =>
              by_cases hrange : n ≤ Cause.addressOctets
              · exact .inl ⟨_, _, _, .kept hliteral hvalue hrange⟩
              · exact .inr ⟨_, .outOfRange hliteral hvalue (Nat.lt_of_not_le hrange)⟩
  · exact .inl ⟨none, none, behind, .whole hpoint⟩

/-! ### Placeholders -/

/-- A name stands for the address of a label of the assembly source, or else
for that of a label of a directive. -/
inductive Labels.Finds (l : Labels) (name : Text) : Nat → LabelOrigin → Prop
  | assembly {address : Nat} (h : l.assembly.find? name = some address) :
      Finds l name address .assembly
  | directive {address : Nat} (hnone : l.assembly.find? name = none)
      (h : l.directive.find? name = some address) : Finds l name address .directive

/-- A label that is found is looked up in the order of the tables. -/
theorem Labels.Finds.resolve {address : Nat} {origin : LabelOrigin}
    (h : labels.Finds name address origin) : labels.resolve name = .ok (address, origin) := by
  cases h with
  | assembly h => simp [Labels.resolve, resolveFrom, table, h]
  | directive hnone h => simp [Labels.resolve, resolveFrom, table, other, hnone, h]

/-- A name of a permitted length. -/
def IsName (name : Text) : Prop :=
  name ≠ [] ∧ name.length ≤ Cause.maxLabelLength

instance (name : Text) : Decidable (IsName name) :=
  inferInstanceAs (Decidable (name ≠ [] ∧ name.length ≤ Cause.maxLabelLength))

/-- A placeholder, another text behind it, is shown as a label's address. -/
inductive Shows (labels : Labels) : Placeholder → Text → Text → Prop
  | intro {flag : Option Flag} {name behind rest : Text} {literal : Option Text}
      {kept : Option Nat} {address : Nat} {origin : LabelOrigin} (hname : Named flag name behind)
      (hlength : IsName name) (hfind : labels.Finds name address origin)
      (hwidth : Widened origin behind literal kept rest) :
      Shows labels ⟨flag, name, literal⟩ rest ((format flag kept).render origin address)

/-- Why a text behind a percent sign is no placeholder. -/
inductive Refuses (labels : Labels) : Text → Failure → Prop
  | missing {flag : Option Flag} {behind : Text} (hname : Named flag [] behind) :
      Refuses labels (flagText flag ++ behind) (.ofCause .missingLabelName)
  | tooLong {flag : Option Flag} {name behind : Text} (hname : Named flag name behind)
      (hlength : Cause.maxLabelLength < name.length) :
      Refuses labels (flagText flag ++ (name ++ behind))
        (.ofCause (.labelNameTooLong name.length))
  | undefined {flag : Option Flag} {name behind : Text} (hname : Named flag name behind)
      (hlength : IsName name) (hassembly : labels.assembly.find? name = none)
      (hdirective : labels.directive.find? name = none) :
      Refuses labels (flagText flag ++ (name ++ behind))
        (.ofCause (.undefinedLabel name (labels.similar name)))
  | width {flag : Option Flag} {name behind : Text} {address : Nat} {f : Failure}
      (hname : Named flag name behind) (hlength : IsName name)
      (hfind : labels.assembly.find? name = some address) (hwidth : WidthRefused behind f) :
      Refuses labels (flagText flag ++ (name ++ behind)) f

/-- A placeholder with what follows it is a flag and a name with what follows
that. -/
theorem Widened.body_append {flag : Option Flag} {origin : LabelOrigin} {literal : Option Text}
    {kept : Option Nat} (h : Widened origin behind literal kept rest) :
    Placeholder.body ⟨flag, name, literal⟩ ++ rest = flagText flag ++ (name ++ behind) := by
  rw [Placeholder.body, h.parts, List.append_assoc, List.append_assoc]

/-- With a name of a permitted length, the label decides how it goes on. -/
theorem readPlaceholder_of_named {flag : Option Flag} (hname : Named flag name behind)
    (hlength : IsName name) :
    readPlaceholder labels (flagText flag ++ (name ++ behind)) =
      match labels.resolve name with
      | .error f => .error f
      | .ok (address, origin) =>
          match readWidth origin behind with
          | .error f => .error f
          | .ok (kept, rest) => .ok ((format flag kept).render origin address, rest) := by
  simp only [readPlaceholder, hname.read, hname.readLabel, if_neg hlength.1,
    if_neg (Nat.not_lt_of_le hlength.2)]
  rfl

/-- What shows a placeholder is what is read of it. -/
theorem readPlaceholder_of_shows {p : Placeholder} (h : Shows labels p rest shown) :
    readPlaceholder labels (p.body ++ rest) = .ok (shown, rest) := by
  obtain ⟨hname, hlength, hfind, hwidth⟩ := h
  rw [hwidth.body_append, readPlaceholder_of_named hname hlength, hfind.resolve]
  simp only [readWidth_of_widened hwidth]

/-- What refuses a text is what reading it ends with. -/
theorem readPlaceholder_of_refuses (h : Refuses labels t f) :
    readPlaceholder labels t = .error f := by
  cases h with
  | missing hname =>
      have hread := hname.read.trans (hname.readLabel _ _)
      rw [List.nil_append] at hread
      simp [readPlaceholder, hread]
  | tooLong hname hlength =>
      have hne : ¬ (_ : Text) = [] := List.ne_nil_of_length_pos (Nat.zero_lt_of_lt hlength)
      simp [readPlaceholder, hname.read, hname.readLabel, hlength, hne]
  | undefined hname hlength hassembly hdirective =>
      rw [readPlaceholder_of_named hname hlength]
      simp [Labels.resolve, Labels.resolveFrom, Labels.table, Labels.other, hassembly, hdirective]
  | width hname hlength hfind hwidth =>
      rw [readPlaceholder_of_named hname hlength, (Labels.Finds.assembly hfind).resolve]
      simp only [readWidth, readMask_of_refused hwidth]

/-- Every text behind a percent sign is one or the other.  The cases follow
the reading: the name, the label, and then the width where the label may have
one. -/
theorem shows_or_refuses (labels : Labels) (t : Text) :
    (∃ p rest shown, t = p.body ++ rest ∧ Shows labels p rest shown) ∨
      ∃ f, Refuses labels t f := by
  obtain ⟨flag, name, behind, rfl, hname⟩ := exists_named t
  by_cases hempty : name = []
  · subst hempty
    exact .inr ⟨_, .missing hname⟩
  by_cases hlong : Cause.maxLabelLength < name.length
  · exact .inr ⟨_, .tooLong hname hlong⟩
  have hlength : IsName name := ⟨hempty, Nat.le_of_not_lt hlong⟩
  -- a placeholder whose width is found is shown
  have hshown {address : Nat} {origin : LabelOrigin} {literal : Option Text} {kept : Option Nat}
      {rest : Text} (hfind : labels.Finds name address origin)
      (hwidth : Widened origin behind literal kept rest) :
      ∃ p rest shown, flagText flag ++ (name ++ behind) = p.body ++ rest ∧
        Shows labels p rest shown := by
    exact ⟨⟨flag, name, literal⟩, rest, _, hwidth.body_append.symm,
      .intro hname hlength hfind hwidth⟩
  cases hassembly : labels.assembly.find? name with
  | some address =>
      obtain ⟨literal, kept, rest, hwidth⟩ | ⟨f, hwidth⟩ := widened_or_refused behind
      · exact .inl (hshown (.assembly hassembly) hwidth)
      · exact .inr ⟨f, .width hname hlength hassembly hwidth⟩
  | none =>
      cases hdirective : labels.directive.find? name with
      | some address => exact .inl (hshown (.directive hassembly hdirective) (.directive behind))
      | none => exact .inr ⟨_, .undefined hname hlength hassembly hdirective⟩

/-! ### Lines -/

/-- A text is expanded where each of its percent signs starts a placeholder:
what stands before the first is kept, the placeholder is shown, and the rest
is expanded. -/
inductive Expands (labels : Labels) : Text → Text → Prop
  | plain {t : Text} (h : '%' ∉ t) : Expands labels t t
  | placeholder {before rest shown more : Text} {p : Placeholder} (hbefore : '%' ∉ before)
      (hshown : Shows labels p rest shown) (hrest : Expands labels rest more) :
      Expands labels (before ++ p.text ++ rest) (before ++ shown ++ more)

/-- A text fails at its first percent sign that starts no placeholder. -/
inductive Fails (labels : Labels) : Text → Failure → Prop
  | here {before behind : Text} {f : Failure} (hbefore : '%' ∉ before)
      (hrefused : Refuses labels behind f) : Fails labels (before ++ '%' :: behind) f
  | behind {before rest shown : Text} {p : Placeholder} {f : Failure} (hbefore : '%' ∉ before)
      (hshown : Shows labels p rest shown) (hrest : Fails labels rest f) :
      Fails labels (before ++ p.text ++ rest) f

/-- A placeholder is expanded to what it shows. -/
theorem expand_of_shows {before : Text} {p : Placeholder} (hbefore : '%' ∉ before)
    (hshown : Shows labels p rest shown) :
    expand labels (before ++ p.text ++ rest) =
      (expand labels rest).map fun more => before ++ shown ++ more := by
  have hcut : Text.cutAt '%' (before ++ p.text ++ rest) = some (before, p.body ++ rest) := by
    rw [List.append_assoc]
    exact Text.cutAt_append (p.body ++ rest) hbefore
  rw [expand_of_cutAt_some labels hcut, readPlaceholder_of_shows hshown]
  rfl

/-- What the grammar expands is expanded so. -/
theorem expand_of_expands (h : Expands labels t u) : expand labels t = .ok u := by
  induction h with
  | plain h => exact expand_of_cutAt_none labels (Text.cutAt_eq_none_iff.mpr h)
  | placeholder hbefore hshown _ ih =>
      rw [expand_of_shows hbefore hshown, ih]
      rfl

/-- What fails by the grammar fails so. -/
theorem expand_of_fails (h : Fails labels t f) : expand labels t = .error f := by
  induction h with
  | here hbefore hrefused =>
      rw [expand_of_cutAt_some labels (Text.cutAt_append _ hbefore),
        readPlaceholder_of_refuses hrefused]
      rfl
  | behind hbefore hshown _ ih =>
      rw [expand_of_shows hbefore hshown, ih]
      rfl

/-- Every text is expanded or fails.  By strong induction on the length: what
follows a placeholder is shorter. -/
theorem expands_or_fails (labels : Labels) (t : Text) :
    (∃ u, Expands labels t u) ∨ ∃ f, Fails labels t f := by
  -- what follows a placeholder is shorter than the text that it is in
  induction hn : t.length using Nat.strongRecOn generalizing t with
  | ind n ih =>
      subst hn
      cases hcut : Text.cutAt '%' t with
      | none => exact .inl ⟨t, .plain (Text.cutAt_eq_none_iff.mp hcut)⟩
      | some parts =>
          obtain ⟨before, after⟩ := parts
          obtain rfl := Text.eq_append_of_cutAt hcut
          have hbefore := Text.not_mem_of_cutAt hcut
          obtain ⟨p, rest, shown, rfl, hshown⟩ | ⟨f, hrefused⟩ := shows_or_refuses labels after
          · have hshorter : rest.length < (before ++ '%' :: (p.body ++ rest)).length := by
              simp only [List.length_append, List.length_cons]
              omega
            have htext : before ++ '%' :: (p.body ++ rest) = before ++ p.text ++ rest := by
              rw [List.append_assoc]
              rfl
            rw [htext]
            obtain ⟨more, hmore⟩ | ⟨f, hf⟩ := ih rest.length hshorter rest rfl
            · exact .inl ⟨_, .placeholder hbefore hshown hmore⟩
            · exact .inr ⟨f, .behind hbefore hshown hf⟩
          · exact .inr ⟨f, .here hbefore hrefused⟩

/-- A text is expanded to what its placeholders show, all else being kept. -/
theorem expand_eq_ok_iff : expand labels t = .ok u ↔ Expands labels t u := by
  refine ⟨fun h => ?_, expand_of_expands⟩
  obtain ⟨v, hv⟩ | ⟨f, hf⟩ := expands_or_fails labels t
  · have heq := (expand_of_expands hv).symm.trans h
    cases heq
    exact hv
  · cases (expand_of_fails hf).symm.trans h

/-- A text ends with what its first percent sign without a placeholder is
refused for. -/
theorem expand_eq_error_iff : expand labels t = .error f ↔ Fails labels t f := by
  refine ⟨fun h => ?_, expand_of_fails⟩
  obtain ⟨v, hv⟩ | ⟨g, hg⟩ := expands_or_fails labels t
  · cases (expand_of_expands hv).symm.trans h
  · have heq := (expand_of_fails hg).symm.trans h
    cases heq
    exact hg

/-! ### Failures -/

/-- A failure of a placeholder: no name or too long a one, an undefined label,
a width that is none or out of range, or one with more digits than are ever
read. -/
inductive Failure.OfPlaceholder (t : Text) : Failure → Prop
  | script {e : ScriptError} (h : e.kind = .labelName ∨ e.kind = .undefinedLabel ∨
      e.code = .parseInt ∨ e.kind = .valueRange) : OfPlaceholder t (.script e)
  | longWidth {literal : Text} {size : Nat} (hwidth : IsWidth literal)
      (hpart : '.' :: literal <:+: t) (hlong : maxDecimalDigits < literal.length) :
      OfPlaceholder t (.value (.longDecimal size))

/-- A fault of a placeholder in a part of a text is one in the whole. -/
theorem Failure.OfPlaceholder.mono {part : Text} (h : f.OfPlaceholder part) (hpart : part <:+: t) :
    f.OfPlaceholder t := by
  cases h with
  | script h => exact .script h
  | longWidth hwidth hliteral hlong => exact .longWidth hwidth (hliteral.trans hpart) hlong

/-- A literal is refused as no integer, or because its decimal digits are too
many. -/
theorem readWord_error_cases (h : readWord t = .error f) :
    f = .ofCause (.badInteger t) ∨
      ∃ size, f = .value (.longDecimal size) ∧ t.HoldsLongDecimal size := by
  have hmisread := reading_readWord t f h
  unfold readWord at h
  split at h
  · exact .inl (Except.error.inj h).symm
  · split at h
    · cases h
      cases hmisread with
      | longDecimal size hlong => exact .inr ⟨_, rfl, hlong⟩
    · cases h

/-- A text that holds a long row of digits is long itself. -/
theorem Text.HoldsLongDecimal.long {size : Nat} (h : t.HoldsLongDecimal size) :
    maxDecimalDigits < t.length := by
  obtain ⟨digits, hpart, -, rfl, hlong⟩ := h
  exact Nat.lt_of_lt_of_le hlong hpart.length_le

/-- A refused width is the fault of its placeholder. -/
theorem ofPlaceholder_of_widthRefused (h : WidthRefused t f) : f.OfPlaceholder t := by
  cases h with
  | absent | joined => exact .script (.inr (.inr (.inl rfl)))
  | outOfRange => exact .script (.inr (.inr (.inr rfl)))
  | unreadable hliteral hvalue =>
      obtain rfl | ⟨size, rfl, hlong⟩ := readWord_error_cases hvalue
      · exact .script (.inr (.inr (.inl rfl)))
      · refine .longWidth hliteral.longest.holds ?_ hlong.long
        rw [hliteral.longest.parts]
        exact (List.prefix_append _ _).isInfix

/-- Whatever a placeholder is refused for, it is a fault of that placeholder. -/
theorem ofPlaceholder_of_refuses (h : Refuses labels t f) : f.OfPlaceholder t := by
  cases h with
  | missing | tooLong => exact .script (.inl rfl)
  | undefined => exact .script (.inr (.inl rfl))
  | width hname hlength hfind hwidth =>
      refine (ofPlaceholder_of_widthRefused hwidth).mono ?_
      rw [← List.append_assoc]
      exact (List.suffix_append _ _).isInfix

/-- A text fails because of a placeholder in it. -/
theorem ofPlaceholder_of_fails (h : Fails labels t f) : f.OfPlaceholder t := by
  induction h with
  | here hbefore hrefused =>
      refine (ofPlaceholder_of_refuses hrefused).mono ?_
      exact ((List.suffix_cons '%' _).trans (List.suffix_append _ _)).isInfix
  | behind hbefore hshown _ ih => exact ih.mono (List.suffix_append _ _).isInfix

/-- **Expansion follows the grammar.**  A text is expanded just if each of its
percent signs, from left to right, starts a placeholder, and then to what
these show between the characters that are kept; else it fails at the first
that starts none, because of what stands there.  There is no third answer. -/
theorem expand_grammar (labels : Labels) (t : Text) :
    (∀ u, expand labels t = .ok u ↔ Expands labels t u) ∧
    (∀ f, expand labels t = .error f ↔ Fails labels t f) ∧
    ((∃ u, Expands labels t u) ∨ ∃ f, Fails labels t f ∧ f.OfPlaceholder t) := by
  refine ⟨fun u => expand_eq_ok_iff, fun f => expand_eq_error_iff, ?_⟩
  obtain hexpands | ⟨f, hfails⟩ := expands_or_fails labels t
  · exact .inl hexpands
  · exact .inr ⟨f, hfails, ofPlaceholder_of_fails hfails⟩

end TraceScript
