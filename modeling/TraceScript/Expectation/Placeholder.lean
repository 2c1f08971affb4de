import TraceScript.Directive.Shape
import TraceScript.Literal
import TraceScript.Octets
import TraceScript.Text.Alphanumeric

/-!
# Placeholders

A percent sign in an expected line stands for the address of a label.  It may
be followed by a flag, and then comes the longest run of label characters:

    %name     the address, in as few digits as it needs
    %0name    in sixteen digits
    %?name    in sixteen digits as well, hidden octets shown as ??

After a label of the assembly source, a point and a width keep that many low
octets of the address; after a label of a directive the point is ordinary
text.  `annotation?` is the expected text on a script line, and `expand`
replaces its placeholders from left to right and stops at the first that is
none.
-/

namespace TraceScript

/-- How an address is shown. -/
structure AddressFormat where
  zeroPad : Bool
  hideOctets : Bool
  width : Option Nat
  deriving DecidableEq, Repr

namespace AddressFormat

/-- An address in as many digits as it needs, or in sixteen. -/
def written (zeroPad : Bool) (address : Int) : Text :=
  "0x".toList ++
    if zeroPad then Text.signedHexPadded (2 * Cause.addressOctets) address
    else Text.signedHex address

/-- The low octets of an address, highest first. -/
def lowDigits (width : Nat) (address : Int) : Text :=
  Text.hexBytes (lowOctets width address).reverse

/-- The low octets of an address behind two marks for each hidden one. -/
def masked (width : Nat) (address : Int) : Text :=
  "0x".toList ++ List.replicate (2 * (Cause.addressOctets - width)) '?' ++ lowDigits width address

/-- The part of an address that a width keeps. -/
def keep (width : Option Nat) (address : Int) : Int :=
  match width with
  | none => address
  | some n => address % (octetRange n : Int)

/-- An address as it is shown; widths and hidden octets are for labels of the
assembly source. -/
def render (f : AddressFormat) (origin : LabelOrigin) (address : Int) : Text :=
  match origin with
  | .directive => written f.zeroPad address
  | .assembly =>
      let kept := keep f.width address
      if f.hideOctets then masked (f.width.getD Cause.addressOctets) kept
      else written f.zeroPad kept

/-- As `render`, for a width that may be out of all range. -/
def renderChecked (zeroPad hideOctets : Bool) (width : Option Int) (origin : LabelOrigin)
    (address : Int) : Except Failure Text :=
  if origin = .assembly ∧ width.any (· < 0) then .error (.value .negativeShift)
  else .ok (render ⟨zeroPad, hideOctets, width.map (·.toNat)⟩ origin address)

end AddressFormat

/-- A label with the flag in front of it. -/
structure Reference where
  label : Text
  zeroPad : Bool
  hideOctets : Bool
  deriving DecidableEq, Repr

namespace Reference

/-- The label at the start of a text, and what follows it. -/
def readLabel (zeroPad hideOctets : Bool) (t : Text) : Except Cause (Reference × Text) :=
  match Text.run? isLabelChar t with
  | none => .error .missingLabelName
  | some (label, rest) =>
      if label.length > Cause.maxLabelLength then .error (.labelNameTooLong label.length)
      else .ok (⟨label, zeroPad, hideOctets⟩, rest)

/-- The reference behind a percent sign, and what follows it. -/
def read (t : Text) : Except Cause (Reference × Text) :=
  match t with
  | [] => .error .missingLabelName
  | '0' :: rest => readLabel true false rest
  | '?' :: rest => readLabel true true rest
  | c :: rest =>
      if Text.isBlank c then .error .missingLabelName else readLabel false false (c :: rest)

end Reference

/-- A hexadecimal width, and what follows it. -/
def hexWidth? : Text → Option (Text × Text)
  | '0' :: x :: rest =>
      if x = 'x' ∨ x = 'X' then
        (Text.run? (Text.isDigitOf 16) rest).map fun (digits, after) => ('0' :: x :: digits, after)
      else none
  | _ => none

/-- A width without a sign, and what follows it: hexadecimal after `0x` where
any such digit is there, or else decimal. -/
def maskDigits? (t : Text) : Option (Text × Text) :=
  (hexWidth? t).or (Text.run? (Text.isDigitOf 10) t)

/-- The literal of a width, its sign included, and what follows it. -/
def maskLiteral? (t : Text) : Option (Text × Text) :=
  match t with
  | '+' :: rest => (maskDigits? rest).map fun (digits, after) => ('+' :: digits, after)
  | '-' :: rest => (maskDigits? rest).map fun (digits, after) => ('-' :: digits, after)
  | t => maskDigits? t

/-- The width behind a label, if there is a point, and what follows it. -/
def readMask (t : Text) : Except Failure (Option Nat × Text) :=
  match t with
  | '.' :: after =>
      match maskLiteral? after with
      | none => .error (.ofCause (.badMaskWidth t))
      | some (literal, rest) =>
          if rest.head?.any Text.isAlphanumeric then .error (.ofCause (.badMaskWidth t))
          else
            match readWord literal with
            | .error f => .error f
            | .ok width =>
                if width ≤ Cause.addressOctets then .ok (some width, rest)
                else .error (.ofCause (.maskWidthOutOfRange width))
  | t => .ok (none, t)

/-- The width behind a label of this origin. -/
def readWidth (origin : LabelOrigin) (t : Text) : Except Failure (Option Nat × Text) :=
  match origin with
  | .directive => .ok (none, t)
  | .assembly => readMask t

/-- What the text behind a percent sign is replaced by, and what follows. -/
def readPlaceholder (labels : Labels) (t : Text) : Except Failure (Text × Text) :=
  match Reference.read t with
  | .error cause => .error (.ofCause cause)
  | .ok (r, rest) =>
      match labels.resolve r.label with
      | .error f => .error f
      | .ok (address, origin) =>
          match readWidth origin rest with
          | .error f => .error f
          | .ok (width, rest) =>
              .ok (AddressFormat.render ⟨r.zeroPad, r.hideOctets, width⟩ origin address, rest)

private theorem length_of_hexWidth {t d r : Text} (h : hexWidth? t = some (d, r)) :
    r.length ≤ t.length := by
  unfold hexWidth? at h
  split at h
  · split at h
    · obtain ⟨⟨d', r'⟩, hd, he⟩ := Option.map_eq_some_iff.mp h
      cases he
      have := Text.length_of_run? hd
      simp only [List.length_cons]
      omega
    · cases h
  · cases h

private theorem length_of_maskDigits {t d r : Text} (h : maskDigits? t = some (d, r)) :
    r.length ≤ t.length := by
  rcases Option.or_eq_some_iff.mp h with h | ⟨_, h⟩
  · exact length_of_hexWidth h
  · exact Text.length_of_run? h

private theorem length_of_maskLiteral {t d r : Text} (h : maskLiteral? t = some (d, r)) :
    r.length ≤ t.length := by
  unfold maskLiteral? at h
  split at h
  · obtain ⟨⟨d', r'⟩, hd, he⟩ := Option.map_eq_some_iff.mp h
    cases he
    exact Nat.le_succ_of_le (length_of_maskDigits hd)
  · obtain ⟨⟨d', r'⟩, hd, he⟩ := Option.map_eq_some_iff.mp h
    cases he
    exact Nat.le_succ_of_le (length_of_maskDigits hd)
  · exact length_of_maskDigits h

/-- A width is taken off the text, or none is there and nothing is. -/
private theorem length_of_readMask {t r : Text} {w : Option Nat}
    (h : readMask t = .ok (w, r)) : r.length ≤ t.length := by
  unfold readMask at h
  split at h
  · split at h
    · cases h
    · rename_i hl
      have shorter := length_of_maskLiteral hl
      split at h
      · cases h
      split at h
      · cases h
      split at h
      · cases h
        exact Nat.le_succ_of_le shorter
      · cases h
  · cases h
    exact Nat.le_refl _

private theorem length_of_readLabel {zeroPad hideOctets : Bool} {t r : Text} {ref : Reference}
    (h : Reference.readLabel zeroPad hideOctets t = .ok (ref, r)) : r.length ≤ t.length := by
  unfold Reference.readLabel at h
  split at h
  · cases h
  rename_i hr
  split at h
  · cases h
  cases h
  exact Text.length_of_run? hr

private theorem length_of_read {t r : Text} {ref : Reference}
    (h : Reference.read t = .ok (ref, r)) : r.length ≤ t.length := by
  unfold Reference.read at h
  split at h
  · cases h
  · exact Nat.le_succ_of_le (length_of_readLabel h)
  · exact Nat.le_succ_of_le (length_of_readLabel h)
  · split at h
    · cases h
    · exact length_of_readLabel h

/-- What follows a placeholder is no longer than the text that it is in.  So
expanding a text comes to an end: each step goes on with a shorter one. -/
theorem length_of_readPlaceholder {labels : Labels} {t shown r : Text}
    (h : readPlaceholder labels t = .ok (shown, r)) : r.length ≤ t.length := by
  unfold readPlaceholder at h
  split at h
  · cases h
  rename_i hr
  have h1 := length_of_read hr
  split at h
  · cases h
  split at h
  · cases h
  rename_i hw
  cases h
  refine Nat.le_trans ?_ h1
  unfold readWidth at hw
  split at hw
  · cases hw
    exact Nat.le_refl _
  · exact length_of_readMask hw

/-- The expected text on a line: what follows the first semicolon, up to a
number sign and without the blanks at its end. -/
def annotation? (line : Text) : Option Text :=
  (Text.cutAt ';' line).map fun (_, comment) => Text.trimEnd (comment.takeWhile (· != '#'))

/-- A line with its placeholders replaced. -/
def expand (labels : Labels) (t : Text) : Except Failure Text :=
  match hc : Text.cutAt '%' t with
  | none => .ok t
  | some (before, after) =>
      match hp : readPlaceholder labels after with
      | .error f => .error f
      | .ok (shown, rest) =>
          have : rest.length < t.length :=
            Nat.lt_of_le_of_lt (length_of_readPlaceholder hp) (Text.length_of_cutAt hc)
          match expand labels rest with
          | .error f => .error f
          | .ok more => .ok (before ++ shown ++ more)
termination_by t.length

/-- A text without a percent sign stands for itself. -/
theorem expand_of_cutAt_none (labels : Labels) {t : Text} (hcut : Text.cutAt '%' t = none) :
    expand labels t = .ok t := by
  rw [expand]
  split
  · rfl
  · rename_i hcut'
    rw [hcut] at hcut'
    cases hcut'

/-- A text with a percent sign is expanded behind its first placeholder. -/
theorem expand_of_cutAt_some (labels : Labels) {t before after : Text}
    (hcut : Text.cutAt '%' t = some (before, after)) :
    expand labels t = (readPlaceholder labels after).bind fun (shown, rest) =>
      (expand labels rest).map fun more => before ++ shown ++ more := by
  rw [expand]
  split
  · rename_i hcut'
    rw [hcut] at hcut'
    cases hcut'
  · rename_i hcut'
    rw [hcut] at hcut'
    cases hcut'
    split
    · rename_i hplaceholder
      rw [hplaceholder]
      rfl
    · rename_i shown rest hplaceholder
      dsimp only
      rw [hplaceholder]
      show _ = (expand labels rest).map _
      cases expand labels rest <;> rfl

end TraceScript
