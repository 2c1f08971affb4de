import TraceScript.Directive.Operand
import TraceScript.Expectation.Placeholder
import TraceScript.Proofs.Text.Part

/-!
# Parts of a script

Whatever a run reads in a script stands in its text: the lines and their
directives (`Script.within_of_mem_lines`), the label and the payload of a
directive (`Directive.parts_of_split`), the operands of a payload, the digits of
a literal, the expected text on a line, and the labels and widths of its
placeholders.
-/

namespace TraceScript

variable {t line rest : Text}

/-! ### Lines -/

/-- What follows the marker is the end of the comment. -/
theorem Marked.suffix_of_afterMarker? {comment after : Text}
    (h : afterMarker? comment = some after) : after <:+ comment := by
  unfold afterMarker? at h
  split at h
  · rename_i behind hcomment
    split at h
    · cases h
      have hsuffix : after <:+ Text.trimStart comment := by
        rw [hcomment]
        exact List.suffix_append ['@', 'p', 't'] after
      exact hsuffix.trans (Text.trimStart_isSuffix comment)
    · cases h
  · cases h

/-- The directive of a line stands on it. -/
theorem Marked.infix_of_find? {m : Marked} (h : find? line = some m) : m.directive <:+: line := by
  unfold find? at h
  split at h
  · cases h
  · rename_i before comment hcut
    obtain ⟨after, hafter, rfl⟩ := Option.map_eq_some_iff.mp h
    have hcomment : after <:+ line :=
      (suffix_of_afterMarker? hafter).trans (Text.suffix_of_cutAt hcut)
    exact (Text.trim_isInfix after).trans hcomment.isInfix

/-- A line and its directive stand in a text. -/
structure ScriptLine.Within (l : ScriptLine) (t : Text) : Prop where
  text : l.text <:+: t
  directive : ∀ d ∈ l.directive, d <:+: t

/-- A line that is made of a text holds no more than that text. -/
theorem ScriptLine.within_ofText (filename : Text) (number : Nat) (t : Text) :
    (ofText filename number t).Within t := by
  unfold ofText
  cases hfind : Marked.find? t with
  | none => exact ⟨List.infix_refl t, nofun⟩
  | some m =>
      refine ⟨List.infix_refl t, ?_⟩
      rintro d ⟨⟩
      exact Marked.infix_of_find? hfind

/-- A line within a part of a text is within the whole. -/
theorem ScriptLine.Within.mono {l : ScriptLine} {part : Text} (h : l.Within part)
    (hpart : part <:+: t) : l.Within t :=
  ⟨h.text.trans hpart, fun d hd => (h.directive d hd).trans hpart⟩

/-- A text stands on a line, or in its directive. -/
def ScriptLine.Holds (l : ScriptLine) (t : Text) : Prop :=
  t <:+: l.text ∨ ∃ d ∈ l.directive, t <:+: d

theorem ScriptLine.holds_nil (l : ScriptLine) : l.Holds [] :=
  .inl List.nil_infix

/-- What a line holds is a part of the text that the line is within. -/
theorem ScriptLine.Within.infix_of_holds {l : ScriptLine} {part : Text} (h : l.Within t)
    (hpart : l.Holds part) : part <:+: t := by
  obtain hpart | ⟨d, hd, hpart⟩ := hpart
  · exact hpart.trans h.text
  · exact hpart.trans (h.directive d hd)

/-- A numbered line is made of one of the texts. -/
theorem Script.exists_of_mem_numberLines {filename : Text} {n : Nat} {ts : List Text}
    {l : ScriptLine} (h : l ∈ numberLines filename n ts) :
    ∃ number, ∃ u ∈ ts, l = ScriptLine.ofText filename number u := by
  induction ts generalizing n with
  | nil => cases h
  | cons u more ih =>
      rcases List.mem_cons.mp h with rfl | h
      · exact ⟨n, u, List.mem_cons_self, rfl⟩
      · obtain ⟨number, v, hv, rfl⟩ := ih h
        exact ⟨number, v, List.mem_cons_of_mem u hv, rfl⟩

/-- The lines of a script and their directives stand in its text. -/
theorem Script.within_of_mem_lines {filename root text : Text} {l : ScriptLine}
    (h : l ∈ (ofText filename root text).lines) : l.Within text := by
  obtain ⟨number, u, hu, rfl⟩ := exists_of_mem_numberLines h
  exact (ScriptLine.within_ofText filename number u).mono (Text.infix_of_mem_lines hu)

/-! ### Directives -/

namespace Directive

/-- The label in front of a directive is a part of its text, and what follows
it is the end. -/
theorem parts_of_splitLabel? {label : Text} (h : splitLabel? t = some (label, rest)) :
    label <:+: t ∧ rest <:+ t := by
  have hstart : t.dropWhile isAsciiBlank <:+ t := List.dropWhile_suffix isAsciiBlank
  have hbehind := List.dropWhile_suffix (l := t.dropWhile isAsciiBlank) isLabelChar
  have hcolon := List.dropWhile_suffix
    (l := (t.dropWhile isAsciiBlank).dropWhile isLabelChar) isAsciiBlank
  unfold splitLabel? at h
  simp only at h
  split at h
  · rename_i after hafter
    split at h
    · cases h
    · cases h
      rw [hafter] at hcolon
      refine ⟨(List.takeWhile_prefix isLabelChar).isInfix.trans hstart.isInfix, ?_⟩
      calc rest
          <:+ ':' :: rest := List.suffix_cons ':' rest
        _ <:+ (t.dropWhile isAsciiBlank).dropWhile isLabelChar := hcolon
        _ <:+ t.dropWhile isAsciiBlank := hbehind
        _ <:+ t := hstart
  · cases h

/-- The payload is a part of what follows the name, with parentheses or
without. -/
theorem infix_of_payloadOf {name payload : Text} (h : payloadOf name rest = .ok payload) :
    payload <:+: rest := by
  unfold payloadOf at h
  split at h
  · rename_i inside
    split at h
    · cases h
    · rename_i after behind hcut
      split at h
      · cases h
        have hreversed : behind.reverse <+: inside := by
          rw [← List.reverse_suffix, List.reverse_reverse]
          exact Text.suffix_of_cutAt hcut
        exact (Text.trim_isInfix _).trans (List.infix_cons hreversed.isInfix)
      · cases h
  · cases h
    exact List.infix_refl rest

/-- The label and the payload of a directive stand in its text.  With a label
in front, name and payload are read in what stands behind its colon; without
one, in the whole text. -/
theorem parts_of_split {location : Option Location} {sourceLine : Option Text} {d : Directive}
    (h : split t location sourceLine = .ok d) :
    (∀ name ∈ d.label, name <:+: t) ∧ d.payload <:+: t := by
  -- what follows the name is a part of whatever holds name and payload
  have hbody {body payload : Text} {name : Text}
      (hpayload : payloadOf name (Text.trim ((Text.trimStart body).dropWhile isNameChar)) =
        .ok payload) (hbody : body <:+ t) : payload <:+: t := by
    have hrest : (Text.trimStart body).dropWhile isNameChar <:+ t :=
      calc (Text.trimStart body).dropWhile isNameChar
          <:+ Text.trimStart body := List.dropWhile_suffix isNameChar
        _ <:+ body := Text.trimStart_isSuffix body
        _ <:+ t := hbody
    calc payload
        <:+: Text.trim ((Text.trimStart body).dropWhile isNameChar) := infix_of_payloadOf hpayload
      _ <:+: (Text.trimStart body).dropWhile isNameChar := Text.trim_isInfix _
      _ <:+: t := hrest.isInfix
  unfold split at h
  simp only at h
  split at h
  · cases h
  · rename_i payload hpayload
    cases h
    cases hlabel : splitLabel? t with
    | none =>
        rw [hlabel] at hpayload
        exact ⟨nofun, hbody hpayload (List.suffix_refl t)⟩
    | some parts =>
        obtain ⟨label, rest⟩ := parts
        rw [hlabel] at hpayload
        obtain ⟨hname, hrest⟩ := parts_of_splitLabel? hlabel
        refine ⟨?_, hbody hpayload hrest⟩
        rintro name ⟨⟩
        exact hname

end Directive

theorem Operand.infix_of_mem_tokens {separators payload token : Text}
    (h : token ∈ tokens separators payload) : token <:+: payload :=
  (Text.infix_of_mem_words h).trans (Text.trim_isInfix payload)

/-! ### Expected texts -/

/-- The expected text of a line is a part of the line. -/
theorem infix_of_annotation? (h : annotation? line = some t) : t <:+: line := by
  obtain ⟨⟨before, comment⟩, hcut, rfl⟩ := Option.map_eq_some_iff.mp h
  calc Text.trimEnd (comment.takeWhile (· != '#'))
      <:+: comment.takeWhile (· != '#') := (Text.trimEnd_isPrefix _).isInfix
    _ <:+: comment := (List.takeWhile_prefix _).isInfix
    _ <:+: line := (Text.suffix_of_cutAt hcut).isInfix

namespace Reference

variable {r : Reference}

/-- The label of a placeholder is a part of it, and what follows the label is
the end. -/
theorem parts_of_readLabel {zeroPad hideOctets : Bool}
    (h : readLabel zeroPad hideOctets t = .ok (r, rest)) : r.label <:+: t ∧ rest <:+ t := by
  unfold readLabel at h
  split at h
  · cases h
  · rename_i label behind hrun
    split at h
    · cases h
    · cases h
      rw [Text.eq_append_of_run? hrun]
      exact ⟨(List.prefix_append label rest).isInfix, List.suffix_append label rest⟩

/-- The label of a reference and what follows it stand behind the percent
sign. -/
theorem parts_of_read (h : read t = .ok (r, rest)) : r.label <:+: t ∧ rest <:+ t := by
  unfold read at h
  split at h
  · cases h
  · obtain ⟨hlabel, hrest⟩ := parts_of_readLabel h
    exact ⟨List.infix_cons hlabel, hrest.trans (List.suffix_cons _ _)⟩
  · obtain ⟨hlabel, hrest⟩ := parts_of_readLabel h
    exact ⟨List.infix_cons hlabel, hrest.trans (List.suffix_cons _ _)⟩
  · split at h
    · cases h
    · exact parts_of_readLabel h

end Reference

/-- The digits of a width in hexadecimal stand in front of what follows them. -/
theorem eq_append_of_hexWidth? {digits : Text} (h : hexWidth? t = some (digits, rest)) :
    t = digits ++ rest := by
  unfold hexWidth? at h
  split at h
  · split at h
    · obtain ⟨⟨run, behind⟩, hrun, hpair⟩ := Option.map_eq_some_iff.mp h
      cases hpair
      rw [Text.eq_append_of_run? hrun]
      rfl
    · cases h
  · cases h

theorem eq_append_of_maskDigits? {digits : Text} (h : maskDigits? t = some (digits, rest)) :
    t = digits ++ rest := by
  rcases Option.or_eq_some_iff.mp h with h | ⟨-, h⟩
  · exact eq_append_of_hexWidth? h
  · exact Text.eq_append_of_run? h

/-- A text starts with the literal of a width and ends with what follows it. -/
theorem eq_append_of_maskLiteral? {literal : Text} (h : maskLiteral? t = some (literal, rest)) :
    t = literal ++ rest := by
  unfold maskLiteral? at h
  split at h
  · obtain ⟨⟨digits, behind⟩, hdigits, hpair⟩ := Option.map_eq_some_iff.mp h
    cases hpair
    rw [eq_append_of_maskDigits? hdigits, List.cons_append]
  · obtain ⟨⟨digits, behind⟩, hdigits, hpair⟩ := Option.map_eq_some_iff.mp h
    cases hpair
    rw [eq_append_of_maskDigits? hdigits, List.cons_append]
  · exact eq_append_of_maskDigits? h

/-- What follows a mask is the end of the text.  It is all of the text where
no colon opens a width. -/
theorem suffix_of_readMask {width : Option Nat} (h : readMask t = .ok (width, rest)) :
    rest <:+ t := by
  unfold readMask at h
  split at h
  · split at h
    · cases h
    · rename_i literal behind hliteral
      split at h
      · cases h
      split at h
      · cases h
      split at h
      · cases h
        rw [eq_append_of_maskLiteral? hliteral]
        exact (List.suffix_append literal rest).trans (List.suffix_cons '.' _)
      · cases h
  · cases h
    exact List.suffix_refl t

/-- What follows a width is the end of the text, also where there is no
width. -/
theorem suffix_of_readWidth {origin : LabelOrigin} {width : Option Nat}
    (h : readWidth origin t = .ok (width, rest)) : rest <:+ t := by
  cases origin with
  | directive =>
      cases h
      exact List.suffix_refl t
  | assembly => exact suffix_of_readMask h

/-- What follows a placeholder stands behind the percent sign. -/
theorem suffix_of_readPlaceholder {labels : Labels} {shown : Text}
    (h : readPlaceholder labels t = .ok (shown, rest)) : rest <:+ t := by
  unfold readPlaceholder at h
  split at h
  · cases h
  · rename_i r behind hread
    split at h
    · cases h
    split at h
    · cases h
    · rename_i hwidth
      cases h
      exact (suffix_of_readWidth hwidth).trans (Reference.parts_of_read hread).2

end TraceScript
