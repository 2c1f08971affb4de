import TraceScript.Expectation.Placeholder
import TraceScript.Proofs.Text.Longest

/-!
# How a width is written

A width is an optional sign and hexadecimal digits behind `0x`, or decimal digits
(`IsWidth`).  Behind the point of a placeholder stands the longest such text, and
`maskLiteral?` takes just that (`maskLiteral?_eq_some_iff`).

Hexadecimal digits are tried first.  No decimal row that starts where they do is as
long, since the `x` ends it; so trying one class before the other loses nothing.
-/

namespace TraceScript

open Text (Longest StartsWithNo IsRow)

variable {t found rest : Text}

/-- Hexadecimal digits behind their mark. -/
def IsMarkedRow (w : Text) : Prop :=
  ∃ x digits, w = '0' :: x :: digits ∧ (x = 'x' ∨ x = 'X') ∧ IsRow (Text.isDigitOf 16) digits

/-- A width without a sign. -/
def IsMagnitude (w : Text) : Prop :=
  IsMarkedRow w ∨ IsRow (Text.isDigitOf 10) w

/-- A width as it is written. -/
def IsWidth (w : Text) : Prop :=
  IsMagnitude w ∨ ∃ sign magnitude, w = sign :: magnitude ∧ (sign = '+' ∨ sign = '-') ∧
    IsMagnitude magnitude

/-- A decimal row that starts as marked digits do ends before the mark. -/
theorem length_of_row_of_mark {x : Char} {w : Text} (hx : x = 'x' ∨ x = 'X')
    (hw : w <+: '0' :: x :: rest) (hrow : IsRow (Text.isDigitOf 10) w) : w.length ≤ 1 := by
  obtain ⟨-, hdigits⟩ := hrow
  match w, hw with
  | [], _ => simp
  | [_], _ => simp
  | c :: d :: more, hw =>
      obtain rfl : d = x := (List.cons_prefix_cons.mp (List.cons_prefix_cons.mp hw).2).1
      have hd := hdigits d (by simp)
      rcases hx with rfl | rfl
      · exact absurd hd (by decide)
      · exact absurd hd (by decide)

/-- Where the marked form of a width is found, it is the longest of both
forms: without its mark it would end at the zero. -/
theorem hexWidth?_eq_some (h : hexWidth? t = some (found, rest)) :
    Longest IsMagnitude t found rest := by
  unfold hexWidth? at h
  split at h
  · rename_i x behind
    split at h
    · rename_i hx
      obtain ⟨⟨digits, after⟩, hrun, hpair⟩ := Option.map_eq_some_iff.mp h
      cases hpair
      have hdigits := Text.run?_eq_some hrun
      have hmarked : Longest IsMarkedRow ('0' :: x :: behind) ('0' :: x :: digits) rest := by
        refine ⟨by rw [hdigits.parts]; rfl, ⟨x, digits, rfl, hx, hdigits.holds⟩, ?_⟩
        rintro other hstarts ⟨y, row, rfl, -, hrow⟩
        have hrest := (List.cons_prefix_cons.mp (List.cons_prefix_cons.mp hstarts).2).2
        have hle := hdigits.maximal row hrest hrow
        simpa using hle
      refine hmarked.or fun other hstarts hrow => ?_
      have hle := length_of_row_of_mark hx hstarts hrow
      simp only [List.length_cons]
      omega
    · cases h
  · cases h

/-- Where it is not found, no marked row stands there. -/
theorem hexWidth?_eq_none (h : hexWidth? t = none) : StartsWithNo IsMarkedRow t := by
  rintro other hstarts ⟨x, digits, rfl, hx, hrow⟩
  obtain ⟨more, rfl⟩ := hstarts
  simp only [hexWidth?, List.cons_append, hx, if_true, Option.map_eq_none_iff] at h
  exact Text.run?_eq_none h digits (List.prefix_append digits more) hrow

/-- What is found, marked or not, is the longest magnitude at the start of the
text. -/
theorem maskDigits?_eq_some (h : maskDigits? t = some (found, rest)) :
    Longest IsMagnitude t found rest := by
  rcases Option.or_eq_some_iff.mp h with hmarked | ⟨hnone, hrun⟩
  · exact hexWidth?_eq_some hmarked
  · have hdecimal := (Text.run?_eq_some hrun).or (Q := IsMarkedRow)
      fun other hstarts hother => absurd hother (hexWidth?_eq_none hnone other hstarts)
    exact hdecimal.congr fun w => or_comm

/-- Where nothing is found, no magnitude stands there. -/
theorem maskDigits?_eq_none (h : maskDigits? t = none) : StartsWithNo IsMagnitude t := by
  obtain ⟨hmarked, hrun⟩ := Option.or_eq_none_iff.mp h
  rintro other hstarts (hother | hother)
  · exact hexWidth?_eq_none hmarked other hstarts hother
  · exact Text.run?_eq_none hrun other hstarts hother

/-- A sign is no digit, so what it stands in front of has no magnitude. -/
theorem startsWithNo_of_sign {sign : Char} (hsign : sign = '+' ∨ sign = '-') :
    StartsWithNo IsMagnitude (sign :: t) := by
  rintro other hstarts (⟨x, digits, rfl, -⟩ | ⟨hne, hdigits⟩)
  · obtain rfl := (List.cons_prefix_cons.mp hstarts).1
    rcases hsign with hsign | hsign <;> cases hsign
  · obtain ⟨c, more, rfl⟩ := List.exists_cons_of_ne_nil hne
    obtain rfl := (List.cons_prefix_cons.mp hstarts).1
    have hc := hdigits c List.mem_cons_self
    rcases hsign with rfl | rfl
    · exact absurd hc (by decide)
    · exact absurd hc (by decide)

/-- Behind a sign stands a width just if a magnitude does. -/
theorem signed_eq_some {sign : Char} (hsign : sign = '+' ∨ sign = '-')
    (h : Longest IsMagnitude t found rest) : Longest IsWidth (sign :: t) (sign :: found) rest := by
  have hsigned := (h.cons (c := sign)).or (Q := IsMagnitude)
    fun other hstarts hother => absurd hother (startsWithNo_of_sign hsign other hstarts)
  refine ⟨hsigned.parts, .inr ⟨sign, found, rfl, hsign, h.holds⟩, ?_⟩
  rintro other hstarts (hother | ⟨sign', magnitude, rfl, -, hother⟩)
  · exact hsigned.maximal other hstarts (.inr hother)
  · obtain rfl := (List.cons_prefix_cons.mp hstarts).1
    exact hsigned.maximal _ hstarts (.inl ⟨magnitude, rfl, hother⟩)

/-- Behind a sign without a magnitude there is no width. -/
theorem signed_eq_none {sign : Char} (hsign : sign = '+' ∨ sign = '-')
    (h : StartsWithNo IsMagnitude t) : StartsWithNo IsWidth (sign :: t) := by
  rintro other hstarts (hother | ⟨sign', magnitude, rfl, -, hother⟩)
  · exact startsWithNo_of_sign hsign other hstarts hother
  · exact h magnitude (List.cons_prefix_cons.mp hstarts).2 hother

/-- A text without a sign starts with no other widths than magnitudes. -/
theorem magnitude_of_unsigned {w : Text} (hplus : ∀ more, t ≠ '+' :: more)
    (hminus : ∀ more, t ≠ '-' :: more) (hstarts : w <+: t) (hw : IsWidth w) : IsMagnitude w := by
  rcases hw with hw | ⟨sign, magnitude, rfl, hsign, -⟩
  · exact hw
  · obtain ⟨more, rfl⟩ := hstarts
    rcases hsign with rfl | rfl
    · exact absurd rfl (hplus (magnitude ++ more))
    · exact absurd rfl (hminus (magnitude ++ more))

/-- The width that is taken is the longest at the start of the text.  A sign
may stand in front of it, and then a magnitude has to follow. -/
theorem maskLiteral?_eq_some (h : maskLiteral? t = some (found, rest)) :
    Longest IsWidth t found rest := by
  unfold maskLiteral? at h
  split at h
  · obtain ⟨⟨digits, after⟩, hdigits, hpair⟩ := Option.map_eq_some_iff.mp h
    cases hpair
    exact signed_eq_some (.inl rfl) (maskDigits?_eq_some hdigits)
  · obtain ⟨⟨digits, after⟩, hdigits, hpair⟩ := Option.map_eq_some_iff.mp h
    cases hpair
    exact signed_eq_some (.inr rfl) (maskDigits?_eq_some hdigits)
  · rename_i hplus hminus
    have hdigits := maskDigits?_eq_some h
    refine ⟨hdigits.parts, .inl hdigits.holds, fun other hstarts hother => ?_⟩
    have hmagnitude := magnitude_of_unsigned hplus hminus hstarts hother
    exact hdigits.maximal other hstarts hmagnitude

/-- Where no width is taken, none stands there. -/
theorem maskLiteral?_eq_none (h : maskLiteral? t = none) : StartsWithNo IsWidth t := by
  unfold maskLiteral? at h
  split at h
  · exact signed_eq_none (.inl rfl) (maskDigits?_eq_none (Option.map_eq_none_iff.mp h))
  · exact signed_eq_none (.inr rfl) (maskDigits?_eq_none (Option.map_eq_none_iff.mp h))
  · rename_i hplus hminus
    intro other hstarts hother
    exact maskDigits?_eq_none h other hstarts (magnitude_of_unsigned hplus hminus hstarts hother)

/-- A width is taken just if it is the longest at the start of the text. -/
theorem maskLiteral?_eq_some_iff :
    maskLiteral? t = some (found, rest) ↔ Longest IsWidth t found rest := by
  refine ⟨maskLiteral?_eq_some, fun h => ?_⟩
  cases hmask : maskLiteral? t with
  | none => exact absurd (maskLiteral?_eq_none hmask) h.not_startsWithNo
  | some parts =>
      obtain ⟨hfound, hrest⟩ := (maskLiteral?_eq_some hmask).unique h
      exact congrArg some (Prod.ext hfound hrest)

/-- Without a digit behind the mark the zero in front of it is all of the
width. -/
example : maskLiteral? "0xg".toList = some (['0'], "xg".toList) := by decide

/-- Nothing is taken just if the text starts with no width. -/
theorem maskLiteral?_eq_none_iff : maskLiteral? t = none ↔ StartsWithNo IsWidth t := by
  refine ⟨maskLiteral?_eq_none, fun h => ?_⟩
  cases hmask : maskLiteral? t with
  | none => rfl
  | some parts => exact absurd h (maskLiteral?_eq_some hmask).not_startsWithNo

end TraceScript
