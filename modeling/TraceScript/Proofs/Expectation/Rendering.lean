import Mathlib.Data.List.DropRight
import TraceScript.Proofs.Expectation.Grammar
import TraceScript.Proofs.Text.Numeral
import TraceScript.Proofs.Text.Trim

/-!
# Addresses that are shown

However the address of a label is shown, its digits are the last of one row.  A plain
placeholder shows as many as the address needs and a flagged one sixteen; hidden octets
of an assembly label are left out at the front of that row (`shown_assembly_question`).
So what is shown reads back as the address, cut to the octets that the placeholder keeps,
and the flagged forms have sixteen characters behind the mark (`shown_addresses_agree`).
-/

namespace TraceScript

open Placeholder (format)

variable {a n : Nat} {kept : Option Nat}

/-! ### Digits that are read as an operand -/

/-- Hexadecimal digits behind their mark are read as the number that they
denote. -/
theorem readWord_marked {digits : Text} (hne : digits ≠ [])
    (hdigits : ∀ c ∈ digits, Text.isDigitOf 16 c) (hvalue : Text.valueOf 16 digits < wordCount) :
    readWord ("0x".toList ++ digits) = .ok (Text.valueOf 16 digits) := by
  have hwritten : Literal.Written ⟨.absent, .hexadecimal, "0x".toList, digits⟩ :=
    ⟨.hexadecimal (.inl rfl), ⟨hne, hdigits⟩, nofun, nofun⟩
  have hunsigned : Sign.absent ≠ .minus := nofun
  have hword : Literal.word ⟨.absent, .hexadecimal, "0x".toList, digits⟩ =
      Text.valueOf 16 digits :=
    calc Literal.word ⟨.absent, .hexadecimal, "0x".toList, digits⟩
        = Text.valueOf 16 digits % wordCount := Literal.word_unsigned hunsigned
      _ = Text.valueOf 16 digits := Nat.mod_eq_of_lt hvalue
  have hshort : ¬ Literal.IsLong ⟨.absent, .hexadecimal, "0x".toList, digits⟩ := by
    rintro ⟨hradix, -⟩
    cases hradix
  have hread := Literal.readWord_text hwritten
  rwa [if_neg hshort, hword] at hread

/-! ### Formats -/

namespace AddressFormat

/-- An address is written in as many digits as it needs, or filled up to
sixteen. -/
theorem written_filled (zeroPad : Bool) (n : Nat) :
    written zeroPad (n : Int) =
      "0x".toList ++ if zeroPad then Text.padLeft 16 '0' (Text.hex n) else Text.hex n := by
  cases zeroPad with
  | false => simp [written, Text.signedHex]
  | true => simp [written, Text.signedHexPadded, Cause.addressOctets]

/-- Of a word these are its last sixteen digits. -/
theorem written_natCast (zeroPad : Bool) (h : n < wordCount) :
    written zeroPad (n : Int) =
      "0x".toList ++ if zeroPad then Text.lastDigits 16 n else Text.hex n := by
  have hpadded : Text.padLeft 16 '0' (Text.hex n) = Text.lastDigits 16 n := Text.padLeft_hex h
  rw [written_filled, hpadded]

/-- The low octets of an address are shown as its last digits, two for each. -/
theorem lowDigits_natCast (width n : Nat) :
    lowDigits width (n : Int) = Text.lastDigits (2 * width) n := by
  have hcut : ((n : Int) % (octetRange width : Int)).toNat = n % Text.digitRange (2 * width) := by
    rw [← Text.octetRange_eq_digitRange]
    exact_mod_cast Int.toNat_natCast _
  calc lowDigits width (n : Int)
      = Text.hexBytes (littleEndian width (n % Text.digitRange (2 * width))).reverse := by
        rw [lowDigits, lowOctets, hcut]
    _ = Text.lastDigits (2 * width) (n % Text.digitRange (2 * width)) :=
        Text.hexBytes_reverse_littleEndian _ _
    _ = Text.lastDigits (2 * width) n := Text.lastDigits_mod _ _

/-- Without a width all of a word is kept. -/
theorem keep_natCast (kept : Option Nat) (h : a < wordCount) :
    keep kept (a : Int) = ((a % octetRange (kept.getD Cause.addressOctets) : Nat) : Int) := by
  cases kept with
  | none =>
      have hmod : a % octetRange 8 = a := Nat.mod_eq_of_lt h
      simp [keep, Cause.addressOctets, hmod]
  | some n => simp [keep]

end AddressFormat

/-! ### Placeholders -/

namespace Placeholder

/-- What a placeholder with this flag and width shows for an address. -/
def shown (flag : Option Flag) (kept : Option Nat) (origin : LabelOrigin) (address : Nat) : Text :=
  (format flag kept).render origin address

/-- The octets of an address that a width keeps, which without one are all. -/
def octets (kept : Option Nat) : Nat :=
  kept.getD Cause.addressOctets

/-- A placeholder of a label's name, with a width for so many octets or with
none; behind the label of a directive there is no width. -/
structure Spelled (p : Placeholder) (kept : Option Nat) (origin : LabelOrigin) : Prop where
  length : IsName p.name
  chars : ∀ c ∈ p.name, isLabelChar c
  unflagged : p.flag = none → p.name.head? ≠ some '0'
  width : ∀ literal ∈ p.width, IsWidth literal
  value : p.width.map readWord = kept.map .ok
  whole : origin = .directive → p.width = none

theorem head?_widthText (width : Option Text) :
    (widthText width).head?.all (fun c => !isLabelChar c) := by
  cases width with
  | none => rfl
  | some literal => rfl

/-- Where a placeholder stands alone, its name is what is taken for one. -/
theorem Spelled.named {p : Placeholder} {origin : LabelOrigin} (h : p.Spelled kept origin) :
    Named p.flag p.name (widthText p.width) := by
  constructor
  · intro hflag other hhead
    rw [List.head?_append_of_ne_nil _ h.length.1] at hhead
    match other with
    | .zero => exact h.unflagged hflag hhead
    | .question =>
        have hchar := h.chars '?' (List.mem_of_mem_head? hhead)
        exact absurd hchar (by decide)
  · have hends := head?_widthText p.width
    have hlongest := Text.longest_takeWhile isLabelChar (p.name ++ widthText p.width)
    rwa [Text.takeWhile_append_of_ends h.chars hends,
      Text.dropWhile_append_of_ends h.chars hends] at hlongest

/-- A width that ends the text is the longest one. -/
theorem longest_of_isWidth {literal : Text} (h : IsWidth literal) :
    Text.Longest IsWidth literal literal [] :=
  ⟨(List.append_nil literal).symm, h, fun _ hstarts _ => hstarts.length_le⟩

/-- Where a placeholder stands alone, its width is what is taken for one, and
keeps as many octets as it says. -/
theorem Spelled.widened {p : Placeholder} {origin : LabelOrigin} (h : p.Spelled kept origin)
    (hkept : ∀ n ∈ kept, n ≤ Cause.addressOctets) :
    Widened origin (widthText p.width) p.width kept [] := by
  obtain ⟨flag, name, width⟩ := p
  have hvalue := h.value
  match width, kept with
  | none, none =>
      match origin with
      | .directive => exact .directive []
      | .assembly => exact .whole nofun
  | some literal, some n =>
      match origin with
      | .directive => exact absurd (h.whole rfl) nofun
      | .assembly =>
          have hread : readWord literal = .ok n := Option.some.inj hvalue
          exact .kept ⟨longest_of_isWidth (h.width literal rfl), nofun⟩ hread (hkept n rfl)

/-- A placeholder that stands alone is expanded to what it shows. -/
theorem expand_spelled {labels : Labels} {p : Placeholder} {origin : LabelOrigin}
    (h : p.Spelled kept origin) (hkept : ∀ n ∈ kept, n ≤ Cause.addressOctets)
    (hfind : labels.Finds p.name a origin) :
    expand labels p.text = .ok (shown p.flag kept origin a) := by
  have hshows : Shows labels p [] (shown p.flag kept origin a) :=
    .intro h.named h.length hfind (h.widened hkept)
  have hexpands : Expands labels ([] ++ p.text ++ []) ([] ++ shown p.flag kept origin a ++ []) :=
    .placeholder nofun hshows (.plain nofun)
  rw [List.nil_append, List.nil_append, List.append_nil, List.append_nil] at hexpands
  exact expand_of_expands hexpands

/-- The label of a directive is shown whole, filled up to sixteen digits under
either flag. -/
theorem shown_directive (flag : Option Flag) (kept : Option Nat) (h : a < wordCount) :
    shown flag kept .directive a =
      "0x".toList ++ if flag.isSome then Text.lastDigits 16 a else Text.hex a :=
  AddressFormat.written_natCast flag.isSome h

/-- Without the question mark the octets that are kept are shown as a number. -/
theorem shown_assembly (flag : Option Flag) (kept : Option Nat) (hflag : flag ≠ some .question)
    (h : a < wordCount) :
    shown flag kept .assembly a =
      "0x".toList ++
        if flag.isSome then Text.lastDigits 16 (a % octetRange (octets kept))
        else Text.hex (a % octetRange (octets kept)) := by
  have hlt : a % octetRange (octets kept) < wordCount :=
    Nat.lt_of_le_of_lt (Nat.mod_le a _) h
  have hwritten := AddressFormat.written_natCast flag.isSome hlt
  rw [← hwritten, shown, AddressFormat.render]
  simp [format, hflag, AddressFormat.keep_natCast kept h, octets]

/-- With it they are shown as the last digits of the whole address. -/
theorem shown_assembly_question (kept : Option Nat) (h : a < wordCount) :
    shown (some .question) kept .assembly a =
      "0x".toList ++
        List.replicate (2 * (Cause.addressOctets - octets kept)) '?' ++
        Text.lastDigits (2 * octets kept) a := by
  have hcut : Text.lastDigits (2 * octets kept)
      (a % octetRange (octets kept)) =
      Text.lastDigits (2 * octets kept) a := by
    rw [Text.octetRange_eq_digitRange, Text.lastDigits_mod]
  rw [shown, AddressFormat.render]
  simp only [format, decide_true, if_true, AddressFormat.keep_natCast kept h,
    AddressFormat.masked, AddressFormat.lowDigits_natCast]
  exact congrArg _ hcut

/-- Without a width a flagged placeholder shows sixteen digits of the
address. -/
theorem shown_zero (origin : LabelOrigin) (h : a < wordCount) :
    shown (some .zero) none origin a = "0x".toList ++ Text.lastDigits 16 a := by
  cases origin with
  | directive => exact shown_directive (some .zero) none h
  | assembly =>
      have hmod : a % octetRange (octets none) = a := Nat.mod_eq_of_lt h
      rw [shown_assembly (some .zero) none nofun h, hmod]
      rfl

/-- No more octets are kept than an address has. -/
theorem octets_le (hkept : ∀ n ∈ kept, n ≤ Cause.addressOctets) :
    octets kept ≤ Cause.addressOctets := by
  cases kept with
  | none => exact Nat.le_refl _
  | some n => exact hkept n rfl

/-- Sixteen characters behind the mark. -/
def IsFilled (t : Text) : Prop :=
  ∃ digits, t = "0x".toList ++ digits ∧ digits.length = 16

/-- Sixteen digits behind the mark are read as the number that they are the
last of. -/
theorem readWord_lastDigits (h : n < wordCount) :
    readWord ("0x".toList ++ Text.lastDigits 16 n) = .ok n := by
  have hvalue : Text.valueOf 16 (Text.lastDigits 16 n) = n := by
    rw [Text.valueOf_lastDigits]
    exact Nat.mod_eq_of_lt h
  have hne : Text.lastDigits 16 n ≠ [] := by
    rw [← List.length_pos_iff, Text.length_lastDigits]
    decide
  have hlt : Text.valueOf 16 (Text.lastDigits 16 n) < wordCount := hvalue.symm ▸ h
  rw [readWord_marked hne (fun c => Text.isDigitOf_of_mem_lastDigits) hlt, hvalue]

/-- The digits of a word behind their mark are read as the word. -/
theorem readWord_hex (h : n < wordCount) : readWord ("0x".toList ++ Text.hex n) = .ok n := by
  have hvalue : Text.valueOf 16 (Text.hex n) = n :=
    Text.valueOf_numeral (by decide) (Nat.le_refl 16) n
  have hdigits : ∀ c ∈ Text.hex n, Text.isDigitOf 16 c :=
    fun c => Text.isDigitOf_of_mem_numeral (by decide) (Nat.le_refl 16)
  have hne : Text.hex n ≠ [] := Text.numeral_ne_nil 16 n
  have hlt : Text.valueOf 16 (Text.hex n) < wordCount := hvalue.symm ▸ h
  rw [readWord_marked hne hdigits hlt, hvalue]

/-- Every flagged placeholder fills sixteen characters. -/
theorem isFilled_shown (flag : Flag) (origin : LabelOrigin) (h : a < wordCount)
    (hkept : ∀ n ∈ kept, n ≤ Cause.addressOctets) :
    IsFilled (shown (some flag) kept origin a) := by
  match origin, flag with
  | .directive, flag => exact ⟨_, shown_directive (some flag) kept h, Text.length_lastDigits 16 _⟩
  | .assembly, .zero =>
      exact ⟨_, shown_assembly (some .zero) kept nofun h, Text.length_lastDigits 16 _⟩
  | .assembly, .question =>
      refine ⟨_, (shown_assembly_question kept h).trans (List.append_assoc _ _ _), ?_⟩
      have hle := octets_le hkept
      rw [List.length_append, List.length_replicate, Text.length_lastDigits]
      rw [Cause.addressOctets] at hle ⊢
      omega

/-- The octets that are shown are the end of the address in sixteen digits. -/
theorem rtake_lastDigits {k : Nat} (hk : k ≤ 16) :
    ("0x".toList ++ Text.lastDigits 16 a).rtake k = Text.lastDigits k a := by
  have hsplit : Text.lastDigits 16 a =
      Text.lastDigits (16 - k) (a / Text.digitRange k) ++ Text.lastDigits k a := by
    rw [← Text.lastDigits_add, Nat.sub_add_cancel hk]
  calc ("0x".toList ++ Text.lastDigits 16 a).rtake k
      = (("0x".toList ++ Text.lastDigits (16 - k) (a / Text.digitRange k)) ++
          Text.lastDigits k a).rtake k := by rw [hsplit, List.append_assoc]
    _ = Text.lastDigits k a := by
        rw [List.rtake_eq_reverse_take_reverse]
        simp

end Placeholder

open Placeholder

/-- **Shown addresses agree.**  A placeholder that stands alone is expanded to
the text below.  Without the question mark that text reads back as the
address, of an assembly label cut to the octets that are kept; with a flag it
fills sixteen characters.  With the question mark it marks the octets that are
not kept and ends as the whole address in sixteen digits does, which is all of
it where none is hidden. -/
theorem shown_addresses_agree (h : a < wordCount) (hkept : ∀ n ∈ kept, n ≤ Cause.addressOctets) :
    (∀ (labels : Labels) (p : Placeholder) (origin : LabelOrigin), p.Spelled kept origin →
      labels.Finds p.name a origin →
      expand labels p.text = .ok (shown p.flag kept origin a)) ∧
    readWord (shown none kept .assembly a) = .ok (a % octetRange (octets kept)) ∧
    readWord (shown (some .zero) kept .assembly a) = .ok (a % octetRange (octets kept)) ∧
    readWord (shown none none .directive a) = .ok a ∧
    readWord (shown (some .zero) none .directive a) = .ok a ∧
    (∀ flag origin, IsFilled (shown (some flag) kept origin a)) ∧
    shown (some .question) kept .assembly a =
      "0x".toList ++
        List.replicate (2 * (Cause.addressOctets - octets kept)) '?' ++
        (shown (some .zero) none .assembly a).rtake (2 * octets kept) ∧
    ∀ origin, shown (some .question) none origin a = shown (some .zero) none origin a := by
  -- a masked address is an address again, so both notations read it back
  have hcut : a % octetRange (octets kept) < wordCount :=
    Nat.lt_of_le_of_lt (Nat.mod_le a _) h
  refine ⟨?_, ?_, ?_, ?_, ?_, ?_, ?_, ?_⟩
  · intro labels p origin hspelled hfind
    exact expand_spelled hspelled hkept hfind
  · rw [shown_assembly none kept nofun h]
    exact readWord_hex hcut
  · rw [shown_assembly (some .zero) kept nofun h]
    exact readWord_lastDigits hcut
  · rw [shown_directive none none h]
    exact readWord_hex h
  · rw [shown_zero .directive h]
    exact readWord_lastDigits h
  · intro flag origin
    exact isFilled_shown flag origin h hkept
  · rw [shown_zero .assembly h, rtake_lastDigits (Nat.mul_le_mul_left 2 (octets_le hkept))]
    exact shown_assembly_question kept h
  · intro origin
    cases origin with
    | directive =>
        rw [shown_zero .directive h, shown_directive (some .question) none h]
        rfl
    | assembly =>
        rw [shown_zero .assembly h, shown_assembly_question none h]
        rfl

/-- Three octets of an address, the others hidden; without the question mark
they are a number. -/
theorem shown_addresses_agree_low_octets :
    0x1122334455667788 < wordCount ∧ (∀ n ∈ some 3, n ≤ Cause.addressOctets) ∧
    expand ⟨⟨[("a".toList, 0x1122334455667788)]⟩, .empty⟩ "%?a.3".toList =
      .ok "0x??????????667788".toList ∧
    readWord (shown none (some 3) .assembly 0x1122334455667788) = .ok 0x667788 := by
  have h : 0x1122334455667788 < wordCount := by decide
  have hkept : ∀ n ∈ some 3, n ≤ Cause.addressOctets := by decide
  have hspelled : Spelled ⟨some .question, "a".toList, some "3".toList⟩ (some 3) .assembly := by
    refine ⟨by decide, List.all_eq_true.mp (by decide), nofun, ?_, rfl, nofun⟩
    rintro literal ⟨⟩
    exact .inl (.inr ⟨by decide, List.all_eq_true.mp (by decide)⟩)
  have hshown : shown (some .question) (some 3) .assembly 0x1122334455667788 =
      "0x??????????667788".toList := by
    rw [shown_assembly_question (some 3) h]
    decide
  obtain ⟨hexpand, hplain, -⟩ := shown_addresses_agree h hkept
  refine ⟨h, hkept, ?_, hplain⟩
  rw [← hshown]
  exact hexpand _ _ .assembly hspelled (.assembly rfl)

end TraceScript
