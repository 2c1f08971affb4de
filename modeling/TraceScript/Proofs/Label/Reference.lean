import TraceScript.Proofs.Expectation.Rendering

/-!
# References to labels

A label is referred to behind a percent sign, in the operands of a directive and in the
expected text.  An operand ends where a separator stands, and all of it behind the percent
sign is the name (`readAddressPair_reference`).  In the expected text a flag is taken
before the name is, so a name that starts with a zero is not found there: the text is a
flagged placeholder of what stands behind the zero (`expand_leading_zero`).  All other
names are referred to by the same text in both places, and with a flag in front of it
every name is (`references_agree`).
-/

namespace TraceScript

open Placeholder (shown)

variable {labels : Labels} {name : Text} {a : Nat} {origin : LabelOrigin}

/-! ### Operands -/

namespace Operand

/-- A code and a reference behind it are two operands.  The colon ends the
code, and no character of the name separates anything. -/
theorem tokens_reference (hname : ∀ c ∈ name, isLabelChar c) :
    tokens " \t:".toList ("3: %".toList ++ name) = ["3".toList, '%' :: name] := by
  have htight : Text.Tight ("3: %".toList ++ name) := by
    refine ⟨rfl, ?_⟩
    by_cases hne : name = []
    · rw [hne]
      rfl
    · rw [List.getLast?_append_of_ne_nil _ hne, List.getLast?_eq_some_getLast hne]
      have hlast := isBlank_of_isLabelChar (hname _ (List.getLast_mem hne))
      simp [hlast]
  have hreference : ∀ c ∈ '%' :: name, " \t:".toList.contains c = false := by
    intro c hc
    rcases List.mem_cons.mp hc with rfl | hc
    · decide
    · exact Text.contains_eq_false (by decide) (hname c hc)
  have hcode : Text.words (" \t:".toList.contains ·) (['3'] ++ ':' :: ' ' :: '%' :: name) =
      ['3'] :: Text.words (" \t:".toList.contains ·) (' ' :: '%' :: name) :=
    Text.words_append_sep _ (List.cons_ne_nil _ _) (List.forall_mem_singleton.mpr rfl) rfl
  have hsecond : Text.words (" \t:".toList.contains ·) (' ' :: '%' :: name) = ['%' :: name] := by
    rw [Text.words, if_pos (by decide)]
    exact Text.words_of_not_sep (List.cons_ne_nil _ _) hreference
  calc tokens " \t:".toList ("3: %".toList ++ name)
      = Text.words (" \t:".toList.contains ·) ("3: %".toList ++ name) := by
        rw [tokens, Text.trim_eq_self htight]
    _ = ['3'] :: Text.words (" \t:".toList.contains ·) (' ' :: '%' :: name) := hcode
    _ = ["3".toList, '%' :: name] := by
        rw [hsecond]
        rfl

/-- An operand refers to the label that its name is resolved to. -/
theorem readAddressPair_reference (hname : ∀ c ∈ name, isLabelChar c)
    (hfind : labels.Finds name a origin) :
    readAddressPair (some labels) ("3: %".toList ++ name) = .ok (a, 3) := by
  have hcode : readCompression "3".toList = .ok 3 := rfl
  have haddress : readAddress (some labels) ('%' :: name) = .ok a := by
    simp [readAddress, hfind.resolve]
    rfl
  simp only [readAddressPair, tokens_reference hname, hcode, haddress]
  rfl

end Operand

/-! ### Expected texts -/

namespace Placeholder

/-- Without a flag all of an address is shown in as many digits as it needs. -/
theorem shown_plain (origin : LabelOrigin) (a : Nat) :
    shown none none origin a = "0x".toList ++ Text.hex a := by
  cases origin <;> exact AddressFormat.written_filled false a

/-- With a flag it is filled up to sixteen digits. -/
theorem shown_padded (origin : LabelOrigin) (a : Nat) :
    shown (some .zero) none origin a = "0x".toList ++ Text.padLeft 16 '0' (Text.hex a) := by
  cases origin <;> exact AddressFormat.written_filled true a

end Placeholder

/-- A percent sign, a flag or none, and a name. -/
theorem expand_reference (flag : Option Flag) (hlength : IsName name)
    (hname : ∀ c ∈ name, isLabelChar c) (hflag : flag = none → name.head? ≠ some '0')
    (hfind : labels.Finds name a origin) :
    expand labels ('%' :: (Placeholder.flagText flag ++ name)) =
      .ok (shown flag none origin a) := by
  have hspelled : Placeholder.Spelled ⟨flag, name, none⟩ none origin :=
    ⟨hlength, hname, hflag, nofun, rfl, fun _ => rfl⟩
  have hexpand := Placeholder.expand_spelled hspelled nofun hfind
  rwa [Placeholder.text, Placeholder.body, Placeholder.widthText, List.append_nil] at hexpand

/-- Behind the percent sign a leading zero is a flag, and the label is that of
the rest. -/
theorem expand_leading_zero (hlength : name.length ≤ Cause.maxLabelLength)
    (hname : ∀ c ∈ name, isLabelChar c) :
    expand labels ('%' :: '0' :: name) =
      if name = [] then .error (.ofCause .missingLabelName)
      else (labels.resolve name).map fun (b, _) =>
        "0x".toList ++ Text.padLeft 16 '0' (Text.hex b) := by
  have hnamed : Named (some .zero) name [] := by
    have hlongest := Text.longest_takeWhile isLabelChar (name ++ [])
    rw [Text.takeWhile_append_of_ends hname rfl, Text.dropWhile_append_of_ends hname rfl]
      at hlongest
    exact ⟨nofun, hlongest⟩
  have hcut : Text.cutAt '%' ('%' :: '0' :: name) = some ([], '0' :: (name ++ [])) := by
    rw [List.append_nil]
    exact Text.cutAt_append ('0' :: name) List.not_mem_nil
  rw [expand_of_cutAt_some labels hcut]
  -- the zero is taken as the flag, so the name is what is left, and that may be nothing
  by_cases hempty : name = []
  · subst hempty
    have hread : readPlaceholder labels ('0' :: ([] ++ [])) =
        .error (.ofCause .missingLabelName) :=
      readPlaceholder_of_refuses (.missing hnamed)
    rw [hread, if_pos rfl]
    rfl
  · have hread : readPlaceholder labels ('0' :: (name ++ [])) = _ :=
      readPlaceholder_of_named hnamed ⟨hempty, hlength⟩
    rw [hread, if_neg hempty]
    cases labels.resolve name with
    | error f => rfl
    | ok found =>
        obtain ⟨b, origin⟩ := found
        have hwidth : readWidth origin [] = .ok (none, []) := by cases origin <;> rfl
        have hrest : expand labels [] = .ok [] := expand_of_cutAt_none labels rfl
        have hshown := Placeholder.shown_padded origin b
        rw [shown] at hshown
        simp only [hwidth, hshown, Except.bind, hrest, Except.map, List.nil_append,
          List.append_nil]

/-- **References agree.**  An operand refers to every label by its name behind
a percent sign.  In the expected text the same text shows the label's address
in as many digits as it needs, unless the name starts with a zero, which is
the flag of another placeholder; behind a flag of its own every name is shown
in sixteen digits. -/
theorem references_agree (hlength : IsName name) (hname : ∀ c ∈ name, isLabelChar c)
    (hfind : labels.Finds name a origin) :
    Operand.readAddressPair (some labels) ("3: %".toList ++ name) = .ok (a, 3) ∧
    (name.head? ≠ some '0' →
      expand labels ('%' :: name) = .ok ("0x".toList ++ Text.hex a)) ∧
    expand labels ('%' :: '0' :: name) =
      .ok ("0x".toList ++ Text.padLeft 16 '0' (Text.hex a)) ∧
    ∀ rest, name = '0' :: rest →
      expand labels ('%' :: name) =
        if rest = [] then .error (.ofCause .missingLabelName)
        else (labels.resolve rest).map fun (b, _) =>
          "0x".toList ++ Text.padLeft 16 '0' (Text.hex b) := by
  refine ⟨Operand.readAddressPair_reference hname hfind, ?_, ?_, ?_⟩
  · intro hfirst
    have hexpand := expand_reference none hlength hname (fun _ => hfirst) hfind
    rwa [Placeholder.shown_plain] at hexpand
  · rw [expand_leading_zero hlength.2 hname, if_neg hlength.1, hfind.resolve]
    rfl
  · rintro rest rfl
    have hshorter : rest.length ≤ Cause.maxLabelLength :=
      Nat.le_of_succ_le hlength.2
    exact expand_leading_zero hshorter fun c hc => hname c (List.mem_cons_of_mem '0' hc)

/-- A name may start with a digit, and the first of two tables is asked
first. -/
theorem references_agree_at_digit :
    let labels : Labels := ⟨⟨[("7up".toList, 0x2a)]⟩, ⟨[("7up".toList, 0)]⟩⟩
    Operand.readAddressPair (some labels) "3: %7up".toList = .ok (0x2a, 3) ∧
      expand labels "%7up".toList = .ok "0x2a".toList := by
  intro labels
  have hname : ∀ c ∈ "7up".toList, isLabelChar c := List.all_eq_true.mp (by decide)
  have hfind : labels.Finds "7up".toList 0x2a .assembly := .assembly rfl
  obtain ⟨hoperand, hexpand, -⟩ := references_agree (by decide) hname hfind
  have hdigits : "0x".toList ++ Text.hex 0x2a = "0x2a".toList := by decide +kernel
  exact ⟨hoperand, hdigits ▸ hexpand (by decide)⟩

/-- Behind the percent sign the label `0abc` is not the one that is shown. -/
theorem references_disagree :
    let labels : Labels := ⟨⟨[("0abc".toList, 0x10), ("abc".toList, 0x20)]⟩, .empty⟩
    (IsName "0abc".toList ∧ "0abc".toList.all isLabelChar ∧
        labels.Finds "0abc".toList 0x10 .assembly) ∧
      Operand.readAddressPair (some labels) "3: %0abc".toList = .ok (0x10, 3) ∧
      expand labels "%0abc".toList = .ok "0x0000000000000020".toList ∧
      expand labels "%0abc".toList ≠ .ok ("0x".toList ++ Text.hex 0x10) := by
  intro labels
  refine ⟨⟨by decide, by decide, .assembly rfl⟩, ?_, ?_, ?_⟩ <;> decide +kernel

end TraceScript
