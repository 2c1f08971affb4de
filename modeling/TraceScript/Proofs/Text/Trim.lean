import Mathlib.Data.List.DropRight
import TraceScript.Proofs.Text.Longest

/-!
# Blanks at the ends of a text

A text that neither starts nor ends with a blank is tight (`Text.Tight`).  Trimming takes
the blanks in front of such a text and behind it, and nothing else (`trim_append`); what
it leaves of any text is tight, and the text is that between blanks (`exists_trim_parts`).
-/

namespace TraceScript.Text

variable {t u before after : Text}

/-- Neither the first character of a text is a blank, nor the last. -/
structure Tight (t : Text) : Prop where
  first : t.head?.all (fun c => !isBlank c)
  last : t.getLast?.all (fun c => !isBlank c)

/-- A text without blanks has none at its ends. -/
theorem tight_of_no_blank (h : ∀ c ∈ t, isBlank c = false) : Tight t := by
  constructor
  · rw [← List.append_nil t]
    exact head?_not_append h rfl
  · rw [← List.head?_reverse, ← List.append_nil t.reverse]
    exact head?_not_append (fun c hc => h c (List.mem_reverse.mp hc)) rfl

/-- Blanks in front of a text that starts with none are taken. -/
theorem trimStart_append (hbefore : ∀ c ∈ before, isBlank c)
    (hfirst : t.head?.all (fun c => !isBlank c)) : trimStart (before ++ t) = t :=
  dropWhile_append_of_ends hbefore hfirst

/-- Blanks behind a text that ends with none are taken. -/
theorem trimEnd_append (hafter : ∀ c ∈ after, isBlank c)
    (hlast : t.getLast?.all (fun c => !isBlank c)) : trimEnd (t ++ after) = t := by
  have hreversed : ∀ c ∈ after.reverse, isBlank c := fun c hc => hafter c (List.mem_reverse.mp hc)
  have hfirst : t.reverse.head?.all (fun c => !isBlank c) := by
    rw [List.head?_reverse]
    exact hlast
  calc trimEnd (t ++ after)
      = ((after.reverse ++ t.reverse).dropWhile isBlank).reverse := by
        rw [trimEnd, List.reverse_append]
    _ = t.reverse.reverse := by rw [dropWhile_append_of_ends hreversed hfirst]
    _ = t := List.reverse_reverse t

/-- Nothing is taken from the end of a text that ends with no blank. -/
theorem trimEnd_eq_self (hlast : t.getLast?.all (fun c => !isBlank c)) : trimEnd t = t := by
  have hnone := trimEnd_append (List.forall_mem_nil _) hlast
  rwa [List.append_nil] at hnone

/-- Two texts end as the second does, or as the first where the second is
empty. -/
theorem last_append {p : Char → Bool} {behind : Text} (hbehind : behind.getLast?.all p)
    (ht : behind = [] → t.getLast?.all p) : (t ++ behind).getLast?.all p := by
  by_cases hempty : behind = []
  · rw [hempty, List.append_nil]
    exact ht hempty
  · rwa [List.getLast?_append_of_ne_nil t hempty]

/-- The end of a text ends as the text does. -/
theorem last_of_suffix {p : Char → Bool} {behind : Text} (h : behind <:+ t)
    (hlast : t.getLast?.all p) : behind.getLast?.all p := by
  obtain ⟨front, rfl⟩ := h
  by_cases hempty : behind = []
  · rw [hempty]
    rfl
  · rwa [List.getLast?_append_of_ne_nil front hempty] at hlast

/-- Trimming two texts at the start gets to the second where the first is all
blanks. -/
theorem trimStart_append_eq (before t : Text) :
    trimStart (before ++ t) =
      if trimStart before = [] then trimStart t else trimStart before ++ t := by
  simp [trimStart, List.dropWhile_append]

/-- Trimming two texts at the end gets to the first where the second is all
blanks. -/
theorem trimEnd_append_eq (t after : Text) :
    trimEnd (t ++ after) = if trimEnd after = [] then trimEnd t else t ++ trimEnd after := by
  simp only [trimEnd, List.reverse_append, List.dropWhile_append, List.reverse_eq_nil_iff,
    List.isEmpty_iff]
  split <;> simp

/-- A text from different places on is not trimmed to the same.  The blanks at
the end are the same, so what is left differs in length. -/
theorem eq_of_trimEnd_drop {i j : Nat} (h : trimEnd (t.drop i) = trimEnd (t.drop j))
    (hne : trimEnd (t.drop i) ≠ []) : i = j := by
  -- from an earlier place on, more is left
  have hearlier {k l : Nat} (hkl : k ≤ l) (hsame : trimEnd (t.drop k) = trimEnd (t.drop l))
      (hleft : trimEnd (t.drop l) ≠ []) : k = l := by
    have hinside : l < t.length := by
      by_contra hbeyond
      rw [List.drop_of_length_le (Nat.le_of_not_lt hbeyond)] at hleft
      exact hleft rfl
    have hparts : t.drop k = (t.drop k).take (l - k) ++ t.drop l := by
      have hdrop : t.drop l = (t.drop k).drop (l - k) := by
        rw [List.drop_drop, Nat.add_sub_cancel' hkl]
      rw [hdrop, List.take_append_drop]
    have hlength := congrArg List.length hsame
    rw [hparts, trimEnd_append_eq, if_neg hleft, List.length_append, List.length_take,
      List.length_drop] at hlength
    omega
  rcases Nat.le_total i j with hij | hji
  · exact hearlier hij h (h ▸ hne)
  · exact (hearlier hji h.symm hne).symm

/-- A text is left when blanks are put around it and taken again, if it has
none at its own ends. -/
theorem trim_append (hbefore : ∀ c ∈ before, isBlank c) (hafter : ∀ c ∈ after, isBlank c)
    (ht : Tight t) (hne : t ≠ []) : trim (before ++ (t ++ after)) = t := by
  have hfirst : (t ++ after).head?.all (fun c => !isBlank c) := by
    rw [List.head?_append_of_ne_nil t hne]
    exact ht.first
  calc trim (before ++ (t ++ after))
      = trimEnd (t ++ after) := by rw [trim, trimStart_append hbefore hfirst]
    _ = t := trimEnd_append hafter ht.last

/-- A text with no blanks at its ends is trimmed to itself. -/
theorem trim_eq_self (ht : Tight t) : trim t = t := by
  have hstart : trimStart ([] ++ t) = t := trimStart_append nofun ht.first
  rw [List.nil_append] at hstart
  rw [trim, hstart, trimEnd_eq_self ht.last]

/-- A text is what trimming at the end leaves of it, in front of blanks. -/
theorem exists_trimEnd_parts (t : Text) :
    ∃ after, t = trimEnd t ++ after ∧ (∀ c ∈ after, isBlank c) ∧
      (trimEnd t).getLast?.all (fun c => !isBlank c) := by
  refine ⟨(t.reverse.takeWhile isBlank).reverse, ?_, ?_, ?_⟩
  · rw [trimEnd, ← List.reverse_append, List.takeWhile_append_dropWhile, List.reverse_reverse]
  · intro c hc
    exact List.mem_takeWhile_imp (List.mem_reverse.mp hc)
  · rw [trimEnd, List.getLast?_reverse]
    exact all_head?_dropWhile isBlank t.reverse

/-- Behind a character that is no blank only the text behind it is trimmed.
In front of it all is kept, blanks included. -/
theorem trimEnd_append_cons (t : Text) {c : Char} (hc : isBlank c = false) (behind : Text) :
    trimEnd (t ++ c :: behind) = t ++ c :: trimEnd behind := by
  obtain ⟨after, hparts, hafter, hlast⟩ := exists_trimEnd_parts behind
  have hlast : (t ++ c :: trimEnd behind).getLast?.all (fun d => !isBlank d) := by
    rw [List.getLast?_append_of_ne_nil t (List.cons_ne_nil c _), List.getLast?_cons]
    cases hend : (trimEnd behind).getLast? with
    | none => simpa using hc
    | some d =>
        rw [hend] at hlast
        exact hlast
  have htext : t ++ c :: behind = (t ++ c :: trimEnd behind) ++ after := by
    rw [List.append_assoc, List.cons_append, ← hparts]
  calc trimEnd (t ++ c :: behind)
      = trimEnd ((t ++ c :: trimEnd behind) ++ after) := by rw [← htext]
    _ = t ++ c :: trimEnd behind := trimEnd_append hafter hlast

/-- A text is what trimming leaves of it, between blanks. -/
theorem exists_trim_parts (t : Text) :
    ∃ before after, t = before ++ (trim t ++ after) ∧ (∀ c ∈ before, isBlank c) ∧
      (∀ c ∈ after, isBlank c) ∧ Tight (trim t) := by
  obtain ⟨after, hend, hafter, hlast⟩ := exists_trimEnd_parts (trimStart t)
  refine ⟨t.takeWhile isBlank, after, ?_, fun c hc => List.mem_takeWhile_imp hc, hafter, ?_, hlast⟩
  · rw [trim, ← hend]
    exact List.takeWhile_append_dropWhile.symm
  · have hfirst : (trimStart t).head?.all (fun c => !isBlank c) := all_head?_dropWhile isBlank t
    by_cases hempty : trim t = []
    · rw [hempty]
      rfl
    · rw [hend] at hfirst
      rwa [← trim, List.head?_append_of_ne_nil _ hempty] at hfirst

/-- Nothing is left of a text just if it is all blanks. -/
theorem trim_eq_nil_iff : trim t = [] ↔ ∀ c ∈ t, isBlank c := by
  obtain ⟨before, after, hparts, hbefore, hafter, htight⟩ := exists_trim_parts t
  constructor
  · intro hempty c hc
    rw [hparts, hempty, List.nil_append] at hc
    rcases List.mem_append.mp hc with hc | hc
    · exact hbefore c hc
    · exact hafter c hc
  · intro hblank
    have hstart : trimStart (t ++ []) = [] := trimStart_append hblank rfl
    rw [List.append_nil] at hstart
    rw [trim, hstart]
    rfl

/-- Nothing is left at the end just if the text is all blanks. -/
theorem trimEnd_eq_nil_iff : trimEnd t = [] ↔ ∀ c ∈ t, isBlank c := by
  simp [trimEnd]

/-- Blanks that are taken from the start beforehand make no difference. -/
theorem trim_trimStart (t : Text) : trim (trimStart t) = trim t :=
  congrArg trimEnd (List.dropWhile_idempotent isBlank t)

/-- It does not matter which end is trimmed first.  Blanks at the end are
taken in any case. -/
theorem trim_trimEnd (t : Text) : trim (trimEnd t) = trim t := by
  obtain ⟨before, after, hparts, hbefore, hafter, htight⟩ := exists_trim_parts t
  by_cases hempty : trim t = []
  · have hnone : trimEnd t = [] := trimEnd_eq_nil_iff.mpr (trim_eq_nil_iff.mp hempty)
    rw [hnone, hempty]
    rfl
  · have hlast : (before ++ trim t).getLast?.all (fun c => !isBlank c) := by
      rw [List.getLast?_append_of_ne_nil before hempty]
      exact htight.last
    have hend := trimEnd_append hafter hlast
    rw [List.append_assoc, ← hparts] at hend
    have htrim : trim (before ++ (trim t ++ [])) = trim t := trim_append hbefore nofun htight hempty
    rw [List.append_nil] at htrim
    rw [hend, htrim]

end TraceScript.Text
