import Mathlib.Data.List.Infix
import TraceScript.Text.Line

/-!
# Parts of a text

What is cut out of a text stands in it: lines and words, a text without its
blanks, a run of characters and what follows it, what stands on either side of a
character.  A part is a contiguous run of characters (`<:+:`), and a part of a
part is one of the whole.

Lines and words are grown character by character from the right, so each is
proved a part together with what that needs of the first: it is where the text
starts (`lines_parts`, `words_parts`).  A word is as long as no separator is in it
(`words_of_not_sep`, `words_append_sep`).
-/

namespace TraceScript.Text

variable {c : Char} {t before after run rest : Text}

/-! ### Ends -/

/-- Trimming at the start leaves an end of the text. -/
theorem trimStart_isSuffix (t : Text) : trimStart t <:+ t :=
  List.dropWhile_suffix isBlank

/-- Trimming at the end leaves a start of the text. -/
theorem trimEnd_isPrefix (t : Text) : trimEnd t <+: t := by
  have hsuffix := List.dropWhile_suffix (l := t.reverse) isBlank
  rw [trimEnd, ← List.reverse_suffix, List.reverse_reverse]
  exact hsuffix

/-- What trimming leaves stands in the text. -/
theorem trim_isInfix (t : Text) : trim t <:+: t :=
  (trimEnd_isPrefix _).isInfix.trans (trimStart_isSuffix t).isInfix

/-- A text is cut at its first occurrence of a character and made of what
stands before it and behind it. -/
theorem eq_append_of_cutAt (h : cutAt c t = some (before, after)) : t = before ++ c :: after := by
  induction t generalizing before with
  | nil => cases h
  | cons d rest ih =>
      rw [cutAt] at h
      split at h
      · rename_i hd
        cases h
        rw [hd, List.nil_append]
      · obtain ⟨⟨b, a⟩, hb, hpair⟩ := Option.map_eq_some_iff.mp h
        cases hpair
        rw [ih hb, List.cons_append]

/-- What stands behind a cut is an end of the text. -/
theorem suffix_of_cutAt (h : cutAt c t = some (before, after)) : after <:+ t := by
  rw [eq_append_of_cutAt h]
  exact (List.suffix_cons c after).trans (List.suffix_append before (c :: after))

/-- A text is cut at the first of the characters: there is none in front of
the cut. -/
theorem not_mem_of_cutAt (h : cutAt c t = some (before, after)) : c ∉ before := by
  induction t generalizing before with
  | nil => cases h
  | cons d rest ih =>
      rw [cutAt] at h
      split at h
      · cases h
        simp
      · rename_i hd
        obtain ⟨⟨b, a⟩, hb, hpair⟩ := Option.map_eq_some_iff.mp h
        cases hpair
        exact List.not_mem_cons_of_ne_of_not_mem (Ne.symm hd) (ih hb)

/-- A text is cut where a character stands that does not stand in front of
it. -/
theorem cutAt_append (after : Text) (h : c ∉ before) :
    cutAt c (before ++ c :: after) = some (before, after) := by
  induction before with
  | nil => simp [cutAt]
  | cons d rest ih =>
      have hd : d ≠ c := Ne.symm (List.ne_of_not_mem_cons h)
      rw [List.cons_append, cutAt, if_neg hd, ih (List.not_mem_of_not_mem_cons h)]
      rfl

/-- A text that does not hold a character is not cut at it. -/
theorem cutAt_eq_none_iff : cutAt c t = none ↔ c ∉ t := by
  induction t with
  | nil => simp [cutAt]
  | cons d rest ih =>
      by_cases hd : d = c
      · simp [cutAt, hd]
      · have hd' : c ≠ d := Ne.symm hd
        simp [cutAt, hd, hd', ih]

/-- A character that is in a text is there for the last time. -/
theorem exists_last (h : c ∈ t) : ∃ before after, t = before ++ c :: after ∧ c ∉ after := by
  obtain ⟨after, before, hparts, hafter⟩ := List.eq_append_cons_of_mem (List.mem_reverse.mpr h)
  refine ⟨before.reverse, after.reverse, ?_, mt List.mem_reverse.mp hafter⟩
  rw [← List.reverse_reverse t, hparts]
  simp

/-- A text starts with the run that is taken from it, and ends with the rest. -/
theorem eq_append_of_run? {p : Char → Bool} (h : run? p t = some (run, rest)) :
    t = run ++ rest := by
  unfold run? at h
  split at h
  · cases h
  · cases h
    exact List.takeWhile_append_dropWhile.symm

/-! ### Lines and words -/

/-- The first of some texts is where a text starts. -/
def StartsWithFirst (ws : List Text) (t : Text) : Prop :=
  ∀ w ∈ ws.head?, w <+: t

/-- One more character in front of a text and of the first of its parts.  If
there was none, the character is a part of its own. -/
theorem parts_growFirst {ws : List Text} (c : Char) (hparts : ∀ w ∈ ws, w <:+: t)
    (hfirst : StartsWithFirst ws t) :
    (∀ w ∈ growFirst c ws, w <:+: c :: t) ∧ StartsWithFirst (growFirst c ws) (c :: t) := by
  cases ws with
  | nil =>
      have hstarts : [c] <+: c :: t := List.prefix_append [c] t
      simpa [growFirst, StartsWithFirst] using hstarts.isInfix
  | cons first others =>
      have hgrown : c :: first <+: c :: t := List.cons_prefix_cons.mpr ⟨rfl, hfirst first rfl⟩
      refine ⟨?_, fun w hw => ?_⟩
      · intro w hw
        rcases List.mem_cons.mp hw with rfl | hw
        · exact hgrown.isInfix
        · exact List.infix_cons (hparts w (List.mem_cons_of_mem first hw))
      · cases hw
        exact hgrown

/-- Each line stands in the text, and the first is where the text starts. The
second half is what carries the induction: a character in front is added to
the first line. -/
theorem lines_parts (t : Text) : (∀ l ∈ lines t, l <:+: t) ∧ StartsWithFirst (lines t) t := by
  -- an empty line is a part of anything and starts anything
  have hempty {ls : List Text} {s : Text} (hparts : ∀ l ∈ ls, l <:+: s) :
      (∀ l ∈ [] :: ls, l <:+: s) ∧ StartsWithFirst ([] :: ls) s := by
    refine ⟨fun l hl => ?_, fun l hl => ?_⟩
    · rcases List.mem_cons.mp hl with rfl | hl
      · exact List.nil_infix
      · exact hparts l hl
    · cases hl
      exact List.nil_prefix
  fun_induction lines t with
  | case1 => simp [StartsWithFirst]
  | case2 rest ih =>
      exact hempty fun l hl => List.infix_cons (List.infix_cons (ih.1 l hl))
  | case3 c rest _ _ ih => exact hempty fun l hl => List.infix_cons (ih.1 l hl)
  | case4 c rest _ _ ih => exact parts_growFirst c ih.1 ih.2

/-- A line stands in the text. -/
theorem infix_of_mem_lines {l : Text} (h : l ∈ lines t) : l <:+: t :=
  (lines_parts t).1 l h

/-- Each word stands in the text, and the first is where the text starts if no
separator is there. The second half carries the induction, as it does for the
lines. -/
theorem words_parts (isSep : Char → Bool) (t : Text) :
    (∀ w ∈ words isSep t, w <:+: t) ∧
      (t.head?.all isSep = false → StartsWithFirst (words isSep t) t) := by
  induction t with
  | nil => exact ⟨nofun, nofun⟩
  | cons c rest ih =>
      rw [words]
      split
      · rename_i hc
        exact ⟨fun w hw => List.infix_cons (ih.1 w hw), by simp [hc]⟩
      split
      · have halone : [c] <+: c :: rest := List.prefix_append [c] rest
        refine ⟨fun w hw => ?_, fun _ w hw => ?_⟩
        · rcases List.mem_cons.mp hw with rfl | hw
          · exact halone.isInfix
          · exact List.infix_cons (ih.1 w hw)
        · cases hw
          exact halone
      · rename_i hrest
        obtain ⟨hparts, hfirst⟩ := parts_growFirst c ih.1 (ih.2 (by simpa using hrest))
        exact ⟨hparts, fun _ => hfirst⟩

/-- A word stands in the text. -/
theorem infix_of_mem_words {isSep : Char → Bool} {w : Text} (h : w ∈ words isSep t) : w <:+: t :=
  (words_parts isSep t).1 w h

/-- No separator is in a class that none of them is in. -/
theorem contains_eq_false {separators : Text} {p : Char → Bool}
    (hsep : separators.any p = false) (hc : p c) : separators.contains c = false := by
  have hmem : c ∉ separators := fun hmem => List.any_eq_false.mp hsep c hmem hc
  simpa using hmem

/-- A text without separators is one word. -/
theorem words_of_not_sep {isSep : Char → Bool} (hne : t ≠ [])
    (h : ∀ c ∈ t, isSep c = false) : words isSep t = [t] := by
  induction t with
  | nil => exact absurd rfl hne
  | cons c rest ih =>
      have hc : isSep c = false := h c List.mem_cons_self
      have hrest : ∀ d ∈ rest, isSep d = false := fun d hd => h d (List.mem_cons_of_mem c hd)
      cases rest with
      | nil => simp [words, hc]
      | cons d more =>
          have hd : isSep d = false := hrest d List.mem_cons_self
          rw [words, ih (by simp) hrest]
          simp [hc, hd, growFirst]

/-- A word that a separator ends is the first.  The rest of the words is that
of what stands behind the separator. -/
theorem words_append_sep {isSep : Char → Bool} {w : Text} {s : Char} (rest : Text) (hne : w ≠ [])
    (hw : ∀ c ∈ w, isSep c = false) (hs : isSep s = true) :
    words isSep (w ++ s :: rest) = w :: words isSep rest := by
  induction w with
  | nil => exact absurd rfl hne
  | cons c more ih =>
      have hc : isSep c = false := hw c List.mem_cons_self
      cases more with
      | nil => simp [words, hc, hs]
      | cons d others =>
          have hd : isSep d = false := hw d (by simp)
          have hrest := ih (by simp) fun x hx => hw x (List.mem_cons_of_mem c hx)
          rw [List.cons_append, words, hrest]
          simp [hc, hd, growFirst]

/-- Separators in front of a text are no part of its words. -/
theorem words_of_sep_append {isSep : Char → Bool} {gap : Text} (t : Text)
    (hgap : ∀ c ∈ gap, isSep c) : words isSep (gap ++ t) = words isSep t := by
  induction gap with
  | nil => rfl
  | cons c rest ih =>
      rw [List.cons_append, words, if_pos (hgap c List.mem_cons_self)]
      exact ih fun d hd => hgap d (List.mem_cons_of_mem c hd)

/-- A character that is no separator is in a word.  So there is a word at
all. -/
theorem words_ne_nil {isSep : Char → Bool} (hc : c ∈ t) (hsep : isSep c = false) :
    words isSep t ≠ [] := by
  induction t with
  | nil => cases hc
  | cons d rest ih =>
      rw [words]
      split
      · rename_i hd
        rcases List.mem_cons.mp hc with rfl | hc
        · rw [hsep] at hd
          cases hd
        · exact ih hc
      split
      · exact List.cons_ne_nil _ _
      · cases words isSep rest <;> exact List.cons_ne_nil _ _

end TraceScript.Text
