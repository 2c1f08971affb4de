import Mathlib.Data.List.TakeWhile
import TraceScript.Proofs.Text.Part

/-!
# The longest part at the start of a text

A reader that takes as much as it can of a class of texts takes the longest text of
that class with which the rest of the line starts (`Text.Longest`).  What it takes,
and what it leaves, are then determined (`Longest.unique`), and they are so for
whoever says of the class what the reader takes: a row of characters
(`longest_takeWhile`), what follows a fixed character (`Longest.cons`), or one of two
classes (`Longest.or`).
-/

namespace TraceScript.Text

variable {P Q : Text → Prop} {t found rest found' rest' : Text} {c : Char} {p : Char → Bool}

/-- A text starts with one of a class and with no longer one, and something
follows. -/
structure Longest (P : Text → Prop) (t found rest : Text) : Prop where
  parts : t = found ++ rest
  holds : P found
  maximal : ∀ other, other <+: t → P other → other.length ≤ found.length

/-- No text of a class is where another starts. -/
def StartsWithNo (P : Text → Prop) (t : Text) : Prop :=
  ∀ other, other <+: t → ¬ P other

/-- There is one longest text, with one rest. -/
theorem Longest.unique (h : Longest P t found rest) (h' : Longest P t found' rest') :
    found = found' ∧ rest = rest' := by
  have hfound : found <+: t := h.parts ▸ List.prefix_append found rest
  have hfound' : found' <+: t := h'.parts ▸ List.prefix_append found' rest'
  have hlength : found.length = found'.length :=
    Nat.le_antisymm (h'.maximal found hfound h.holds) (h.maximal found' hfound' h'.holds)
  obtain rfl : found = found' :=
    (List.prefix_of_prefix_length_le hfound hfound' hlength.le).eq_of_length hlength
  refine ⟨rfl, ?_⟩
  exact List.append_cancel_left (h.parts.symm.trans h'.parts)

/-- What has a longest text at its start has one. -/
theorem Longest.not_startsWithNo (h : Longest P t found rest) : ¬ StartsWithNo P t := by
  intro hno
  exact hno found (h.parts ▸ List.prefix_append found rest) h.holds

/-- The same class, said in another way. -/
theorem Longest.congr (hclass : ∀ w, Q w ↔ P w) (h : Longest P t found rest) :
    Longest Q t found rest where
  parts := h.parts
  holds := (hclass found).mpr h.holds
  maximal other hother hQ := h.maximal other hother ((hclass other).mp hQ)

/-- Of two classes, the one with the longer text. -/
theorem Longest.or (h : Longest P t found rest)
    (hother : ∀ other, other <+: t → Q other → other.length ≤ found.length) :
    Longest (fun w => P w ∨ Q w) t found rest where
  parts := h.parts
  holds := .inl h.holds
  maximal other hstarts hclass := by
    rcases hclass with hP | hQ
    · exact h.maximal other hstarts hP
    · exact hother other hstarts hQ

/-- Behind a fixed character. -/
theorem Longest.cons (h : Longest P t found rest) :
    Longest (fun w => ∃ v, w = c :: v ∧ P v) (c :: t) (c :: found) rest where
  parts := by rw [h.parts, List.cons_append]
  holds := ⟨found, rfl, h.holds⟩
  maximal := by
    rintro other hstarts ⟨v, rfl, hv⟩
    have hle := h.maximal v (List.cons_prefix_cons.mp hstarts).2 hv
    simpa using hle

/-! ### Rows -/

/-- A row ends where the text behind it does not go on with it. -/
theorem takeWhile_append_of_ends (hrow : ∀ c ∈ found, p c)
    (hends : rest.head?.all (fun c => !p c)) : (found ++ rest).takeWhile p = found := by
  rw [List.takeWhile_append_of_pos hrow]
  cases rest with
  | nil => simp
  | cons c more =>
      have hc : p c = false := by simpa using hends
      simp [hc]

/-- Dropping the row leaves the text behind it. -/
theorem dropWhile_append_of_ends (hrow : ∀ c ∈ found, p c)
    (hends : rest.head?.all (fun c => !p c)) : (found ++ rest).dropWhile p = rest := by
  rw [List.dropWhile_append_of_pos hrow]
  cases rest with
  | nil => rfl
  | cons c more =>
      have hc : p c = false := by simpa using hends
      simp [hc]

/-- Nothing is dropped where the class does not start. -/
theorem dropWhile_of_head (hends : t.head?.all (fun c => !p c)) : t.dropWhile p = t := by
  have hdrop : ([] ++ t).dropWhile p = t := dropWhile_append_of_ends nofun hends
  exact hdrop

/-- A text that a row stands in front of starts as the row does. -/
theorem head?_all_append (hne : found ≠ []) (hrow : ∀ c ∈ found, p c) (rest : Text) :
    (found ++ rest).head?.all p := by
  obtain ⟨c, more, rfl⟩ := List.exists_cons_of_ne_nil hne
  exact hrow c List.mem_cons_self

/-- No row of a class starts where one of other characters does. -/
theorem head?_not_append_of_ne (hne : found ≠ []) (hrow : ∀ c ∈ found, p c = false)
    (rest : Text) : (found ++ rest).head?.all (fun c => !p c) := by
  apply head?_all_append hne
  intro c hc
  rw [hrow c hc]
  rfl

/-- Nor does one start where a row of other characters, or none, stands in
front of a text that does not start with one. -/
theorem head?_not_append (hrow : ∀ c ∈ found, p c = false)
    (hrest : rest.head?.all (fun c => !p c)) : (found ++ rest).head?.all (fun c => !p c) := by
  by_cases hne : found = []
  · rw [hne]
    exact hrest
  · exact head?_not_append_of_ne hne hrow rest

theorem head?_not_mono {q : Char → Bool} (hclass : ∀ c, p c = false → q c = false)
    (h : t.head?.all (fun c => !p c)) : t.head?.all (fun c => !q c) := by
  simp only [Option.all_eq_true, Bool.not_eq_true'] at h ⊢
  intro c hc
  exact hclass c (h c hc)

/-- The run at the start of a text is its longest row. -/
theorem longest_takeWhile (p : Char → Bool) (t : Text) :
    Longest (fun w => ∀ c ∈ w, p c) t (t.takeWhile p) (t.dropWhile p) where
  parts := List.takeWhile_append_dropWhile.symm
  holds _ hc := List.mem_takeWhile_imp hc
  maximal := by
    rintro other ⟨more, rfl⟩ hrow
    rw [List.takeWhile_append_of_pos hrow, List.length_append]
    omega

/-- What is left behind a row of a class starts with no character of it, if
with any. -/
theorem all_head?_dropWhile (p : Char → Bool) (t : Text) :
    (t.dropWhile p).head?.all (fun c => !p c) := by
  have hfirst := List.head?_dropWhile_not p t
  cases hleft : (t.dropWhile p).head? with
  | none => rfl
  | some c =>
      rw [hleft] at hfirst
      simpa using hfirst

/-- Every text is its longest row and what does not go on with it. -/
theorem exists_row (p : Char → Bool) (t : Text) :
    ∃ row rest, t = row ++ rest ∧ Longest (fun w => ∀ c ∈ w, p c) (row ++ rest) row rest ∧
      rest.head?.all (fun c => !p c) := by
  have hlongest := longest_takeWhile p t
  refine ⟨t.takeWhile p, t.dropWhile p, hlongest.parts, ?_, all_head?_dropWhile p t⟩
  rwa [← hlongest.parts]

/-- A row that is not empty. -/
def IsRow (p : Char → Bool) (w : Text) : Prop :=
  w ≠ [] ∧ ∀ c ∈ w, p c

/-- A run that is found is the longest row at the start of the text. -/
theorem run?_eq_some (h : run? p t = some (found, rest)) : Longest (IsRow p) t found rest := by
  unfold run? at h
  split at h
  · cases h
  · rename_i hne
    cases h
    have hrun := longest_takeWhile p t
    refine ⟨hrun.parts, ⟨by simpa using hne, hrun.holds⟩, ?_⟩
    intro other hstarts hrow
    exact hrun.maximal other hstarts hrow.2

/-- Where no run is found, no row starts the text. -/
theorem run?_eq_none (h : run? p t = none) : StartsWithNo (IsRow p) t := by
  unfold run? at h
  split at h
  · rename_i hempty
    intro other hstarts hrow
    have hle := (longest_takeWhile p t).maximal other hstarts hrow.2
    rw [List.isEmpty_iff.mp hempty] at hle
    exact hrow.1 (List.length_eq_zero_iff.mp (Nat.le_zero.mp hle))
  · cases h

end TraceScript.Text
