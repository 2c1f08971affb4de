import Mathlib.Data.List.Dedup
import Mathlib.Data.List.Forall2
import TraceScript.Expectation.Pass

/-!
# Sections of a script

The checkpoints of a script cut it into sections: a section is a checkpoint
with the lines between it and the next one, or the end.  Lines in front of the
first checkpoint belong to no section.  `Section.annotations` are the expected
texts among its lines, and `Section.Spells` says what octets they stand for
under given labels.

Main facts: one more line opens a section if it is a checkpoint
(`sectionsOf_concat_checkpoint`), and is added to the last section, if there is
one, otherwise (`sectionsOf_concat`, `sectionsOf_concat_nil`).
-/

namespace TraceScript

/-- The file that a line opens, if the line is a checkpoint. -/
def Script.checkpoint? (script : Script) (line : ScriptLine) : Option Path :=
  match line.directive with
  | none => none
  | some text =>
      match Directive.split text (some line.location) (some line.text) with
      | .error _ => none
      | .ok d => if d.isTerminator then some (script.expectationPath d.payload) else none

/-- The files that a row of lines opens, in order. -/
def Script.checkpoints (script : Script) (lines : List ScriptLine) : List Path :=
  lines.filterMap script.checkpoint?

/-- Checkpoints open files of expected output. -/
theorem Script.expectationPath_of_mem {script : Script} {lines : List ScriptLine} {p : Path}
    (h : p ∈ script.checkpoints lines) : ∃ extra, p = script.expectationPath extra := by
  obtain ⟨line, -, hline⟩ := List.mem_filterMap.mp h
  unfold checkpoint? at hline
  split at hline
  · cases hline
  · split at hline
    · cases hline
    · rename_i d _
      split at hline
      · exact ⟨d.payload, (Option.some.inj hline).symm⟩
      · cases hline

/-- Only lines with directives are checkpoints.  So it does not matter to them
whether the other lines are there. -/
theorem Script.checkpoints_directives (script : Script) (lines : List ScriptLine) :
    script.checkpoints (lines.filter (·.isDirective)) = script.checkpoints lines := by
  induction lines with
  | nil => rfl
  | cons line rest ih =>
      cases hdirective : line.directive with
      | none =>
          have hline : script.checkpoint? line = none := by simp [checkpoint?, hdirective]
          rw [List.filter_cons_of_neg (by simp [ScriptLine.isDirective, hdirective]), ih,
            checkpoints, checkpoints, List.filterMap_cons_none hline]
      | some text =>
          rw [List.filter_cons_of_pos (by simp [ScriptLine.isDirective, hdirective]),
            checkpoints, checkpoints, List.filterMap_cons, List.filterMap_cons]
          have hrest : (rest.filter (·.isDirective)).filterMap script.checkpoint? =
              rest.filterMap script.checkpoint? := ih
          rw [hrest]

/-- The expected text on a line, which carries no directive. -/
def ScriptLine.expected? (line : ScriptLine) : Option Text :=
  match line.directive with
  | some _ => none
  | none => annotation? line.text

/-- A checkpoint with the lines up to the next one. -/
structure Section where
  path : Path
  lines : List ScriptLine

namespace Section

/-- The expected texts of a section. -/
def annotations (s : Section) : List Text :=
  s.lines.filterMap ScriptLine.expected?

/-- A section with one more line. -/
def add (s : Section) (line : ScriptLine) : Section :=
  { s with lines := s.lines ++ [line] }

/-- What a section stands for: its expected texts, each expanded and followed
by a line feed. -/
def Spells (labels : Labels) (s : Section) (octets : Octets) : Prop :=
  ∃ shown, List.Forall₂ (fun t u => expand labels t = .ok u) s.annotations shown ∧
    octets = shown.flatMap fun u => Text.Utf8.encode (u ++ ['\n'])

/-- The path of a section is that of its checkpoint, whatever lines it gets. -/
@[simp] theorem path_add (s : Section) (line : ScriptLine) : (s.add line).path = s.path := rfl

theorem spells_nil (labels : Labels) (path : Path) : Spells labels ⟨path, []⟩ [] :=
  ⟨[], .nil, rfl⟩

/-- A line without an expected text adds nothing. -/
theorem Spells.add_none {labels : Labels} {s : Section} {octets : Octets} {line : ScriptLine}
    (hs : s.Spells labels octets) (hline : line.expected? = none) :
    (s.add line).Spells labels octets := by
  have hsame : (s.add line).annotations = s.annotations := by
    simp [annotations, add, hline]
  obtain ⟨shown, hshown, hoctets⟩ := hs
  exact ⟨shown, by rwa [hsame], hoctets⟩

/-- A line with an expected text adds what it expands to. -/
theorem Spells.add_some {labels : Labels} {s : Section} {octets : Octets} {line : ScriptLine}
    {t u : Text} (hs : s.Spells labels octets) (hline : line.expected? = some t)
    (hu : expand labels t = .ok u) :
    (s.add line).Spells labels (octets ++ Text.Utf8.encode (u ++ ['\n'])) := by
  have hmore : (s.add line).annotations = s.annotations ++ [t] := by
    simp [annotations, add, hline]
  obtain ⟨shown, hshown, rfl⟩ := hs
  refine ⟨shown ++ [u], ?_, by simp⟩
  rw [hmore]
  exact List.rel_append hshown (.cons hu .nil)

end Section

namespace Script

variable (script : Script)

/-- The lines in front of the first checkpoint. -/
def upToCheckpoint (lines : List ScriptLine) : List ScriptLine :=
  lines.takeWhile fun l => (script.checkpoint? l).isNone

/-- The sections of a row of lines. -/
def sectionsOf : List ScriptLine → List Section
  | [] => []
  | line :: rest =>
      match script.checkpoint? line with
      | some path => ⟨path, script.upToCheckpoint rest⟩ :: sectionsOf rest
      | none => sectionsOf rest

/-- The sections are those of the checkpoints, in order. -/
theorem map_path_sectionsOf (lines : List ScriptLine) :
    (script.sectionsOf lines).map (·.path) = script.checkpoints lines := by
  induction lines with
  | nil => rfl
  | cons line rest ih =>
      rw [sectionsOf, checkpoints, List.filterMap_cons]
      cases script.checkpoint? line with
      | none => exact ih
      | some path => exact congrArg (path :: ·) ih

variable {script}

/-- Without sections there is no checkpoint, and all the lines stand in front
of the first. -/
theorem upToCheckpoint_of_sectionsOf_nil {lines : List ScriptLine}
    (h : script.sectionsOf lines = []) : script.upToCheckpoint lines = lines := by
  induction lines with
  | nil => rfl
  | cons line rest ih =>
      rw [sectionsOf] at h
      cases hline : script.checkpoint? line with
      | some path => simp [hline] at h
      | none =>
          rw [hline] at h
          rw [upToCheckpoint, List.takeWhile_cons_of_pos (by simp [hline])]
          exact congrArg (line :: ·) (ih h)

/-- Lines behind a checkpoint do not matter to what stands in front of it. -/
theorem upToCheckpoint_append {lines : List ScriptLine} (more : List ScriptLine)
    (h : script.sectionsOf lines ≠ []) :
    script.upToCheckpoint (lines ++ more) = script.upToCheckpoint lines := by
  induction lines with
  | nil => exact absurd rfl h
  | cons line rest ih =>
      rw [sectionsOf] at h
      cases hline : script.checkpoint? line with
      | some path => simp [upToCheckpoint, hline]
      | none =>
          rw [hline] at h
          simpa [upToCheckpoint, hline] using ih h

/-- A checkpoint at the end does not matter to what stands in front of the
first one. -/
theorem upToCheckpoint_concat_checkpoint (lines : List ScriptLine) {line : ScriptLine}
    {path : Path} (hline : script.checkpoint? line = some path) :
    script.upToCheckpoint (lines ++ [line]) = script.upToCheckpoint lines := by
  induction lines with
  | nil => simp [upToCheckpoint, hline]
  | cons first rest ih =>
      cases hfirst : script.checkpoint? first with
      | some other => simp [upToCheckpoint, hfirst]
      | none => simpa [upToCheckpoint, hfirst] using ih

/-- A checkpoint opens a section. -/
theorem sectionsOf_concat_checkpoint (lines : List ScriptLine) {line : ScriptLine} {path : Path}
    (hline : script.checkpoint? line = some path) :
    script.sectionsOf (lines ++ [line]) = script.sectionsOf lines ++ [⟨path, []⟩] := by
  induction lines with
  | nil => simp [sectionsOf, hline, upToCheckpoint]
  | cons first rest ih =>
      rw [List.cons_append, sectionsOf, sectionsOf]
      cases script.checkpoint? first with
      | none => exact ih
      | some other => simp only [ih, upToCheckpoint_concat_checkpoint rest hline, List.cons_append]

/-- In front of the first checkpoint a line that is none belongs nowhere. -/
theorem sectionsOf_concat_nil {lines : List ScriptLine} {line : ScriptLine}
    (hline : script.checkpoint? line = none) (h : script.sectionsOf lines = []) :
    script.sectionsOf (lines ++ [line]) = [] := by
  induction lines with
  | nil => simp [sectionsOf, hline]
  | cons first rest ih =>
      rw [sectionsOf] at h
      rw [List.cons_append, sectionsOf]
      cases hfirst : script.checkpoint? first with
      | some other => simp [hfirst] at h
      | none =>
          rw [hfirst] at h
          exact ih h

/-- A line that is no checkpoint is added to the last section.  By induction
on the lines in front, where the last section may already begin with the first
checkpoint or come behind it. -/
theorem sectionsOf_concat {lines : List ScriptLine} {line : ScriptLine} {done : List Section}
    {last : Section} (hline : script.checkpoint? line = none)
    (h : script.sectionsOf lines = done ++ [last]) :
    script.sectionsOf (lines ++ [line]) = done ++ [last.add line] := by
  induction lines generalizing done with
  | nil => simp [sectionsOf] at h
  | cons first rest ih =>
      rw [sectionsOf] at h
      rw [List.cons_append, sectionsOf]
      cases hfirst : script.checkpoint? first with
      | none =>
          rw [hfirst] at h
          exact ih h
      | some path =>
          simp only [hfirst] at h
          cases done with
          | nil =>
              obtain ⟨hhead, hrest⟩ := List.cons.inj h
              subst hhead
              have hall := upToCheckpoint_of_sectionsOf_nil hrest
              have hmore := upToCheckpoint_of_sectionsOf_nil (sectionsOf_concat_nil hline hrest)
              simp [sectionsOf_concat_nil hline hrest, hall, hmore, Section.add]
          | cons opened others =>
              obtain ⟨hhead, hrest⟩ := List.cons.inj h
              subst hhead
              have hne : script.sectionsOf rest ≠ [] := by simp [hrest]
              simp [ih hrest, upToCheckpoint_append [line] hne]

end Script

/-! ### Repeated names -/

/-- The members of a row that are in `seen` or stand earlier in the row. -/
def repeatsAfter (seen : List Path) : List Path → List Path
  | [] => []
  | p :: rest =>
      if p ∈ seen then p :: repeatsAfter (p :: seen) rest else repeatsAfter (p :: seen) rest

/-- The members of a row that stand earlier in it, too. -/
def repeats (paths : List Path) : List Path :=
  repeatsAfter [] paths

/-- A path at the end of a row is repeated if it was seen before the row or
stands in it. Generalized over the paths that were seen, since each step of
the induction adds one. -/
theorem repeatsAfter_concat (seen paths : List Path) (p : Path) :
    repeatsAfter seen (paths ++ [p]) =
      repeatsAfter seen paths ++ if p ∈ seen ∨ p ∈ paths then [p] else [] := by
  induction paths generalizing seen with
  | nil => by_cases h : p ∈ seen <;> simp [repeatsAfter, h]
  | cons first rest ih =>
      have hmem : (p ∈ first :: seen ∨ p ∈ rest) = (p ∈ seen ∨ p ∈ first :: rest) := by
        simp only [List.mem_cons, or_assoc, or_left_comm]
      rw [List.cons_append, repeatsAfter, repeatsAfter, ih]
      simp only [hmem]
      by_cases h : first ∈ seen <;> simp [h]

/-- A path at the end of a row is repeated if it stands in the row. -/
theorem repeats_concat (paths : List Path) (p : Path) :
    repeats (paths ++ [p]) = repeats paths ++ if p ∈ paths then [p] else [] := by
  simpa [repeats] using repeatsAfter_concat [] paths p

/-- A name at the end of a row takes the place of its earlier occurrence.  The
order is that of the last occurrences, as in a list from which a name is taken
before it is put at the end. -/
theorem dedup_concat (paths : List Path) (p : Path) :
    (paths ++ [p]).dedup = paths.dedup.erase p ++ [p] := by
  induction paths with
  | nil => rfl
  | cons first rest ih =>
      by_cases hrest : first ∈ rest
      · calc (first :: rest ++ [p]).dedup
            = (rest ++ [p]).dedup := List.dedup_cons_of_mem (List.mem_append_left _ hrest)
          _ = rest.dedup.erase p ++ [p] := ih
          _ = (first :: rest).dedup.erase p ++ [p] := by rw [List.dedup_cons_of_mem hrest]
      · rw [List.dedup_cons_of_notMem hrest]
        by_cases hp : first = p
        · subst hp
          have hgone : rest.dedup.erase first = rest.dedup :=
            List.erase_of_not_mem (by simpa using hrest)
          rw [List.cons_append, List.dedup_cons_of_mem (by simp), ih, hgone, List.erase_cons_head]
        · have hnew : first ∉ rest ++ [p] := by simp [hrest, hp]
          calc (first :: rest ++ [p]).dedup
              = first :: (rest ++ [p]).dedup := List.dedup_cons_of_notMem hnew
            _ = first :: (rest.dedup.erase p ++ [p]) := by rw [ih]
            _ = (first :: rest.dedup).erase p ++ [p] := by
                rw [List.erase_cons_tail (by simpa using hp)]
                rfl

end TraceScript
