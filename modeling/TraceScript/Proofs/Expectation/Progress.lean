import TraceScript.Proofs.Error.Textual
import TraceScript.Proofs.Expectation.Stored

/-!
# The writer's progress through a script

What the writer of expected output has done when it has handled some sections
of a script.  Between two sections it has completed all of them
(`Writer.Between`); inside a section it has completed those before and holds
the last one's file open with what the section stands for so far
(`Writer.Inside`).  A failure leaves it with no file in hand (`Writer.Idle`), or
with the last section's file incomplete, open or not (`Writer.Stopped`).

There is one lemma for each operation of the writer: what it makes of a writer
between two sections or inside one, and in what state a refusal leaves it.
-/

namespace TraceScript.Writer

variable (disk : Disk) (labels : Labels)

/-- Some sections are complete and no file is being written. -/
structure Idle (sections : List Section) (w : Writer) : Prop where
  current : w.current = none
  file : w.file = none
  reported : w.reported = sections.map (·.path)
  reached : ∀ s ∈ sections, ∃ key, disk.reach s.path = .ok key
  stored : ∀ key, Stored disk labels sections key (w.disk.find? key)
  directories : w.disk.directories = disk.directories
  live : w.disk.live.Perm disk.live

/-- The writer is between two sections, and nothing has failed. -/
structure Between (sections : List Section) (w : Writer) : Prop
    extends Idle disk labels sections w where
  written : w.written = (sections.map (·.path)).dedup
  warned : w.notices.filter (·.severity == .warning) =
    (repeats (sections.map (·.path))).map .overwriting

/-- Some sections are complete, and the file of one more is not. -/
structure Stopped (done : List Section) (last : Section) (w : Writer) : Prop where
  current : w.current = some last.path
  reported : w.reported = done.map (·.path)
  reached : ∀ s ∈ done, ∃ key, disk.reach s.path = .ok key
  place : ∃ key, disk.reach last.path = .ok key ∧
    ∀ k, k ≠ key → Stored disk labels done k (w.disk.find? k)
  directories : w.disk.directories = disk.directories
  live : w.disk.live.Perm ((w.file.map (·.attempt)).toList ++ disk.live)

/-- The writer is inside a section, and nothing has failed. -/
structure Inside (done : List Section) (last : Section) (w : Writer) : Prop
    extends Stopped disk labels done last w where
  file : ∃ h octets, w.file = some h ∧ h.path = last.path ∧ disk.reach last.path = .ok h.key ∧
    last.Spells labels octets ∧ w.disk.find? h.key = some octets
  written : w.written = (done.map (·.path)).dedup.erase last.path
  warned : w.notices.filter (·.severity == .warning) =
    (repeats ((done ++ [last]).map (·.path))).map .overwriting

variable {disk labels} {sections done : List Section} {last : Section} {w : Writer}

/-! ### The operations of the writer -/

/-- A writer starts between sections, with none complete. -/
theorem between_start (disk : Disk) (labels : Labels) : Between disk labels [] (start disk) where
  current := rfl
  file := rfl
  reported := rfl
  reached := by simp
  stored := stored_nil disk labels
  directories := rfl
  live := .refl _
  written := rfl
  warned := rfl

/-- Between two sections there is nothing to close. -/
theorem close_of_between (h : Between disk labels sections w) : w.close = (.ok (), w) := by
  rw [close, h.file]

/-- Inside a section, everything is stored but the last section. -/
theorem Inside.stored_of_ne {h : Handle} (hw : Inside disk labels done last w)
    (hkey : disk.reach last.path = .ok h.key) {k : Path} (hk : k ≠ h.key) :
    Stored disk labels done k (w.disk.find? k) := by
  obtain ⟨key, hplace, hothers⟩ := hw.place
  rw [hkey] at hplace
  cases hplace
  exact hothers k hk

/-- The writer with its file closed. -/
def released (w : Writer) (h : Handle) : Writer :=
  { w with disk := (w.disk.close h).2, file := none }

/-- Closing completes the file, unless the system refuses; the file is closed
either way. -/
theorem close_eq {h : Handle} (hfile : w.file = some h) :
    w.close =
      match (w.disk.close h).1 with
      | some r => (.error (.ofRefusedWrite h.path r), w.released h)
      | none => (.ok (), (w.released h).complete h.path) := by
  rw [close, hfile]
  rfl

/-- A section that is incomplete remains so when its file is closed. -/
theorem stopped_released {h : Handle} (hw : Stopped disk labels done last w)
    (hfile : w.file = some h) : Stopped disk labels done last (w.released h) where
  current := hw.current
  reported := hw.reported
  reached := hw.reached
  place := hw.place
  directories := hw.directories
  live := by
    have hperm := hw.live
    rw [hfile] at hperm
    simpa [released, Disk.close] using hperm.erase h.attempt

/-- A section is complete when its file is closed.  From then on its place is
one of those that the sections have written, and the list ends with its name. -/
theorem between_complete {h : Handle} {octets : Octets} (hw : Inside disk labels done last w)
    (hfile : w.file = some h) (hkey : disk.reach last.path = .ok h.key)
    (hspells : last.Spells labels octets) (hcontent : w.disk.find? h.key = some octets) :
    Between disk labels (done ++ [last]) ((w.released h).complete last.path) where
  current := rfl
  file := rfl
  reported := by simp [complete, released, hw.reported]
  reached := by
    intro s hs
    rcases List.mem_append.mp hs with hs | hs
    · exact hw.reached s hs
    · obtain rfl := List.mem_singleton.mp hs
      exact ⟨h.key, hkey⟩
  stored := by
    intro k
    by_cases hk : k = h.key
    · subst hk
      show Stored disk labels (done ++ [last]) h.key (w.disk.find? h.key)
      rw [hcontent]
      exact stored_concat hkey hspells
    · exact stored_concat_other hkey hk (hw.stored_of_ne hkey hk)
  directories := hw.directories
  live := (stopped_released hw.toStopped hfile).live
  written := by simp [complete, released, hw.written, dedup_concat]
  warned := by simpa [complete, released, Notice.severity] using hw.warned

/-- Closing completes the section, or is refused and leaves it incomplete. -/
theorem close_of_inside (hw : Inside disk labels done last w) :
    (∃ r w', w.close = (.error (.ofRefusedWrite last.path r), w') ∧
      Stopped disk labels done last w') ∨
    (∃ w', w.close = (.ok (), w') ∧ Between disk labels (done ++ [last]) w') := by
  obtain ⟨h, octets, hfile, hpath, hkey, hspells, hcontent⟩ := hw.file
  rw [close_eq hfile, hpath]
  cases (w.disk.close h).1 with
  | some r => exact .inl ⟨r, _, rfl, stopped_released hw.toStopped hfile⟩
  | none => exact .inr ⟨_, rfl, between_complete hw hfile hkey hspells hcontent⟩

/-- Taking a name off the list changes nothing else but the notices. -/
theorem written_reuse (hw : Between disk labels sections w) (path : Path) :
    (w.reuse path).written = (sections.map (·.path)).dedup.erase path := by
  unfold reuse
  split
  · exact congrArg (·.erase path) hw.written
  · rename_i hnew
    rw [hw.written] at hnew ⊢
    rw [List.erase_of_not_mem (by simpa using hnew)]

/-- A checkpoint with the path of an earlier one is warned of, and no other. -/
theorem warned_reuse (hw : Between disk labels sections w) (path : Path) :
    (w.reuse path).notices.filter (·.severity == .warning) =
      (repeats (sections.map (·.path) ++ [path])).map .overwriting := by
  have hmem : w.written.contains path = true ↔ path ∈ sections.map (·.path) := by
    rw [hw.written]
    simp
  rw [repeats_concat, List.map_append, ← hw.warned]
  unfold reuse
  by_cases h : path ∈ sections.map (·.path)
  · rw [if_pos (hmem.mpr h), if_pos h]
    simp [note, Notice.severity]
  · rw [if_neg (fun hc => h (hmem.mp hc)), if_neg h]
    simp

/-- The warning leaves the files alone. -/
theorem idle_reuse (hw : Idle disk labels sections w) (path : Path) :
    Idle disk labels sections (w.reuse path) := by
  unfold reuse
  split
  · exact ⟨hw.current, hw.file, hw.reported, hw.reached, hw.stored, hw.directories, hw.live⟩
  · exact hw

/-- The writer with a new file open. -/
def begun (w : Writer) (path key : Path) : Writer :=
  { w with
    disk :=
      { w.disk.put key [] with
        attempts := w.disk.attempts + 1, live := w.disk.live ++ [w.disk.attempts] }
    file := some ⟨path, key, w.disk.attempts, 0⟩
    current := some path }.note (.opened path)

/-- A file is opened empty, or refused; the attempt counts either way. -/
theorem openFile_cases (w : Writer) (path : Path) :
    (∃ e, w.openFile path =
      (.error (.ofOpenError path e),
        { w with disk := { w.disk with attempts := w.disk.attempts + 1 } })) ∨
    (∃ key, w.disk.reach path = .ok key ∧ w.openFile path = (.ok path, w.begun path key)) := by
  obtain ⟨e, hcreate⟩ | ⟨key, hreach, hcreate⟩ := w.disk.create_cases path
  · exact .inl ⟨e, by rw [openFile, hcreate]⟩
  · exact .inr ⟨key, hreach, by rw [openFile, hcreate]; rfl⟩

/-- A file that has been opened is empty, and all others are as before. -/
theorem find?_begun (w : Writer) (path key k : Path) :
    (w.begun path key).disk.find? k = if k = key then some [] else w.disk.find? k :=
  Disk.find?_put w.disk key k []

/-- A section starts when its file is opened.  The file is empty then, as the
section is; every other place holds what it held. -/
theorem inside_begun {path key : Path} (hr : Idle disk labels sections w)
    (hkey : disk.reach path = .ok key)
    (hwritten : w.written = (sections.map (·.path)).dedup.erase path)
    (hwarned : w.notices.filter (·.severity == .warning) =
      (repeats (sections.map (·.path) ++ [path])).map .overwriting) :
    Inside disk labels sections ⟨path, []⟩ (w.begun path key) where
  current := rfl
  reported := hr.reported
  reached := hr.reached
  place := by
    refine ⟨key, hkey, ?_⟩
    intro k hk
    rw [find?_begun, if_neg hk]
    exact hr.stored k
  directories := hr.directories
  live := (hr.live.append_right [w.disk.attempts]).trans List.perm_append_comm
  file := by
    refine ⟨_, [], rfl, rfl, hkey, Section.spells_nil labels path, ?_⟩
    rw [find?_begun, if_pos rfl]
  written := hwritten
  warned := by simpa [begun, note, Notice.severity] using hwarned

/-- Opening a file starts a section, or fails and changes nothing. -/
theorem openFile_of_between (path : Path) (hw : Between disk labels sections w) :
    (∃ e w', (w.reuse path).openFile path = (.error (.ofOpenError path e), w') ∧
      Idle disk labels sections w') ∨
    (∃ w', (w.reuse path).openFile path = (.ok path, w') ∧
      Inside disk labels sections ⟨path, []⟩ w') := by
  have hr := idle_reuse hw.toIdle path
  obtain ⟨e, hopen⟩ | ⟨key, hreach, hopen⟩ := openFile_cases (w.reuse path) path
  · left
    exact ⟨e, _, hopen, hr.current, hr.file, hr.reported, hr.reached, hr.stored, hr.directories,
      hr.live⟩
  · right
    have hkey := Disk.reach_of_directories hr.directories.symm hreach
    exact ⟨_, hopen, inside_begun hr hkey (written_reuse hw path) (warned_reuse hw path)⟩

/-- A line without an expected text changes nothing inside a section. -/
theorem Inside.add_none {line : ScriptLine} (hw : Inside disk labels done last w)
    (hline : line.expected? = none) : Inside disk labels done (last.add line) w where
  current := hw.current
  reported := hw.reported
  reached := hw.reached
  place := hw.place
  directories := hw.directories
  live := hw.live
  file := by
    obtain ⟨h, octets, hfile, hpath, hkey, hspells, hcontent⟩ := hw.file
    exact ⟨h, octets, hfile, hpath, hkey, hspells.add_none hline, hcontent⟩
  written := hw.written
  warned := by simpa using hw.warned

/-- The writer with one more write to its file counted. -/
def tried (w : Writer) (h : Handle) : Writer :=
  { w with file := some { h with writes := h.writes + 1 } }

/-- The writer with octets added to its file. -/
def extended (w : Writer) (h : Handle) (octets : Octets) : Writer :=
  { w.tried h with disk := w.disk.put h.key ((w.disk.find? h.key).getD [] ++ octets) }

/-- A line is written with its line feed, or refused and not written at all. -/
theorem writeLine_cases {h : Handle} (hfile : w.file = some h) (t : Text) :
    (∃ r, w.writeLine t = (.error (.ofRefusedWrite h.path r), w.tried h)) ∨
    w.writeLine t = (.ok (), w.extended h (Text.Utf8.encode (t ++ ['\n']))) := by
  obtain ⟨r, -, hwrite⟩ | hwrite := w.disk.write_cases h (Text.Utf8.encode (t ++ ['\n']))
  · left
    refine ⟨r, ?_⟩
    rw [writeLine, hfile]
    simp only [hwrite]
    rfl
  · right
    rw [writeLine, hfile]
    simp only [hwrite]
    rfl

/-- What is written stands behind what the file holds, and all other files are
as before. -/
theorem find?_extended (w : Writer) (h : Handle) (octets : Octets) (k : Path) :
    (w.extended h octets).disk.find? k =
      if k = h.key then some ((w.disk.find? h.key).getD [] ++ octets) else w.disk.find? k :=
  Disk.find?_put w.disk h.key k ((w.disk.find? h.key).getD [] ++ octets)

/-- A refused write leaves an incomplete section incomplete. -/
theorem stopped_tried {h : Handle} (hw : Stopped disk labels done last w)
    (hfile : w.file = some h) : Stopped disk labels done last (w.tried h) where
  current := hw.current
  reported := hw.reported
  reached := hw.reached
  place := hw.place
  directories := hw.directories
  live := by
    have hperm := hw.live
    rwa [hfile] at hperm

/-- A section grows by a line when that is in its file.  What the section
stands for grows by the same octets as the file. -/
theorem inside_extended {h : Handle} {line : ScriptLine} {t u : Text} {octets : Octets}
    (hw : Inside disk labels done last w) (hfile : w.file = some h) (hpath : h.path = last.path)
    (hkey : disk.reach last.path = .ok h.key) (hspells : last.Spells labels octets)
    (hcontent : w.disk.find? h.key = some octets) (hline : line.expected? = some t)
    (hu : expand labels t = .ok u) :
    Inside disk labels done (last.add line)
      (w.extended h (Text.Utf8.encode (u ++ ['\n']))) where
  current := hw.current
  reported := hw.reported
  reached := hw.reached
  place := by
    refine ⟨h.key, hkey, ?_⟩
    intro k hk
    rw [find?_extended, if_neg hk]
    exact hw.stored_of_ne hkey hk
  directories := hw.directories
  live := (stopped_tried hw.toStopped hfile).live
  file := by
    refine ⟨_, octets ++ Text.Utf8.encode (u ++ ['\n']), rfl, hpath, hkey,
      hspells.add_some hline hu, ?_⟩
    show (w.extended h _).disk.find? h.key = _
    rw [find?_extended, if_pos rfl, hcontent]
    rfl
  written := hw.written
  warned := by simpa [extended, tried] using hw.warned

/-- An expected text is added to the file, or refused. -/
theorem writeLine_of_inside {line : ScriptLine} {t u : Text} (hw : Inside disk labels done last w)
    (hline : line.expected? = some t) (hu : expand labels t = .ok u) :
    (∃ r w', w.writeLine u = (.error (.ofRefusedWrite last.path r), w') ∧
      Stopped disk labels done last w') ∨
    (∃ w', w.writeLine u = (.ok (), w') ∧ Inside disk labels done (last.add line) w') := by
  obtain ⟨h, octets, hfile, hpath, hkey, hspells, hcontent⟩ := hw.file
  obtain ⟨r, hwrite⟩ | hwrite := writeLine_cases hfile u
  · rw [hpath] at hwrite
    exact .inl ⟨r, _, hwrite, stopped_tried hw.toStopped hfile⟩
  · exact .inr ⟨_, hwrite, inside_extended hw hfile hpath hkey hspells hcontent hline hu⟩

end TraceScript.Writer
