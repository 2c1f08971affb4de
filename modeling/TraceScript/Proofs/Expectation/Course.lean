import TraceScript.Proofs.Expectation.Progress

/-!
# The course of the second pass

A writer that handles the lines of a script is `At` the sections of the lines
it has handled, or a failure has `Struck`.  One line leads from the sections
before it to those with it (`take_cases`), and so does a row of lines
(`takeAll_cases`).  What is left after a failure is discarded
(`discard_of_idle`, `discard_of_stopped`).

So a whole run completes all sections (`between_of_run`), or discards what one
failure leaves (`struck_of_run`); in either case it keeps to the places of the
checkpoints' names (`run_frame`).
-/

namespace TraceScript.Writer

variable (disk : Disk) (labels : Labels)

/-- The writer has handled some sections, and nothing has failed. -/
def At (sections : List Section) (w : Writer) : Prop :=
  (sections = [] ∧ Between disk labels [] w) ∨
  ∃ done last, sections = done ++ [last] ∧ Inside disk labels done last w

/-- A failure has struck on a line that may be a checkpoint: its file could not
be opened, or something else failed, in front of all sections or in one. -/
def Struck (sections : List Section) (next : Option Path) (f : Failure) (w : Writer) : Prop :=
  (∃ path e, next = some path ∧ f = .ofOpenError path e ∧ Idle disk labels sections w) ∨
  ¬ f.Opening ∧ (sections = [] ∧ Idle disk labels [] w ∨
    ∃ done last, sections = done ++ [last] ∧ Stopped disk labels done last w)

variable {disk labels} {sections done : List Section} {last : Section} {w : Writer}

/-- A failure that changes nothing and opens nothing. -/
theorem At.struck {next : Option Path} {f : Failure} (h : At disk labels sections w)
    (hf : ¬ f.Opening) : Struck disk labels sections next f w := by
  refine .inr ⟨hf, ?_⟩
  obtain ⟨rfl, hw⟩ | ⟨done, last, rfl, hw⟩ := h
  · exact .inl ⟨rfl, hw.toIdle⟩
  · exact .inr ⟨done, last, rfl, hw.toStopped⟩

/-- Without a file to open, it is something else that has failed. -/
theorem Struck.of_none {next : Option Path} {f : Failure}
    (h : Struck disk labels sections none f w) : Struck disk labels sections next f w := by
  obtain ⟨path, e, hnone, -⟩ | hother := h
  · cases hnone
  · exact .inr hother

/-- Closing completes all sections, or is refused in the last one. -/
theorem close_cases (h : At disk labels sections w) :
    (∃ f w', w.close = (.error f, w') ∧ Struck disk labels sections none f w') ∨
    (∃ w', w.close = (.ok (), w') ∧ Between disk labels sections w') := by
  obtain ⟨rfl, hw⟩ | ⟨done, last, rfl, hw⟩ := h
  · exact .inr ⟨w, close_of_between hw, hw⟩
  · obtain ⟨r, w', hclose, hw'⟩ | hclosed := close_of_inside hw
    · have hf := Failure.not_opening_ofRefusedWrite last.path r
      exact .inl ⟨_, w', hclose, .inr ⟨hf, .inr ⟨done, last, rfl, hw'⟩⟩⟩
    · exact .inr hclosed

/-- A checkpoint completes the sections before it and starts its own.  It may
fail as the last file is closed, or as the new one is opened; in the second
case the sections before are complete. -/
theorem checkpoint_cases (script : Script) (extra : Text) (h : At disk labels sections w) :
    (∃ f w', w.checkpoint script extra = (.error f, w') ∧
      Struck disk labels sections (some (script.expectationPath extra)) f w') ∨
    (∃ w', w.checkpoint script extra = (.ok (script.expectationPath extra), w') ∧
      Inside disk labels sections ⟨script.expectationPath extra, []⟩ w') := by
  rw [checkpoint]
  let path := script.expectationPath extra
  obtain ⟨f, w', hclose, hstruck⟩ | ⟨w', hclose, hw'⟩ := close_cases h
  · rw [hclose]
    exact .inl ⟨f, w', rfl, hstruck.of_none⟩
  · rw [hclose]
    obtain ⟨e, w'', hopen, hidle⟩ | hopened := openFile_of_between path hw'
    · exact .inl ⟨_, w'', hopen, .inl ⟨_, e, rfl, rfl, hidle⟩⟩
    · exact .inr hopened

variable {script : Script} {handled : List ScriptLine} {line : ScriptLine}

/-- A line that is no checkpoint and expects nothing changes nothing. -/
theorem At.quiet (h : At disk labels (script.sectionsOf handled) w)
    (hline : script.checkpoint? line = none) (hquiet : line.expected? = none) :
    At disk labels (script.sectionsOf (handled ++ [line])) w := by
  obtain ⟨hnil, hw⟩ | ⟨done, last, hsections, hw⟩ := h
  · exact .inl ⟨Script.sectionsOf_concat_nil hline hnil, hw⟩
  · exact .inr ⟨done, last.add line, Script.sectionsOf_concat hline hsections,
      hw.add_none hquiet⟩

/-- Handling a line with a directive.  A checkpoint starts a section, and any
other directive is only looked at for its shape. -/
theorem takeDirective_cases {text : Text} (h : At disk labels (script.sectionsOf handled) w)
    (hdirective : line.directive = some text) :
    (∃ f w', w.takeDirective script line text = (.error f, w') ∧
      Struck disk labels (script.sectionsOf handled) (script.checkpoint? line) f w') ∨
    (∃ w', w.takeDirective script line text = (.ok (), w') ∧
      At disk labels (script.sectionsOf (handled ++ [line])) w') := by
  unfold takeDirective
  cases hsplit : Directive.split text (some line.location) (some line.text) with
  | error f => exact .inl ⟨f, w, rfl, h.struck (textual_of_split hsplit).not_opening⟩
  | ok d =>
      cases hterminator : d.isTerminator with
      | false =>
          have hline : script.checkpoint? line = none := by
            simp [Script.checkpoint?, hdirective, hsplit, hterminator]
          have hquiet : line.expected? = none := by
            simp [ScriptLine.expected?, hdirective]
          exact .inr ⟨w, by simp [hterminator], h.quiet hline hquiet⟩
      | true =>
          have hline : script.checkpoint? line = some (script.expectationPath d.payload) := by
            simp [Script.checkpoint?, hdirective, hsplit, hterminator]
          obtain ⟨f, w', hcheck, hstruck⟩ | ⟨w', hcheck, hw'⟩ := checkpoint_cases script d.payload h
          · rw [hline]
            exact .inl ⟨f, w', by simp [hterminator, hcheck], hstruck⟩
          · refine .inr ⟨w', by simp [hterminator, hcheck], .inr ⟨_, _, ?_, hw'⟩⟩
            exact Script.sectionsOf_concat_checkpoint handled hline

/-- Handling a line without a directive.  In front of the first section
nothing is done; in a section the expected text is expanded and written, where
there is one. -/
theorem takeComment_cases (h : At disk labels (script.sectionsOf handled) w)
    (hdirective : line.directive = none) :
    (∃ f w', w.takeComment labels line = (.error f, w') ∧
      Struck disk labels (script.sectionsOf handled) (script.checkpoint? line) f w') ∨
    (∃ w', w.takeComment labels line = (.ok (), w') ∧
      At disk labels (script.sectionsOf (handled ++ [line])) w') := by
  have hline : script.checkpoint? line = none := by simp [Script.checkpoint?, hdirective]
  have hexpected : line.expected? = annotation? line.text := by
    simp [ScriptLine.expected?, hdirective]
  unfold takeComment
  -- before the first checkpoint no file is open and annotations are dropped
  obtain ⟨hnil, hw⟩ | ⟨done, last, hsections, hw⟩ := id h
  · rw [hw.current]
    exact .inr ⟨w, rfl, .inl ⟨Script.sectionsOf_concat_nil hline hnil, hw⟩⟩
  · rw [hw.current]
    cases hcomment : annotation? line.text with
    | none => exact .inr ⟨w, rfl, h.quiet hline (by rw [hexpected, hcomment])⟩
    | some t =>
        cases hexpand : inContext line.context (expand labels t) with
        | error f =>
            have hf := textual_of_inContext (reading_expand labels t).unplaced hexpand
            exact .inl ⟨f, w, by simp [hexpand], h.struck hf.not_opening⟩
        | ok u =>
            have hu := eq_ok_of_inContext hexpand
            rw [hcomment] at hexpected
            obtain ⟨r, w', hwrite, hw'⟩ | ⟨w', hwrite, hw'⟩ := writeLine_of_inside hw hexpected hu
            · have hf := Failure.not_opening_ofRefusedWrite last.path r
              exact .inl ⟨_, w', by simp [hexpand, hwrite],
                .inr ⟨hf, .inr ⟨done, last, hsections, hw'⟩⟩⟩
            · exact .inr ⟨w', by simp [hexpand, hwrite],
                .inr ⟨done, last.add line, Script.sectionsOf_concat hline hsections, hw'⟩⟩

/-- One line leads from the sections before it to those with it. -/
theorem take_cases (line : ScriptLine) (h : At disk labels (script.sectionsOf handled) w) :
    (∃ f w', w.take script labels line = (.error f, w') ∧
      Struck disk labels (script.sectionsOf handled) (script.checkpoint? line) f w') ∨
    (∃ w', w.take script labels line = (.ok (), w') ∧
      At disk labels (script.sectionsOf (handled ++ [line])) w') := by
  unfold take
  cases hdirective : line.directive with
  | some text => exact takeDirective_cases h hdirective
  | none => exact takeComment_cases h hdirective

/-- Lines lead from the sections before them to those with them, up to the one
on which a failure strikes. -/
theorem takeAll_cases (lines : List ScriptLine) (h : At disk labels (script.sectionsOf handled) w) :
    (∃ before line after w₁ f w', lines = before ++ line :: after ∧
      takeAll script labels before w = (.ok (), w₁) ∧ w₁.take script labels line = (.error f, w') ∧
      takeAll script labels lines w = (.error f, w') ∧
      Struck disk labels (script.sectionsOf (handled ++ before)) (script.checkpoint? line) f w') ∨
    (∃ w', takeAll script labels lines w = (.ok (), w') ∧
      At disk labels (script.sectionsOf (handled ++ lines)) w') := by
  induction lines generalizing handled w with
  | nil => exact .inr ⟨w, rfl, by simpa using h⟩
  | cons line rest ih =>
      obtain ⟨f, w', htake, hstruck⟩ | ⟨w', htake, hw'⟩ := take_cases line h
      · exact .inl ⟨[], line, rest, w, f, w', rfl, rfl, htake, by rw [takeAll, htake],
          by simpa using hstruck⟩
      · obtain ⟨before, line', after, w₁, f, w'', hlines, hbefore, htake', hall, hstruck⟩ |
          ⟨w'', hall, hw''⟩ := ih hw'
        · refine .inl ⟨line :: before, line', after, w₁, f, w'', by rw [hlines]; rfl, ?_, htake',
            ?_, by simpa using hstruck⟩
          · rw [takeAll, htake]
            exact hbefore
          · rw [takeAll, htake]
            exact hall
        · refine .inr ⟨w'', ?_, by simpa using hw''⟩
          rw [takeAll, htake]
          exact hall

/-- A row of lines can be handled in two parts, if the first of them does not
fail. -/
theorem takeAll_append (lines rest : List ScriptLine) (w : Writer) :
    takeAll script labels (lines ++ rest) w =
      match takeAll script labels lines w with
      | (.error f, w) => (.error f, w)
      | (.ok (), w) => takeAll script labels rest w := by
  induction lines generalizing w with
  | nil => rfl
  | cons line more ih =>
      rw [List.cons_append, takeAll, takeAll]
      split
      · rfl
      · exact ih _

/-! ### Discarding -/

/-- Without a section in progress there is nothing to discard. -/
theorem discard_of_idle (hw : Idle disk labels sections w) : w.discard = w := by
  have habandon : w.abandon = w := by rw [abandon, hw.file]
  rw [discard, habandon, hw.current]

variable (disk labels) in
/-- Some sections are complete, and the file of one more is gone. -/
structure Cleared (done : List Section) (last : Section) (w : Writer) : Prop where
  file : w.file = none
  reported : w.reported = done.map (·.path)
  reached : ∀ s ∈ done, ∃ key, disk.reach s.path = .ok key
  place : ∃ key, disk.reach last.path = .ok key ∧ w.disk.find? key = none ∧
    ∀ k, k ≠ key → Stored disk labels done k (w.disk.find? k)
  directories : w.disk.directories = disk.directories
  live : w.disk.live.Perm disk.live

/-- An open file that is abandoned is released, and a refusal to close it is
only noted. -/
theorem abandon_eq {h : Handle} (hfile : w.file = some h) :
    w.abandon =
      match (w.disk.close h).1 with
      | some _ => (w.released h).note (.closeIgnored h.path)
      | none => w.released h := by
  rw [abandon, hfile]
  rfl

/-- Abandoning closes the file of the section in progress.  The file is closed
whether the disk objects or not. -/
theorem stopped_abandon (hw : Stopped disk labels done last w) :
    Stopped disk labels done last w.abandon ∧ w.abandon.file = none := by
  cases hfile : w.file with
  | none =>
      have habandon : w.abandon = w := by rw [abandon, hfile]
      rw [habandon]
      exact ⟨hw, hfile⟩
  | some h =>
      have hr := stopped_released hw hfile
      rw [abandon_eq hfile]
      cases (w.disk.close h).1 with
      | none => exact ⟨hr, rfl⟩
      | some r =>
          exact ⟨⟨hr.current, hr.reported, hr.reached, hr.place, hr.directories, hr.live⟩, rfl⟩

/-- Discarding removes the file of the section in progress and no other.  Its
name leads to where the file was opened, since no directory has changed
meanwhile. -/
theorem discard_of_stopped (hw : Stopped disk labels done last w) :
    Cleared disk labels done last w.discard := by
  obtain ⟨ha, hfile⟩ := stopped_abandon hw
  obtain ⟨key, hkey, hothers⟩ := ha.place
  have hlocate : w.abandon.disk.locate last.path = .ok key :=
    Disk.locate_of_directories ha.directories (Disk.locate_of_reach hkey)
  have hlive := ha.live
  rw [hfile] at hlive
  rw [discard, ha.current]
  constructor
  · exact hfile
  · exact ha.reported
  · exact ha.reached
  · refine ⟨key, hkey, ?_, ?_⟩
    · show (w.abandon.disk.remove last.path).find? key = none
      rw [Disk.find?_remove hlocate, if_pos rfl]
    · intro k hk
      show Stored disk labels done k ((w.abandon.disk.remove last.path).find? k)
      rw [Disk.find?_remove hlocate, if_neg hk]
      exact hothers k hk
  · exact (Disk.directories_remove _ _).trans ha.directories
  · show (w.abandon.disk.remove last.path).live.Perm disk.live
    rw [Disk.live_remove]
    exact hlive

/-! ### Whole runs -/

variable {files : List Path} {f : Failure}

/-- A run that succeeds has completed all sections.  The last of them is
completed by closing behind the last line. -/
theorem between_of_run (hrun : run disk script labels = (.ok files, w)) :
    Between disk labels (script.sectionsOf script.lines) w ∧ files = w.written := by
  have hstart : At disk labels (script.sectionsOf []) (start disk) :=
    .inl ⟨rfl, between_start disk labels⟩
  rw [run] at hrun
  obtain ⟨_, _, _, _, f, w', -, -, -, hall, -⟩ | ⟨w', hall, hat⟩ :=
    takeAll_cases script.lines hstart
  · rw [hall] at hrun
    cases hrun
  · rw [hall] at hrun
    obtain ⟨f, w'', hclose, -⟩ | ⟨w'', hclose, hbetween⟩ := close_cases hat
    · simp only [hclose] at hrun
      cases hrun
    · simp only [hclose] at hrun
      cases hrun
      exact ⟨by simpa using hbetween, rfl⟩

/-- A failure strikes on the first of the lines that are left, or at the
closing behind all lines. -/
def StrikesOn (script : Script) (labels : Labels) (w : Writer) (rest : List ScriptLine)
    (f : Failure) (w' : Writer) : Prop :=
  match rest with
  | [] => w.close = (.error f, w')
  | line :: _ => w.take script labels line = (.error f, w')

/-- A run that fails discards what a failure on one of its lines leaves.  The
failure may be that of closing behind the last line; then no line is left. -/
theorem struck_of_run (hrun : run disk script labels = (.error f, w)) :
    ∃ handled rest wh ws, script.lines = handled ++ rest ∧
      takeAll script labels handled (start disk) = (.ok (), wh) ∧
      StrikesOn script labels wh rest f ws ∧
      Struck disk labels (script.sectionsOf handled) (rest.head?.bind script.checkpoint?) f ws ∧
      w = ws.discard := by
  have hstart : At disk labels (script.sectionsOf []) (start disk) :=
    .inl ⟨rfl, between_start disk labels⟩
  rw [run] at hrun
  obtain ⟨before, line, after, wh, g, ws, hlines, hbefore, htake, hall, hstruck⟩ |
    ⟨wh, hall, hat⟩ := takeAll_cases script.lines hstart
  · rw [hall] at hrun
    cases hrun
    exact ⟨before, line :: after, wh, ws, hlines, hbefore, htake, hstruck, rfl⟩
  · rw [hall] at hrun
    obtain ⟨g, ws, hclose, hstruck⟩ | ⟨ws, hclose, -⟩ := close_cases hat
    · simp only [hclose] at hrun
      cases hrun
      exact ⟨script.lines, [], wh, ws, by simp, hall, hclose, by simpa using hstruck, rfl⟩
    · simp only [hclose] at hrun
      cases hrun

/-- What is discarded is at the places of the sections' names.  Between two
sections there is nothing to discard, and the place of an open section is one
of those. -/
theorem discard_frame {next : Option Path} (h : Struck disk labels sections next f w) :
    w.discard.disk.directories = disk.directories ∧
    ∀ key, (∀ p ∈ sections.map (·.path), disk.reach p ≠ .ok key) →
      w.discard.disk.find? key = disk.find? key := by
  have hidle (hw : Idle disk labels sections w) :
      w.discard.disk.directories = disk.directories ∧
      ∀ key, (∀ p ∈ sections.map (·.path), disk.reach p ≠ .ok key) →
        w.discard.disk.find? key = disk.find? key := by
    rw [discard_of_idle hw]
    refine ⟨hw.directories, ?_⟩
    intro key hnone
    exact eq_of_stored hnone (hw.stored key)
  obtain ⟨_, _, -, -, hw⟩ | ⟨-, ⟨rfl, hw⟩ | ⟨done, last, rfl, hw⟩⟩ := h
  · exact hidle hw
  · exact hidle hw
  · have hc := discard_of_stopped hw
    obtain ⟨place, hplace, -, hothers⟩ := hc.place
    refine ⟨hc.directories, ?_⟩
    intro key hnone
    have hkey : key ≠ place := by
      rintro rfl
      exact hnone last.path (by simp) hplace
    have hdone : ∀ p ∈ done.map (·.path), disk.reach p ≠ .ok key := by
      intro p hp
      apply hnone
      rw [List.map_append]
      exact List.mem_append_left _ hp
    exact eq_of_stored hdone (hothers key hkey)

/-- Whatever happens, the second pass changes no directory, and no file that
is not at the place of a checkpoint's name. -/
theorem run_frame (disk : Disk) (script : Script) (labels : Labels) :
    (run disk script labels).2.disk.directories = disk.directories ∧
    ∀ key, (∀ p ∈ script.checkpoints script.lines, disk.reach p ≠ .ok key) →
      (run disk script labels).2.disk.find? key = disk.find? key := by
  cases hrun : run disk script labels with
  | mk result w =>
    cases result with
    | ok files =>
        obtain ⟨hw, -⟩ := between_of_run hrun
        refine ⟨hw.directories, ?_⟩
        intro key hnone
        rw [← script.map_path_sectionsOf] at hnone
        exact eq_of_stored hnone (hw.stored key)
    | error f =>
        obtain ⟨handled, rest, wh, ws, hlines, -, -, hstruck, rfl⟩ := struck_of_run hrun
        obtain ⟨hdirectories, hothers⟩ := discard_frame hstruck
        refine ⟨hdirectories, ?_⟩
        intro key hnone
        apply hothers
        intro p hp
        apply hnone
        rw [script.map_path_sectionsOf] at hp
        rw [hlines, Script.checkpoints, List.filterMap_append]
        exact List.mem_append_left _ hp

end TraceScript.Writer
