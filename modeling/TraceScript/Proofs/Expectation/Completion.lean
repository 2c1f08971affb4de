import TraceScript.Proofs.Expectation.Course

/-!
# What a successful second pass makes

A run of the writer that succeeds has completed all sections of the script.  So
the files hold what their last sections stand for, and they are reported,
listed and warned about as the order of the checkpoints says (`run_complete`).

What stands in front of the first checkpoint does not matter, apart from its
directives (`run_of_opening`).
-/

namespace TraceScript.Writer

variable {disk : Disk} {script : Script} {labels : Labels} {files : List Path} {w : Writer}

/-! ### In front of the first checkpoint -/

/-- The lines of a script matter to the writer only as it is given them. -/
theorem takeAll_lines (lines row : List ScriptLine) (w : Writer) :
    takeAll { script with lines := lines } labels row w = takeAll script labels row w := by
  induction row generalizing w with
  | nil => rfl
  | cons line rest ih =>
      have htake : w.take { script with lines := lines } labels line =
          w.take script labels line := rfl
      rw [takeAll, takeAll, htake]
      split
      · rfl
      · exact ih _

/-- A line that is no checkpoint does not change the writer when no file is
being written. -/
theorem take_of_no_checkpoint {line : ScriptLine} (hcurrent : w.current = none)
    (hline : script.checkpoint? line = none) :
    ∃ result, w.take script labels line = (result, w) ∧
      (line.isDirective = false → result = .ok ()) := by
  unfold take
  cases hdirective : line.directive with
  | none => exact ⟨.ok (), by simp [takeComment, hcurrent], fun _ => rfl⟩
  | some text =>
      have hsome : line.isDirective = true := by simp [ScriptLine.isDirective, hdirective]
      simp only [takeDirective]
      cases hsplit : Directive.split text (some line.location) (some line.text) with
      | error f => exact ⟨_, rfl, by simp [hsome]⟩
      | ok d =>
          have hterminator : d.isTerminator = false := by
            simpa [Script.checkpoint?, hdirective, hsplit] using hline
          exact ⟨.ok (), by simp [hterminator], fun _ => rfl⟩

/-- In front of the first checkpoint only directives are looked at.  A line of
expected output belongs to no section there, so nothing is done with it. -/
theorem takeAll_directives {lines : List ScriptLine} (hcurrent : w.current = none)
    (hlines : script.checkpoints lines = []) :
    takeAll script labels lines w = takeAll script labels (lines.filter (·.isDirective)) w := by
  induction lines with
  | nil => rfl
  | cons line rest ih =>
      have hnone := List.filterMap_eq_nil_iff.mp hlines
      have hline : script.checkpoint? line = none := hnone line List.mem_cons_self
      have hrest : script.checkpoints rest = [] :=
        List.filterMap_eq_nil_iff.mpr fun l hl => hnone l (List.mem_cons_of_mem line hl)
      obtain ⟨result, htake, hquiet⟩ := take_of_no_checkpoint hcurrent hline
      rw [takeAll, htake]
      by_cases hdirective : line.isDirective = true
      · rw [List.filter_cons_of_pos hdirective, takeAll, htake]
        cases result with
        | error f => rfl
        | ok _ => exact ih hrest
      · rw [List.filter_cons_of_neg hdirective, hquiet (by simpa using hdirective)]
        exact ih hrest

/-- Lines in front of the first checkpoint may be exchanged for others with
the same directives. -/
theorem run_of_opening {opening other rest : List ScriptLine}
    (hlines : script.lines = opening ++ rest) (hopening : script.checkpoints opening = [])
    (hother : other.filter (·.isDirective) = opening.filter (·.isDirective)) :
    run disk { script with lines := other ++ rest } labels = run disk script labels := by
  have hcheckpoints : script.checkpoints other = [] := by
    calc script.checkpoints other
        = script.checkpoints (other.filter (·.isDirective)) :=
          (Script.checkpoints_directives script other).symm
      _ = script.checkpoints (opening.filter (·.isDirective)) := by rw [hother]
      _ = script.checkpoints opening := Script.checkpoints_directives script opening
      _ = [] := hopening
  have hall : takeAll script labels (other ++ rest) (start disk) =
      takeAll script labels (opening ++ rest) (start disk) := by
    have hdirectives : takeAll script labels other (start disk) =
        takeAll script labels opening (start disk) :=
      calc takeAll script labels other (start disk)
          = takeAll script labels (other.filter (·.isDirective)) (start disk) :=
            takeAll_directives rfl hcheckpoints
        _ = takeAll script labels (opening.filter (·.isDirective)) (start disk) := by rw [hother]
        _ = takeAll script labels opening (start disk) := (takeAll_directives rfl hopening).symm
    rw [takeAll_append, takeAll_append, hdirectives]
  rw [run, run, takeAll_lines, hlines, hall]

/-! ### Completion -/

/-- A successful second pass is exact.  The checkpoints' files are reported in
order and listed at their last occurrences, and those that occur earlier are
warned about.  Each holds what its last section stands for, and no other file
is changed.  Lines in front of the first checkpoint that have no directive do
not matter. -/
theorem run_complete (hrun : run disk script labels = (.ok files, w))
    (hdistinct : DistinctFiles disk (script.checkpoints script.lines)) :
    w.reported = script.checkpoints script.lines ∧
    files = (script.checkpoints script.lines).dedup ∧
    w.notices.filter (·.severity == .warning) =
      (repeats (script.checkpoints script.lines)).map .overwriting ∧
    w.file = none ∧
    Kept disk labels (script.sectionsOf script.lines) [] w.disk ∧
    (∀ opening other rest, script.lines = opening ++ rest → script.checkpoints opening = [] →
      other.filter (·.isDirective) = opening.filter (·.isDirective) →
      run disk { script with lines := other ++ rest } labels = (.ok files, w)) := by
  obtain ⟨hw, rfl⟩ := between_of_run hrun
  rw [← script.map_path_sectionsOf] at hdistinct ⊢
  refine ⟨hw.reported, hw.written, hw.warned, hw.file, ?_, ?_⟩
  · exact kept_of_stored hdistinct hw.reached hw.directories fun key _ => hw.stored key
  · intro opening other rest hlines hopening hother
    rw [run_of_opening hlines hopening hother, hrun]

/-- A script that opens one file, another and the first again, behind a line
that could not be expanded. -/
theorem run_complete_reopened :
    let script := Script.ofText "t.asm".toList "t".toList
      "; lost %\n; @pt .exp(a)\n; x %l\n; @pt .exp\n; y\n; @pt .exp(a)\n; z %l".toList
    let labels : Labels := ⟨LabelTable.empty, ⟨[("l".toList, 255)]⟩⟩
    let a := Path.ofText "t-a.exp".toList
    let t := Path.ofText "t.exp".toList
    ∃ w, run Disk.empty script labels = (.ok [t, a], w) ∧ w.reported = [a, t, a] ∧
      w.notices.filter (·.severity == .warning) = [.overwriting a] ∧
      w.disk.read a = .ok (Text.Utf8.encode " z 0xff\n".toList) ∧
      run Disk.empty { script with lines := script.lines.tail } labels = (.ok [t, a], w) := by
  intro script labels a t
  have hpaths : script.checkpoints script.lines = [a, t, a] := by decide +kernel
  have hanswer : (run Disk.empty script labels).1 = .ok [t, a] := by decide +kernel
  have hrun : run Disk.empty script labels = (.ok [t, a], (run Disk.empty script labels).2) :=
    Prod.ext hanswer rfl
  have hdistinct : DistinctFiles Disk.empty (script.checkpoints script.lines) :=
    distinctFiles_of_self (by decide +kernel)
  obtain ⟨hreported, -, hwarned, -, ⟨hcontent, -⟩, hopening⟩ := run_complete hrun hdistinct
  rw [hpaths] at hreported hwarned
  have hsame := hopening [script.lines[0]] [] script.lines.tail rfl rfl rfl
  refine ⟨_, hrun, hreported, hwarned, ?_, hsame⟩
  obtain ⟨octets, ⟨shown, hshown, rfl⟩, hread⟩ :=
    hcontent [⟨a, [script.lines[2]]⟩, ⟨t, [script.lines[4]]⟩] ⟨a, [script.lines[6]]⟩ [] rfl
      (by simp) (by simp)
  have hexpand : expand labels " z %l".toList = .ok " z 0xff".toList := by decide +kernel
  have hexpected : Section.annotations ⟨a, [script.lines[6]]⟩ = [" z %l".toList] := rfl
  rw [hexpected] at hshown
  obtain ⟨u, us, hu, hus, rfl⟩ := List.forall₂_cons_left_iff.mp hshown
  obtain rfl := List.forall₂_nil_left_iff.mp hus
  rw [hexpand] at hu
  cases hu
  exact hread

end TraceScript.Writer
