import TraceScript.Command.Run
import TraceScript.Proofs.Command.Status

/-!
# The command and the status agree

The command and `runScript` carry out the same session over a script file, so
they leave the same disk and name the same files (`Command.generate_eq`).  The
command line shows what the command prints; where that is plain, the two print the
same lines.

Where the script can be loaded and its stream's file closed, the exit status
answers to the status (`AnswersTo`): zero to zero, three to the codes of internal
faults and of short memory, one to any other code, and two to a value fault
without a status.  A script that the system does not let be opened has the status
of a file that cannot be opened, and there the command tells two kinds of refusals
apart (`Command.refused`): it exits with two where the file is missing or may not
be read, and with three otherwise.
-/

namespace TraceScript

variable {c : CommandLine} {d : Disk} {o : Order} {args : List Text} {labels : LabelTable}
  {notices : List Notice} {octets : Octets} {outcome : Except Failure Int} {exit : Nat}
  {f : Failure}

/-! ### One session -/

/-- Carrying out an order ends as generating from its script does, with what
the script's report says has been done. -/
theorem Command.generate_eq (c : CommandLine) (d : Disk) (o : Order) (labels : LabelTable)
    (notices : List Notice) (hquiet : o.verbose = false) :
    let report := runScript d o.script labels o.bufferSize
    generate c d o labels notices =
      match generated d o.script labels o.bufferSize with
      | .ok _ => succeed c o report.output (notices ++ report.notices) report.disk
      | .error f => fail c o f report.output (notices ++ report.notices) report.disk := by
  intro report
  have hopening : openingLines o labels = [] := by simp [openingLines, hquiet]
  have hclosing : ∀ s, closingLines o s = [] := fun s => by simp [closingLines, hquiet]
  unfold report generate runScript generated
  cases prepare d o.script labels o.bufferSize with
  | error f => simp [hopening, bind, Except.bind]
  | ok session =>
      simp only [hopening, hclosing, bind, Except.bind, List.nil_append, List.append_nil]
      cases session.run.1 <;> rfl

/-! ### Status and exit status -/

/-- An exit status answers to the outcome of running a script file. -/
inductive AnswersTo : Except Failure Int → Nat → Prop
  | success : AnswersTo (.ok 0) 0
  | internal : AnswersTo (.ok (-1)) 3
  | memory : AnswersTo (.ok (-2)) 3
  | code (code : ErrorCode) (hcode : code.number < -2) : AnswersTo (.ok code.number) 1
  | value (fault : ValueFault) : AnswersTo (.error (.value fault)) 2
  | overflow : AnswersTo (.error .overflow) 3

namespace AnswersTo

/-- The exit status is zero where the status is. -/
theorem zero_iff (h : AnswersTo outcome exit) : outcome = .ok 0 ↔ exit = 0 := by
  cases h with
  | code code hcode =>
      have hne : code.number ≠ 0 := by omega
      simp [hne]
  | _ => simp

/-- The exit status is one where the status is the code of an error of the
script or of a file of the result. -/
theorem one_iff (h : AnswersTo outcome exit) :
    (∃ code : ErrorCode, code.number < -2 ∧ outcome = .ok code.number) ↔ exit = 1 := by
  constructor
  · rintro ⟨code, hcode, houtcome⟩
    cases h with
    | code => rfl
    | success =>
        have hzero : 0 = code.number := Except.ok.inj houtcome
        omega
    | internal =>
        have hminus : -1 = code.number := Except.ok.inj houtcome
        omega
    | memory =>
        have hminus : -2 = code.number := Except.ok.inj houtcome
        omega
    | value | overflow => cases houtcome
  · rintro rfl
    cases h with
    | code code hcode => exact ⟨code, hcode, rfl⟩

/-- The exit status is three where the status is that of an internal fault or
of short memory. -/
theorem three_iff (h : AnswersTo outcome exit) (hne : outcome ≠ .error .overflow) :
    outcome = .ok (-1) ∨ outcome = .ok (-2) ↔ exit = 3 := by
  cases h with
  | code code hcode =>
      have hinternal : code.number ≠ -1 := by omega
      have hmemory : code.number ≠ -2 := by omega
      simp [hinternal, hmemory]
  | overflow => exact absurd rfl hne
  | _ => simp

/-- The exit status is two where a value fault leaves the script without a
status. -/
theorem two_of_error (h : AnswersTo outcome exit) (hne : outcome ≠ .error .overflow)
    (herror : outcome = .error f) : exit = 2 := by
  cases h with
  | value fault => rfl
  | overflow => exact absurd rfl hne
  | _ => cases herror

end AnswersTo

/-- A fault that escapes leaves no status, and the command exits as it does
for faults of that class. -/
theorem Failure.Escapes.answersTo {file : Path} {size : Nat} (h : f.Escapes d file size) :
    AnswersTo (.error f) f.classOf.exit := by
  cases h with
  | bufferSize => exact .overflow
  | _ => exact .value _

/-- Where the script can be loaded and its stream's file closed, the exit status
of a failure answers to its status: no failure of the system is left. -/
theorem Failure.OfGeneration.answersTo {file : Path} {size : Nat}
    (h : f.OfGeneration d file size) (hload : d.load file = .ok octets)
    (hclose : ∀ path attempt, d.faults.closing path attempt = none) :
    AnswersTo (Report.settle f).1 f.classOf.exit := by
  rw [Report.settle_outcome]
  cases h with
  | script e hfound => exact .code e.code hfound.number_lt
  | output op reason => exact .code op.code op.number_lt
  | internal fault => exact .internal
  | unread reason hrefused =>
      rw [hload] at hrefused
      cases hrefused
  | unaffordable hmemory => exact .memory
  | unsealed path reason hrefused =>
      rw [hclose] at hrefused
      cases hrefused
  | escaping _ hescapes =>
      rw [hescapes.status?]
      exact hescapes.answersTo

/-- A buffer that a signed word can count never overflows. -/
theorem outcome_ne_overflow {file : Path} {size : Nat} (hsize : size < 0x8000000000000000) :
    (runScript d file labels size).outcome ≠ .error .overflow := by
  intro hoverflow
  have hlarge := (outcome_overflow_iff.mp hoverflow).1
  omega

/-- The exit status that the system's refusal of a script file comes to. -/
theorem exit_of_refusal (reason : Refusal) (path : Option Path) :
    (Failure.system reason path).classOf.exit =
      if reason = .noSuchFile ∨ reason = .accessDenied then 2 else 3 := by
  cases reason <;> rfl

namespace Command

/-- The command exits as the status of its script says. -/
theorem answersTo_generate (c : CommandLine) (notices : List Notice) (hquiet : o.verbose = false)
    (hload : d.load o.script = .ok octets)
    (hclose : ∀ path attempt, d.faults.closing path attempt = none) :
    AnswersTo (runScript d o.script labels o.bufferSize).outcome
      (generate c d o labels notices).exit := by
  rw [runScript_outcome, generate_eq c d o labels notices hquiet]
  cases hgenerated : generated d o.script labels o.bufferSize with
  | ok files => exact .success
  | error f => exact (ofGeneration_of_generated hgenerated).answersTo hload hclose

/-- A script that holds something and that the system refuses to open: the
status is that of a file that cannot be opened, and the exit status depends on
the refusal. -/
theorem refused {reason : Refusal} (c : CommandLine) (labels : LabelTable)
    (notices : List Notice) (hquiet : o.verbose = false)
    (hread : d.read o.script = .ok octets) (hrefused : d.faults.reading o.script = some reason) :
    (runScript d o.script labels o.bufferSize).outcome = .ok (-3) ∧
      (generate c d o labels notices).exit =
        if reason = .noSuchFile ∨ reason = .accessDenied then 2 else 3 := by
  have htext := Disk.loadText_of_load_error (Disk.load_of_refused hread hrefused)
  have hgenerated : generated d o.script labels o.bufferSize =
      .error (.system reason (some o.script)) := by
    rw [generated, prepare_of_loadText_error htext]
    rfl
  constructor
  · exact outcome_of_status? hgenerated rfl
  · rw [generate_eq c d o labels notices hquiet, hgenerated]
    exact exit_of_refusal reason (some o.script)

/-- **The command and the report of its script agree**, whatever the command line, for
every script file there is, where closing a file is not refused.  They leave the same disk,
and the command prints the same lines as the command line shows them.

The exit status is zero just where the status is.  Where the script can be read, the exit
status is one just for the codes of the script's errors and of refused outputs; and for any
buffer that a signed word can count, it is three just for the codes of internal faults and
of short memory, and two where the script has no status.  Where the system refuses the
script, the status is that of a file that cannot be opened, while the command exits with
two if the file is missing or may not be read, and with three otherwise.

After a script error the command's last line is the report's diagnostic. -/
theorem run_agrees (hplain : c.ShowsPlain) (horder : c.interpret d args = .ok (.run o))
    (hquiet : o.verbose = false) (hscript : d.read o.script = .ok octets)
    (hlabels : readLabels d o = (.ok labels, notices))
    (hclose : ∀ path attempt, d.faults.closing path attempt = none) :
    let report := runScript d o.script labels o.bufferSize
    let log := logLines false (notices ++ report.notices)
    ∃ ending, runOn c d args = .ok ending ∧ ending.disk = report.disk ∧
      ending.output = report.output.map c.output ∧
      ((∀ t ∈ report.output, Text.escape ∉ t) → ending.output = report.output) ∧
      (report.outcome = .ok 0 ↔ ending.exit = 0) ∧
      (d.faults.reading o.script = none →
        ((∃ code : ErrorCode, code.number < -2 ∧ report.outcome = .ok code.number) ↔
          ending.exit = 1) ∧
        (o.bufferSize < 0x8000000000000000 →
          (report.outcome = .ok (-1) ∨ report.outcome = .ok (-2) ↔ ending.exit = 3) ∧
          ∀ f, report.outcome = .error f → ending.exit = 2)) ∧
      (∀ reason, d.faults.reading o.script = some reason →
        report.outcome = .ok (-3) ∧
        ending.exit = if reason = .noSuchFile ∨ reason = .accessDenied then 2 else 3) ∧
      ∀ err, generated d o.script labels o.bufferSize = .error (.script err) →
        report.errors = [err.render] ∧
        ending.errors = log ++ [c.errors err.render] ∧
        (Text.escape ∉ err.render → ending.errors = log ++ report.errors) := by
  intro report log
  have hrun : runOn c d args = .ok (generate c d o labels notices) := by
    simp only [runOn, horder, Except.map, perform, hlabels]
  have houtput : (generate c d o labels notices).output = report.output.map c.output := by
    rw [generate_eq c d o labels notices hquiet]
    split <;> rfl
  refine ⟨_, hrun, ?_, houtput, ?_, ?_, ?_,
    fun reason => refused c labels notices hquiet hscript, ?_⟩
  · rw [generate_eq c d o labels notices hquiet]
    split <;> rfl
  · intro hlines
    calc (generate c d o labels notices).output
        = report.output.map c.output := houtput
      _ = report.output := hplain.map_output hlines
  · cases hrefused : d.faults.reading o.script with
    | none =>
        have hload := Disk.load_eq_ok_iff.mpr ⟨hscript, hrefused⟩
        exact (answersTo_generate c notices hquiet hload hclose).zero_iff
    | some reason =>
        obtain ⟨houtcome, hexit⟩ := refused c labels notices hquiet hscript hrefused
        rw [houtcome, hexit]
        split <;> simp
  · intro hreading
    have hload := Disk.load_eq_ok_iff.mpr ⟨hscript, hreading⟩
    have hanswers : AnswersTo report.outcome (generate c d o labels notices).exit :=
      answersTo_generate c notices hquiet hload hclose
    refine ⟨hanswers.one_iff, fun hsize => ?_⟩
    have hne : report.outcome ≠ .error .overflow := outcome_ne_overflow hsize
    exact ⟨hanswers.three_iff hne, fun f hf => hanswers.two_of_error hne hf⟩
  · intro err hgenerated
    have hreport : report.errors = [err.render] := by
      rw [runScript_errors, hgenerated]
      rfl
    have herrors : (generate c d o labels notices).errors = log ++ [c.errors err.render] := by
      rw [generate_eq c d o labels notices hquiet, hgenerated]
      simp only [fail, hquiet]
      rfl
    refine ⟨hreport, herrors, fun hrender => ?_⟩
    calc (generate c d o labels notices).errors
        = log ++ [c.errors err.render] := herrors
      _ = log ++ [err.render] := by rw [hplain.errors err.render hrender]
      _ = log ++ report.errors := by rw [hreport]

/-- A run that fails at its second checkpoint, with labels of both kinds: both
name the complete file, and both say what is wrong. -/
theorem run_agrees_at_undefined_label :
    let script := "; @pt psb()\n; @pt .exp(a)\n;ok %l0 %l1\n; @pt .exp(b)\n;%nolabel\n".toList
    let d := (Disk.empty.withFile (Path.ofText "t.ptt".toList) (Text.Utf8.encode script)).withFile
      (Path.ofText "t.sym".toList) (Text.Utf8.encode "l0 $1000\n".toList)
    let args := ["-s", "t.sym", "-L", "l1=0x20", "t.ptt"].map String.toList
    let labels : LabelTable := ⟨[("l0".toList, 0x1000), ("l1".toList, 0x20)]⟩
    let report := runScript d (Path.ofText "t.ptt".toList) labels 64
    ∃ ending, runOn .piped d args = .ok ending ∧ ending.disk = report.disk ∧ ending.exit = 1 ∧
      report.outcome = .ok ErrorCode.noLabel.number ∧ ending.output = ["t-a.exp".toList] := by
  intro script d args labels report
  let o : Order :=
    ⟨Path.ofText "t.ptt".toList, [Path.ofText "t.sym".toList], ["l1=0x20".toList], 64, false⟩
  have horder : CommandLine.piped.interpret d args = .ok (.run o) := by
    rfl
  have hscript : d.read o.script = .ok (Text.Utf8.encode script) := by
    decide +kernel
  have hlabels :
      readLabels d o = (.ok labels, [.symbolsLoaded 1 (Path.ofText "t.sym".toList)]) := by
    decide +kernel
  obtain ⟨ending, hrun, hdisk, -, houtput, -, hreadable, -⟩ :=
    run_agrees CommandLine.showsPlain_piped horder rfl hscript hlabels (fun _ _ => rfl)
  have houtcome : report.outcome = .ok ErrorCode.noLabel.number := by decide +kernel
  have hreported : report.output = ["t-a.exp".toList] := by decide +kernel
  have hexit : ending.exit = 1 := (hreadable rfl).1.mp ⟨.noLabel, by decide, houtcome⟩
  have hlines : ending.output = report.output := by
    refine houtput ?_
    change ∀ t ∈ report.output, _
    rw [hreported]
    decide +kernel
  exact ⟨ending, hrun, hdisk, hexit, houtcome, hlines.trans hreported⟩

/-- The agreement goes no further.  A buffer that there is no memory for has a
status of its own, and the command exits with three.  A script that may not be
read has the status of a file that cannot be opened, and the command exits
with two; where too many files are open, it exits with three.  The name of a
file that has a control sequence in it is printed as it is for the report, and
without it where the command's output is no terminal. -/
theorem run_disagrees :
    let file := Path.ofText "t.ptt".toList
    let args := ["t.ptt".toList]
    let blank := Disk.empty.withFile file []
    let starved : Disk := { blank with faults := { Faults.none with memory := 63 } }
    let locked : Disk :=
      { blank with faults := { Faults.none with reading := fun _ => some .accessDenied } }
    let crowded : Disk :=
      { blank with faults := { Faults.none with reading := fun _ => some .tooManyFiles } }
    let coloured := Disk.empty.withFile file (Text.Utf8.encode "; @pt .exp(\x1b[0m)\n".toList)
    (∃ ending, run starved args = .ok ending ∧ ending.exit = 3 ∧
      (runScript starved file LabelTable.empty 64).outcome = .ok ErrorCode.noMemory.number) ∧
    (∃ ending, run locked args = .ok ending ∧ ending.exit = 2 ∧
      (runScript locked file LabelTable.empty 64).outcome = .ok ErrorCode.fileOpen.number) ∧
    (∃ ending, run crowded args = .ok ending ∧ ending.exit = 3 ∧
      (runScript crowded file LabelTable.empty 64).outcome = .ok ErrorCode.fileOpen.number) ∧
    ∃ ending, run coloured args = .ok ending ∧ ending.output = ["t-.exp".toList] ∧
      (runScript coloured file LabelTable.empty 64).output = ["t-\x1b[0m.exp".toList] := by
  intro file args blank starved locked crowded coloured
  let o : Order := ⟨file, [], [], 64, false⟩
  refine ⟨⟨generate .piped starved o LabelTable.empty [], rfl, ?_, ?_⟩,
    ⟨generate .piped locked o LabelTable.empty [], rfl, ?_, ?_⟩,
    ⟨generate .piped crowded o LabelTable.empty [], rfl, ?_, ?_⟩,
    ⟨generate .piped coloured o LabelTable.empty [], rfl, ?_, ?_⟩⟩ <;>
    decide +kernel

end Command
end TraceScript
