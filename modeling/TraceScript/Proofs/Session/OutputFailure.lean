import TraceScript.Proofs.Error.Refusal

/-!
# Output failures of a session

What a session asks of the system for the files that it makes is `Session.Asks`:
the stream's file is opened, written packet by packet and closed, and then come
the files of expected output.  Each refusal ends the session with an output
error that names the file, and nothing else ends it with an output error or an
error of the system, where the stream's file can be closed (`run_refused`,
`run_refusal_asked`).  If that closing is refused, the session ends with the bare
error of the system, whatever the first pass has come to
(`run_of_refused_closing`).
-/

namespace TraceScript.Session

open FileOperation

variable {σ : Type} {disk : Disk} {script : Script} {assembly : LabelTable} {e : Encoder σ}
  {state : σ} {f : Failure} {d : Disk} {op : FileOperation} {reason : Refusal}

variable (disk script assembly e state) in
/-- What a session asks of the system for its files, and of which disk.  A
pass that ends early asks no more; what is closed and removed after a failure
is not counted, since no answer to that is heard. -/
inductive Asks : Disk → FileOperation → Prop
  | openStream : Asks disk (.opening script.streamPath)
  | writeStream {made rest : List ScriptLine} {line : ScriptLine} {r : Recording σ} {offset : Nat}
      {name : Text} {label : Option Text} {octets : Octets}
      (hlines : script.directiveLines = made ++ line :: rest)
      (hmade : Handled disk script assembly e state made (.ok false) r)
      (hline : (r.stream.dispatchLine e line).1 = .ok (.packet offset name label octets)) :
      Asks r.disk (.writing r.handle octets)
  | closeStream {result : Except Failure Bool} {r : Recording σ}
      (hall : Handled disk script assembly e state script.directiveLines result r) :
      Asks r.disk (.closing r.handle)
  | expectation {before after : List ScriptLine} {line : ScriptLine} {s : Session σ} {w : Writer}
      {d : Disk} {op : FileOperation}
      (hpass : firstPass disk script assembly e state = (.ok true, s))
      (hlines : script.lines = before ++ line :: after)
      (hbefore : Writer.takeAll script s.stream.labels before (Writer.start s.disk) = (.ok (), w))
      (hline : Writer.Asks script s.stream.labels w line d op) : Asks d op
  | closeExpectation {s : Session σ} {w : Writer} {h : Handle}
      (hpass : firstPass disk script assembly e state = (.ok true, s))
      (hall : Writer.takeAll script s.stream.labels script.lines (Writer.start s.disk) =
        (.ok (), w))
      (hfile : w.file = some h) :
      Asks w.disk (.closing h)

/-- The files of a session are the stream's and those of expected output. -/
theorem Asks.path_eq (h : Asks disk script assembly e state d op) :
    op.path = script.streamPath ∨ ∃ extra, op.path = script.expectationPath extra := by
  cases h with
  | openStream => exact .inl rfl
  | writeStream hlines hmade hline => exact .inl hmade.keeps.1
  | closeStream hall => exact .inl hall.keeps.1
  | expectation hpass hlines hbefore hline => exact .inr (hline.path_eq hbefore)
  | closeExpectation hpass hall hfile => exact .inr (Writer.path_of_takeAll hall hfile)

/-! ### Refusals end a session -/

/-- If the stream's file cannot be closed, that is the end of the session,
whatever has become of the directives. -/
theorem run_of_refused_closing {result : Except Failure Bool} {r : Recording σ}
    (hall : Handled disk script assembly e state script.directiveLines result r)
    (hclose : disk.faults.closing script.streamPath disk.attempts = some reason) :
    (start disk script assembly e state).run.1 = .error (.system reason none) := by
  obtain ⟨s, hpass, -⟩ := hall.firstPass
  rw [hclose] at hpass
  exact run_eq_error_iff.mpr (.inl (by rw [hpass]; rfl))

/-- If it can be closed, the failure of a directive is that of the session. -/
theorem run_of_handled_error {r : Recording σ}
    (hclose : disk.faults.closing script.streamPath disk.attempts = none)
    (hall : Handled disk script assembly e state script.directiveLines (.error f) r) :
    (start disk script assembly e state).run.1 = .error f := by
  obtain ⟨s, hpass, -⟩ := hall.firstPass
  rw [hclose] at hpass
  exact run_eq_error_iff.mpr (.inl (by rw [hpass]; rfl))

/-- A line that fails behind handled lines ends the first pass. -/
theorem Handled.append_error {made : List ScriptLine} {line : ScriptLine} {r : Recording σ}
    (hmade : Handled disk script assembly e state made (.ok false) r) (rest : List ScriptLine)
    (hfails : (r.take e line).1 = .error f) :
    ∃ r', Handled disk script assembly e state (made ++ line :: rest) (.error f) r' := by
  have hrow := hmade.append (line :: rest)
  cases htake : r.take e line with
  | mk answer r' =>
    rw [htake] at hfails
    obtain rfl : answer = .error f := hfails
    have hends : Recording.takeAll e (line :: rest) r = (.error f, r') := by
      rw [Recording.takeAll, htake]
    rw [hends] at hrow
    exact ⟨r', hrow⟩

/-- What is asked for and refused ends the session with its own failure.
Where the refusal is in the first pass, closing the file of the stream must
not be refused as well, since that failure would take its place. -/
theorem run_of_refused (hclose : disk.faults.closing script.streamPath disk.attempts = none)
    (h : Asks disk script assembly e state d op) (hrefused : op.refusal? d = some reason) :
    (start disk script assembly e state).run.1 = .error (op.failure reason) := by
  cases h with
  | openStream =>
      have hcreate := create_of_refusal hrefused
      obtain ⟨error, opened, s, hfailed, hpass⟩ | ⟨result, r, handle, opened, hopened, -⟩ :=
        firstPass_cases disk script assembly e state
      · rw [hfailed] at hcreate
        cases hcreate
        exact run_eq_error_iff.mpr (.inl (by rw [hpass]; rfl))
      · rw [hopened] at hcreate
        cases hcreate
  | @writeStream made rest line r _ _ _ _ hlines hmade hline =>
      obtain ⟨r', hall⟩ := hmade.append_error rest (Recording.take_of_refused hline hrefused)
      rw [← hlines] at hall
      exact run_of_handled_error hclose hall
  | closeStream hall =>
      rw [refusal?, hall.close, hclose] at hrefused
      cases hrefused
  | expectation hpass hlines hbefore hline =>
      rw [run_of_firstPass hpass]
      exact Writer.run_of_take_error hlines hbefore (Writer.take_of_refused hline hrefused)
  | closeExpectation hpass hall hfile =>
      rw [run_of_firstPass hpass]
      exact Writer.run_of_close_error hall
        (Writer.close_error_iff.mpr ⟨_, reason, hfile, hrefused, rfl⟩)

/-! ### Every output failure is such a refusal -/

/-- A first pass that the system ends is ended by a refused operation on the
stream's file. -/
theorem asked_of_firstPass_error
    (hclose : disk.faults.closing script.streamPath disk.attempts = none)
    (h : (firstPass disk script assembly e state).1 = .error f) (hf : f.OfSystem) :
    ∃ d op reason, Asks disk script assembly e state d op ∧ op.refusal? d = some reason ∧
      f = op.failure reason := by
  obtain ⟨error, hcreate, hopen⟩ | ⟨reason, hrefused, -⟩ | ⟨made, line, rest, r, hlines, hmade,
    hfails⟩ := firstPass_error_cases h
  · cases error with
    | nullByte =>
        rw [hopen] at hf
        exact hf.elim
    | refused reason =>
        have hrefused : (opening script.streamPath).refusal? disk = some reason := by
          rw [refusal?, hcreate]
        exact ⟨disk, _, reason, .openStream, hrefused, hopen⟩
  · rw [hclose] at hrefused
    cases hrefused
  · obtain hdispatch | ⟨offset, name, label, octets, reason, hline, hrefused, hfailure⟩ :=
      Recording.take_error_cases hfails
    · exact absurd hf (r.stream.located_dispatchLine e line f hdispatch).not_ofSystem
    · exact ⟨r.disk, _, reason, .writeStream hlines hmade hline, hrefused, hfailure⟩

/-- A second pass that the system ends is ended by a refused operation on a
file of expected output. -/
theorem asked_of_secondPass_error {s : Session σ}
    (hpass : Session.firstPass disk script assembly e state = (.ok true, s))
    (h : (Writer.run s.disk script s.stream.labels).1 = .error f) (hf : f.OfSystem) :
    ∃ d op reason, Asks disk script assembly e state d op ∧ op.refusal? d = some reason ∧
      f = op.failure reason := by
  obtain ⟨before, line, after, w, hlines, hbefore, hfails⟩ | ⟨w, hall, hclose⟩ :=
    Writer.run_error_cases h
  · obtain hline | ⟨_, -, hname, -⟩ | ⟨d, op, reason, hasks, hrefused, hfailure⟩ :=
      Writer.take_error_cases hfails
    · exact absurd hf hline.not_ofSystem
    · rw [hname] at hf
      exact hf.elim
    · exact ⟨d, op, reason, .expectation hpass hlines hbefore hasks, hrefused, hfailure⟩
  · obtain ⟨handle, reason, hfile, hrefused, hfailure⟩ := Writer.close_error_iff.mp hclose
    exact ⟨w.disk, _, reason, .closeExpectation hpass hall hfile, hrefused, hfailure⟩

/-- Where the stream's file can be closed, output failures are output errors.  Each
operation that is refused ends the session with the output error of its file and
kind; the session ends with an output error, or with a bare error of the system,
only as the output error of such an operation, on the stream's file or one of
expected output; and what fails in the first pass is what the session fails with.

Where it cannot be closed, the session ends with the bare error of the system,
even if a directive has failed before. -/
theorem run_output_failures (disk : Disk) (script : Script) (assembly : LabelTable)
    (e : Encoder σ) (state : σ) :
    (disk.faults.closing script.streamPath disk.attempts = none →
      (∀ d op reason, Asks disk script assembly e state d op → op.refusal? d = some reason →
        (start disk script assembly e state).run.1 = .error (op.failure reason)) ∧
      (∀ f, (start disk script assembly e state).run.1 = .error f → f.OfSystem →
        ∃ d op reason, Asks disk script assembly e state d op ∧ op.refusal? d = some reason ∧
          (op.path = script.streamPath ∨ ∃ extra, op.path = script.expectationPath extra) ∧
          f = op.failure reason) ∧
      ∀ f r, Handled disk script assembly e state script.directiveLines (.error f) r →
        (start disk script assembly e state).run.1 = .error f) ∧
    ∀ reason, disk.faults.closing script.streamPath disk.attempts = some reason →
      ∀ result r, Handled disk script assembly e state script.directiveLines result r →
        (start disk script assembly e state).run.1 = .error (.system reason none) := by
  refine ⟨fun hclose => ⟨?_, ?_, ?_⟩, ?_⟩
  · intro d op reason hasks hrefused
    exact run_of_refused hclose hasks hrefused
  · intro f hanswer hf
    obtain ⟨d, op, reason, hasks, hrefused, hfailure⟩ :
        ∃ d op reason, Asks disk script assembly e state d op ∧ op.refusal? d = some reason ∧
          f = op.failure reason := by
      obtain hfirst | ⟨s, hfirst, hsecond⟩ := run_eq_error_iff.mp hanswer
      · exact asked_of_firstPass_error hclose hfirst hf
      · exact asked_of_secondPass_error hfirst hsecond hf
    exact ⟨d, op, reason, hasks, hrefused, hasks.path_eq, hfailure⟩
  · intro f r hall
    exact run_of_handled_error hclose hall
  · intro reason hclose result r hall
    exact run_of_refused_closing hall hclose

/-- A stream's file whose second packet is refused, and a file of expected
output that cannot be closed. -/
theorem run_output_failures_refused :
    let script := Script.ofText "t.asm".toList "t".toList
      "; @pt p: pad()\n; @pt pad()\n; @pt .exp\n; x %p".toList
    let t := Path.ofText "t.exp".toList
    let second : Path → Nat → Nat → Option Refusal :=
      fun _ _ n => if n = 2 then some .noSpace else none
    let expected : Path → Nat → Option Refusal := fun p _ => if p = t then some .noSpace else none
    let unwritable : Disk := { Disk.empty with faults := { Faults.none with writing := second } }
    let unclosable : Disk := { Disk.empty with faults := { Faults.none with closing := expected } }
    let run (disk : Disk) := (start disk script LabelTable.empty ptEncoder (Scratch.zeros 8)).run.1
    run unwritable =
        .error (.output ⟨"t.pt".toList, "No space left on device".toList, .fileWrite⟩) ∧
      ∃ d op reason, Asks unclosable script LabelTable.empty ptEncoder (Scratch.zeros 8) d op ∧
        op.refusal? d = some reason ∧ run unclosable = .error (op.failure reason) := by
  intro script t second expected unwritable unclosable run
  have hreach : unwritable.reach script.streamPath = .ok script.streamPath := by decide +kernel
  have hcreate := Disk.create_of_reach hreach rfl
  let line := ScriptLine.ofText "t.asm".toList 2 "; @pt pad()".toList
  have hlines : script.directiveLines =
      script.directiveLines.take 1 ++ line :: script.directiveLines.drop 2 := by decide +kernel
  -- the first packet is written, and the second is refused
  obtain ⟨r, hmade, hline, hrefused⟩ : ∃ r,
      Handled unwritable script LabelTable.empty ptEncoder (Scratch.zeros 8)
        (script.directiveLines.take 1) (.ok false) r ∧
      (r.stream.dispatchLine ptEncoder line).1 = .ok (.packet 1 "pad".toList none [0]) ∧
      (writing r.handle [0]).refusal? r.disk = some .noSpace :=
    ⟨_, handled_of_create hcreate (by decide +kernel), by decide +kernel, by decide +kernel⟩
  obtain ⟨hunwritable, -⟩ :=
    run_output_failures unwritable script LabelTable.empty ptEncoder (Scratch.zeros 8)
  obtain ⟨hunclosable, -⟩ :=
    run_output_failures unclosable script LabelTable.empty ptEncoder (Scratch.zeros 8)
  have hanswer : run unclosable = .error
      (.output ⟨"t.exp".toList, "No space left on device".toList, .fileWrite⟩) := by
    decide +kernel
  obtain ⟨d, op, reason, hasks, hrefusal, -, hfailure⟩ :=
    (hunclosable (by decide +kernel)).2.1 _ hanswer trivial
  have hwritten := (hunwritable rfl).1 _ _ _ (.writeStream hlines hmade hline) hrefused
  have hpath : r.handle.path = script.streamPath := hmade.keeps.1
  have hfile : (writing r.handle [0]).failure .noSpace =
      .output ⟨script.streamPath.text, "No space left on device".toList, .fileWrite⟩ := by
    rw [← hpath]
    rfl
  have htext : script.streamPath.text = "t.pt".toList := by decide +kernel
  rw [hfile, htext] at hwritten
  exact ⟨hwritten, d, op, reason, hasks, hrefusal, hfailure ▸ hanswer⟩

/-- A stream's file that cannot be closed: the bare error of the system is
what the session ends with, also where a directive has failed. -/
theorem run_refused_closing_escapes :
    let sound := Script.ofText "t.asm".toList "t".toList "; @pt pad()".toList
    let broken := Script.ofText "t.asm".toList "t".toList "; @pt nothing()".toList
    let disk : Disk :=
      { Disk.empty with faults := { Faults.none with closing := fun _ _ => some .noSpace } }
    let run (script : Script) :=
      (start disk script LabelTable.empty ptEncoder (Scratch.zeros 8)).run.1
    (∃ d op, Asks disk sound LabelTable.empty ptEncoder (Scratch.zeros 8) d op ∧
      op.refusal? d = some .noSpace ∧ run sound = .error (.system .noSpace none)) ∧
    ∃ err r, Handled disk broken LabelTable.empty ptEncoder (Scratch.zeros 8)
        broken.directiveLines (.error (.script err)) r ∧
      run broken = .error (.system .noSpace none) := by
  intro sound broken disk run
  have hreach : disk.reach sound.streamPath = .ok sound.streamPath := by decide +kernel
  have hcreate := Disk.create_of_reach hreach rfl
  constructor
  · obtain ⟨r, hall⟩ : ∃ r, Handled disk sound LabelTable.empty ptEncoder (Scratch.zeros 8)
        sound.directiveLines (.ok false) r :=
      ⟨_, handled_of_create hcreate (by decide +kernel)⟩
    have hrefused : (closing r.handle).refusal? r.disk = some .noSpace := hall.close
    exact ⟨r.disk, _, .closeStream hall, hrefused, run_of_refused_closing hall rfl⟩
  · obtain ⟨r, hall⟩ : ∃ r, Handled disk broken LabelTable.empty ptEncoder (Scratch.zeros 8)
        broken.directiveLines
        (.error (Directive.fault (ScriptLine.ofText "t.asm".toList 1 "; @pt nothing()".toList)
          (.unknownDirective "nothing".toList))) r :=
      ⟨_, handled_of_create hcreate (by decide +kernel)⟩
    exact ⟨_, r, hall, run_of_refused_closing hall rfl⟩

end TraceScript.Session
