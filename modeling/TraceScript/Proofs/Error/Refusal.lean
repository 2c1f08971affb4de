import TraceScript.Proofs.Error.Placement
import TraceScript.Proofs.Expectation.Course
import TraceScript.Proofs.Session.Course

/-!
# Refused operations on files

What a pass asks of the system for the files of a result: to open one, to write
to it, to close it (`FileOperation`).  The failure that answers a refusal names
the file and tells an opening from a writing or closing.

A line of the first pass asks for one writing if it makes a packet, and fails
with what the dispatch fails with or with that writing's refusal
(`Recording.take_error_cases`).  A line of the second pass asks for what
`Writer.Asks` says, and fails as a line of a script or with one of those
refusals (`Writer.take_error_cases`).
-/

namespace TraceScript

/-- What is asked of the system for a file of the result. -/
inductive FileOperation
  | opening (path : Path)
  | writing (h : Handle) (octets : Octets)
  | closing (h : Handle)

namespace FileOperation

/-- The file that is operated on. -/
def path : FileOperation → Path
  | opening path => path
  | writing h _ => h.path
  | closing h => h.path

/-- The code of a refusal. -/
def code : FileOperation → ErrorCode
  | opening _ => .fileOpen
  | writing _ _ => .fileWrite
  | closing _ => .fileWrite

/-- Why the system refuses, if it does. -/
def refusal? (d : Disk) : FileOperation → Option Refusal
  | opening path =>
      match (d.create path).1 with
      | .error (.refused reason) => some reason
      | _ => none
  | writing h octets => (d.write h octets).1
  | closing h => (d.close h).1

/-- The failure of a refused operation. -/
def failure (op : FileOperation) (reason : Refusal) : Failure :=
  .output ⟨op.path.text, reason.text, op.code⟩

/-- An opening that is refused is a file that is not created. -/
theorem create_of_refusal {d : Disk} {p : Path} {reason : Refusal}
    (h : (opening p).refusal? d = some reason) : (d.create p).1 = .error (.refused reason) := by
  simp only [refusal?] at h
  split at h
  · rename_i hcreate
    rw [hcreate, Option.some.inj h]
  · cases h

end FileOperation

open FileOperation

/-- A failure that the system is at fault for, as an output error or bare. -/
def Failure.OfSystem : Failure → Prop
  | .output _ => True
  | .system _ _ => True
  | _ => False

/-- What a line fails with by itself is no fault of the system, so the two
kinds of failures can be told apart. -/
theorem Failure.OfLine.not_ofSystem {line : ScriptLine} {f : Failure} (h : f.OfLine line) :
    ¬ f.OfSystem := by
  cases h with
  | placed => exact id
  | longDecimal => exact id
  | fault => exact id

/-! ### Lines of the first pass -/

namespace Recording

variable {σ : Type} {e : Encoder σ} {r : Recording σ} {line : ScriptLine} {f : Failure}

/-- The answer to a line is that of the dispatch and of the writing.  The
write is asked for on the disk as it was before the line, since dispatching
touches no file. -/
theorem take_answer (e : Encoder σ) (r : Recording σ) (line : ScriptLine) :
    (r.take e line).1 =
      match (r.stream.dispatchLine e line).1 with
      | .error f => .error f
      | .ok (.finished _) => .ok true
      | .ok (.packet _ _ _ octets) =>
          match (writing r.handle octets).refusal? r.disk with
          | some reason => .error ((writing r.handle octets).failure reason)
          | none => .ok false := by
  rw [take_eq]
  cases hline : r.stream.dispatchLine e line with
  | mk answer stream =>
    cases answer with
    | error f => rfl
    | ok emission =>
        cases emission with
        | finished offset => rfl
        | packet offset name label octets =>
            simp only
            obtain ⟨reason, hrefused, hstore⟩ | ⟨hwritten, hstore⟩ :=
              Recording.store_cases ⟨stream, r.handle, r.disk, r.notices ++
                (Emission.packet offset name label octets).notices⟩ offset name label octets
            · simp only [refusal?, hrefused, hstore]
              rfl
            · simp only [refusal?, hwritten, hstore]

/-- What is asked for and refused fails the line.  An opening is asked for
only once the closing before it has succeeded. -/
theorem take_of_refused {offset : Nat} {name : Text} {label : Option Text} {octets : Octets}
    {reason : Refusal}
    (hline : (r.stream.dispatchLine e line).1 = .ok (.packet offset name label octets))
    (hrefused : (writing r.handle octets).refusal? r.disk = some reason) :
    (r.take e line).1 = .error ((writing r.handle octets).failure reason) := by
  simp only [take_answer, hline, hrefused]

/-- A line fails as it is dispatched, or because its packet is refused.  In the
second case the line itself was fine, and the failure is that of the disk. -/
theorem take_error_cases (h : (r.take e line).1 = .error f) :
    (r.stream.dispatchLine e line).1 = .error f ∨
    ∃ offset name label octets reason,
      (r.stream.dispatchLine e line).1 = .ok (.packet offset name label octets) ∧
      (writing r.handle octets).refusal? r.disk = some reason ∧
      f = (writing r.handle octets).failure reason := by
  rw [take_answer] at h
  split at h
  · rename_i hline
    cases h
    exact .inl hline
  · cases h
  · rename_i offset name label octets hline
    split at h
    · rename_i reason hrefused
      exact .inr ⟨offset, name, label, octets, reason, hline, hrefused, (Except.error.inj h).symm⟩
    · cases h

end Recording

/-! ### Lines of the second pass -/

/-- The expected text of a line stands on the line. -/
theorem ScriptLine.holds_of_expected? {t : Text} (line : ScriptLine)
    (h : line.expected? = some t) : line.Holds t := by
  unfold expected? at h
  split at h
  · cases h
  · exact .inl (infix_of_annotation? h)

namespace Writer

variable {script : Script} {labels : Labels} {w w' : Writer} {line : ScriptLine} {f : Failure}
  {reason : Refusal}

/-- Closing fails just if the open file cannot be closed. -/
theorem close_error_iff :
    w.close.1 = .error f ↔
      ∃ h reason, w.file = some h ∧ (closing h).refusal? w.disk = some reason ∧
        f = (closing h).failure reason := by
  cases hfile : w.file with
  | none => simp [close, hfile]
  | some h =>
      rw [close_eq hfile]
      cases hclose : (w.disk.close h).1 with
      | none => simp [refusal?, hclose]
      | some reason =>
          simp [refusal?, hclose, FileOperation.failure, Failure.ofRefusedWrite, path, code,
            eq_comm]

/-- What the handling of a line asks for, and of which disk: a checkpoint
closes the file being written, and then opens its own; a line with expected
text is written to the file. -/
inductive Asks (script : Script) (labels : Labels) (w : Writer) (line : ScriptLine) :
    Disk → FileOperation → Prop
  | closing {path : Path} {h : Handle} (hline : script.checkpoint? line = some path)
      (hfile : w.file = some h) : Asks script labels w line w.disk (.closing h)
  | opening {path : Path} {closed : Writer} (hline : script.checkpoint? line = some path)
      (hclose : w.close = (.ok (), closed)) :
      Asks script labels w line closed.disk (.opening path)
  | writing {t shown : Text} {h : Handle} (hcurrent : w.current.isSome = true)
      (hline : line.expected? = some t) (hexpand : expand labels t = .ok shown)
      (hfile : w.file = some h) :
      Asks script labels w line w.disk (.writing h (Text.Utf8.encode (shown ++ ['\n'])))

/-- A checkpoint closes one file and opens another.  Taking the name off the
list stands between the two, and cannot fail. -/
theorem take_checkpoint {path : Path} (hline : script.checkpoint? line = some path) :
    (w.take script labels line).1 =
      match w.close with
      | (.error f, _) => .error f
      | (.ok (), closed) => ((closed.reuse path).openFile path).1.map fun _ => () := by
  unfold Script.checkpoint? at hline
  split at hline
  · cases hline
  · rename_i text hdirective
    split at hline
    · cases hline
    · rename_i d hsplit
      split at hline
      · rename_i hterminator
        cases hline
        simp only [take, takeDirective, hdirective, hsplit, hterminator, if_true, checkpoint]
        cases w.close with
        | mk answer closed =>
          cases answer with
          | error f => rfl
          | ok u =>
              simp only
              cases (closed.reuse (script.expectationPath d.payload)).openFile
                (script.expectationPath d.payload) with
              | mk opened w' => cases opened <;> rfl
      · cases hline

/-- Inside a section, an expected text is expanded and written.  The text is
expanded with the line for a context, so what is wrong with it is placed on
the line. -/
theorem take_expected {t : Text} (hcurrent : w.current.isSome = true)
    (hline : line.expected? = some t) :
    (w.take script labels line).1 =
      match inContext line.context (expand labels t) with
      | .error f => .error f
      | .ok shown => (w.writeLine shown).1 := by
  unfold ScriptLine.expected? at hline
  split at hline
  · cases hline
  · rename_i hdirective
    have hnone : w.current.isNone = false := by
      cases hw : w.current <;> simp_all
    simp only [take, takeComment, hdirective, hnone, hline]
    cases inContext line.context (expand labels t) <;> rfl

/-- Any other line changes nothing, or is refused at its own place.  A
directive may be misread also where nothing is written for it. -/
theorem take_other (hcheckpoint : script.checkpoint? line = none)
    (hexpected : w.current.isSome = true → line.expected? = none) :
    Located line (w.take script labels line).1 := by
  unfold take
  split
  · rename_i text hdirective
    unfold takeDirective
    split
    · rename_i hsplit
      exact located_error (Directive.located_split text _ hsplit)
    split
    · rename_i d hsplit hterminator
      simp [Script.checkpoint?, hdirective, hsplit, hterminator] at hcheckpoint
    · exact located_ok ()
  · rename_i hdirective
    unfold takeComment
    split
    · exact located_ok ()
    · rename_i hcurrent
      have hnone := hexpected (by cases hw : w.current <;> simp_all)
      simp only [ScriptLine.expected?, hdirective] at hnone
      rw [hnone]
      exact located_ok ()

/-- Taking a name off the list changes no file. -/
theorem disk_reuse (w : Writer) (path : Path) : (w.reuse path).disk = w.disk := by
  unfold reuse
  split <;> rfl

/-- A file is opened, under the name that was asked for, just if the disk
creates it. -/
theorem openFile_answer (w : Writer) (path : Path) :
    (w.openFile path).1 =
      ((w.disk.create path).1.mapError (.ofOpenError path)).map fun _ => path := by
  unfold openFile
  cases w.disk.create path with
  | mk answer disk => cases answer <;> rfl

/-- A text is written to the open file, or refused. -/
theorem writeLine_answer {h : Handle} (t : Text) (hfile : w.file = some h) :
    (w.writeLine t).1 =
      match (writing h (Text.Utf8.encode (t ++ ['\n']))).refusal? w.disk with
      | some reason =>
          .error ((writing h (Text.Utf8.encode (t ++ ['\n']))).failure reason)
      | none => .ok () := by
  rw [writeLine, hfile]
  obtain ⟨reason, -, hwrite⟩ | hwrite := w.disk.write_cases h (Text.Utf8.encode (t ++ ['\n']))
  · simp only [refusal?, hwrite]
    rfl
  · simp only [refusal?, hwrite]

/-- What is asked for and refused fails the line. -/
theorem take_of_refused {d : Disk} {op : FileOperation} (h : Asks script labels w line d op)
    (hrefused : op.refusal? d = some reason) :
    (w.take script labels line).1 = .error (op.failure reason) := by
  cases h with
  | closing hline hfile =>
      have hclose := close_error_iff.mpr ⟨_, reason, hfile, hrefused, rfl⟩
      rw [take_checkpoint hline]
      cases hw : w.close with
      | mk answer closed =>
        rw [hw] at hclose
        obtain rfl : answer = _ := hclose
        rfl
  | @opening path closed hline hclose =>
      rw [take_checkpoint hline, hclose]
      simp only [openFile_answer, disk_reuse, create_of_refusal hrefused]
      rfl
  | writing hcurrent hline hexpand hfile =>
      rw [take_expected hcurrent hline, hexpand]
      simp only [inContext, writeLine_answer _ hfile, hrefused]

/-- A checkpoint fails because a file is refused, or its name is none that a
file can have. -/
theorem take_checkpoint_error_cases {path : Path} (hline : script.checkpoint? line = some path)
    (h : (w.take script labels line).1 = .error f) :
    (f = .value .nullByte ∧ path.text.contains '\x00' = true) ∨
    ∃ d op reason, Asks script labels w line d op ∧ op.refusal? d = some reason ∧
      f = op.failure reason := by
  rw [take_checkpoint hline] at h
  -- a checkpoint closes before it opens, so a refused close hides the open
  cases hclose : w.close with
  | mk answer closed =>
    rw [hclose] at h
    cases answer with
    | error g =>
        obtain rfl : g = f := Except.error.inj h
        obtain ⟨handle, reason, hfile, hrefused, hf⟩ :=
          close_error_iff.mp (congrArg Prod.fst hclose)
        exact .inr ⟨_, _, reason, .closing hline hfile, hrefused, hf⟩
    | ok u =>
        simp only [openFile_answer, disk_reuse] at h
        cases hcreate : (closed.disk.create path).1 with
        | ok handle =>
            rw [hcreate] at h
            cases h
        | error error =>
            rw [hcreate] at h
            cases h
            cases error with
            | nullByte =>
                have hreach := Disk.reach_of_create_nullByte hcreate
                exact .inl ⟨rfl, Disk.contains_of_reach_nullByte hreach⟩
            | refused reason =>
                have hrefused : (opening path).refusal? closed.disk = some reason := by
                  rw [refusal?, hcreate]
                exact .inr ⟨_, _, reason, .opening hline hclose, hrefused, rfl⟩

/-- An expected text fails because it cannot be expanded, or is refused.
Nothing is written of a text that cannot be expanded. -/
theorem take_expected_error_cases {t : Text} (hcurrent : w.current.isSome = true)
    (hline : line.expected? = some t) (h : (w.take script labels line).1 = .error f) :
    f.OfLine line ∨
    ∃ d op reason, Asks script labels w line d op ∧ op.refusal? d = some reason ∧
      f = op.failure reason := by
  rw [take_expected hcurrent hline] at h
  cases hexpand : expand labels t with
  | error g =>
      rw [hexpand] at h
      cases h
      have hbare := (reading_expand labels t g hexpand).bare
      exact .inl (hbare.ofLine (line.holds_of_expected? hline) [])
  | ok shown =>
      rw [hexpand] at h
      simp only [inContext] at h
      cases hfile : w.file with
      | none =>
          rw [writeLine, hfile] at h
          cases h
      | some handle =>
          rw [writeLine_answer shown hfile] at h
          split at h
          · rename_i reason hrefused
            exact .inr ⟨_, _, reason, .writing hcurrent hline hexpand hfile, hrefused,
              (Except.error.inj h).symm⟩
          · cases h

/-- A line fails as a line of a script, or because a name is none that a file
can have, or because something it asks for is refused. -/
theorem take_error_cases (h : (w.take script labels line).1 = .error f) :
    f.OfLine line ∨
    (∃ path, script.checkpoint? line = some path ∧ f = .value .nullByte ∧
      path.text.contains '\x00' = true) ∨
    ∃ d op reason, Asks script labels w line d op ∧ op.refusal? d = some reason ∧
      f = op.failure reason := by
  cases hcheckpoint : script.checkpoint? line with
  | some path =>
      obtain hname | hrefused := take_checkpoint_error_cases hcheckpoint h
      · exact .inr (.inl ⟨path, rfl, hname⟩)
      · exact .inr (.inr hrefused)
  | none =>
      cases hcurrent : w.current.isSome with
      | false =>
          have hnone : w.current.isSome = true → line.expected? = none := by simp [hcurrent]
          exact .inl (take_other hcheckpoint hnone f h)
      | true =>
          cases hexpected : line.expected? with
          | none => exact .inl (take_other hcheckpoint (fun _ => hexpected) f h)
          | some t =>
              obtain hline | hrefused := take_expected_error_cases hcurrent hexpected h
              · exact .inl hline
              · exact .inr (.inr hrefused)

/-! ### Whole second passes -/

variable {disk : Disk} {before after : List ScriptLine}

/-- A line that fails behind handled lines fails the pass.  The lines behind
it are not looked at, and what was open is discarded. -/
theorem run_of_take_error (hlines : script.lines = before ++ line :: after)
    (hbefore : takeAll script labels before (start disk) = (.ok (), w))
    (hfails : (w.take script labels line).1 = .error f) :
    (run disk script labels).1 = .error f := by
  have hall : (takeAll script labels script.lines (start disk)).1 = .error f := by
    rw [hlines, takeAll_append, hbefore]
    simp only [takeAll]
    cases htake : w.take script labels line with
    | mk answer w' =>
      rw [htake] at hfails
      obtain rfl : answer = .error f := hfails
      rfl
  rw [run]
  cases htake : takeAll script labels script.lines (start disk) with
  | mk answer w' =>
    rw [htake] at hall
    obtain rfl : answer = .error f := hall
    rfl

/-- A closing that is refused behind all lines fails the pass. -/
theorem run_of_close_error (hall : takeAll script labels script.lines (start disk) = (.ok (), w))
    (hfails : w.close.1 = .error f) : (run disk script labels).1 = .error f := by
  rw [run, hall]
  cases hclose : w.close with
  | mk answer w' =>
    rw [hclose] at hfails
    obtain rfl : answer = .error f := hfails
    simp only [hclose]

/-- A second pass fails on a line behind handled lines, or as it is closed
behind all of them. -/
theorem run_error_cases (h : (run disk script labels).1 = .error f) :
    (∃ before line after w, script.lines = before ++ line :: after ∧
      takeAll script labels before (start disk) = (.ok (), w) ∧
      (w.take script labels line).1 = .error f) ∨
    (∃ w, takeAll script labels script.lines (start disk) = (.ok (), w) ∧
      w.close.1 = .error f) := by
  cases hrun : run disk script labels with
  | mk result w' =>
    rw [hrun] at h
    obtain rfl : result = .error f := h
    obtain ⟨before, rest, w, ws, hlines, hbefore, hstrikes, -, -⟩ := struck_of_run hrun
    cases rest with
    | nil =>
        have hclose : w.close = (.error f, ws) := hstrikes
        rw [List.append_nil] at hlines
        exact .inr ⟨w, by rw [hlines, hbefore], by rw [hclose]⟩
    | cons line after =>
        have htake : w.take script labels line = (.error f, ws) := hstrikes
        exact .inl ⟨before, line, after, w, hlines, hbefore, by rw [htake]⟩

/-- An open file is that of a checkpoint.  Every opening is that of a
checkpoint among the lines, and a file stays in hand until the next. -/
theorem path_of_takeAll {h : Handle}
    (hbefore : takeAll script labels before (start disk) = (.ok (), w)) (hfile : w.file = some h) :
    ∃ extra, h.path = script.expectationPath extra := by
  have hstart : At disk labels (script.sectionsOf []) (start disk) :=
    .inl ⟨rfl, between_start disk labels⟩
  obtain ⟨_, _, _, _, f, w', -, -, -, hall, -⟩ | ⟨w', hall, hat⟩ := takeAll_cases before hstart
  · rw [hall] at hbefore
    cases hbefore
  · obtain rfl : w' = w := congrArg Prod.snd (hall.symm.trans hbefore)
    obtain ⟨-, hw⟩ | ⟨done, last, hsections, hw⟩ := hat
    · rw [hw.file] at hfile
      cases hfile
    · obtain ⟨h', -, hfile', hpath, -⟩ := hw.file
      obtain rfl : h' = h := Option.some.inj (hfile'.symm.trans hfile)
      have hmem : last.path ∈ script.checkpoints before := by
        rw [← script.map_path_sectionsOf, ← List.nil_append before, hsections]
        simp
      rw [hpath]
      exact Script.expectationPath_of_mem hmem

/-- Every operation of the second pass is on a file of expected output. -/
theorem Asks.path_eq {d : Disk} {op : FileOperation}
    (hbefore : takeAll script labels before (start disk) = (.ok (), w))
    (h : Asks script labels w line d op) : ∃ extra, op.path = script.expectationPath extra := by
  cases h with
  | closing hline hfile => exact path_of_takeAll hbefore hfile
  | writing hcurrent hline hexpand hfile => exact path_of_takeAll hbefore hfile
  | opening hline hclose =>
      exact Script.expectationPath_of_mem (List.mem_filterMap.mpr
        ⟨line, List.mem_singleton_self line, hline⟩)

end Writer
end TraceScript
