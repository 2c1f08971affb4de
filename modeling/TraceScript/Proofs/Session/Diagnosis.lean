import TraceScript.Proofs.Error.Refusal
import TraceScript.Proofs.Script.Marker

/-!
# Diagnoses of a session

A session that ends with a script error points at one line of its script: the
first, in the order of the pass that fails, whose handling fails
(`run_located`).  In the first pass these are the lines with directives, in the
second all lines.  What a failing line fails with is placed at that line; and a
failure that comes from no line, of the opening and closing of the stream's file
or of the closing behind the last line, is no script error.
-/

namespace TraceScript

namespace Script

/-- A line of a script has its number, counted from the first, and its text. -/
theorem getElem?_numberLines (filename : Text) (n i : Nat) (ts : List Text) :
    (numberLines filename n ts)[i]? = (ts[i]?).map (ScriptLine.ofText filename (n + i)) := by
  induction ts generalizing n i with
  | nil => rfl
  | cons t rest ih =>
      cases i with
      | zero => rfl
      | succ i =>
          calc (numberLines filename n (t :: rest))[i + 1]?
              = (numberLines filename (n + 1) rest)[i]? := by
                rw [numberLines, List.getElem?_cons_succ]
            _ = (rest[i]?).map (ScriptLine.ofText filename (n + 1 + i)) := ih (n + 1) i
            _ = ((t :: rest)[i + 1]?).map (ScriptLine.ofText filename (n + (i + 1))) := by
                rw [List.getElem?_cons_succ, Nat.add_right_comm, Nat.add_assoc]

end Script

/-- Joined texts start with the first of them. -/
theorem Text.prefix_joinWith (sep t : Text) (rest : List Text) :
    t <+: joinWith sep (t :: rest) := by
  cases rest with
  | nil => exact List.prefix_refl t
  | cons u more =>
      show t <+: t ++ sep ++ joinWith sep (u :: more)
      rw [List.append_assoc]
      exact List.prefix_append t _

/-- A diagnostic starts with the place of the error. -/
theorem ScriptError.place_prefix_render {err : ScriptError} {place : Location}
    (h : err.location = some place) : (place.text ++ ": error: ".toList) <+: err.render := by
  have hhead : err.headLine = place.text ++ ": error: ".toList ++ err.message := by
    rw [headLine, h]
  calc place.text ++ ": error: ".toList
      <+: place.text ++ ": error: ".toList ++ err.message := List.prefix_append _ _
    _ = err.headLine := hhead.symm
    _ <+: err.render := Text.prefix_joinWith _ _ _

/-- An error of a script that a line ends with has the place of the line and
its text. -/
theorem Failure.OfLine.place {line : ScriptLine} {err : ScriptError}
    (h : (Failure.script err).OfLine line) :
    err.location = some line.location ∧ err.sourceLine = some line.text := by
  cases h with
  | placed _ hlocation hsource => exact ⟨hlocation, hsource⟩

/-- A line among those with a property is one of all lines, and those with the
property before it are the same. -/
theorem exists_split_of_filter {α : Type} {p : α → Bool} {lines made rest : List α} {line : α}
    (h : lines.filter p = made ++ line :: rest) :
    ∃ before after, lines = before ++ line :: after ∧ before.filter p = made ∧ p line = true := by
  obtain ⟨front, back, rfl, hmade, hback⟩ := List.filter_eq_append_iff.mp h
  obtain ⟨skipped, after, rfl, hskipped, hline, -⟩ := List.filter_eq_cons_iff.mp hback
  refine ⟨front ++ skipped, after, by rw [List.append_assoc], ?_, hline⟩
  rw [List.filter_append, hmade, List.filter_eq_nil_iff.mpr hskipped, List.append_nil]

namespace Session

variable {σ : Type} {disk : Disk} {script : Script} {assembly : LabelTable} {e : Encoder σ}
  {state : σ} {err : ScriptError}

variable (disk script assembly e state) in
/-- A session reaches a line, behind lines that the same pass has handled, and
the line fails: a line with a directive in the first pass, or any line in the
second, behind a whole first pass. -/
inductive FailsOn (before : List ScriptLine) (line : ScriptLine) (f : Failure) : Prop
  | first {r : Recording σ} (hdirective : line.isDirective = true)
      (hhandled : Handled disk script assembly e state (before.filter (·.isDirective))
        (.ok false) r)
      (hfails : (r.take e line).1 = .error f)
  | second {s : Session σ} {w : Writer}
      (hpass : firstPass disk script assembly e state = (.ok true, s))
      (hhandled : Writer.takeAll script s.stream.labels before (Writer.start s.disk) = (.ok (), w))
      (hfails : (w.take script s.stream.labels line).1 = .error f)

/-- A line that fails with a script error fails with one of its own. -/
theorem FailsOn.ofLine {before : List ScriptLine} {line : ScriptLine}
    (h : FailsOn disk script assembly e state before line (.script err)) :
    (Failure.script err).OfLine line := by
  cases h with
  | @first r _ _ hfails =>
      obtain hdispatch | ⟨_, _, _, _, _, -, -, hrefused⟩ := Recording.take_error_cases hfails
      · exact r.stream.located_dispatchLine e line _ hdispatch
      · cases hrefused
  | second _ _ hfails =>
      obtain hline | ⟨_, -, hname, -⟩ | ⟨_, _, _, -, -, hrefused⟩ := Writer.take_error_cases hfails
      · exact hline
      · cases hname
      · cases hrefused

/-- A first pass with a script error fails on a line with a directive. -/
theorem failsOn_of_firstPass
    (h : (firstPass disk script assembly e state).1 = .error (.script err)) :
    ∃ before line after, script.lines = before ++ line :: after ∧
      FailsOn disk script assembly e state before line (.script err) := by
  obtain ⟨error, -, hopen⟩ | ⟨reason, -, hclose⟩ | ⟨made, line, rest, r, hlines, hmade, hfails⟩ :=
    firstPass_error_cases h
  · cases error <;> cases hopen
  · cases hclose
  · obtain ⟨before, after, hsplit, rfl, hdirective⟩ := exists_split_of_filter hlines
    exact ⟨before, line, after, hsplit, .first hdirective hmade hfails⟩

/-- A second pass with a script error fails on a line. -/
theorem failsOn_of_secondPass {s : Session σ}
    (hpass : Session.firstPass disk script assembly e state = (.ok true, s))
    (h : (Writer.run s.disk script s.stream.labels).1 = .error (.script err)) :
    ∃ before line after, script.lines = before ++ line :: after ∧
      FailsOn disk script assembly e state before line (.script err) := by
  obtain ⟨before, line, after, w, hlines, hhandled, hfails⟩ | ⟨w, -, hclose⟩ :=
    Writer.run_error_cases h
  · exact ⟨before, line, after, hlines, .second hpass hhandled hfails⟩
  · obtain ⟨_, _, -, -, hrefused⟩ := Writer.close_error_iff.mp hclose
    cases hrefused

/-- Every script error of a session points at the line that causes it.  It has
the file name, the number and the column of one line of the script, and the
text of that line, and its diagnostic starts with that place.  The line is the
first that fails in its pass: a session reaches it behind lines that the pass
has handled. -/
theorem run_located {filename root text : Text}
    (hrun : (start disk (Script.ofText filename root text) assembly e state).run.1 =
      .error (.script err)) :
    ∃ before line after t place,
      (Script.ofText filename root text).lines = before ++ line :: after ∧
      FailsOn disk (Script.ofText filename root text) assembly e state before line (.script err) ∧
      (Text.lines text)[before.length]? = some t ∧
      line = ScriptLine.ofText filename (before.length + 1) t ∧
      place = ⟨filename, (before.length + 1 : Nat), ((Marked.find? t).elim 0 (·.column) : Nat)⟩ ∧
      err.location = some place ∧ err.sourceLine = some t ∧
      (place.text ++ ": error: ".toList) <+: err.render := by
  obtain ⟨before, line, after, hlines, hfails⟩ :
      ∃ before line after, (Script.ofText filename root text).lines = before ++ line :: after ∧
        FailsOn disk (Script.ofText filename root text) assembly e state before line
          (.script err) := by
    obtain hfirst | ⟨s, hfirst, hsecond⟩ := run_eq_error_iff.mp hrun
    · exact failsOn_of_firstPass hfirst
    · exact failsOn_of_secondPass hfirst hsecond
  obtain ⟨hlocation, hsource⟩ := hfails.ofLine.place
  -- the failing line is found by its number, which is one more than the lines before it
  have hnumbered := Script.getElem?_numberLines filename 1 before.length (Text.lines text)
  have hself : (Script.numberLines filename 1 (Text.lines text))[before.length]? = some line := by
    show (Script.ofText filename root text).lines[before.length]? = some line
    rw [hlines, List.getElem?_append_right (Nat.le_refl _), Nat.sub_self]
    rfl
  rw [hself, Nat.add_comm] at hnumbered
  obtain ⟨t, ht, hline⟩ := Option.map_eq_some_iff.mp hnumbered.symm
  subst hline
  rw [ScriptLine.location_ofText] at hlocation
  rw [ScriptLine.text_ofText] at hsource
  exact ⟨before, _, after, t, _, hlines, hfails, ht, rfl, rfl, hlocation, hsource,
    ScriptError.place_prefix_render hlocation⟩

/-- A label that is nowhere defined: in a directive, where the first pass
fails, and in an expected text, where the second does. -/
theorem run_located_undefined_label :
    let first := Script.ofText "t.asm".toList "t".toList
      "nop\n; @pt pad()\n  ; @pt fup(3: %nowhere)\n; @pt .exp".toList
    let second := Script.ofText "t.asm".toList "t".toList
      "; @pt p: pad()\n; @pt .exp\n; x %p\n; y %q.5 z\n".toList
    let run (script : Script) :=
      (start Disk.empty script LabelTable.empty ptEncoder (Scratch.zeros 64)).run.1
    let FailsAt (script : Script) (number column : Int) (err : ScriptError) :=
      err.location = some ⟨"t.asm".toList, number, column⟩ ∧ ∃ before line,
        before.length + 1 = number ∧ FailsOn Disk.empty script LabelTable.empty ptEncoder
          (Scratch.zeros 64) before line (.script err)
    (∃ err, run first = .error (.script err) ∧ FailsAt first 3 9 err) ∧
      ∃ err, run second = .error (.script err) ∧ FailsAt second 4 0 err := by
  intro first second run FailsAt
  have hfirst : run first = .error (.script
      ⟨.undefinedLabel "nowhere".toList [], ["fup: parsing failed".toList],
        some ⟨"t.asm".toList, 3, 9⟩, some "  ; @pt fup(3: %nowhere)".toList, none⟩) := by
    decide +kernel
  have hsecond : run second = .error (.script
      ⟨.undefinedLabel "q".toList [], [], some ⟨"t.asm".toList, 4, 0⟩,
        some "; y %q.5 z".toList, none⟩) := by
    decide +kernel
  constructor
  · obtain ⟨before, line, _, _, place, -, hfails, -, -, rfl, hplace, -, -⟩ := run_located hfirst
    have hnumber := congrArg Location.line (Option.some.inj hplace)
    exact ⟨_, hfirst, rfl, before, line, hnumber.symm, hfails⟩
  · obtain ⟨before, line, _, _, place, -, hfails, -, -, rfl, hplace, -, -⟩ := run_located hsecond
    have hnumber := congrArg Location.line (Option.some.inj hplace)
    exact ⟨_, hsecond, rfl, before, line, hnumber.symm, hfails⟩

end Session
end TraceScript
