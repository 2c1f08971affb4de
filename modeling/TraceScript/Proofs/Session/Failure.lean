import TraceScript.Proofs.Error.Refusal
import TraceScript.Proofs.Script.Name

/-!
# How a session fails

Whatever ends a session without a result is one of six things
(`Failure.OfSession`): an error of the script, a refused operation on an output
file, an invariant that does not hold, a decimal number that is too long or a
null character in the name of an output file, both of which stand in the script,
or the refused closing of the stream's file.
-/

namespace TraceScript

variable {σ : Type} {disk : Disk} {script : Script} {text : Text} {line : ScriptLine} {f : Failure}

/-- A failure that a session over a script of this text may end with. -/
inductive Failure.OfSession (disk : Disk) (script : Script) (text : Text) : Failure → Prop
  | script (e : ScriptError) (hfound : e.cause.IsFound) : OfSession disk script text (.script e)
  | output (op : FileOperation) (reason : Refusal) :
      OfSession disk script text (op.failure reason)
  | internal (fault : InternalFault) : OfSession disk script text (.internal fault)
  | longDecimal (size : Nat) (hlong : text.HoldsLongDecimal size) :
      OfSession disk script text (.value (.longDecimal size))
  | nullName (hnull : '\x00' ∈ script.root ∨ '\x00' ∈ text) :
      OfSession disk script text (.value .nullByte)
  | unsealed (reason : Refusal)
      (hclose : disk.faults.closing script.streamPath disk.attempts = some reason) :
      OfSession disk script text (.system reason none)

/-- What a line of the script can fail with, a session over the script can. -/
theorem Failure.OfLine.ofSession (h : f.OfLine line) (hline : line.Within text) :
    f.OfSession disk script text := by
  cases h with
  | placed e _ _ hfound => exact .script e hfound
  | longDecimal size hlong =>
      obtain ⟨t, ht, hlong⟩ := hlong
      exact .longDecimal size (hlong.mono (hline.infix_of_holds ht))
  | fault i => exact .internal i

/-- An output name with a null character has it from the root or from the
extra part. -/
theorem Script.null_of_outputPath {suffix extra : Text} (hsuffix : '\x00' ∉ suffix)
    (h : (script.outputPath suffix extra).text.contains '\x00' = true) :
    '\x00' ∈ script.root ∨ '\x00' ∈ extra := by
  have hmem := mem_outputPath (by decide) (by decide) (by decide) (List.contains_iff_mem.mp h)
  obtain hroot | hextra | hend := hmem
  · exact .inl hroot
  · exact .inr hextra
  · exact absurd hend hsuffix

/-- The extra part of a checkpoint's file stands on its line. -/
theorem Script.exists_of_checkpoint? {path : Path} (h : script.checkpoint? line = some path) :
    ∃ extra, line.Holds extra ∧ path = script.expectationPath extra := by
  unfold checkpoint? at h
  split at h
  · cases h
  · rename_i t hdirective
    split at h
    · cases h
    · rename_i d hsplit
      split at h
      · cases h
        exact ⟨d.payload, .inr ⟨t, hdirective, (Directive.parts_of_split hsplit).2⟩, rfl⟩
      · cases h

namespace Session

variable {assembly : LabelTable} {e : Encoder σ} {state : σ}

/-- The first pass fails as a session can: at the file of the stream, or at
one of its lines. -/
theorem ofSession_of_firstPass (hlines : ∀ line ∈ script.lines, line.Within text)
    (h : (firstPass disk script assembly e state).1 = .error f) :
    f.OfSession disk script text := by
  obtain ⟨error, hcreate, rfl⟩ | ⟨reason, hclose, rfl⟩ | ⟨made, line, rest, r, hrow, -, hfails⟩ :=
    firstPass_error_cases h
  · cases error with
    | nullByte =>
        have hreach := Disk.reach_of_create_nullByte hcreate
        have hnull := Script.null_of_outputPath (by decide) (Disk.contains_of_reach_nullByte hreach)
        exact .nullName (hnull.imp_right nofun)
    | refused reason => exact .output (.opening script.streamPath) reason
  · exact .unsealed reason hclose
  · have hline : line.Within text := by
      have hmem : line ∈ script.directiveLines := by
        rw [hrow]
        simp
      exact hlines line (List.mem_of_mem_filter hmem)
    obtain hdispatch | ⟨_, _, _, _, reason, -, -, rfl⟩ := Recording.take_error_cases hfails
    · exact (r.stream.located_dispatchLine e line f hdispatch).ofSession hline
    · exact .output _ reason

/-- So does the second pass: at one of its lines, or at the last file when
that is closed. -/
theorem ofSession_of_secondPass {labels : Labels} {opened : Disk}
    (hlines : ∀ line ∈ script.lines, line.Within text)
    (h : (Writer.run opened script labels).1 = .error f) : f.OfSession disk script text := by
  obtain ⟨before, line, after, w, hrow, -, hfails⟩ | ⟨w, -, hclose⟩ := Writer.run_error_cases h
  · have hline : line.Within text := hlines line (by rw [hrow]; simp)
    obtain hdispatch | ⟨path, hpath, rfl, hnull⟩ | ⟨_, op, reason, -, -, rfl⟩ :=
      Writer.take_error_cases hfails
    · exact hdispatch.ofSession hline
    · obtain ⟨extra, hextra, rfl⟩ := Script.exists_of_checkpoint? hpath
      have hmem := Script.null_of_outputPath (by decide) hnull
      exact .nullName (hmem.imp_right fun hc => (hline.infix_of_holds hextra).subset hc)
    · exact .output op reason
  · obtain ⟨handle, reason, -, -, rfl⟩ := Writer.close_error_iff.mp hclose
    exact .output _ reason

/-- A session fails in one of the six ways. -/
theorem ofSession_of_run (hlines : ∀ line ∈ script.lines, line.Within text)
    (h : (start disk script assembly e state).run.1 = .error f) :
    f.OfSession disk script text := by
  obtain hfirst | ⟨s, -, hsecond⟩ := run_eq_error_iff.mp h
  · exact ofSession_of_firstPass hlines hfirst
  · exact ofSession_of_secondPass hlines hsecond

end Session
end TraceScript
