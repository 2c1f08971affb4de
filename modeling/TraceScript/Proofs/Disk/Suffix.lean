import TraceScript.Script
import TraceScript.Proofs.Disk.Content
import TraceScript.Proofs.Text.Part

/-!
# Suffixes of names

A suffix without a slash ends the last component of the name that it is added
to (`last_of_reach_outputPath`).  So the stream and the files of expected output of
one script are never at the same place (`reach_expectationPath_ne`).
-/

namespace TraceScript

namespace Text

/-- A suffix without a separator ends the last word, and there is a last word,
since the suffix is not empty. -/
theorem words_append {isSep : Char → Bool} (t : Text) {suffix : Text} (hne : suffix ≠ [])
    (h : ∀ c ∈ suffix, isSep c = false) :
    ∃ init stem, words isSep (t ++ suffix) = init ++ [stem ++ suffix] := by
  induction t with
  | nil => exact ⟨[], [], words_of_not_sep hne h⟩
  | cons c rest ih =>
      obtain ⟨init, stem, hwords⟩ := ih
      rw [List.cons_append, words, hwords]
      split
      · exact ⟨init, stem, rfl⟩
      split
      · exact ⟨[c] :: init, stem, rfl⟩
      · cases init with
        | nil => exact ⟨[], c :: stem, rfl⟩
        | cons first others => exact ⟨(c :: first) :: others, stem, rfl⟩

end Text

namespace Script

variable {script : Script} {disk : Disk} {key : Path} {suffix extra : Text} {c : Char}

/-- An output file is at a place whose last component ends in the suffix.  The
last component of its path is neither the dot nor the two dots, since it ends
in the suffix. -/
theorem last_of_reach_outputPath (hlast : suffix.getLast? = some c) (hdot : c ≠ '.')
    (hslash : '/' ∉ suffix)
    (hreach : disk.reach (script.outputPath suffix extra) = .ok key) :
    ∃ stem, key.parts.getLast? = some (stem ++ suffix) := by
  have hne : suffix ≠ [] := by
    rintro rfl
    cases hlast
  have hsep : ∀ d ∈ suffix, (d == '/') = false := by
    intro d hd
    apply beq_eq_false_iff_ne.mpr
    rintro rfl
    exact hslash hd
  obtain ⟨init, stem, hwords⟩ :=
    Text.words_append (if extra.isEmpty then script.root else script.root ++ '-' :: extra) hne hsep
  have hname : (stem ++ suffix).getLast? = some c := by
    rw [List.getLast?_append, hlast]
    rfl
  -- a name with this suffix is neither of the two that walking a path drops
  have hhere : stem ++ suffix ≠ ['.'] := by
    intro h
    rw [h] at hname
    exact hdot (Option.some.inj hname).symm
  have hup : stem ++ suffix ≠ ['.', '.'] := by
    intro h
    rw [h] at hname
    exact hdot (Option.some.inj hname).symm
  have hparts : (script.outputPath suffix extra).parts.getLast? = some (stem ++ suffix) := by
    rw [outputPath, Path.ofText, hwords, List.filter_append,
      List.filter_cons_of_pos (by simpa using hhere)]
    simp
  exact ⟨stem, Disk.getLast?_of_locate hparts hup (Disk.locate_of_reach hreach)⟩

/-- The place of the stream does not end as the names of expected output do. -/
theorem last_ne_of_reach_streamPath (hkey : disk.reach script.streamPath = .ok key) (stem : Text) :
    key.parts.getLast? ≠ some (stem ++ ".exp".toList) := by
  intro hlast
  obtain ⟨other, hother⟩ := last_of_reach_outputPath rfl (by decide) (by decide) hkey
  have hsame : other ++ ".pt".toList = stem ++ ".exp".toList :=
    Option.some.inj (hother.symm.trans hlast)
  simpa using congrArg List.getLast? hsame

/-- The stream is not at the place of a file of expected output. -/
theorem reach_expectationPath_ne (extra : Text) (hkey : disk.reach script.streamPath = .ok key) :
    disk.reach (script.expectationPath extra) ≠ .ok key := by
  intro hreach
  obtain ⟨stem, hstem⟩ := last_of_reach_outputPath rfl (by decide) (by decide) hreach
  exact last_ne_of_reach_streamPath hkey stem hstem

end Script
end TraceScript
