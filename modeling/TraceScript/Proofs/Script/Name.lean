import TraceScript.Proofs.Text.Part
import TraceScript.Script

/-!
# Characters of output names

The name of an output file is made of the root of the script, the extra part and
the suffix; its normal form adds nothing but slashes and a dot.  So any other
character of it comes from one of these (`Script.mem_outputPath`), and one of the
root from the name of the script's file (`Path.mem_of_mem_text_withoutSuffix`).
-/

namespace TraceScript

variable {c : Char} {t : Text} {p : Path}

/-- A character of joined texts that the separator does not have is one of the
texts. -/
theorem Text.mem_joinWith_iff {sep : Text} {ts : List Text} (hsep : c ∉ sep) :
    c ∈ joinWith sep ts ↔ ∃ t ∈ ts, c ∈ t := by
  fun_induction joinWith sep ts with
  | case1 => simp
  | case2 t => simp
  | case3 t rest _ ih => simp [hsep, ih]

namespace Path

/-- A character of a path's spelling is one of the anchor or of a component,
but for slashes and the dot of the empty path. -/
theorem mem_text_iff (hdot : c ≠ '.') (hslash : c ≠ '/') :
    c ∈ p.text ↔ c ∈ p.anchor ∨ ∃ part ∈ p.parts, c ∈ part := by
  have hsep : c ∉ (['/'] : Text) := by simpa using hslash
  unfold text
  split
  · rename_i hempty
    obtain ⟨hanchor, hparts⟩ := Bool.and_eq_true_iff.mp hempty
    simp [List.isEmpty_iff.mp hanchor, List.isEmpty_iff.mp hparts, hdot]
  · rw [List.mem_append, Text.mem_joinWith_iff hsep]

/-- The anchor of a path is made of slashes. -/
theorem eq_of_mem_anchorOf (h : c ∈ anchorOf t) : c = '/' := by
  unfold anchorOf at h
  split at h
  · exact List.mem_singleton.mp h
  · simpa using h
  · exact List.mem_singleton.mp h
  · cases h

/-- A normal form has no other characters than what it is the form of. -/
theorem mem_of_mem_text_ofText (hdot : c ≠ '.') (hslash : c ≠ '/') (h : c ∈ (ofText t).text) :
    c ∈ t := by
  obtain hanchor | ⟨part, hpart, hc⟩ := (mem_text_iff hdot hslash).mp h
  · exact absurd (eq_of_mem_anchorOf hanchor) hslash
  · have hword : part <:+: t := Text.infix_of_mem_words (List.mem_of_mem_filter hpart)
    exact hword.subset hc

/-- A name without its suffix is a start of the name. -/
theorem stemOf_isPrefix (name : Text) : stemOf name <+: name := by
  unfold stemOf
  split
  · rename_i suffix root hcut
    split
    · exact List.prefix_refl name
    · rw [← List.reverse_suffix, List.reverse_reverse]
      exact Text.suffix_of_cutAt hcut
  · exact List.prefix_refl name

/-- A path without its suffix has no other characters than the path. -/
theorem mem_of_mem_text_withoutSuffix (hdot : c ≠ '.') (hslash : c ≠ '/')
    (h : c ∈ p.withoutSuffix.text) : c ∈ p.text := by
  rw [mem_text_iff hdot hslash] at h ⊢
  obtain hanchor | ⟨part, hpart, hc⟩ := h
  · exact .inl hanchor
  · right
    rcases List.mem_append.mp hpart with hpart | hpart
    · exact ⟨part, List.dropLast_subset p.parts hpart, hc⟩
    · obtain ⟨last, hlast, rfl⟩ := List.mem_map.mp hpart
      have hmem : last ∈ p.parts := List.mem_of_getLast? (Option.mem_toList.mp hlast)
      exact ⟨last, hmem, (stemOf_isPrefix last).subset hc⟩

end Path

/-- A character of an output file's name comes from the root, from the extra
part, or from the suffix. -/
theorem Script.mem_outputPath {script : Script} {suffix extra : Text} (hdot : c ≠ '.')
    (hslash : c ≠ '/') (hhyphen : c ≠ '-') (h : c ∈ (script.outputPath suffix extra).text) :
    c ∈ script.root ∨ c ∈ extra ∨ c ∈ suffix := by
  have hname := Path.mem_of_mem_text_ofText hdot hslash h
  rcases List.mem_append.mp hname with hname | hname
  · split at hname
    · exact .inl hname
    · rcases List.mem_append.mp hname with hroot | hextra
      · exact .inl hroot
      · exact .inr (.inl ((List.mem_cons.mp hextra).resolve_left hhyphen))
  · exact .inr (.inr hname)

end TraceScript
