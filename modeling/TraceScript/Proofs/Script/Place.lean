import TraceScript.Proofs.Disk.Suffix
import TraceScript.Proofs.Script.Name

/-!
# The place of a script among its output

The output of a script file stands beside it: a name without an extra part is the
script's own, with another suffix (`outputPath_ofFile`).  This rests on the normal
form of paths, which is read back from its own spelling (`Path.ofText_text`).

A file that can be opened is never named by `..`, since what stands above a place
on a walk is a directory (`Disk.Trodden`).  So the last component of its name is
that of its place, and the stream of a script is at the place of the script just if
the script's suffix is that of a stream (`reach_streamPath_iff`); a file of expected
output may be there only if the script's name ends as those do.
-/

namespace TraceScript

namespace Text

/-- The words of a join are what was joined.  That takes words that are not
empty and have no slash of their own. -/
theorem words_joinWith {ws : List Text} (h : ∀ w ∈ ws, w ≠ [] ∧ '/' ∉ w) :
    words (· == '/') (joinWith ['/'] ws) = ws := by
  have hsep : ∀ w ∈ ws, ∀ c ∈ w, (c == '/') = false := by
    intro w hw c hc
    apply beq_eq_false_iff_ne.mpr
    rintro rfl
    exact (h w hw).2 hc
  induction ws with
  | nil => rfl
  | cons w rest ih =>
      have hw := hsep w List.mem_cons_self
      have hne := (h w List.mem_cons_self).1
      cases rest with
      | nil => exact words_of_not_sep hne hw
      | cons v others =>
          have hothers := ih (fun u hu => h u (List.mem_cons_of_mem w hu))
            fun u hu => hsep u (List.mem_cons_of_mem w hu)
          have hjoin : joinWith ['/'] (w :: v :: others) =
              w ++ '/' :: joinWith ['/'] (v :: others) := by
            rw [joinWith, List.append_assoc, List.singleton_append]
            nofun
          calc words (· == '/') (joinWith ['/'] (w :: v :: others))
              = w :: words (· == '/') (joinWith ['/'] (v :: others)) := by
                rw [hjoin, words_append_sep _ hne hw rfl]
            _ = w :: v :: others := by rw [hothers]

/-- What is added to a join is added to the last of what is joined. -/
theorem joinWith_append (sep : Text) (init : List Text) (last suffix : Text) :
    joinWith sep (init ++ [last]) ++ suffix = joinWith sep (init ++ [last ++ suffix]) := by
  induction init with
  | nil => rfl
  | cons w rest ih =>
      cases rest with
      | nil => simp [joinWith]
      | cons v others =>
          simp only [List.cons_append] at ih
          simp only [List.cons_append, joinWith, List.append_assoc, ih]

end Text

/-! ### Normal forms -/

namespace Path

variable {p : Path}

/-- A path as it is read from a spelling. -/
structure IsNormal (p : Path) : Prop where
  anchor : p.anchor = [] ∨ p.anchor = ['/'] ∨ p.anchor = ['/', '/']
  parts : ∀ part ∈ p.parts, part ≠ [] ∧ '/' ∉ part ∧ part ≠ ['.']

/-- Every spelling is read as a path in normal form. -/
theorem isNormal_ofText (t : Text) : (ofText t).IsNormal where
  anchor := by
    show anchorOf t = [] ∨ anchorOf t = ['/'] ∨ anchorOf t = ['/', '/']
    unfold anchorOf
    split <;> simp
  parts := by
    intro part hpart
    obtain ⟨hword, hdot⟩ := List.mem_filter.mp hpart
    refine ⟨Text.ne_nil_of_mem_words hword, fun hslash => ?_, by simpa using hdot⟩
    have hsep := Text.not_sep_of_mem_words hword '/' hslash
    cases hsep

/-- An anchor in front of a relative spelling is read as such, and adds no
words. -/
theorem ofText_anchor {anchor : Text} {c : Char} {rest : Text}
    (h : anchor = [] ∨ anchor = ['/'] ∨ anchor = ['/', '/']) (hc : c ≠ '/') :
    ofText (anchor ++ c :: rest) =
      ⟨anchor, (Text.words (· == '/') (c :: rest)).filter (· != ['.'])⟩ := by
  have hanchor : anchorOf (anchor ++ c :: rest) = anchor := by
    rcases h with rfl | rfl | rfl <;> simp [anchorOf, hc]
  have hwords :
      Text.words (· == '/') (anchor ++ c :: rest) = Text.words (· == '/') (c :: rest) := by
    rcases h with rfl | rfl | rfl <;> simp [Text.words]
  rw [ofText, hanchor, hwords]

/-- A normal form is read back from its spelling.  The anchor is told from the
slashes in front, and the parts are neither empty nor a single dot. -/
theorem ofText_text (h : p.IsNormal) : ofText p.text = p := by
  obtain ⟨anchor, parts⟩ := p
  obtain ⟨hanchor, hparts⟩ := h
  cases parts with
  | nil => rcases hanchor with rfl | rfl | rfl <;> rfl
  | cons first rest =>
      obtain ⟨hne, hslash, -⟩ := hparts first List.mem_cons_self
      obtain ⟨c, more, rfl⟩ := List.exists_cons_of_ne_nil hne
      have hc : c ≠ '/' := by
        rintro rfl
        exact hslash List.mem_cons_self
      obtain ⟨tail, hjoin⟩ : ∃ tail, Text.joinWith ['/'] ((c :: more) :: rest) = c :: tail := by
        cases rest <;> exact ⟨_, rfl⟩
      have hwords := Text.words_joinWith fun part hpart =>
        ⟨(hparts part hpart).1, (hparts part hpart).2.1⟩
      have hkept : ((c :: more) :: rest).filter (· != ['.']) = (c :: more) :: rest :=
        List.filter_eq_self.mpr fun part hpart => by simpa using (hparts part hpart).2.2
      have htext : text ⟨anchor, (c :: more) :: rest⟩ = anchor ++ c :: tail := by
        rw [← hjoin]
        simp [text]
      rw [htext, ofText_anchor hanchor hc, ← hjoin, hwords, hkept]

/-- A path without its suffix is spelled like the path, up to the last
component. -/
theorem text_withoutSuffix_append {init : List Text} {name : Text} (suffix : Text)
    (hparts : p.parts = init ++ [name]) :
    p.withoutSuffix.text ++ suffix = text ⟨p.anchor, init ++ [stemOf name ++ suffix]⟩ := by
  have hwithout : p.withoutSuffix = ⟨p.anchor, init ++ [stemOf name]⟩ := by
    simp [withoutSuffix, hparts]
  rw [hwithout]
  simp [text, ← Text.joinWith_append]

/-- A sibling of a path in normal form is in normal form. -/
theorem IsNormal.sibling {init : List Text} {name other : Text} (h : p.IsNormal)
    (hparts : p.parts = init ++ [name]) (hne : other ≠ []) (hslash : '/' ∉ other)
    (hdot : other ≠ ['.']) : IsNormal ⟨p.anchor, init ++ [other]⟩ where
  anchor := h.anchor
  parts := by
    intro part hpart
    rcases List.mem_append.mp hpart with hpart | hpart
    · exact h.parts part (by rw [hparts]; exact List.mem_append_left _ hpart)
    · obtain rfl := List.mem_singleton.mp hpart
      exact ⟨hne, hslash, hdot⟩

end Path

/-! ### Walks -/

namespace Disk

/-- A place that a walk leads to: upwards from the start, or into a directory
that a walk leads to. -/
inductive Trodden (d : Disk) : Path → Prop
  | up {here : Path} (h : ∀ part ∈ here.parts, part = ['.', '.']) : Trodden d here
  | child {here : Path} {name : Text} (h : Trodden d here) (hdir : d.isDirectory here = true)
      (hname : name ≠ ['.', '.']) : Trodden d (here.child name)

variable {d : Disk} {here next key p : Path} {name : Text}

/-- Upwards from a place that a walk leads to stands a directory.  That is the
directory that the walk went through, or one above where the walk began. -/
theorem Trodden.parent (h : d.Trodden here) :
    d.Trodden here.parent ∧ d.isDirectory here.parent = true := by
  cases h with
  | up hup =>
      have hparent : ∀ part ∈ here.parent.parts, part = ['.', '.'] := by
        intro part hpart
        unfold Path.parent at hpart
        split at hpart
        · split at hpart
          · exact List.mem_singleton.mp hpart
          · cases hpart
        · split at hpart
          · rcases List.mem_append.mp hpart with hpart | hpart
            · exact hup part hpart
            · exact List.mem_singleton.mp hpart
          · exact hup part (List.dropLast_subset _ hpart)
      have hall : here.parent.parts.all (· == ['.', '.']) = true :=
        List.all_eq_true.mpr fun part hpart => beq_iff_eq.mpr (hparent part hpart)
      exact ⟨.up hparent, by rw [isDirectory, hall, Bool.true_or]⟩
  | @child above name h hdir hname =>
      have hparent : (above.child name).parent = above := by
        simp [Path.parent, Path.child, hname]
      rw [hparent]
      exact ⟨h, hdir⟩

/-- One step of a walk leads from such a place to another. -/
theorem Trodden.enter (h : d.Trodden here) (henter : d.enter here name = .ok next) :
    d.Trodden next := by
  unfold Disk.enter at henter
  split at henter
  · rename_i hdir
    split at henter
    · cases henter
    · cases henter
      unfold advance
      split
      · exact h.parent.1
      · rename_i hname
        exact .child h hdir hname
  · split at henter <;> cases henter

/-- So does a walk of any length. -/
theorem Trodden.walk {parts : List Text} (h : d.Trodden here)
    (hwalk : parts.foldlM d.enter here = .ok key) : d.Trodden key := by
  induction parts generalizing here with
  | nil =>
      cases hwalk
      exact h
  | cons name rest ih =>
      rw [List.foldlM_cons] at hwalk
      cases hnext : d.enter here name with
      | error r =>
          rw [hnext] at hwalk
          cases hwalk
      | ok next =>
          rw [hnext] at hwalk
          exact ih (h.enter hnext) hwalk

/-- A place for a file is no directory. -/
theorem isDirectory_of_reach (h : d.reach p = .ok key) : d.isDirectory key = false := by
  unfold reach at h
  split at h
  · cases h
  split at h
  · cases h
  split at h
  · cases h
  · rename_i hdir
    cases h
    exact Bool.eq_false_iff.mpr hdir

/-- A path that leads to a place for a file names it: it ends in no `..`.  Two
dots lead upwards to a directory, which is no file. -/
theorem exists_name_of_reach (h : d.reach p = .ok key) :
    ∃ init name, p.parts = init ++ [name] ∧ name ≠ ['.', '.'] ∧
      key.parts.getLast? = some name := by
  have hdir := isDirectory_of_reach h
  have hlocate := locate_of_reach h
  rcases List.eq_nil_or_concat p.parts with hnil | ⟨init, name, hparts⟩
  · unfold locate at hlocate
    rw [hnil] at hlocate
    split at hlocate
    · cases hlocate
    · cases hlocate
      cases hdir
  · rw [List.concat_eq_append] at hparts
    obtain ⟨here, hwalk, henter⟩ := exists_enter_of_locate hparts hlocate
    have hstart : d.Trodden ⟨p.anchor.take 1, []⟩ := .up (by simp)
    have hhere := hstart.walk hwalk
    -- a step upwards would end in a directory, which is no place for a file
    have hname : name ≠ ['.', '.'] := by
      rintro rfl
      have hup := hhere.parent.2
      unfold Disk.enter at henter
      split at henter
      · split at henter
        · cases henter
        · cases henter
          rw [advance, if_pos rfl, hup] at hdir
          cases hdir
      · split at henter <;> cases henter
    exact ⟨init, name, hparts, hname, getLast?_of_enter hname henter⟩

end Disk

/-! ### Output files -/

namespace Script

variable {file key : Path} {disk : Disk} {init : List Text} {name : Text}

/-- The output of a script file without an extra part stands beside it.  The
suffix of the script is taken off its last component and the new one put
there. -/
theorem outputPath_ofFile {suffix : Text} {c : Char} (hfile : file.IsNormal)
    (hparts : file.parts = init ++ [name]) (hlast : suffix.getLast? = some c) (hdot : c ≠ '.')
    (hslash : '/' ∉ suffix) (content : Text) :
    (Script.ofFile file content).outputPath suffix [] =
      ⟨file.anchor, init ++ [Path.stemOf name ++ suffix]⟩ := by
  have hend : (Path.stemOf name ++ suffix).getLast? = some c := by
    rw [List.getLast?_append, hlast]
    rfl
  have hne : Path.stemOf name ++ suffix ≠ [] := by
    intro h
    rw [h] at hend
    cases hend
  have hhere : Path.stemOf name ++ suffix ≠ ['.'] := by
    intro h
    rw [h] at hend
    exact hdot (Option.some.inj hend).symm
  have hstem : '/' ∉ Path.stemOf name := fun hmem =>
    (hfile.parts name (by rw [hparts]; simp)).2.1 ((Path.stemOf_isPrefix name).subset hmem)
  have hjoint : '/' ∉ Path.stemOf name ++ suffix := by
    rw [List.mem_append, not_or]
    exact ⟨hstem, hslash⟩
  have hname : file.withoutSuffix.text ++ suffix = _ :=
    Path.text_withoutSuffix_append suffix hparts
  show Path.ofText (file.withoutSuffix.text ++ suffix) = _
  rw [hname, Path.ofText_text (hfile.sibling hparts hne hjoint hhere)]

/-- The stream of a script file is at the place of the file just if the file's
suffix is that of a stream. -/
theorem reach_streamPath_iff (hfile : file.IsNormal) (hkey : disk.reach file = .ok key)
    (content : Text) :
    disk.reach (Script.ofFile file content).streamPath = .ok key ↔
      file.name = file.stem ++ ".pt".toList := by
  obtain ⟨init, name, hparts, hname, hlast⟩ := Disk.exists_name_of_reach hkey
  have hfilename : file.name = name := by simp [Path.name, hparts]
  have hstream : (Script.ofFile file content).streamPath =
      ⟨file.anchor, init ++ [Path.stemOf name ++ ".pt".toList]⟩ :=
    outputPath_ofFile hfile hparts rfl (by decide) (by decide) content
  rw [Path.stem, hfilename]
  constructor
  · intro hreach
    rw [hstream] at hreach
    have hup : Path.stemOf name ++ ".pt".toList ≠ ['.', '.'] := by
      intro h
      simpa using congrArg List.getLast? h
    have hsame := Disk.getLast?_of_locate (by simp) hup (Disk.locate_of_reach hreach)
    exact Option.some.inj (hlast.symm.trans hsame)
  · intro hsuffix
    have hsame : (Script.ofFile file content).streamPath = file := by
      rw [hstream, ← hsuffix, ← hparts]
    rw [hsame, hkey]

/-- A file of expected output is at the place of a script file only if the
name of that ends as those of expected output do. -/
theorem suffix_of_reach_expectationPath (hkey : disk.reach file = .ok key) {script : Script}
    {extra : Text} (hreach : disk.reach (script.expectationPath extra) = .ok key) :
    ".exp".toList <:+ file.name := by
  obtain ⟨init, name, hparts, hname, hlast⟩ := Disk.exists_name_of_reach hkey
  obtain ⟨stem, hstem⟩ := last_of_reach_outputPath rfl (by decide) (by decide) hreach
  have hfilename : file.name = name := by simp [Path.name, hparts]
  rw [hfilename, Option.some.inj (hlast.symm.trans hstem)]
  exact List.suffix_append stem _

end Script
end TraceScript
