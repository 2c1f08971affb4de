import TraceScript.Proofs.Disk.Content
import TraceScript.Proofs.Expectation.Section

/-!
# What sections leave on the disk

Places, not names, tell files apart: `Stored` says that a place holds what the
last section whose name leads there stands for, and what it held before if
there is none.  One more section changes what is stored at its own place
(`stored_concat`) and at no other (`stored_concat_other`).

Where different names lead to different places, what is stored at the places is
what the names keep (`kept_of_stored`).
-/

namespace TraceScript

/-- The last section whose file is at a place. -/
def sectionAt (disk : Disk) (sections : List Section) (key : Path) : Option Section :=
  sections.reverse.find? fun s => disk.reach s.path = .ok key

/-- What a place holds once these sections are written. -/
def Stored (disk : Disk) (labels : Labels) (sections : List Section) (key : Path)
    (content : Option Octets) : Prop :=
  match sectionAt disk sections key with
  | none => content = disk.find? key
  | some s => ∃ octets, s.Spells labels octets ∧ content = some octets

/-- Different names lead to different places. -/
def DistinctFiles (disk : Disk) (paths : List Path) : Prop :=
  ∀ p ∈ paths, ∀ q ∈ paths, ∀ key, disk.reach p = .ok key → disk.reach q = .ok key → p = q

/-- After some sections every file holds what the last section of its name
stands for, unless it is gone, and no other file is changed. -/
def Kept (disk : Disk) (labels : Labels) (sections : List Section) (gone : List Path)
    (after : Disk) : Prop :=
  (∀ before s rest, sections = before ++ s :: rest → s.path ∉ rest.map (·.path) → s.path ∉ gone →
    ∃ octets, s.Spells labels octets ∧ after.read s.path = .ok octets) ∧
  ∀ key, (∀ p ∈ gone ++ sections.map (·.path), disk.reach p ≠ .ok key) →
    after.find? key = disk.find? key

/-- Some of names that lead to different places lead to different places. -/
theorem DistinctFiles.subset {disk : Disk} {paths part : List Path}
    (h : DistinctFiles disk paths) (hsub : part ⊆ paths) : DistinctFiles disk part :=
  fun p hp q hq => h p (hsub hp) q (hsub hq)

/-- Names that are places themselves are different places. -/
theorem distinctFiles_of_self {disk : Disk} {paths : List Path}
    (h : ∀ p ∈ paths, disk.reach p = .ok p) : DistinctFiles disk paths := by
  intro p hp q hq key hpkey hqkey
  rw [h p hp] at hpkey
  rw [h q hq, ← hpkey] at hqkey
  exact (Except.ok.inj hqkey).symm

section Stored

variable {disk : Disk} {labels : Labels} {sections : List Section} {key : Path}
  {content : Option Octets}

theorem stored_nil (disk : Disk) (labels : Labels) (key : Path) :
    Stored disk labels [] key (disk.find? key) := rfl

/-- The last section is the one of its place; other places keep theirs. -/
theorem sectionAt_concat (disk : Disk) (sections : List Section) (s : Section) (key : Path) :
    sectionAt disk (sections ++ [s]) key =
      if disk.reach s.path = .ok key then some s else sectionAt disk sections key := by
  unfold sectionAt
  rw [List.reverse_concat]
  by_cases h : disk.reach s.path = .ok key
  · rw [if_pos h, List.find?_cons_of_pos (by simpa using h)]
  · rw [if_neg h, List.find?_cons_of_neg (by simpa using h)]

/-- The place of the last section holds what that stands for. -/
theorem stored_concat {s : Section} {octets : Octets} (hkey : disk.reach s.path = .ok key)
    (hs : s.Spells labels octets) : Stored disk labels (sections ++ [s]) key (some octets) := by
  have hat : sectionAt disk (sections ++ [s]) key = some s := by
    rw [sectionAt_concat, if_pos hkey]
  rw [Stored, hat]
  exact ⟨octets, hs, rfl⟩

/-- Every other place holds what it held before the last section. -/
theorem stored_concat_other {s : Section} {place : Path} (hplace : disk.reach s.path = .ok place)
    (hne : key ≠ place) (h : Stored disk labels sections key content) :
    Stored disk labels (sections ++ [s]) key content := by
  have hat : sectionAt disk (sections ++ [s]) key = sectionAt disk sections key := by
    have hother : disk.reach s.path ≠ .ok key := by
      rw [hplace]
      intro h
      exact hne (Except.ok.inj h).symm
    rw [sectionAt_concat, if_neg hother]
  rw [Stored, hat]
  exact h

/-- A place that no section's name leads to holds what it held. -/
theorem eq_of_stored (hnone : ∀ p ∈ sections.map (·.path), disk.reach p ≠ .ok key)
    (h : Stored disk labels sections key content) : content = disk.find? key := by
  have hat : sectionAt disk sections key = none := by
    apply List.find?_eq_none.mpr
    intro s hs
    have hreach := hnone s.path (List.mem_map_of_mem (List.mem_reverse.mp hs))
    simpa using hreach
  rwa [Stored, hat] at h

/-- The place of a section whose name is not used again holds what it stands
for. -/
theorem spells_of_stored {before after : List Section} {s : Section}
    (hdistinct : DistinctFiles disk ((before ++ s :: after).map (·.path)))
    (hkey : disk.reach s.path = .ok key) (hlast : s.path ∉ after.map (·.path))
    (h : Stored disk labels (before ++ s :: after) key content) :
    ∃ octets, s.Spells labels octets ∧ content = some octets := by
  have hat : sectionAt disk (before ++ s :: after) key = some s := by
    have hafter : after.reverse.find? (fun t => disk.reach t.path = .ok key) = none := by
      apply List.find?_eq_none.mpr
      intro t ht hplace
      have hmem : t ∈ after := List.mem_reverse.mp ht
      have hreach : disk.reach t.path = .ok key := by simpa using hplace
      have hsame : t.path = s.path :=
        hdistinct t.path (List.mem_map_of_mem (by simp [hmem])) s.path
          (List.mem_map_of_mem (by simp)) key hreach hkey
      exact hlast (hsame ▸ List.mem_map_of_mem hmem)
    rw [sectionAt, List.reverse_append, List.reverse_cons, List.append_assoc, List.find?_append,
      hafter]
    simp [hkey]
  rwa [Stored, hat] at h

/-- What is stored at the places is what the names keep.  A place that two
names lead to would hold what the last of them stands for, which is why
different names have to lead to different places. -/
theorem kept_of_stored {after : Disk} {gone : List Path}
    (hdistinct : DistinctFiles disk (gone ++ sections.map (·.path)))
    (hreached : ∀ s ∈ sections, ∃ key, disk.reach s.path = .ok key)
    (hdirectories : after.directories = disk.directories)
    (hstored : ∀ key, (∀ p ∈ gone, disk.reach p ≠ .ok key) →
      Stored disk labels sections key (after.find? key)) :
    Kept disk labels sections gone after := by
  constructor
  · rintro before s rest rfl hlast hgone
    obtain ⟨key, hkey⟩ := hreached s (by simp)
    have hplace : ∀ p ∈ gone, disk.reach p ≠ .ok key := by
      intro p hp hreach
      have hsame : p = s.path :=
        hdistinct p (List.mem_append_left _ hp) s.path (by simp) key hreach hkey
      exact hgone (hsame ▸ hp)
    have hsections := hdistinct.subset (List.subset_append_right gone _)
    obtain ⟨octets, hspells, hcontent⟩ := spells_of_stored hsections hkey hlast (hstored key hplace)
    exact ⟨octets, hspells, Disk.read_eq_ok (Disk.reach_of_directories hdirectories hkey) hcontent⟩
  · intro key hnone
    have hgone : ∀ p ∈ gone, disk.reach p ≠ .ok key := by
      intro p hp
      exact hnone p (List.mem_append_left _ hp)
    have hsections : ∀ p ∈ sections.map (·.path), disk.reach p ≠ .ok key := by
      intro p hp
      exact hnone p (List.mem_append_right _ hp)
    exact eq_of_stored hsections (hstored key hgone)

end Stored

end TraceScript
