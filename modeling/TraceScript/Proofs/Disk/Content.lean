import TraceScript.Disk

/-!
# What the operations of a disk do

One lemma for each operation on an open file says what it answers and what
disk it leaves.  All of them leave the directories alone, and where a path
leads depends on the directories only (`locate_of_directories`,
`reach_of_directories`): a path that leads to a place leads there throughout a
run.

A name keeps its last component on the way (`getLast?_of_locate`), so names
with other last components lead to other places.
-/

namespace TraceScript

namespace Disk

/-! ### Files -/

/-- A row of files is searched from its start. -/
theorem lookup_file (k name : Path) (content : Octets) (rest : List (Path × Octets)) :
    ((name, content) :: rest).lookup k = if k = name then some content else rest.lookup k := by
  rw [List.lookup_cons]
  by_cases h : k = name
  · rw [if_pos h, beq_iff_eq.mpr h]
  · rw [if_neg h, beq_eq_false_iff_ne.mpr h]

/-- A file that is put among others is found there, and the others are as
before. -/
theorem lookup_putFile (key k : Path) (content : Octets) (files : List (Path × Octets)) :
    (putFile key content files).lookup k = if k = key then some content else files.lookup k := by
  induction files with
  | nil => exact lookup_file k key content []
  | cons file rest ih =>
      obtain ⟨name, old⟩ := file
      rw [putFile]
      by_cases hname : name = key
      · subst hname
        by_cases h : k = name <;> simp [lookup_file, h]
      · by_cases h : k = name
        · subst h
          simp [hname]
        · simp [lookup_file, hname, h, ih]

/-- A file that is taken away from others is not found any more, and the
others are as before. -/
theorem lookup_filter (key k : Path) (files : List (Path × Octets)) :
    (files.filter (·.1 != key)).lookup k = if k = key then none else files.lookup k := by
  induction files with
  | nil => simp
  | cons file rest ih =>
      obtain ⟨name, content⟩ := file
      by_cases hname : name = key
      · subst hname
        rw [List.filter_cons_of_neg (by simp), ih, lookup_file]
        by_cases h : k = name <;> simp [h]
      · rw [List.filter_cons_of_pos (by simp [hname]), lookup_file, lookup_file, ih]
        by_cases h : k = name <;> simp [h, hname]

/-- The same on a disk: what is put at a place is found there. -/
@[simp] theorem find?_put (d : Disk) (key k : Path) (content : Octets) :
    (d.put key content).find? k = if k = key then some content else d.find? k :=
  lookup_putFile key k content d.files

/-- And what is erased is not. -/
@[simp] theorem find?_erase (d : Disk) (key k : Path) :
    (d.erase key).find? k = if k = key then none else d.find? k :=
  lookup_filter key k d.files

/-! ### Places -/

/-- Where a component leads depends on the directories alone, if it leads
anywhere. -/
theorem enter_of_directories {d d' : Disk} (h : d'.directories = d.directories)
    {here next : Path} {name : Text} (hd : d.enter here name = .ok next) :
    d'.enter here name = .ok next := by
  unfold enter at hd
  split at hd
  · rename_i hdir
    have hdir' : d'.isDirectory here = true := by
      rw [← hdir]
      unfold isDirectory
      rw [h]
    rw [enter, if_pos hdir']
    exact hd
  · split at hd <;> cases hd

/-- So does where a row of components leads. -/
theorem walk_of_directories {d d' : Disk} (h : d'.directories = d.directories)
    {here key : Path} {parts : List Text} (hd : parts.foldlM d.enter here = .ok key) :
    parts.foldlM d'.enter here = .ok key := by
  induction parts generalizing here with
  | nil => exact hd
  | cons name rest ih =>
      rw [List.foldlM_cons] at hd ⊢
      cases hnext : d.enter here name with
      | error r =>
          rw [hnext] at hd
          cases hd
      | ok next =>
          rw [hnext] at hd
          rw [enter_of_directories h hnext]
          exact ih hd

/-- Where a path leads depends on the directories only. -/
theorem locate_of_directories {d d' : Disk} (h : d'.directories = d.directories)
    {p key : Path} (hd : d.locate p = .ok key) : d'.locate p = .ok key := by
  unfold locate at hd ⊢
  split at hd
  · cases hd
  · rename_i hsize
    rw [if_neg hsize]
    exact walk_of_directories h hd

/-- A file that may be opened stands where its path leads. -/
theorem locate_of_reach {d : Disk} {p key : Path} (h : d.reach p = .ok key) :
    d.locate p = .ok key := by
  unfold reach at h
  split at h
  · cases h
  split at h
  · cases h
  split at h
  · cases h
  cases h
  assumption

/-- With the same directories, a path reaches the same place, whatever files
there are. -/
theorem reach_of_directories {d d' : Disk} (h : d'.directories = d.directories)
    {p key : Path} (hd : d.reach p = .ok key) : d'.reach p = .ok key := by
  have hlocate := locate_of_directories h (locate_of_reach hd)
  unfold reach at hd ⊢
  split at hd
  · cases hd
  · rename_i hnull
    rw [if_neg hnull, hlocate]
    split at hd
    · cases hd
    · split at hd
      · cases hd
      · rename_i hdir
        cases hd
        have hdir' : d'.isDirectory key = d.isDirectory key := by
          unfold isDirectory
          rw [h]
        simp only [hdir', if_neg hdir]

/-- Only a null character makes a name one that no file can have. -/
theorem contains_of_reach_nullByte {d : Disk} {p : Path} (h : d.reach p = .error .nullByte) :
    p.text.contains '\x00' = true := by
  unfold reach at h
  split at h
  · assumption
  · split at h
    · cases h
    · split at h <;> cases h

/-- The place that a component leads to is named by it, unless it leads up. -/
theorem getLast?_of_enter {d : Disk} {here key : Path} {name : Text} (hup : name ≠ ['.', '.'])
    (h : d.enter here name = .ok key) : key.parts.getLast? = some name := by
  unfold enter at h
  split at h
  · split at h
    · cases h
    · cases h
      simp [advance, hup, Path.child]
  · split at h <;> cases h

/-- A walk along a path ends with a step into its last component, from where
the components in front of that lead. -/
theorem exists_enter_of_locate {d : Disk} {p key : Path} {init : List Text} {name : Text}
    (hparts : p.parts = init ++ [name]) (h : d.locate p = .ok key) :
    ∃ here, init.foldlM d.enter (⟨p.anchor.take 1, []⟩ : Path) = .ok here ∧
      d.enter here name = .ok key := by
  unfold locate at h
  split at h
  · cases h
  · rw [hparts, List.foldlM_append] at h
    cases hinit : init.foldlM d.enter (⟨p.anchor.take 1, []⟩ : Path) with
    | error r =>
        rw [hinit] at h
        cases h
    | ok here =>
        rw [hinit] at h
        have henter : (d.enter here name >>= pure) = .ok key := h
        rw [bind_pure] at henter
        exact ⟨here, rfl, henter⟩

/-- A path leads to a place of the same last name, unless that leads upwards. -/
theorem getLast?_of_locate {d : Disk} {p key : Path} {name : Text}
    (hlast : p.parts.getLast? = some name) (hup : name ≠ ['.', '.'])
    (h : d.locate p = .ok key) : key.parts.getLast? = some name := by
  obtain ⟨init, hparts⟩ := List.getLast?_eq_some_iff.mp hlast
  obtain ⟨here, -, henter⟩ := exists_enter_of_locate hparts h
  exact getLast?_of_enter hup henter

/-! ### Operations on open files -/

/-- A file that can be reached is opened, unless the system refuses. -/
theorem create_of_reach {d : Disk} {p key : Path} (hreach : d.reach p = .ok key)
    (hopen : d.faults.opening p d.attempts = none) :
    d.create p = (.ok ⟨p, key, d.attempts, 0⟩,
      { d.put key [] with attempts := d.attempts + 1, live := d.live ++ [d.attempts] }) := by
  simp only [create, hreach, hopen]
  rfl

/-- Opening counts the attempt; if it succeeds, the file is there and empty. -/
theorem create_cases (d : Disk) (p : Path) :
    (∃ e, d.create p = (.error e, { d with attempts := d.attempts + 1 })) ∨
    (∃ key, d.reach p = .ok key ∧
      d.create p = (.ok ⟨p, key, d.attempts, 0⟩,
        { d.put key [] with attempts := d.attempts + 1, live := d.live ++ [d.attempts] })) := by
  cases hreach : d.reach p with
  | error e => exact .inl ⟨e, by rw [create, hreach]⟩
  | ok key =>
      cases hopen : d.faults.opening p d.attempts with
      | some r => exact .inl ⟨.refused r, by simp only [create, hreach, hopen]⟩
      | none => exact .inr ⟨key, rfl, create_of_reach hreach hopen⟩

/-- A null character keeps a file from being opened before the path is
followed. -/
theorem reach_of_create_nullByte {d : Disk} {p : Path} (h : (d.create p).1 = .error .nullByte) :
    d.reach p = .error .nullByte := by
  unfold create at h
  simp only at h
  split at h
  · rename_i hreach
    cases h
    exact hreach
  · split at h <;> cases h

/-- The answer to a write is that of the plan. -/
theorem write_answer (d : Disk) (h : Handle) (octets : Octets) :
    (d.write h octets).1 = d.faults.writing h.path h.attempt (h.writes + 1) := by
  unfold write
  simp only
  split <;> simp only [*]

/-- A write is refused and changes nothing, or adds its octets. -/
theorem write_cases (d : Disk) (h : Handle) (octets : Octets) :
    (∃ r, d.faults.writing h.path h.attempt (h.writes + 1) = some r ∧
      d.write h octets = (some r, { h with writes := h.writes + 1 }, d)) ∨
    d.write h octets = (none, { h with writes := h.writes + 1 },
      d.put h.key ((d.find? h.key).getD [] ++ octets)) := by
  unfold write
  cases hwrite : d.faults.writing h.path h.attempt (h.writes + 1) with
  | some r => exact .inl ⟨r, rfl, rfl⟩
  | none => exact .inr rfl

/-- Removing a file that a path leads to leaves all others. -/
theorem find?_remove {d : Disk} {p key : Path} (h : d.locate p = .ok key) (k : Path) :
    (d.remove p).find? k = if k = key then none else d.find? k := by
  rw [remove, h]
  exact find?_erase d key k

@[simp] theorem directories_remove (d : Disk) (p : Path) :
    (d.remove p).directories = d.directories := by
  unfold remove
  split <;> rfl

@[simp] theorem live_remove (d : Disk) (p : Path) : (d.remove p).live = d.live := by
  unfold remove
  split <;> rfl

/-- A path that leads to a stored file reads as its content. -/
theorem read_eq_ok {d : Disk} {p key : Path} {content : Octets} (h : d.reach p = .ok key)
    (hfile : d.find? key = some content) : d.read p = .ok content := by
  simp [read, h, hfile]

/-- A path that leads to no file reads as none. -/
theorem read_eq_noSuchFile {d : Disk} {p key : Path} (h : d.reach p = .ok key)
    (hfile : d.find? key = none) : d.read p = .error (.refused .noSuchFile) := by
  simp [read, h, hfile]

end Disk
end TraceScript
