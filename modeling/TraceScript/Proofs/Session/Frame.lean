import TraceScript.Proofs.Session.Course

/-!
# What a session leaves alone

A session writes to the file of its stream and to the files of its checkpoints, and
to nothing else, however it ends and whatever the disk refuses.  The first pass
keeps to the place where the stream's file was opened (`Recording.Spares`), the
second to the places of the checkpoints (`Writer.run_frame`); no directory changes,
so that a name leads to the same place from the start to the end
(`Session.run_spares`).
-/

namespace TraceScript

variable {σ : Type}

namespace Recording

variable {r r' r'' : Recording σ}

/-- What lines leave as it is: the place of the file, and every other place. -/
structure Spares (r r' : Recording σ) : Prop where
  key : r'.handle.key = r.handle.key
  others : ∀ k, k ≠ r.handle.key → r'.disk.find? k = r.disk.find? k

theorem Spares.refl (r : Recording σ) : r.Spares r :=
  ⟨rfl, fun _ _ => rfl⟩

theorem Spares.trans (h : r.Spares r') (h' : r'.Spares r'') : r.Spares r'' where
  key := h'.key.trans h.key
  others k hk := (h'.others k (by rwa [h.key])).trans (h.others k hk)

/-- A packet is stored at the place of the file, and a packet that is refused
nowhere. -/
theorem spares_store (r : Recording σ) (emission : Emission) : r.Spares (r.store emission).2 := by
  cases emission with
  | finished offset => exact .refl r
  | packet offset name label packet =>
      obtain ⟨reason, -, hstore⟩ | ⟨-, hstore⟩ := r.store_cases offset name label packet
      · rw [hstore]
        exact ⟨rfl, fun _ _ => rfl⟩
      · rw [hstore]
        refine ⟨rfl, fun k hk => ?_⟩
        rw [added, Disk.find?_put, if_neg hk]

/-- A line writes to no other place than that of the file. -/
theorem spares_take (e : Encoder σ) (r : Recording σ) (line : ScriptLine) :
    r.Spares (r.take e line).2 := by
  rw [take_eq]
  cases r.stream.dispatchLine e line with
  | mk answer stream =>
    cases answer with
    | error f => exact ⟨rfl, fun _ _ => rfl⟩
    | ok emission =>
        have htold : r.Spares
            { r with stream := stream, notices := r.notices ++ emission.notices } :=
          ⟨rfl, fun _ _ => rfl⟩
        exact htold.trans (spares_store _ emission)

/-- Nor does a row of lines, by induction on the lines up to the one that ends
the pass. -/
theorem spares_takeAll (e : Encoder σ) (lines : List ScriptLine) (r : Recording σ) :
    r.Spares (takeAll e lines r).2 := by
  induction lines generalizing r with
  | nil => exact .refl r
  | cons line rest ih =>
      have hline := spares_take e r line
      rw [takeAll]
      split
      · rename_i r₁ htake
        rw [htake] at hline
        exact hline.trans (ih r₁)
      · exact hline

end Recording

namespace Session

/-- The first pass changes no directory, and no file but that of the stream.
If the file of the stream cannot be opened, no file is changed at all. -/
theorem firstPass_spares (disk : Disk) (script : Script) (assembly : LabelTable) (e : Encoder σ)
    (state : σ) :
    (firstPass disk script assembly e state).2.disk.directories = disk.directories ∧
    ∀ key, disk.reach script.streamPath ≠ .ok key →
      (firstPass disk script assembly e state).2.disk.find? key = disk.find? key := by
  obtain ⟨error, hcreate⟩ | ⟨place, hreach, hcreate⟩ := disk.create_cases script.streamPath
  · have hdisk : (firstPass disk script assembly e state).2.disk =
        { disk with attempts := disk.attempts + 1 } := by
      simp only [firstPass, encode, start, hcreate]
    rw [hdisk]
    exact ⟨rfl, fun _ _ => rfl⟩
  · let opened : Recording σ :=
      ⟨Stream.start ⟨assembly, LabelTable.empty⟩ state,
        ⟨script.streamPath, place, disk.attempts, 0⟩,
        { disk.put place [] with
          attempts := disk.attempts + 1, live := disk.live ++ [disk.attempts] }, []⟩
    let ended := Recording.takeAll e script.directiveLines opened
    have htake : Recording.takeAll e script.directiveLines opened = (ended.1, ended.2) := rfl
    obtain ⟨s, hpass, -, hdisk, -, -⟩ := firstPass_sealed hcreate htake
    have hkeeps := Recording.keeps_takeAll e script.directiveLines opened
    have hspares := Recording.spares_takeAll e script.directiveLines opened
    rw [hpass, hdisk]
    refine ⟨hkeeps.directories, fun key hkey => ?_⟩
    have hplace : key ≠ place := by
      rintro rfl
      exact hkey hreach
    calc ended.2.disk.find? key
        = opened.disk.find? key := hspares.others key hplace
      _ = if key = place then some [] else disk.find? key := Disk.find?_put disk place key []
      _ = disk.find? key := if_neg hplace

/-- A session changes no directory, and no file but those of the stream and of
the checkpoints, however it ends. -/
theorem run_spares (disk : Disk) (script : Script) (assembly : LabelTable) (e : Encoder σ)
    (state : σ) :
    (start disk script assembly e state).run.2.disk.directories = disk.directories ∧
    ∀ key, disk.reach script.streamPath ≠ .ok key →
      (∀ p ∈ script.checkpoints script.lines, disk.reach p ≠ .ok key) →
      (start disk script assembly e state).run.2.disk.find? key = disk.find? key := by
  obtain ⟨hdirectories, hothers⟩ := firstPass_spares disk script assembly e state
  rw [run_eq]
  cases hpass : firstPass disk script assembly e state with
  | mk result s =>
    rw [hpass] at hdirectories hothers
    cases result with
    | error f => exact ⟨hdirectories, fun key hkey _ => hothers key hkey⟩
    | ok ended =>
        cases ended with
        | false => exact ⟨hdirectories, fun key hkey _ => hothers key hkey⟩
        | true =>
            obtain ⟨hexpanded, hkept⟩ := Writer.run_frame s.disk s.script s.stream.labels
            have hscript := script_of_firstPass hpass
            -- directories never change, so paths lead where they led before the first pass
            have hexpand : ∀ key, disk.reach script.streamPath ≠ .ok key →
                (∀ p ∈ script.checkpoints script.lines, disk.reach p ≠ .ok key) →
                (Writer.run s.disk s.script s.stream.labels).2.disk.find? key =
                  disk.find? key := by
              intro key hkey hnone
              refine (hkept key fun p hp hreach => ?_).trans (hothers key hkey)
              rw [hscript] at hp
              exact hnone p hp (Disk.reach_of_directories hdirectories.symm hreach)
            simp only [expandAll]
            cases (Writer.run s.disk s.script s.stream.labels).1 with
            | error f => exact ⟨hexpanded.trans hdirectories, hexpand⟩
            | ok files => exact ⟨hexpanded.trans hdirectories, hexpand⟩

end Session
end TraceScript
