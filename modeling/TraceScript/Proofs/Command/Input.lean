import TraceScript.Proofs.Command.Status
import TraceScript.Proofs.Script.Place
import TraceScript.Proofs.Session.Frame

/-!
# A script and its own output

The output of a script file is named after it, and nothing asks whether one of the
names is that of the script itself (`Script.Overwrites`).  The stream's name is
where the script has the suffix of a stream, and a checkpoint's may be where the
script's name ends as those of expected output do.  A run then empties its own
script, and may remove it (`runScript_overwrites`).

Any other script is there behind the run as it was before, however the run ends
(`runScript_keeps_script`): a session writes to the places of its output only, and
what cannot be prepared writes nothing.
-/

namespace TraceScript

/-- One of the names of a script's output leads to the place of a file. -/
def Script.Overwrites (script : Script) (disk : Disk) (file : Path) : Prop :=
  disk.reach script.streamPath = disk.reach file ∨
    ∃ p ∈ script.checkpoints script.lines, disk.reach p = disk.reach file

variable {disk : Disk} {file : Path} {octets : Octets}

/-- What is read stands at the place that the name leads to. -/
theorem Disk.exists_key_of_read (h : disk.read file = .ok octets) :
    ∃ key, disk.reach file = .ok key ∧ disk.find? key = some octets := by
  unfold read at h
  split at h
  · cases h
  · rename_i key hreach
    split at h
    · rename_i content hfile
      cases h
      exact ⟨key, hreach, hfile⟩
    · cases h

/-- A session leaves a file as it is that is none of its output.  The place of
the file is neither that of the stream nor that of a checkpoint, and no other
place is written to. -/
theorem Session.read_of_run {σ : Type} {script : Script} (hread : disk.read file = .ok octets)
    (hspared : ¬ script.Overwrites disk file) (assembly : LabelTable) (e : Encoder σ) (state : σ) :
    (Session.start disk script assembly e state).run.2.disk.read file = .ok octets := by
  obtain ⟨key, hkey, hfile⟩ := Disk.exists_key_of_read hread
  obtain ⟨hdirectories, hothers⟩ := Session.run_spares disk script assembly e state
  have hstream : disk.reach script.streamPath ≠ .ok key := fun h =>
    hspared (.inl (h.trans hkey.symm))
  have hcheckpoints : ∀ p ∈ script.checkpoints script.lines, disk.reach p ≠ .ok key :=
    fun p hp h => hspared (.inr ⟨p, hp, h.trans hkey.symm⟩)
  have hkept : (Session.start disk script assembly e state).run.2.disk.find? key = some octets :=
    calc (Session.start disk script assembly e state).run.2.disk.find? key
        = disk.find? key := hothers key hstream hcheckpoints
      _ = some octets := hfile
  exact Disk.read_eq_ok (Disk.reach_of_directories hdirectories hkey) hkept

/-- What a run leaves on the disk: nothing new, or what the session does. -/
theorem disk_runScript (disk : Disk) (file : Path) (assembly : LabelTable) (size : Nat) :
    (runScript disk file assembly size).disk = disk ∨
    ∃ content, disk.readText file = .ok content ∧
      (runScript disk file assembly size).disk =
        (Session.start disk (Script.ofFile file content) assembly ptEncoder
          (Scratch.zeros size)).run.2.disk := by
  unfold runScript
  obtain ⟨f, hprepare, -⟩ | ⟨content, hcontent, hprepare⟩ := prepare_cases disk file assembly size
  · rw [hprepare]
    exact .inl rfl
  · rw [hprepare]
    exact .inr ⟨content, Disk.readText_of_loadText hcontent, rfl⟩

/-- A run leaves its script alone, unless one of its output files is the
script.  The stream is just if the script's suffix is that of a stream, and a
file of expected output only if the script's name ends as those do; so for
every other name the script is there afterwards, with the content that it
had.  This holds of sessions over any content and with any encoder, and of
running the file with any labels and any buffer, whether that succeeds or
fails and whatever the disk refuses. -/
theorem runScript_keeps_script (disk : Disk) (t : Text) (octets : Octets)
    (hread : disk.read (Path.ofText t) = .ok octets) :
    let file := Path.ofText t
    (∀ content, let script := Script.ofFile file content
      (disk.reach script.streamPath = disk.reach file ↔ file.name = file.stem ++ ".pt".toList) ∧
      (∀ p ∈ script.checkpoints script.lines, disk.reach p = disk.reach file →
        ".exp".toList <:+ file.name) ∧
      (¬ script.Overwrites disk file → ∀ (σ : Type) (assembly : LabelTable) (e : Encoder σ)
        (state : σ),
        (Session.start disk script assembly e state).run.2.disk.read file = .ok octets)) ∧
    ∀ assembly size,
      (∀ content, disk.readText file = .ok content →
        ¬ (Script.ofFile file content).Overwrites disk file) →
      (runScript disk file assembly size).disk.read file = .ok octets := by
  intro file
  obtain ⟨key, hkey, -⟩ := Disk.exists_key_of_read hread
  refine ⟨fun content => ⟨?_, ?_, ?_⟩, fun assembly size hspared => ?_⟩
  · rw [hkey]
    exact Script.reach_streamPath_iff (Path.isNormal_ofText t) hkey content
  · intro p hp hplace
    obtain ⟨extra, rfl⟩ := Script.expectationPath_of_mem hp
    exact Script.suffix_of_reach_expectationPath hkey (hplace.trans hkey)
  · intro hspared σ assembly e state
    exact Session.read_of_run hread hspared assembly e state
  · obtain hsame | ⟨content, hcontent, hdisk⟩ := disk_runScript disk file assembly size
    · rw [hsame]
      exact hread
    · rw [hdisk]
      exact Session.read_of_run hread (hspared content hcontent) assembly ptEncoder _

/-- A script whose second pass fails: the file of expected output is gone, and
the script is there. -/
theorem runScript_keeps_script_failing :
    let file := Path.ofText "./t.ptt".toList
    let octets := Text.Utf8.encode "; @pt pad()\n; @pt .exp\n; %none\n".toList
    let disk := Disk.empty.withFile file octets
    let report := runScript disk file LabelTable.empty 64
    disk.read file = .ok octets ∧ report.outcome = .ok ErrorCode.noLabel.number ∧
      report.disk.read (Path.ofText "t.exp".toList) = .error (.refused .noSuchFile) ∧
      report.disk.read file = .ok octets := by
  intro file octets disk report
  have hread : disk.read file = .ok octets := by decide +kernel
  obtain ⟨hnames, hkept⟩ := runScript_keeps_script disk "./t.ptt".toList octets hread
  have hreport : report.disk.read file = .ok octets := by
    refine hkept LabelTable.empty 64 fun content _ => ?_
    obtain ⟨hstream, hexpected, -⟩ := hnames content
    rintro (hplace | ⟨p, hp, hplace⟩)
    · exact absurd (hstream.mp hplace) (by decide +kernel)
    · exact absurd (hexpected p hp hplace) (by decide +kernel)
  exact ⟨hread, by decide +kernel, by decide +kernel, hreport⟩

/-- A script with the suffix of a stream becomes its own stream; one with the
suffix of expected output is emptied by its checkpoint, and removed when the
next line fails. -/
theorem runScript_overwrites :
    let run (file : Path) (content : Text) : Report :=
      runScript (Disk.empty.withFile file (Text.Utf8.encode content)) file LabelTable.empty 64
    let stream := Path.ofText "t.pt".toList
    let expected := Path.ofText "t.exp".toList
    let packets := "; @pt pad()\n".toList
    let lines := "; @pt .exp\n; %none\n".toList
    ((Disk.empty.withFile stream (Text.Utf8.encode packets)).read stream =
        .ok (Text.Utf8.encode packets) ∧
      (run stream packets).outcome = .ok 0 ∧
      (run stream packets).disk.read stream = .ok [0x00]) ∧
    (Disk.empty.withFile expected (Text.Utf8.encode lines)).read expected =
        .ok (Text.Utf8.encode lines) ∧
      (run expected lines).disk.read expected = .error (.refused .noSuchFile) := by
  decide +kernel

end TraceScript
