import TraceScript.Proofs.Expectation.Course

/-!
# What a failed second pass leaves behind

A run of the writer that fails has handled some lines, and then a failure
strikes on the next one, or at the last closing.  Which files are left depends
on the failure: a file that could not be opened takes nothing with it, anything
else takes the file of the section it strikes in (`cleanedUp_discard`).

Main fact: `run_cleans_up`.
-/

namespace TraceScript.Writer

/-- What a failure leaves of the sections before it; `next` is the file that
the line with the failure was to open. -/
inductive CleanedUp (disk : Disk) (labels : Labels) (sections : List Section) (next : Option Path)
    (f : Failure) (w : Writer) : Prop
  /-- The next file could not be opened: all sections are complete. -/
  | notOpened (path : Path) (e : OpenError) (hnext : next = some path)
      (hf : f = .ofOpenError path e) (hreported : w.reported = sections.map (·.path))
      (hkept : Kept disk labels sections [] w.disk)
  /-- Anything else in front of the first section: nothing has happened. -/
  | inFront (hf : ¬ f.Opening) (hsections : sections = []) (hreported : w.reported = [])
      (hsame : ∀ key, w.disk.find? key = disk.find? key)
  /-- Anything else in a section: its file is gone, and those before it are complete. -/
  | inside (done : List Section) (last : Section) (hf : ¬ f.Opening)
      (hsections : sections = done ++ [last]) (hreported : w.reported = done.map (·.path))
      (hgone : w.disk.read last.path = .error (.refused .noSuchFile))
      (hkept : Kept disk labels done [last.path] w.disk)

variable {disk : Disk} {script : Script} {labels : Labels} {sections : List Section}
  {next : Option Path} {f : Failure} {w : Writer}

/-- Discarding cleans up after every failure and closes every file.  Where the
failure has struck within a section, the file that goes is that of the
section; between sections none goes. -/
theorem cleanedUp_discard (h : Struck disk labels sections next f w)
    (hdistinct : DistinctFiles disk (sections.map (·.path))) :
    CleanedUp disk labels sections next f w.discard ∧ w.discard.file = none ∧
      w.discard.disk.live.Perm disk.live := by
  obtain ⟨path, e, hnext, hf, hw⟩ | ⟨hf, ⟨hsections, hw⟩ | ⟨done, last, hsections, hw⟩⟩ := h
  · rw [discard_of_idle hw]
    have hkept : Kept disk labels sections [] w.disk :=
      kept_of_stored hdistinct hw.reached hw.directories fun key _ => hw.stored key
    exact ⟨.notOpened path e hnext hf hw.reported hkept, hw.file, hw.live⟩
  · rw [discard_of_idle hw]
    have hsame : ∀ key, w.disk.find? key = disk.find? key := fun key => hw.stored key
    exact ⟨.inFront hf hsections hw.reported hsame, hw.file, hw.live⟩
  · have hc := discard_of_stopped hw
    obtain ⟨key, hkey, hnone, hothers⟩ := hc.place
    have hgone : w.discard.disk.read last.path = .error (.refused .noSuchFile) :=
      Disk.read_eq_noSuchFile (Disk.reach_of_directories hc.directories hkey) hnone
    have hnames : DistinctFiles disk ([last.path] ++ done.map (·.path)) :=
      hdistinct.subset (by simp [hsections])
    have hkept : Kept disk labels done [last.path] w.discard.disk := by
      apply kept_of_stored hnames hc.reached hc.directories
      intro k hk
      apply hothers
      rintro rfl
      exact hk last.path (by simp) hkey
    exact ⟨.inside done last hf hsections hc.reported hgone hkept, hc.file, hc.live⟩

/-- The second pass cleans up after every failure.  The lines before the
failure have been handled.  If the next file could not be opened, all files
before it are complete and reported; if anything else fails in a section, that
section's file is removed and those before it are complete and reported; in
front of the first section nothing has happened.  No other file is changed,
and none is left open. -/
theorem run_cleans_up (hrun : run disk script labels = (.error f, w))
    (hdistinct : DistinctFiles disk (script.checkpoints script.lines)) :
    ∃ handled rest wh ws, script.lines = handled ++ rest ∧
      takeAll script labels handled (start disk) = (.ok (), wh) ∧
      StrikesOn script labels wh rest f ws ∧
      CleanedUp disk labels (script.sectionsOf handled) (rest.head?.bind script.checkpoint?) f w ∧
      w.file = none ∧ w.disk.live.Perm disk.live := by
  obtain ⟨handled, rest, wh, ws, hlines, hhandled, hstrikes, hstruck, rfl⟩ := struck_of_run hrun
  have hnames : DistinctFiles disk ((script.sectionsOf handled).map (·.path)) := by
    rw [script.map_path_sectionsOf]
    rw [hlines, Script.checkpoints, List.filterMap_append] at hdistinct
    exact hdistinct.subset (List.subset_append_left _ _)
  obtain ⟨hcleaned, hfile, hlive⟩ := cleanedUp_discard hstruck hnames
  exact ⟨handled, rest, wh, ws, hlines, hhandled, hstrikes, hcleaned, hfile, hlive⟩

/-- A script whose second file cannot be closed when a third is to be opened. -/
theorem run_cleans_up_refused_close :
    let script := Script.ofText "t.asm".toList "t".toList
      "; @pt .exp(a)\n; x\n; @pt .exp\n; y\n; @pt .exp(b)\n; z".toList
    let labels : Labels := ⟨LabelTable.empty, LabelTable.empty⟩
    let a := Path.ofText "t-a.exp".toList
    let t := Path.ofText "t.exp".toList
    let refusing : Path → Nat → Option Refusal := fun p _ => if p = t then some .noSpace else none
    let disk : Disk := ⟨[], [(t, [1])], { Faults.none with closing := refusing }, 0, []⟩
    ∃ w, run disk script labels = (.error (.ofRefusedWrite t .noSpace), w) ∧ w.file = none ∧
      w.disk.live = [] ∧ w.reported = [a] ∧
      w.disk.read t = .error (.refused .noSuchFile) ∧
      w.disk.read a = .ok (Text.Utf8.encode " x\n".toList) := by
  intro script labels a t refusing disk
  have hanswer : (run disk script labels).1 = .error (.ofRefusedWrite t .noSpace) := by
    decide +kernel
  have hrun : run disk script labels =
      (.error (.ofRefusedWrite t .noSpace), (run disk script labels).2) := Prod.ext hanswer rfl
  have hdistinct : DistinctFiles disk (script.checkpoints script.lines) :=
    distinctFiles_of_self (by decide +kernel)
  obtain ⟨handled, rest, wh, ws, -, -, -, -, hfile, hlive⟩ := run_cleans_up hrun hdistinct
  exact ⟨_, hrun, hfile, hlive.eq_nil, by decide +kernel, by decide +kernel, by decide +kernel⟩

end TraceScript.Writer
