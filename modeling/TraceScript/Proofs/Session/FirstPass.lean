import TraceScript.Proofs.Disk.Suffix
import TraceScript.Proofs.Expectation.Course
import TraceScript.Proofs.Session.Recording

/-!
# The first pass of a session

Where the stream's file can be opened, written and closed, a session leaves in
it the packets of the directives in front of the line at which the first pass
ends, whatever becomes of the session then; its labels and its offset are those
of the same pieces (`run_stream`).  The second pass does not touch the stream
(`run_keeps_stream`).
-/

namespace TraceScript.Session

variable {σ : Type} {disk opened : Disk} {h : Handle} {script : Script} {assembly : LabelTable}
  {e : Encoder σ} {state : σ}

/-- The first pass of a new session. -/
def firstPass (disk : Disk) (script : Script) (assembly : LabelTable) (e : Encoder σ) (state : σ) :
    Except Failure Bool × Session σ :=
  { start disk script assembly e state with phase := .encoding }.encode

/-- What closing the stream's file makes of the answer of the first pass. -/
def sealed (refusal : Option Refusal) (result : Except Failure Bool) : Except Failure Bool :=
  match refusal with
  | some reason => .error (.system reason none)
  | none => result

/-- A recording ends as its lines do, unless its file cannot be closed. -/
theorem record_of_takeAll {s : Session σ} {result : Except Failure Bool} {r : Recording σ}
    (htake : Recording.takeAll s.encoder s.script.directiveLines ⟨s.stream, h, s.disk, s.notices⟩ =
      (result, r)) :
    ∃ s', s.record h = (sealed (r.disk.close r.handle).1 result, s') ∧ s'.stream = r.stream ∧
      s'.disk = (r.disk.close r.handle).2 ∧ s'.script = s.script ∧ s'.files = s.files := by
  unfold record
  simp only [htake]
  cases (r.disk.close r.handle).1 with
  | none => exact ⟨_, rfl, rfl, rfl, rfl, rfl⟩
  | some reason => exact ⟨_, rfl, rfl, rfl, rfl, rfl⟩

/-- The first pass ends as the recording of the script's directives does,
unless the stream's file cannot be closed. -/
theorem firstPass_sealed {result : Except Failure Bool} {r : Recording σ}
    (hcreate : disk.create script.streamPath = (.ok h, opened))
    (htake : Recording.takeAll e script.directiveLines
      ⟨Stream.start ⟨assembly, LabelTable.empty⟩ state, h, opened, []⟩ = (result, r)) :
    ∃ s, firstPass disk script assembly e state = (sealed (r.disk.close r.handle).1 result, s) ∧
      s.stream = r.stream ∧ s.disk = (r.disk.close r.handle).2 ∧ s.script = script ∧
      s.files = [] := by
  let ready : Session σ :=
    { start disk script assembly e state with phase := .encoding, disk := opened }
  obtain ⟨s, hrecord, hstream, hdisk, hscript, hfiles⟩ := record_of_takeAll (s := ready) htake
  have hscript' : s.script = script := hscript
  have hfiles' : s.files = [] := hfiles
  simp only [ready, start] at hrecord
  unfold firstPass encode
  simp only [start, hcreate, hrecord]
  cases sealed (r.disk.close r.handle).1 result with
  | error f => exact ⟨s, rfl, hstream, hdisk, hscript', hfiles'⟩
  | ok ended =>
      cases ended with
      | false => exact ⟨_, rfl, hstream, hdisk, hscript', hfiles'⟩
      | true => exact ⟨s, rfl, hstream, hdisk, hscript', hfiles'⟩

/-- Where the file can be closed, the first pass ends as the recording does. -/
theorem firstPass_of_takeAll {result : Except Failure Bool} {r : Recording σ}
    (hcreate : disk.create script.streamPath = (.ok h, opened))
    (htake : Recording.takeAll e script.directiveLines
      ⟨Stream.start ⟨assembly, LabelTable.empty⟩ state, h, opened, []⟩ = (result, r))
    (hclose : r.disk.faults.closing r.handle.path r.handle.attempt = none) :
    ∃ s, firstPass disk script assembly e state = (result, s) ∧ s.stream = r.stream ∧
      s.disk = (r.disk.close r.handle).2 ∧ s.script = script ∧ s.files = [] := by
  have hpass := firstPass_sealed hcreate htake
  rwa [Disk.close, hclose] at hpass

/-- A session is its first pass, and its second where the first has ended at a
terminator. -/
theorem run_eq (disk : Disk) (script : Script) (assembly : LabelTable) (e : Encoder σ) (state : σ) :
    (start disk script assembly e state).run =
      match firstPass disk script assembly e state with
      | (.error f, s) => s.fail f
      | (.ok false, s) => (.ok s.files, { s with phase := .done })
      | (.ok true, s) =>
          match { s with phase := .expanding }.expandAll with
          | (.error f, s) => s.fail f
          | (.ok files, s) => (.ok files, { s with files := files, phase := .done }) := by
  have hready : (start disk script assembly e state).phase = .ready := rfl
  rw [run, if_pos hready]
  rfl

/-- The second pass changes neither the stream nor its file. -/
theorem expandAll_keeps_stream (s : Session σ) {key : Path}
    (hkey : s.disk.reach s.script.streamPath = .ok key) :
    s.expandAll.2.stream = s.stream ∧ s.expandAll.2.disk.directories = s.disk.directories ∧
      s.expandAll.2.disk.find? key = s.disk.find? key := by
  obtain ⟨hdirectories, hothers⟩ := Writer.run_frame s.disk s.script s.stream.labels
  refine ⟨rfl, hdirectories, ?_⟩
  apply hothers
  intro p hp
  obtain ⟨extra, rfl⟩ := Script.expectationPath_of_mem hp
  exact Script.reach_expectationPath_ne extra hkey

/-- What becomes of a session behind its first pass changes neither its stream
nor the stream's file, and a failure of the first pass is one of the session. -/
theorem run_keeps_stream {result : Except Failure Bool} {s : Session σ} {key : Path}
    (hpass : firstPass disk script assembly e state = (result, s))
    (hkey : s.disk.reach s.script.streamPath = .ok key) :
    ∃ answer s', (start disk script assembly e state).run = (answer, s') ∧ s'.stream = s.stream ∧
      s'.disk.directories = s.disk.directories ∧ s'.disk.find? key = s.disk.find? key ∧
      ∀ f, result = .error f → answer = .error f := by
  rw [run_eq, hpass]
  cases result with
  | error f => exact ⟨.error f, _, rfl, rfl, rfl, rfl, fun g hg => by rw [Except.error.inj hg]⟩
  | ok ended =>
      cases ended with
      | false => exact ⟨.ok s.files, _, rfl, rfl, rfl, rfl, fun g hg => by cases hg⟩
      | true =>
          have hkept := expandAll_keeps_stream { s with phase := .expanding } hkey
          dsimp only
          cases hexpand : expandAll { s with phase := .expanding } with
          | mk answer s' =>
            rw [hexpand] at hkept
            obtain ⟨hstream, hdirectories, hfile⟩ := hkept
            have hok (f : Failure) (hf : (.ok true : Except Failure Bool) = .error f) :
                answer = .error f := by cases hf
            cases answer with
            | error f => exact ⟨.error f, _, rfl, hstream, hdirectories, hfile, hok⟩
            | ok files => exact ⟨.ok files, _, rfl, hstream, hdirectories, hfile, hok⟩

/-- A new file holds the octets of no pieces. -/
theorem holds_of_create (hcreate : disk.create script.streamPath = (.ok h, opened))
    (stream : Stream σ) :
    disk.reach script.streamPath = .ok h.key ∧ h.path = script.streamPath ∧
      Recording.Holds disk h (octetsOf []) ⟨stream, h, opened, []⟩ := by
  obtain ⟨error, hfailed⟩ | ⟨key, hreach, hopened⟩ := disk.create_cases script.streamPath
  · rw [hfailed] at hcreate
    cases hcreate
  · rw [hopened] at hcreate
    cases hcreate
    have hcontent : (disk.put key []).find? key = some [] := by
      rw [Disk.find?_put, if_pos rfl]
    exact ⟨hreach, rfl, rfl, rfl, rfl, hcontent, rfl, rfl⟩

/-- The first pass is exact.  The stream's file holds the packets of the
directives in front of the line at which the pass ends, and the offset is
their length; the labels are those on the same lines, each with the length of
what is in front of its packet, and the end of the stream is named behind them
just if a terminator ends the pass and its name can be defined.  Directives
behind that line are neither read nor handed to the encoder: whatever they
are, the pass is the same. -/
theorem run_stream (hcreate : disk.create script.streamPath = (.ok h, opened))
    (hwrite : ∀ n, disk.faults.writing script.streamPath h.attempt n = none)
    (hclose : disk.faults.closing script.streamPath h.attempt = none)
    (assembly : LabelTable) (e : Encoder σ) (state : σ) :
    ∃ made rest pieces after result s,
      script.directiveLines = made ++ rest ∧
      Pieces e assembly state made pieces after ∧
      PassEnd e assembly pieces after rest result s.stream ∧
      ((start disk script assembly e state).run).2 = s ∧
      s.disk.read script.streamPath = .ok (octetsOf pieces) ∧
      s.stream.offset = (octetsOf pieces).length ∧
      (∀ f, result = .error f → ((start disk script assembly e state).run).1 = .error f) ∧
      ∀ lines more, lines.filter (·.isDirective) = made ++ (rest.take 1 ++ more) →
        (rest = [] → more = []) →
        ∃ s', firstPass disk { script with lines := lines } assembly e state = (result, s') ∧
          s'.stream = s.stream ∧ s'.disk.read script.streamPath = .ok (octetsOf pieces) := by
  obtain ⟨hreach, hpath, hholds⟩ :=
    holds_of_create hcreate (Stream.start ⟨assembly, LabelTable.empty⟩ state)
  rw [← hpath] at hwrite hclose
  obtain ⟨made, rest, pieces, after, result, r, hlines, hpieces, hend, hr, hall⟩ :=
    Recording.takeAll_recorded script.directiveLines .nil rfl hholds hwrite
  have hclosed : r.disk.faults.closing r.handle.path r.handle.attempt = none := by
    rw [hr.faults, hr.path, hr.attempt, hclose]
  -- the pass of a script depends on its directives up to the end only
  have hpass (lines more : List ScriptLine)
      (hother : lines.filter (·.isDirective) = made ++ (rest.take 1 ++ more))
      (hmore : rest = [] → more = []) :
      ∃ s, firstPass disk { script with lines := lines } assembly e state = (result, s) ∧
        s.stream = r.stream ∧ s.disk.reach script.streamPath = .ok h.key ∧
        s.disk.find? h.key = some (octetsOf pieces) ∧
        s.script = { script with lines := lines } := by
    let other : Script := { script with lines := lines }
    have hcreate' : disk.create other.streamPath = (.ok h, opened) := hcreate
    have htake := hall more hmore
    rw [← hother] at htake
    obtain ⟨s, hs, hstream, hdisk, hscript, -⟩ := firstPass_of_takeAll hcreate' htake hclosed
    refine ⟨s, hs, hstream, ?_, ?_, hscript⟩
    · rw [hdisk]
      exact Disk.reach_of_directories hr.directories hreach
    · rw [hdisk]
      exact hr.content
  have hself : script.lines.filter (·.isDirective) = made ++ (rest.take 1 ++ rest.drop 1) := by
    rw [List.take_append_drop]
    exact hlines
  obtain ⟨s, hs, hstream, hkey, hcontent, hscript⟩ :=
    hpass script.lines (rest.drop 1) hself (by rintro rfl; rfl)
  obtain ⟨answer, s', hrun, hsame, hdirectories, hfile, hfailed⟩ :=
    run_keeps_stream hs (by rw [hscript]; exact hkey)
  rw [hrun]
  refine ⟨made, rest, pieces, after, result, s', hlines, hpieces, ?_, rfl, ?_, ?_, hfailed, ?_⟩
  · rw [hsame, hstream]
    exact hend
  · exact Disk.read_eq_ok (Disk.reach_of_directories hdirectories hkey) (hfile.trans hcontent)
  · rw [hsame, hstream]
    exact hend.offset
  · intro lines more hother hmore
    obtain ⟨t, ht, hstream', hkey', hcontent', -⟩ := hpass lines more hother hmore
    exact ⟨t, ht, by rw [hsame, hstream, hstream'], Disk.read_eq_ok hkey' hcontent'⟩

/-- Two packets, a terminator, and behind it what is no directive. -/
theorem run_stream_two_packets :
    let script := Script.ofText "t.asm".toList "t".toList
      "; @pt p: pad()\n; @pt q: psbend()\n; x %q\n; @pt .exp\n; @pt nothing()".toList
    let run := (start Disk.empty script LabelTable.empty ptEncoder (Scratch.zeros 8)).run
    ∃ made rest pieces after result, script.directiveLines = made ++ rest ∧
      Pieces ptEncoder LabelTable.empty (Scratch.zeros 8) made pieces after ∧
      PassEnd ptEncoder LabelTable.empty pieces after rest result run.2.stream ∧
      octetsOf pieces = [0x00, 0x02, 0x23] ∧
      run.2.stream.labels.directive =
        ⟨[("p".toList, 0), ("q".toList, 1), ("eos".toList, 3)]⟩ := by
  intro script run
  have hreach : Disk.empty.reach script.streamPath = .ok script.streamPath := by decide +kernel
  have hcreate : Disk.empty.create script.streamPath =
      (.ok ⟨script.streamPath, script.streamPath, 0, 0⟩,
        { Disk.empty.put script.streamPath [] with attempts := 1, live := [0] }) := by
    rw [Disk.create, hreach]
    rfl
  have hcontent : run.2.disk.read script.streamPath = .ok [0x00, 0x02, 0x23] := by decide +kernel
  have htable : run.2.stream.labels.directive =
      ⟨[("p".toList, 0), ("q".toList, 1), ("eos".toList, 3)]⟩ := by decide +kernel
  obtain ⟨made, rest, pieces, after, result, s, hlines, hpieces, hend, hs, hread, -, -, -⟩ :=
    run_stream hcreate (fun _ => rfl) rfl LabelTable.empty ptEncoder (Scratch.zeros 8)
  have hrun : run.2 = s := hs
  rw [hrun] at hcontent htable ⊢
  have hoctets : octetsOf pieces = [0x00, 0x02, 0x23] := Except.ok.inj (hread.symm.trans hcontent)
  exact ⟨made, rest, pieces, after, result, hlines, hpieces, hend, hoctets, htable⟩

end TraceScript.Session
