import TraceScript.Proofs.Packet.Room
import TraceScript.Proofs.Session.Recording

/-!
# A larger buffer

A session that finishes with a buffer of some size finishes with every larger
one, with the same files and the same labels (`run_of_room`).

The two runs differ in the buffer only, and the second has the larger one: so
are streams, recordings and sessions related part by part (`Roomier`).  Where an
operation succeeds on one side it succeeds on the other, with the same answer and
on related states (`Follows`); a failure of the first says nothing about the
second, since it may have been for want of space.
-/

namespace TraceScript

/-- Where the first operation succeeds, the second does, with the same answer
and on a related state. -/
def Follows {α S T : Type} (R : S → T → Prop) (x : Except Failure α × S)
    (y : Except Failure α × T) : Prop :=
  ∀ a s, x = (.ok a, s) → ∃ t, y = (.ok a, t) ∧ R s t

section Follows

variable {α S T : Type} {R : S → T → Prop}

/-- A failure says nothing about the other side. -/
theorem follows_error {y : Except Failure α × T} (f : Failure) (s : S) :
    Follows R (.error f, s) y := by
  rintro a s' ⟨⟩

/-- Two operations that succeed with the same answer follow each other, if
their states are related. -/
theorem follows_ok {s : S} {t : T} (a : α) (h : R s t) : Follows R (.ok a, s) (.ok a, t) := by
  rintro b s' ⟨⟩
  exact ⟨t, rfl, h⟩

/-- The first operation fails, or both succeed with the same answer. -/
theorem Follows.cases {x : Except Failure α × S} {y : Except Failure α × T} (h : Follows R x y) :
    (∃ f s, x = (.error f, s)) ∨ (∃ a s t, x = (.ok a, s) ∧ y = (.ok a, t) ∧ R s t) := by
  obtain ⟨answer, s⟩ := x
  cases answer with
  | error f => exact .inl ⟨f, s, rfl⟩
  | ok a =>
      obtain ⟨t, hy, ht⟩ := h a s rfl
      exact .inr ⟨a, s, t, rfl, hy, ht⟩

end Follows

/-! ### Streams -/

namespace Stream

variable {s s' : Stream Scratch}

/-- Two streams differ in the buffer only, and the second has the larger one. -/
inductive Roomier (s : Stream Scratch) : Stream Scratch → Prop
  | intro {b : Scratch} (hroom : s.encoder.size ≤ b.size) : Roomier s { s with encoder := b }

/-- Only the buffers differ. -/
theorem Roomier.fields (h : s.Roomier s') : s'.labels = s.labels ∧ s'.offset = s.offset := by
  cases h with
  | intro => exact ⟨rfl, rfl⟩

/-- The end of the packets asks for no space. -/
theorem Roomier.finish (h : s.Roomier s') (d : Directive) :
    Follows Roomier (s.finish d) (s'.finish d) := by
  cases h with
  | intro hroom =>
      unfold Stream.finish
      cases inContext (d.context "append label".toList) (s.labels.define endLabel s.offset) with
      | error f => exact follows_error f s
      | ok labels => exact follows_ok _ (.intro hroom)

/-- A packet that fits the smaller buffer fits the larger one, with the same
octets at its start. -/
theorem Roomier.emit (h : s.Roomier s') (d : Directive) :
    Follows Roomier (s.emit ptEncoder d) (s'.emit ptEncoder d) := by
  cases h with
  | @intro b hroom =>
    obtain ⟨f, after, hfailed⟩ | ⟨r, answer, after, hrequest, hissue, hanswer, hlabel, hemit⟩ :=
      s.emit_cases ptEncoder d
    · rw [hfailed]
      exact follows_error f _
    · -- a count says that the smaller buffer had space, so the larger one answers the same
      have hafter : (ptIssue s.encoder r) = (answer, after) := hissue
      have hspace : (ptIssue s.encoder r).1 ≠ Status.noSpace.number := by
        have := Status.noSpace.number_neg
        rw [hafter]
        omega
      obtain ⟨hcount, hpacket⟩ := ptIssue_of_room hroom r hspace
      have hsize := size_ptIssue s.encoder r
      have hsize' := size_ptIssue b r
      rw [hafter] at hcount hpacket hsize
      have hissue' : ptEncoder.issue b r = (answer, (ptIssue b r).2) := Prod.ext hcount rfl
      have hlarger : after.size ≤ (ptIssue b r).2.size := by
        rw [hsize, hsize']
        exact hroom
      have hanswer' : 0 ≤ answer ∧ answer ≤ (ptIssue b r).2.size :=
        ⟨hanswer.1, Int.le_trans hanswer.2 (Int.ofNat_le.mpr hlarger)⟩
      have hemit' :=
        emit_of_answer (s := { s with encoder := b }) (d := d) hrequest hissue' hanswer' hlabel
      have hfront : (ptEncoder.buffer (ptIssue b r).2).front answer.toNat =
          (ptEncoder.buffer after).front answer.toNat := hpacket
      rw [hemit, hemit', hfront]
      exact follows_ok _ (.intro hlarger)

/-- A line that makes a packet or the end makes the same with more room. -/
theorem Roomier.dispatchLine (h : s.Roomier s') (line : ScriptLine) :
    Follows Roomier (s.dispatchLine ptEncoder line) (s'.dispatchLine ptEncoder line) := by
  unfold Stream.dispatchLine
  rw [h.fields.1]
  cases Directive.ofLine s.labels line with
  | error f => exact follows_error f s
  | ok d =>
      simp only [dispatch]
      split
      · exact h.finish d
      · exact h.emit d

end Stream

/-! ### Recordings -/

namespace Recording

variable {r r' : Recording Scratch}

/-- Two recordings differ in the buffer only, and the second has the larger
one. -/
inductive Roomier (r : Recording Scratch) : Recording Scratch → Prop
  | intro {stream : Stream Scratch} (h : r.stream.Roomier stream) :
      Roomier r { r with stream := stream }

/-- The same octets are written. -/
theorem Roomier.store (h : r.Roomier r') (emission : Emission) :
    Follows Roomier (r.store emission) (r'.store emission) := by
  cases h with
  | intro h =>
      cases emission with
      | finished offset => exact follows_ok true (.intro h)
      | packet offset name label octets =>
          simp only [Recording.store]
          cases (r.disk.write r.handle octets).1 with
          | some reason => exact follows_error _ _
          | none => exact follows_ok false (.intro h)

/-- Where a line succeeds with the smaller buffer, it does with the larger
one. -/
theorem Roomier.take (h : r.Roomier r') (line : ScriptLine) :
    Follows Roomier (r.take ptEncoder line) (r'.take ptEncoder line) := by
  cases h with
  | intro h =>
      rw [take_eq, take_eq]
      obtain ⟨f, s, hl⟩ | ⟨emission, s, s', hl, hm, hstream⟩ := (h.dispatchLine line).cases
      · simp only [hl]
        exact follows_error f _
      · simp only [hl, hm]
        exact Roomier.store (.intro hstream) emission

/-- So do all lines, one after the other.  Where the smaller buffer has been
enough for all of them, the larger one gives the same answers. -/
theorem Roomier.takeAll (h : r.Roomier r') (lines : List ScriptLine) :
    Follows Roomier (Recording.takeAll ptEncoder lines r)
      (Recording.takeAll ptEncoder lines r') := by
  induction lines generalizing r r' with
  | nil => exact follows_ok false h
  | cons line rest ih =>
      rw [Recording.takeAll, Recording.takeAll]
      obtain ⟨f, t, hl⟩ | ⟨ended, t, t', hl, hm, ht⟩ := (h.take line).cases
      · rw [hl]
        exact follows_error f t
      · rw [hl, hm]
        cases ended with
        | false => exact ih ht
        | true => exact follows_ok true ht

end Recording

/-! ### Sessions -/

namespace Session

variable {s s' : Session Scratch}

/-- Two sessions with the packet encoder differ in the buffer only, and the
second has the larger one. -/
inductive Roomier (s : Session Scratch) : Session Scratch → Prop
  | intro {stream : Stream Scratch} (h : s.stream.Roomier stream)
      (hencoder : s.encoder = ptEncoder) : Roomier s { s with stream := stream }

/-- The two sessions differ in their buffers only. -/
theorem Roomier.fields (h : s.Roomier s') :
    s'.disk = s.disk ∧ s'.stream.labels = s.stream.labels ∧
      s'.stream.offset = s.stream.offset ∧ s'.reported = s.reported ∧ s'.notices = s.notices ∧
      s'.phase = s.phase := by
  cases h with
  | intro h => exact ⟨rfl, h.fields.1, h.fields.2, rfl, rfl, rfl⟩

theorem Roomier.withPhase (h : s.Roomier s') (phase : Phase) :
    ({ s with phase := phase } : Session Scratch).Roomier { s' with phase := phase } := by
  cases h with
  | intro h hencoder => exact .intro h hencoder

/-- The first pass takes the lines of the script as far on the larger side, if
it succeeds on the smaller. -/
theorem Roomier.record (h : s.Roomier s') (handle : Handle) :
    Follows Roomier (s.record handle) (s'.record handle) := by
  cases h with
  | @intro stream h hencoder =>
      have hopened : (⟨s.stream, handle, s.disk, s.notices⟩ : Recording Scratch).Roomier
          ⟨stream, handle, s.disk, s.notices⟩ := .intro h
      unfold Session.record
      simp only [hencoder]
      obtain ⟨f, r, hl⟩ | ⟨ended, r, _, hl, hm, ⟨hr⟩⟩ :=
        (hopened.takeAll s.script.directiveLines).cases
      · simp only [hl]
        cases (r.disk.close r.handle).1 with
        | some reason => exact follows_error _ _
        | none => exact follows_error f _
      · have hoffset := hr.fields.2
        simp only [hl, hm, streamNotice, hoffset]
        cases (r.disk.close r.handle).1 with
        | some reason => exact follows_error _ _
        | none => exact follows_ok ended (.intro hr rfl)

/-- So it leaves the same file for the stream.  That file is opened, written
and closed alike, packet by packet. -/
theorem Roomier.encode (h : s.Roomier s') : Follows Roomier s.encode s'.encode := by
  cases h with
  | @intro stream h hencoder =>
      unfold Session.encode
      cases s.disk.create s.script.streamPath with
      | mk answer opened =>
        cases answer with
        | error e => exact follows_error _ _
        | ok handle =>
            have hopened : ({ s with disk := opened } : Session Scratch).Roomier
                { s with disk := opened, stream := stream } := .intro h hencoder
            dsimp only
            obtain ⟨f, t, hl⟩ | ⟨ended, t, t', hl, hm, ht⟩ := (hopened.record handle).cases
            · simp only [hl]
              exact follows_error f t
            · simp only [hl, hm]
              cases ended with
              | true => exact follows_ok true ht
              | false =>
                  cases ht with
                  | intro ht hencoder =>
                      simp only [streamNotice, ht.fields.2]
                      exact follows_ok false (.intro ht hencoder)

/-- The second pass asks for no buffer at all. -/
theorem Roomier.expandAll (h : s.Roomier s') : Follows Roomier s.expandAll s'.expandAll := by
  cases h with
  | @intro stream h hencoder =>
      unfold Session.expandAll
      simp only [h.fields.1]
      cases (Writer.run s.disk s.script s.stream.labels).1 with
      | error f => exact follows_error f _
      | ok files => exact follows_ok files (.intro h hencoder)

/-- A session that finishes with the smaller buffer finishes with the larger
one. -/
theorem Roomier.run (h : s.Roomier s') : Follows Roomier s.run s'.run := by
  obtain ⟨-, -, -, -, -, hphase⟩ := h.fields
  unfold Session.run
  rw [hphase]
  split
  · obtain ⟨f, t, hl⟩ | ⟨ended, t, t', hl, hm, ht⟩ := (h.withPhase .encoding).encode.cases
    · rw [hl]
      exact follows_error f _
    · rw [hl, hm]
      cases ended with
      | false =>
          cases ht with
          | intro ht hencoder => exact follows_ok _ (.intro ht hencoder)
      | true =>
          dsimp only
          obtain ⟨f, u, hl⟩ | ⟨files, u, u', hl, hm, hu⟩ :=
            (ht.withPhase .expanding).expandAll.cases
          · rw [hl]
            exact follows_error f _
          · rw [hl, hm]
            cases hu with
            | intro hu hencoder => exact follows_ok files (.intro hu hencoder)
  · exact follows_error _ s

/-- The size of a buffer matters only through the refusal for want of space.
On two buffers, whatever is in them, any row of requests is answered with the
same numbers and the same packets, except where the smaller one has no space.
So if a session finishes with a buffer of some size, then one with a larger
buffer finishes, too, with the same answer; it leaves the same disk, with
every file of the stream and of expected output on it, and the same labels,
and has told the same. -/
theorem run_of_room {small large : Nat} (hroom : small ≤ large) :
    (∀ (b b' : Scratch), b.size ≤ b'.size → ∀ requests,
      List.Forall₂ (fun x y => x.1 ≠ Status.noSpace.number → y = x)
        (ptEncoder.answers b requests) (ptEncoder.answers b' requests)) ∧
    ∀ (disk : Disk) (script : Script) (assembly : LabelTable) (files : List Path)
      (s : Session Scratch),
      (start disk script assembly ptEncoder (Scratch.zeros small)).run = (.ok files, s) →
      ∃ s', (start disk script assembly ptEncoder (Scratch.zeros large)).run = (.ok files, s') ∧
        s'.disk = s.disk ∧ s'.stream.labels = s.stream.labels ∧
        s'.stream.offset = s.stream.offset ∧ s'.reported = s.reported ∧
        s'.notices = s.notices ∧ s'.phase = s.phase := by
  refine ⟨fun b b' hsize requests => forall₂_answers hsize requests, ?_⟩
  intro disk script assembly files s hrun
  have hstart : (start disk script assembly ptEncoder (Scratch.zeros small)).Roomier
      (start disk script assembly ptEncoder (Scratch.zeros large)) := .intro (.intro hroom) rfl
  obtain ⟨s', hrun', hends⟩ := hstart.run files s hrun
  exact ⟨s', hrun', hends.fields⟩

/-- A buffer that the longest packet of a script just fills, and one of the
usual size; the smaller has no space for a synchronisation packet. -/
theorem run_of_room_just_filled :
    let script := Script.ofText "t.asm".toList "t".toList
      "; @pt p: tnt64(tnt)\n; @pt q: pad()\n; @pt .exp\n; x %q".toList
    let x := (start Disk.empty script LabelTable.empty ptEncoder (Scratch.zeros 8)).run
    let y := (start Disk.empty script LabelTable.empty ptEncoder (Scratch.zeros 64)).run
    (8 ≤ 64 ∧ x.1 = .ok [script.expectationPath []]) ∧
      y.1 = .ok [script.expectationPath []] ∧ y.2.stream.labels = x.2.stream.labels ∧
      y.2.disk.read script.streamPath = .ok [0x02, 0xA3, 13, 0, 0, 0, 0, 0, 0x00] ∧
      (ptEncoder.answers (Scratch.zeros 8) [.psb, .tnt8 1 1])[0]? =
        some (Status.noSpace.number, []) ∧
      List.Forall₂ (fun x y => x.1 ≠ Status.noSpace.number → y = x)
        (ptEncoder.answers (Scratch.zeros 8) [.psb, .tnt8 1 1])
        (ptEncoder.answers (Scratch.zeros 64) [.psb, .tnt8 1 1]) := by
  intro script x y
  have hfiles : x.1 = .ok [script.expectationPath []] := by decide +kernel
  have hread : x.2.disk.read script.streamPath =
      .ok [0x02, 0xA3, 13, 0, 0, 0, 0, 0, 0x00] := by decide +kernel
  have hx : x = (.ok [script.expectationPath []], x.2) := by
    rw [← hfiles]
  have hroom : 8 ≤ 64 := by decide
  obtain ⟨hanswers, hrun⟩ := run_of_room hroom
  obtain ⟨s, hs, hdisk, hlabels, -⟩ := hrun Disk.empty script LabelTable.empty _ x.2 hx
  have hy : y = (.ok [script.expectationPath []], s) := hs
  have hsmall : (ptEncoder.answers (Scratch.zeros 8) [.psb, .tnt8 1 1])[0]? =
      some (Status.noSpace.number, []) := by decide +kernel
  refine ⟨⟨hroom, hfiles⟩, by rw [hy], by rw [hy]; exact hlabels, ?_, hsmall,
    hanswers (Scratch.zeros 8) (Scratch.zeros 64) (by decide) _⟩
  rw [hy, hdisk]
  exact hread

end Session
end TraceScript
