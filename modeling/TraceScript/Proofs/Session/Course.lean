import TraceScript.Proofs.Session.FirstPass

/-!
# The course of a session

The first pass handles the directives of the script one after another, with the
stream's file open (`Session.Handled`).  Whatever a line does, the recording
stays on the same file of a disk with the same directories and faults, and no
label is lost (`Recording.Keeps`).  If a row of lines comes to an end, it does
so on one of them, and those before it have been handled
(`Recording.takeAll_cases`).

What a session fails with is what its first pass fails with or, if that reaches
a terminator, its second (`run_eq_error_iff`).
-/

namespace TraceScript

variable {σ : Type}

namespace Stream

variable (s : Stream σ) (e : Encoder σ) (line : ScriptLine)

/-- A line is refused as it is read, or its directive is dispatched. -/
theorem dispatchLine_eq :
    (∃ f, Directive.ofLine s.labels line = .error f ∧ s.dispatchLine e line = (.error f, s)) ∨
    (∃ d, Directive.ofLine s.labels line = .ok d ∧ s.dispatchLine e line = s.dispatch e d) := by
  unfold dispatchLine
  cases Directive.ofLine s.labels line with
  | error f => exact .inl ⟨f, rfl, rfl⟩
  | ok d => exact .inr ⟨d, rfl, rfl⟩

/-- A line of the script takes no label away and gives none another address. -/
theorem extends_dispatchLine : s.labels.Extends (s.dispatchLine e line).2.labels := by
  obtain ⟨f, -, hline⟩ | ⟨d, -, hline⟩ := s.dispatchLine_eq e line
  · rw [hline]
    exact .refl s.labels
  · rw [hline]
    exact (s.dispatch_step e d).extends

/-- Unambiguous labels are so behind any line of the script. -/
theorem unambiguous_dispatchLine (h : s.labels.Unambiguous) :
    (s.dispatchLine e line).2.labels.Unambiguous := by
  obtain ⟨f, -, hline⟩ | ⟨d, -, hline⟩ := s.dispatchLine_eq e line
  · rwa [hline]
  · rw [hline]
    exact (s.dispatch_step e d).unambiguous h

end Stream

namespace Recording

variable {e : Encoder σ} {r r₁ r' r'' : Recording σ} {result : Except Failure Bool}

/-- What lines leave as it is: the file, the directories and faults of the
disk, and every label; and if no label was ambiguous, none becomes so. -/
structure Keeps (r r' : Recording σ) : Prop where
  path : r'.handle.path = r.handle.path
  attempt : r'.handle.attempt = r.handle.attempt
  directories : r'.disk.directories = r.disk.directories
  faults : r'.disk.faults = r.disk.faults
  labels : r.stream.labels.Extends r'.stream.labels
  unambiguous : r.stream.labels.Unambiguous → r'.stream.labels.Unambiguous

theorem Keeps.refl (r : Recording σ) : r.Keeps r :=
  ⟨rfl, rfl, rfl, rfl, .refl _, id⟩

theorem Keeps.trans (h : r.Keeps r') (h' : r'.Keeps r'') : r.Keeps r'' where
  path := h'.path.trans h.path
  attempt := h'.attempt.trans h.attempt
  directories := h'.directories.trans h.directories
  faults := h'.faults.trans h.faults
  labels := h.labels.trans h'.labels
  unambiguous hr := h'.unambiguous (h.unambiguous hr)

/-- Storing a packet changes the file that is written and nothing that `Keeps`
speaks of, whether the write is refused or not. -/
theorem keeps_store (r : Recording σ) (emission : Emission) : r.Keeps (r.store emission).2 := by
  cases emission with
  | finished offset => exact .refl r
  | packet offset name label packet =>
      obtain ⟨reason, -, hstore⟩ | ⟨-, hstore⟩ := r.store_cases offset name label packet
      · rw [hstore]
        exact ⟨rfl, rfl, rfl, rfl, .refl _, id⟩
      · rw [hstore]
        exact ⟨rfl, rfl, rfl, rfl, .refl _, id⟩

/-- A line keeps all of it: its directive only adds labels, and its packet
only adds to the file. -/
theorem keeps_take (e : Encoder σ) (r : Recording σ) (line : ScriptLine) :
    r.Keeps (r.take e line).2 := by
  have hlabels := r.stream.extends_dispatchLine e line
  have hunambiguous := r.stream.unambiguous_dispatchLine e line
  rw [take_eq]
  cases hline : r.stream.dispatchLine e line with
  | mk answer stream =>
    rw [hline] at hlabels hunambiguous
    cases answer with
    | error f => exact ⟨rfl, rfl, rfl, rfl, hlabels, hunambiguous⟩
    | ok emission =>
        refine Keeps.trans ?_ (keeps_store _ emission)
        exact ⟨rfl, rfl, rfl, rfl, hlabels, hunambiguous⟩

/-- A row of lines keeps all of it, by induction on the lines up to the one
that ends the pass. -/
theorem keeps_takeAll (e : Encoder σ) (lines : List ScriptLine) (r : Recording σ) :
    r.Keeps (takeAll e lines r).2 := by
  induction lines generalizing r with
  | nil => exact .refl r
  | cons line rest ih =>
      have hline := keeps_take e r line
      rw [takeAll]
      split
      · rename_i r₁ htake
        rw [htake] at hline
        exact hline.trans (ih r₁)
      · exact hline

/-- Lines that have been handled may be left out of a row.  None of them ends
the pass, so the others are taken up where they have left it. -/
theorem takeAll_append {made : List ScriptLine} (rest : List ScriptLine)
    (h : takeAll e made r = (.ok false, r₁)) :
    takeAll e (made ++ rest) r = takeAll e rest r₁ := by
  induction made generalizing r with
  | nil =>
      cases h
      rfl
  | cons line more ih =>
      rw [takeAll] at h
      rw [List.cons_append, takeAll]
      split at h
      · exact ih h
      · rename_i hends
        exact absurd h (hends r₁)

/-- A row of lines is handled, or it comes to an end on the first of them that
does not go on. -/
theorem takeAll_cases (lines : List ScriptLine) (r : Recording σ) :
    (∃ r', takeAll e lines r = (.ok false, r')) ∨
    (∃ made line rest r₁ result r', lines = made ++ line :: rest ∧
      takeAll e made r = (.ok false, r₁) ∧ r₁.take e line = (result, r') ∧
      takeAll e lines r = (result, r') ∧ result ≠ .ok false) := by
  induction lines generalizing r with
  | nil => exact .inl ⟨r, rfl⟩
  | cons line rest ih =>
      cases htake : r.take e line with
      | mk result r₁ =>
        by_cases hgoes : result = .ok false
        · subst hgoes
          have hcons (row : List ScriptLine) : takeAll e (line :: row) r = takeAll e row r₁ := by
            rw [takeAll, htake]
          obtain ⟨r', hall⟩ |
            ⟨made, last, more, r₂, result, r', hrest, hmade, hlast, hall, hends⟩ := ih r₁
          · exact .inl ⟨r', by rw [hcons, hall]⟩
          · exact .inr ⟨line :: made, last, more, r₂, result, r', by rw [hrest]; rfl,
              by rw [hcons, hmade], hlast, by rw [hcons, hall], hends⟩
        · exact .inr ⟨[], line, rest, r, result, r₁, rfl, rfl, htake,
            takeAll_of_ends htake hgoes rest, hgoes⟩

end Recording

namespace Session

variable {disk : Disk} {script : Script} {assembly : LabelTable} {e : Encoder σ} {state : σ}
  {lines : List ScriptLine} {result : Except Failure Bool} {r : Recording σ} {f : Failure}

variable (disk script assembly e state) in
/-- What the first pass makes of a row of lines, the stream's file being
open. -/
def Handled (lines : List ScriptLine) (result : Except Failure Bool) (r : Recording σ) : Prop :=
  ∃ h opened, disk.create script.streamPath = (.ok h, opened) ∧
    Recording.takeAll e lines ⟨Stream.start ⟨assembly, LabelTable.empty⟩ state, h, opened, []⟩ =
      (result, r)

/-- With the file open, lines end as they are taken. -/
theorem handled_of_create {h : Handle} {opened : Disk}
    (hcreate : disk.create script.streamPath = (.ok h, opened))
    (hresult : (Recording.takeAll e lines
      ⟨Stream.start ⟨assembly, LabelTable.empty⟩ state, h, opened, []⟩).1 = result) :
    Handled disk script assembly e state lines result (Recording.takeAll e lines
      ⟨Stream.start ⟨assembly, LabelTable.empty⟩ state, h, opened, []⟩).2 :=
  ⟨h, opened, hcreate, by rw [← hresult]⟩

/-- Handled lines leave the stream's file as it was opened. -/
theorem Handled.keeps (h : Handled disk script assembly e state lines result r) :
    r.handle.path = script.streamPath ∧ r.handle.attempt = disk.attempts ∧
      r.disk.faults = disk.faults := by
  obtain ⟨handle, opened, hcreate, htake⟩ := h
  have hkeeps := Recording.keeps_takeAll e lines
    ⟨Stream.start ⟨assembly, LabelTable.empty⟩ state, handle, opened, []⟩
  rw [htake] at hkeeps
  obtain ⟨error, hfailed⟩ | ⟨key, -, hopened⟩ := disk.create_cases script.streamPath
  · rw [hfailed] at hcreate
    cases hcreate
  · rw [hopened] at hcreate
    cases hcreate
    exact ⟨hkeeps.path, hkeeps.attempt, hkeeps.faults⟩

/-- What the system says to the closing of the stream's file. -/
theorem Handled.close (h : Handled disk script assembly e state lines result r) :
    (r.disk.close r.handle).1 = disk.faults.closing script.streamPath disk.attempts := by
  obtain ⟨hpath, hattempt, hfaults⟩ := h.keeps
  rw [Disk.close, hpath, hattempt, hfaults]

/-- Behind handled lines, the row goes on as it would alone. -/
theorem Handled.append (h : Handled disk script assembly e state lines (.ok false) r)
    (rest : List ScriptLine) :
    Handled disk script assembly e state (lines ++ rest) (Recording.takeAll e rest r).1
      (Recording.takeAll e rest r).2 := by
  obtain ⟨handle, opened, hcreate, htake⟩ := h
  exact ⟨handle, opened, hcreate, Recording.takeAll_append rest htake⟩

/-- The first pass ends as the script's directives do, unless the stream's
file cannot be closed. -/
theorem Handled.firstPass
    (h : Handled disk script assembly e state script.directiveLines result r) :
    ∃ s, firstPass disk script assembly e state =
        (sealed (disk.faults.closing script.streamPath disk.attempts) result, s) ∧
      s.stream = r.stream ∧ s.disk = (r.disk.close r.handle).2 ∧ s.script = script := by
  obtain ⟨handle, opened, hcreate, htake⟩ := id h
  obtain ⟨s, hpass, hstream, hdisk, hscript, -⟩ := firstPass_sealed hcreate htake
  rw [h.close] at hpass
  exact ⟨s, hpass, hstream, hdisk, hscript⟩

variable (disk script assembly e state) in
/-- The stream's file cannot be opened, or the script's directives are
handled. -/
theorem firstPass_cases :
    (∃ error opened s, disk.create script.streamPath = (.error error, opened) ∧
      firstPass disk script assembly e state = (.error (.ofOpenError script.streamPath error), s)) ∨
    (∃ result r, Handled disk script assembly e state script.directiveLines result r) := by
  cases hcreate : disk.create script.streamPath with
  | mk answer opened =>
    cases answer with
    | ok handle => exact .inr ⟨_, _, handle, opened, hcreate, rfl⟩
    | error error =>
        left
        unfold Session.firstPass encode
        simp only [start, hcreate]
        exact ⟨error, opened, _, rfl, rfl⟩

/-- A first pass fails because the stream's file cannot be opened or cannot be
closed, or on a directive behind those that it has handled. -/
theorem firstPass_error_cases (h : (Session.firstPass disk script assembly e state).1 = .error f) :
    (∃ error, (disk.create script.streamPath).1 = .error error ∧
      f = .ofOpenError script.streamPath error) ∨
    (∃ reason, disk.faults.closing script.streamPath disk.attempts = some reason ∧
      f = .system reason none) ∨
    (∃ made line rest r, script.directiveLines = made ++ line :: rest ∧
      Handled disk script assembly e state made (.ok false) r ∧ (r.take e line).1 = .error f) := by
  obtain ⟨error, opened, s, hcreate, hpass⟩ | ⟨result, r', hall⟩ :=
    firstPass_cases disk script assembly e state
  · rw [hpass] at h
    exact .inl ⟨error, by rw [hcreate], (Except.error.inj h).symm⟩
  · obtain ⟨s, hpass, -⟩ := hall.firstPass
    rw [hpass] at h
    cases hclose : disk.faults.closing script.streamPath disk.attempts with
    | some reason =>
        rw [hclose] at h
        exact .inr (.inl ⟨reason, rfl, (Except.error.inj h).symm⟩)
    | none =>
        rw [hclose] at h
        obtain rfl : result = .error f := h
        obtain ⟨handle, opened, hcreate, htake⟩ := hall
        obtain ⟨r'', hgoes⟩ | ⟨made, line, rest, r, result, r'', hlines, hmade, hline, hends, -⟩ :=
          Recording.takeAll_cases (e := e) script.directiveLines
            ⟨Stream.start ⟨assembly, LabelTable.empty⟩ state, handle, opened, []⟩
        · rw [hgoes] at htake
          cases htake
        · obtain rfl : result = .error f := congrArg Prod.fst (hends.symm.trans htake)
          exact .inr (.inr ⟨made, line, rest, r, hlines, ⟨handle, opened, hcreate, hmade⟩,
            by rw [hline]⟩)

/-- A first pass that succeeds keeps the script. -/
theorem script_of_firstPass {s : Session σ} {ended : Bool}
    (hpass : Session.firstPass disk script assembly e state = (.ok ended, s)) :
    s.script = script := by
  obtain ⟨error, opened, s', -, hfailed⟩ | ⟨result, r, hall⟩ :=
    firstPass_cases disk script assembly e state
  · rw [hfailed] at hpass
    cases hpass
  · obtain ⟨s', hpass', -, -, hscript⟩ := hall.firstPass
    obtain rfl : s' = s := congrArg Prod.snd (hpass'.symm.trans hpass)
    exact hscript

/-- Behind a terminator, a session ends as its second pass does. -/
theorem run_of_firstPass {s : Session σ}
    (hpass : Session.firstPass disk script assembly e state = (.ok true, s)) :
    (start disk script assembly e state).run.1 =
      (Writer.run s.disk script s.stream.labels).1 := by
  rw [run_eq, hpass]
  simp only [expandAll, script_of_firstPass hpass]
  cases (Writer.run s.disk script s.stream.labels).1 with
  | error f => rfl
  | ok files => rfl

/-- A session fails as its first pass does or, behind a terminator, as its
second. -/
theorem run_eq_error_iff :
    (start disk script assembly e state).run.1 = .error f ↔
      (firstPass disk script assembly e state).1 = .error f ∨
      ∃ s, firstPass disk script assembly e state = (.ok true, s) ∧
        (Writer.run s.disk script s.stream.labels).1 = .error f := by
  cases hpass : Session.firstPass disk script assembly e state with
  | mk result s =>
    cases result with
    | error g =>
        rw [run_eq, hpass]
        simp [fail]
    | ok ended =>
        cases ended with
        | false =>
            rw [run_eq, hpass]
            simp
        | true =>
            rw [run_of_firstPass hpass]
            simp

end Session
end TraceScript
