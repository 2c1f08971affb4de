import Mathlib.Logic.Relation
import TraceScript.Proofs.Session.Frame

/-!
# The phases of a session

A session is a machine of five phases.  Each of the first three is left by the pass
that belongs to it, and the answer of that pass alone decides where to
(`Session.Moves`); nothing leads out of `done` and `failed`.

A new session has one course through this machine, and a run follows it to its end
(`reaches_cases`).  The phase of the second pass lies on it just if the first pass
comes to a terminator and its file can be closed (`exists_expanding_iff`); without
it, no file but that of the stream is touched.  Behind the end, every further run
is refused and changes nothing (`run_once`).
-/

namespace TraceScript

variable {σ : Type}

/-! ### The end of the first pass -/

/-- A line ends a stream just if it carries a terminator and the end is not
yet named. -/
theorem Stream.finished_dispatchLine_iff {s : Stream σ} {e : Encoder σ} {line : ScriptLine} :
    (∃ offset, (s.dispatchLine e line).1 = .ok (.finished offset)) ↔
      ∃ d, Directive.ofLine s.labels line = .ok d ∧ d.isTerminator = true ∧
        endLabel ∉ s.labels.names ∧ s.offset < wordCount := by
  constructor
  · rintro ⟨offset, hfinished⟩
    obtain ⟨f, -, hfailed⟩ | ⟨d, hline, hdispatch⟩ := s.dispatchLine_eq e line
    · rw [hfailed] at hfinished
      cases hfinished
    · have hstep := s.dispatch_step e d
      rw [hdispatch] at hfinished
      generalize s.dispatch e d = outcome at hstep hfinished
      obtain ⟨answer, stream⟩ := outcome
      obtain rfl : answer = .ok (.finished offset) := hfinished
      cases hstep with
      | finished hterminator hlabel => exact ⟨d, hline, hterminator, hlabel⟩
  · rintro ⟨d, hline, hterminator, hnew, hfits⟩
    have hdefine : s.labels.define endLabel s.offset = .ok (s.labels.push endLabel s.offset) :=
      Labels.define_of_fits hnew ⟨Int.natCast_nonneg _, Int.ofNat_lt.mpr hfits⟩
    refine ⟨s.offset, ?_⟩
    simp only [dispatchLine, hline, dispatch, hterminator, if_true, finish, hdefine, inContext]

namespace Recording

variable {e : Encoder σ} {r : Recording σ} {line : ScriptLine}

/-- Storing ends the pass just if there is no packet to store. -/
theorem store_eq_true_iff {emission : Emission} :
    (r.store emission).1 = .ok true ↔ ∃ offset, emission = .finished offset := by
  cases emission with
  | finished offset => exact ⟨fun _ => ⟨offset, rfl⟩, fun _ => rfl⟩
  | packet offset name label octets =>
      obtain ⟨reason, -, hstore⟩ | ⟨-, hstore⟩ := r.store_cases offset name label octets
      · simp [hstore]
      · simp [hstore]

/-- A line ends the pass just if it ends the stream. -/
theorem take_eq_true_iff :
    (r.take e line).1 = .ok true ↔
      ∃ offset, (r.stream.dispatchLine e line).1 = .ok (.finished offset) := by
  rw [take_eq]
  cases r.stream.dispatchLine e line with
  | mk answer stream =>
    cases answer with
    | error f => simp
    | ok emission => simp [store_eq_true_iff]

end Recording

namespace Session

variable {disk : Disk} {script : Script} {assembly : LabelTable} {e : Encoder σ} {state : σ}

variable (disk script assembly e state) in
/-- The first pass comes to a terminator: every directive in front of it has
made its packet, and the end of the stream can be named. -/
def Terminates : Prop :=
  ∃ made line rest r d, script.directiveLines = made ++ line :: rest ∧
    Handled disk script assembly e state made (.ok false) r ∧
    Directive.ofLine r.stream.labels line = .ok d ∧ d.isTerminator = true ∧
    endLabel ∉ r.stream.labels.names ∧ r.stream.offset < wordCount

/-- The directives come to a terminator just if handling them says so.  The
lines behind the terminator are never handled, so they have no say in it. -/
theorem terminates_iff :
    Terminates disk script assembly e state ↔
      ∃ r, Handled disk script assembly e state script.directiveLines (.ok true) r := by
  constructor
  · rintro ⟨made, line, rest, r, d, hlines, hmade, hends⟩
    have htake : (r.take e line).1 = .ok true :=
      Recording.take_eq_true_iff.mpr (Stream.finished_dispatchLine_iff.mpr ⟨d, hends⟩)
    have hall : Recording.takeAll e (line :: rest) r = (.ok true, (r.take e line).2) :=
      Recording.takeAll_of_ends (Prod.ext htake rfl) nofun rest
    have hhandled := hmade.append (line :: rest)
    rw [hall, ← hlines] at hhandled
    exact ⟨_, hhandled⟩
  · rintro ⟨r, handle, opened, hcreate, htake⟩
    obtain ⟨r', hgoes⟩ | ⟨made, line, rest, r₁, result, r', hlines, hmade, hline, hall, -⟩ :=
      Recording.takeAll_cases (e := e) script.directiveLines
        ⟨Stream.start ⟨assembly, LabelTable.empty⟩ state, handle, opened, []⟩
    · rw [hgoes] at htake
      cases htake
    · obtain rfl : result = .ok true := congrArg Prod.fst (hall.symm.trans htake)
      have hends : (r₁.take e line).1 = .ok true := by rw [hline]
      obtain ⟨d, hd⟩ :=
        Stream.finished_dispatchLine_iff.mp (Recording.take_eq_true_iff.mp hends)
      exact ⟨made, line, rest, r₁, d, hlines, ⟨handle, opened, hcreate, hmade⟩, hd⟩

/-- The first pass says that a terminator has ended it just if it comes to one
and its file can be closed. -/
theorem firstPass_eq_true_iff :
    (firstPass disk script assembly e state).1 = .ok true ↔
      Terminates disk script assembly e state ∧
        disk.faults.closing script.streamPath disk.attempts = none := by
  rw [terminates_iff]
  constructor
  · intro hpass
    obtain ⟨error, opened, s, -, hfailed⟩ | ⟨result, r, hall⟩ :=
      firstPass_cases disk script assembly e state
    · rw [hfailed] at hpass
      cases hpass
    · obtain ⟨s, hsealed, -⟩ := hall.firstPass
      rw [hsealed] at hpass
      cases hclose : disk.faults.closing script.streamPath disk.attempts with
      | some reason =>
          rw [hclose] at hpass
          cases hpass
      | none =>
          rw [hclose] at hpass
          obtain rfl : result = .ok true := hpass
          exact ⟨⟨r, hall⟩, rfl⟩
  · rintro ⟨⟨r, hall⟩, hclose⟩
    obtain ⟨s, hsealed, -⟩ := hall.firstPass
    rw [hsealed, hclose]
    rfl

/-- The first pass reports no file of expected output.  Files of expected
output are written in the second pass alone. -/
theorem encode_reports_nothing (s : Session σ) :
    s.encode.2.files = s.files ∧ s.encode.2.reported = s.reported := by
  have hrecord (t : Session σ) (h : Handle) :
      (t.record h).2.files = t.files ∧ (t.record h).2.reported = t.reported := by
    unfold record
    cases (Recording.takeAll t.encoder t.script.directiveLines
      ⟨t.stream, h, t.disk, t.notices⟩) with
    | mk result r =>
      simp only
      split <;> exact ⟨rfl, rfl⟩
  unfold encode
  split
  · exact ⟨rfl, rfl⟩
  · rename_i handle opened _
    have hkept := hrecord { s with disk := opened } handle
    split
    · rename_i hended
      rw [hended] at hkept
      exact hkept
    · exact hkept

/-! ### The machine -/

/-- What leads from one phase to the next: opening the session, and the
answers of the two passes. -/
inductive Moves (s : Session σ) : Session σ → Prop
  | opened (hphase : s.phase = .ready) : Moves s { s with phase := .encoding }
  | encodingFailed {f : Failure} {s' : Session σ} (hphase : s.phase = .encoding)
      (hpass : s.encode = (.error f, s')) : Moves s { s' with phase := .failed }
  | exhausted {s' : Session σ} (hphase : s.phase = .encoding)
      (hpass : s.encode = (.ok false, s')) : Moves s { s' with phase := .done }
  | terminated {s' : Session σ} (hphase : s.phase = .encoding)
      (hpass : s.encode = (.ok true, s')) : Moves s { s' with phase := .expanding }
  | expandingFailed {f : Failure} {s' : Session σ} (hphase : s.phase = .expanding)
      (hpass : s.expandAll = (.error f, s')) : Moves s { s' with phase := .failed }
  | expanded {files : List Path} {s' : Session σ} (hphase : s.phase = .expanding)
      (hpass : s.expandAll = (.ok files, s')) : Moves s { s' with files := files, phase := .done }

/-- A session comes to another by moves. -/
def Reaches : Session σ → Session σ → Prop :=
  Relation.ReflTransGen Moves

/-- Nothing leads out of the last phases. -/
theorem Moves.not_ended {s s' : Session σ} (h : s.Moves s') :
    s.phase ≠ .done ∧ s.phase ≠ .failed := by
  cases h with
  | opened hphase => simp [hphase]
  | encodingFailed hphase _ | exhausted hphase _ | terminated hphase _ => simp [hphase]
  | expandingFailed hphase _ | expanded hphase _ => simp [hphase]

variable (disk script assembly e state) in
/-- A run that returns ends in `done`, and one that fails in `failed`.  There
is no other phase that a run leaves a session in. -/
theorem run_ends :
    (∃ files, (start disk script assembly e state).run.1 = .ok files ∧
      (start disk script assembly e state).run.2.phase = .done) ∨
    (∃ f, (start disk script assembly e state).run.1 = .error f ∧
      (start disk script assembly e state).run.2.phase = .failed) := by
  rw [run_eq]
  cases firstPass disk script assembly e state with
  | mk result s =>
    cases result with
    | error f => exact .inr ⟨f, rfl, rfl⟩
    | ok ended =>
        cases ended with
        | false => exact .inl ⟨s.files, rfl, rfl⟩
        | true =>
            dsimp only
            cases expandAll { s with phase := .expanding } with
            | mk answer s' =>
              cases answer with
              | error f => exact .inr ⟨f, rfl, rfl⟩
              | ok files => exact .inl ⟨files, rfl, rfl⟩

variable (disk script assembly e state) in
/-- A new session moves to its first pass, from there to its second if a
terminator has ended the first, and then to where the run ends. -/
theorem run_moves :
    let ready := start disk script assembly e state
    let encoding := { ready with phase := .encoding }
    ready.Moves encoding ∧
    (((firstPass disk script assembly e state).1 ≠ .ok true ∧ encoding.Moves ready.run.2) ∨
      ∃ s, firstPass disk script assembly e state = (.ok true, s) ∧
        encoding.Moves { s with phase := .expanding } ∧
        Moves { s with phase := .expanding } ready.run.2) := by
  intro ready encoding
  refine ⟨.opened rfl, ?_⟩
  have hrun : ready.run = _ := run_eq disk script assembly e state
  rw [hrun]
  cases hpass : firstPass disk script assembly e state with
  | mk result s =>
    have hencode : encoding.encode = (result, s) := hpass
    cases result with
    | error f => exact .inl ⟨nofun, .encodingFailed rfl hencode⟩
    | ok ended =>
        cases ended with
        | false => exact .inl ⟨nofun, .exhausted rfl hencode⟩
        | true =>
            refine .inr ⟨s, rfl, .terminated rfl hencode, ?_⟩
            dsimp only
            cases hexpand : expandAll { s with phase := .expanding } with
            | mk answer s' =>
              cases answer with
              | error f => exact .expandingFailed rfl hexpand
              | ok files => exact .expanded rfl hexpand

/-- Moves are determined: the passes are functions of the session. -/
theorem Moves.unique {s a b : Session σ} (ha : s.Moves a) (hb : s.Moves b) : a = b := by
  cases ha with
  | opened ha => cases hb <;> simp_all
  | encodingFailed ha hpass => cases hb <;> simp_all
  | exhausted ha hpass => cases hb <;> simp_all
  | terminated ha hpass => cases hb <;> simp_all
  | expandingFailed ha hpass => cases hb <;> simp_all
  | expanded ha hpass => cases hb <;> simp_all

variable {s : Session σ}

/-- What a new session comes to: itself, its passes, and where the run ends.
The passes themselves are one move each. -/
theorem reaches_cases (h : (start disk script assembly e state).Reaches s) :
    s = start disk script assembly e state ∨
    s = { start disk script assembly e state with phase := .encoding } ∨
    (∃ s', firstPass disk script assembly e state = (.ok true, s') ∧
      s = { s' with phase := .expanding }) ∨
    s = (start disk script assembly e state).run.2 := by
  obtain ⟨hopened, hcourse⟩ := run_moves disk script assembly e state
  induction h with
  | refl => exact .inl rfl
  | @tail before after hbefore hmove ih =>
      obtain rfl | rfl | ⟨s', hpass, rfl⟩ | rfl := ih
      · exact .inr (.inl (hmove.unique hopened))
      · obtain ⟨-, hended⟩ | ⟨s', hpass, hterminated, -⟩ := hcourse
        · exact .inr (.inr (.inr (hmove.unique hended)))
        · exact .inr (.inr (.inl ⟨s', hpass, hmove.unique hterminated⟩))
      · obtain ⟨hother, -⟩ | ⟨s'', hpass', -, hended⟩ := hcourse
        · exact absurd (congrArg Prod.fst hpass) hother
        · obtain rfl : s' = s'' := congrArg Prod.snd (hpass.symm.trans hpass')
          exact .inr (.inr (.inr (hmove.unique hended)))
      · obtain ⟨hdone, hfailed⟩ := hmove.not_ended
        obtain ⟨_, -, hphase⟩ | ⟨_, -, hphase⟩ := run_ends disk script assembly e state
        · exact absurd hphase hdone
        · exact absurd hphase hfailed

/-- Whatever a new session comes to lies on the way to where its run ends.
From each of the four cases the moves that remain lead there. -/
theorem reaches_run (h : (start disk script assembly e state).Reaches s) :
    s.Reaches (start disk script assembly e state).run.2 := by
  obtain ⟨hopened, hcourse⟩ := run_moves disk script assembly e state
  have hencoding : Reaches { start disk script assembly e state with phase := .encoding }
      (start disk script assembly e state).run.2 := by
    obtain ⟨-, hended⟩ | ⟨s', -, hterminated, hended⟩ := hcourse
    · exact .single hended
    · exact .head hterminated (.single hended)
  obtain rfl | rfl | ⟨s', hpass, rfl⟩ | rfl := reaches_cases h
  · exact .head hopened hencoding
  · exact hencoding
  · obtain ⟨hother, -⟩ | ⟨s'', hpass', -, hended⟩ := hcourse
    · exact absurd (congrArg Prod.fst hpass) hother
    · obtain rfl : s' = s'' := congrArg Prod.snd (hpass.symm.trans hpass')
      exact .single hended
  · exact .refl

/-- A session comes to its second pass just if its first comes to a
terminator, and the stream's file can be closed. -/
theorem exists_expanding_iff :
    (∃ s, (start disk script assembly e state).Reaches s ∧ s.phase = .expanding) ↔
      Terminates disk script assembly e state ∧
        disk.faults.closing script.streamPath disk.attempts = none := by
  rw [← firstPass_eq_true_iff]
  obtain ⟨hopened, hcourse⟩ := run_moves disk script assembly e state
  constructor
  · rintro ⟨s, hreaches, hphase⟩
    obtain rfl | rfl | ⟨s', hpass, -⟩ | rfl := reaches_cases hreaches
    · cases hphase
    · cases hphase
    · rw [hpass]
    · obtain ⟨_, -, hended⟩ | ⟨_, -, hended⟩ := run_ends disk script assembly e state
      · rw [hphase] at hended
        cases hended
      · rw [hphase] at hended
        cases hended
  · intro hpass
    obtain ⟨hother, -⟩ | ⟨s', -, hterminated, -⟩ := hcourse
    · exact absurd hpass hother
    · exact ⟨_, .head hopened (.single hterminated), rfl⟩

/-- Without a second pass, a session reports nothing and touches no file but
that of its stream. -/
theorem run_of_unterminated (h : (firstPass disk script assembly e state).1 ≠ .ok true) :
    (start disk script assembly e state).run.2.files = [] ∧
    (start disk script assembly e state).run.2.reported = [] ∧
    ∀ key, disk.reach script.streamPath ≠ .ok key →
      (start disk script assembly e state).run.2.disk.find? key = disk.find? key := by
  obtain ⟨hfiles, hreported⟩ :=
    encode_reports_nothing { start disk script assembly e state with phase := .encoding }
  obtain ⟨-, hothers⟩ := firstPass_spares disk script assembly e state
  have hfiles' : (firstPass disk script assembly e state).2.files = [] := hfiles
  have hreported' : (firstPass disk script assembly e state).2.reported = [] := hreported
  rw [run_eq]
  cases hpass : firstPass disk script assembly e state with
  | mk result s =>
    rw [hpass] at h hfiles' hreported' hothers
    cases result with
    | error f => exact ⟨hfiles', hreported', hothers⟩
    | ok ended =>
        cases ended with
        | false => exact ⟨hfiles', hreported', hothers⟩
        | true => exact absurd rfl h

/-- A session that has ended refuses to run, and stays as it is. -/
theorem run_of_ended (h : s.phase = .done ∨ s.phase = .failed) :
    s.run = (.error (.internal (.sessionSpent s.phase.text)), s) := by
  have hready : s.phase ≠ .ready := by
    rcases h with h | h <;> simp [h]
  rw [run, if_neg hready]

/-- A session runs once.  Its first run ends in `done` if it returns and in
`failed` if it fails, and the course of its phases is that of the machine. The
second pass lies on this course just if the first comes to a terminator and
the stream's file can be closed; if not, no file is reported, and none is
created or changed but that of the stream, which is no file of expected
output.  Every further run is refused as a fault of the caller and leaves the
whole session as it is. -/
theorem run_once (disk : Disk) (script : Script) (assembly : LabelTable) (e : Encoder σ)
    (state : σ) :
    let ready := start disk script assembly e state
    let ended := ready.run.2
    ((ended.phase = .done ↔ ∃ files, ready.run.1 = .ok files) ∧
      (ended.phase = .failed ↔ ∃ f, ready.run.1 = .error f)) ∧
    (ready.Reaches ended ∧ (∀ s, ready.Reaches s → s.Reaches ended) ∧
      ∀ s, ¬ ended.Moves s) ∧
    ((∃ s, ready.Reaches s ∧ s.phase = .expanding) ↔
      Terminates disk script assembly e state ∧
        disk.faults.closing script.streamPath disk.attempts = none) ∧
    ((∃ s, ready.Reaches s ∧ s.phase = .expanding) ∨
      ended.files = [] ∧ ended.reported = [] ∧
      (∀ key, disk.reach script.streamPath ≠ .ok key →
        ended.disk.find? key = disk.find? key) ∧
      ∀ key stem, key.parts.getLast? = some (stem ++ ".exp".toList) →
        ended.disk.find? key = disk.find? key) ∧
    ∀ n, ((fun s => s.run.2)^[n] ended).run =
      (.error (.internal (.sessionSpent ended.phase.text)), ended) := by
  intro ready ended
  have hends := run_ends disk script assembly e state
  have hphase : ended.phase = .done ∨ ended.phase = .failed := by
    obtain ⟨_, -, hdone⟩ | ⟨_, -, hfailed⟩ := hends
    · exact .inl hdone
    · exact .inr hfailed
  have hagain := run_of_ended hphase
  refine ⟨?_, ⟨reaches_run .refl, fun s => reaches_run, ?_⟩, exists_expanding_iff, ?_, ?_⟩
  · obtain ⟨files, hanswer, hdone⟩ | ⟨f, hanswer, hfailed⟩ := hends
    · simp [ended, ready, hanswer, hdone]
    · simp [ended, ready, hanswer, hfailed]
  · intro s hmove
    obtain ⟨hdone, hfailed⟩ := hmove.not_ended
    exact hphase.elim hdone hfailed
  -- without the expanding phase the trace file is the only one the session may have changed
  · by_cases hpass : (firstPass disk script assembly e state).1 = .ok true
    · exact .inl (exists_expanding_iff.mpr (firstPass_eq_true_iff.mp hpass))
    · obtain ⟨hfiles, hreported, hothers⟩ := run_of_unterminated hpass
      refine .inr ⟨hfiles, hreported, hothers, ?_⟩
      intro key stem hlast
      apply hothers
      intro hreach
      exact Script.last_ne_of_reach_streamPath hreach stem hlast
  · intro n
    rw [Function.iterate_fixed (congrArg Prod.snd hagain) n]
    exact hagain

end Session
end TraceScript
