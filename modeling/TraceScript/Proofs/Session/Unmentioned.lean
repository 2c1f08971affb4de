import TraceScript.Proofs.Error.Placement
import TraceScript.Proofs.Label.Unmentioned
import TraceScript.Proofs.Session.Recording

/-!
# Assembly labels that a script does not mention

Two sessions over one script whose assembly labels differ in order, and in
names that the script does not mention, run alike (`run_unmentioned`).

The relation of the two runs is carried through the program part by part:
streams, recordings and sessions are `Alike` if they differ in such labels
only, and every operation leads alike states to alike ones with the same
answer (`SameStep`).  The writer of expected output keeps no labels, so its
states are equal.
-/

namespace TraceScript

/-- Two operations have the same answer, and lead to related states. -/
def SameStep {α S T : Type} (R : S → T → Prop) (x : Except Failure α × S)
    (y : Except Failure α × T) : Prop :=
  SameAnswer Eq x.1 y.1 ∧ R x.2 y.2

/-- Two operations with the same answer fail together, or succeed together
with the same result; their states are related either way. -/
theorem SameStep.cases {α S T : Type} {R : S → T → Prop} {x : Except Failure α × S}
    {y : Except Failure α × T} (h : SameStep R x y) :
    (∃ f g s t, x = (.error f, s) ∧ y = (.error g, t) ∧ f.SameButHint g ∧ R s t) ∨
    (∃ a s t, x = (.ok a, s) ∧ y = (.ok a, t) ∧ R s t) := by
  obtain ⟨answer, s⟩ := x
  obtain ⟨answer', t⟩ := y
  obtain ⟨hanswer, hstate⟩ := h
  obtain ⟨f, g, hf, hg, hsame⟩ | ⟨a, b, ha, hb, hab⟩ := hanswer.cases
  · exact .inl ⟨f, g, s, t, Prod.ext hf rfl, Prod.ext hg rfl, hsame, hstate⟩
  · exact .inr ⟨a, s, t, Prod.ext ha rfl, Prod.ext (hab ▸ hb) rfl, hstate⟩

variable {σ : Type} {text : Text} {line : ScriptLine} {d : Directive}

/-! ### Streams -/

namespace Stream

variable {s s' : Stream σ}

/-- Two streams differ in assembly labels that a text does not mention only. -/
inductive Alike (text : Text) (s : Stream σ) : Stream σ → Prop
  | intro {labels : Labels} (h : s.labels.Alike text labels) :
      Alike text s { s with labels := labels }

/-- The labels of alike streams are alike. -/
theorem Alike.labels (h : s.Alike text s') : s.labels.Alike text s'.labels := by
  cases h with
  | intro h => exact h

/-- Alike streams have made as many octets. -/
theorem Alike.offset (h : s.Alike text s') : s'.offset = s.offset := by
  cases h with
  | intro => rfl

/-- At the end of the packets, alike streams define the same label, or find it
taken alike. -/
theorem Alike.finish (h : s.Alike text s') (d : Directive) :
    SameStep (Alike text) (s.finish d) (s'.finish d) := by
  cases h with
  | intro h =>
      have hdefine := (h.define (.inl rfl) s.offset).inContext (d.context "append label".toList)
      unfold Stream.finish
      obtain ⟨f, g, hl, hm, hsame⟩ | ⟨l, m, hl, hm, hlabels⟩ := hdefine.cases
      · simp only [hl, hm]
        exact ⟨.error hsame, .intro h⟩
      · simp only [hl, hm]
        exact ⟨.rfl, .intro hlabels⟩

/-- Operands in the text name no label in which alike streams differ, so they
are read alike. -/
theorem Alike.readRequest (h : s.Alike text s') (hpayload : d.payload <:+: text) :
    SameAnswer Eq (s.readRequest d) (s'.readRequest d) := by
  cases h with
  | @intro labels h =>
      unfold Stream.readRequest
      cases Keyword.ofText? d.name with
      | none => exact .rfl
      | some keyword =>
          have hrequest := Operand.same_request h hpayload keyword
          simp only [Option.bind_some]
          generalize Operand.request? s.labels d.payload keyword = x at hrequest ⊢
          generalize Operand.request? labels d.payload keyword = y at hrequest ⊢
          cases hrequest with
          | none => exact .rfl
          | some hanswer => exact hanswer.inContext _

/-- A directive label in the text is defined alike. -/
theorem Alike.labelled (h : s.Alike text s') (hlabel : ∀ name ∈ d.label, name <:+: text) :
    SameAnswer (Labels.Alike text) (s.labelled d) (s'.labelled d) := by
  cases h with
  | intro h =>
      unfold Stream.labelled
      cases hname : d.label with
      | none => exact .ok h
      | some name =>
          have hmentions : Mentions text name := .inr (hlabel name hname)
          exact (h.define hmentions s.offset).inContext _

/-- A packet is emitted alike: the same operands are asked of the encoder,
whose state is the same, and the same label is defined. -/
theorem Alike.emit (e : Encoder σ) (h : s.Alike text s') (hpayload : d.payload <:+: text)
    (hlabel : ∀ name ∈ d.label, name <:+: text) :
    SameStep (Alike text) (s.emit e d) (s'.emit e d) := by
  have hrequest := h.readRequest hpayload
  unfold Stream.emit
  obtain ⟨f, g, hl, hm, hsame⟩ | ⟨request, _, hl, hm, rfl⟩ := hrequest.cases
  · rw [hl, hm]
    exact ⟨.error hsame, h⟩
  · cases h with
    | @intro labels h =>
      cases hissue : e.issue s.encoder request with
      | mk answer after =>
        have hasked : ({ s with encoder := after } : Stream σ).Alike text
            ⟨labels, s.offset, after⟩ := .intro h
        simp only [hl, hm, hissue]
        cases judge d answer (e.buffer after) with
        | error f => exact ⟨.rfl, hasked⟩
        | ok octets =>
            obtain ⟨f, g, hl, hm, hsame⟩ | ⟨l, m, hl, hm, hlabels⟩ :=
              (hasked.labelled hlabel).cases
            · simp only [hl, hm]
              exact ⟨.error hsame, hasked⟩
            · simp only [hl, hm]
              exact ⟨.rfl, .intro hlabels⟩

/-- A line of the text is dispatched alike. -/
theorem Alike.dispatchLine (e : Encoder σ) (h : s.Alike text s') (hline : line.Within text) :
    SameStep (Alike text) (s.dispatchLine e line) (s'.dispatchLine e line) := by
  unfold Stream.dispatchLine
  rw [Directive.ofLine_eq h.labels hline]
  cases hread : Directive.ofLine s'.labels line with
  | error f => exact ⟨.rfl, h⟩
  | ok d =>
      obtain ⟨t, ht, hlabel, hpayload⟩ := (Directive.onLine_of_ofLine hread).parts
      have hpart : t <:+: text := hline.directive t ht
      simp only [dispatch]
      split
      · exact h.finish d
      · exact h.emit e (hpayload.trans hpart) fun name hname => (hlabel name hname).trans hpart

end Stream

/-! ### Recordings -/

namespace Recording

variable {r r' : Recording σ}

/-- Two recordings differ in assembly labels that a text does not mention
only. -/
inductive Alike (text : Text) (r : Recording σ) : Recording σ → Prop
  | intro {stream : Stream σ} (h : r.stream.Alike text stream) :
      Alike text r { r with stream := stream }

/-- Alike recordings write the same octets to the same file. -/
theorem Alike.store (h : r.Alike text r') (emission : Emission) :
    SameStep (Alike text) (r.store emission) (r'.store emission) := by
  cases h with
  | intro h =>
      cases emission with
      | finished offset => exact ⟨.rfl, .intro h⟩
      | packet offset name label octets =>
          simp only [Recording.store]
          cases (r.disk.write r.handle octets).1 with
          | some reason => exact ⟨.rfl, .intro h⟩
          | none => exact ⟨.rfl, .intro h⟩

/-- A line of the text is taken alike. -/
theorem Alike.take (e : Encoder σ) (h : r.Alike text r') (hline : line.Within text) :
    SameStep (Alike text) (r.take e line) (r'.take e line) := by
  cases h with
  | intro h =>
      rw [take_eq, take_eq]
      obtain ⟨f, g, s, s', hl, hm, hsame, hstream⟩ | ⟨emission, s, s', hl, hm, hstream⟩ :=
        (h.dispatchLine e hline).cases
      · simp only [hl, hm]
        exact ⟨.error hsame, .intro hstream⟩
      · simp only [hl, hm]
        exact Alike.store (.intro hstream) emission

/-- So are all its lines, one after the other.  A line that ends the pass in
one ends it in the other. -/
theorem Alike.takeAll (e : Encoder σ) {lines : List ScriptLine} (h : r.Alike text r')
    (hlines : ∀ line ∈ lines, line.Within text) :
    SameStep (Alike text) (Recording.takeAll e lines r) (Recording.takeAll e lines r') := by
  induction lines generalizing r r' with
  | nil => exact ⟨.rfl, h⟩
  | cons line rest ih =>
      have hrest : ∀ l ∈ rest, l.Within text := fun l hl => hlines l (List.mem_cons_of_mem line hl)
      rw [Recording.takeAll, Recording.takeAll]
      obtain ⟨f, g, t, t', hl, hm, hsame, ht⟩ | ⟨ended, t, t', hl, hm, ht⟩ :=
        (h.take e (hlines line List.mem_cons_self)).cases
      · rw [hl, hm]
        exact ⟨.error hsame, ht⟩
      · rw [hl, hm]
        cases ended with
        | false => exact ih ht hrest
        | true => exact ⟨.rfl, ht⟩

end Recording

/-! ### Expected output -/

namespace Writer

variable {l m : Labels} {script : Script}

/-- The writer of expected output shows alike labels alike, and keeps none.
Only its placeholders look at the labels, and they are mentioned in the text. -/
theorem same_take (script : Script) (h : l.Alike text m) (hline : line.Within text) (w : Writer) :
    SameStep Eq (w.take script l line) (w.take script m line) := by
  unfold take
  split
  · exact ⟨.rfl, rfl⟩
  · unfold takeComment
    split
    · exact ⟨.rfl, rfl⟩
    split
    · exact ⟨.rfl, rfl⟩
    · rename_i t hannotation
      have ht : t <:+: text := (infix_of_annotation? hannotation).trans hline.text
      obtain ⟨f, g, hl, hm, hsame⟩ | ⟨shown, _, hl, hm, rfl⟩ :=
        ((same_expand h ht).inContext line.context).cases
      · rw [hl, hm]
        exact ⟨.error hsame, rfl⟩
      · rw [hl, hm]
        exact ⟨.rfl, rfl⟩

/-- So it writes the same lines. -/
theorem same_takeAll (script : Script) (h : l.Alike text m) {lines : List ScriptLine}
    (hlines : ∀ line ∈ lines, line.Within text) (w : Writer) :
    SameStep Eq (takeAll script l lines w) (takeAll script m lines w) := by
  induction lines generalizing w with
  | nil => exact ⟨.rfl, rfl⟩
  | cons line rest ih =>
      rw [takeAll, takeAll]
      obtain ⟨f, g, w', _, hl, hm, hsame, rfl⟩ | ⟨_, w', _, hl, hm, rfl⟩ :=
        (same_take script h (hlines line List.mem_cons_self) w).cases
      · rw [hl, hm]
        exact ⟨.error hsame, rfl⟩
      · rw [hl, hm]
        exact ih (fun l hl => hlines l (List.mem_cons_of_mem line hl)) w'

/-- The second pass writes the same files for alike labels. -/
theorem same_run (h : l.Alike text m) (hlines : ∀ line ∈ script.lines, line.Within text)
    (disk : Disk) : SameStep Eq (run disk script l) (run disk script m) := by
  unfold run
  obtain ⟨f, g, w, _, hl, hm, hsame, rfl⟩ | ⟨_, w, _, hl, hm, rfl⟩ :=
    (same_takeAll script h hlines (start disk)).cases
  · rw [hl, hm]
    exact ⟨.error hsame, rfl⟩
  · rw [hl, hm]
    exact ⟨.rfl, rfl⟩

end Writer

/-! ### Sessions -/

namespace Session

variable {s s' : Session σ}

/-- Two sessions over a script that stands in a text differ in assembly labels
that the text does not mention only. -/
inductive Alike (text : Text) (s : Session σ) : Session σ → Prop
  | intro {stream : Stream σ} (h : s.stream.Alike text stream)
      (hlines : ∀ line ∈ s.script.lines, line.Within text) :
      Alike text s { s with stream := stream }

/-- Alike sessions have the same state but for such labels. -/
theorem Alike.fields (h : s.Alike text s') :
    s.phase = s'.phase ∧ s.disk = s'.disk ∧ s.files = s'.files ∧ s.reported = s'.reported ∧
      s.notices = s'.notices ∧ s.stream.Alike text s'.stream := by
  cases h with
  | intro h hlines => exact ⟨rfl, rfl, rfl, rfl, rfl, h⟩

/-- They stay alike when both go on to a phase. -/
theorem Alike.withPhase (h : s.Alike text s') (phase : Phase) :
    ({ s with phase := phase } : Session σ).Alike text { s' with phase := phase } := by
  cases h with
  | intro h hlines => exact .intro h hlines

/-- The first pass takes all lines of the script alike.  What they are handed
on with, the file and its place, is the same in both. -/
theorem Alike.record (h : s.Alike text s') (handle : Handle) :
    SameStep (Alike text) (s.record handle) (s'.record handle) := by
  cases h with
  | @intro stream h hlines =>
      have hdirectives : ∀ line ∈ s.script.directiveLines, line.Within text :=
        fun line hline => hlines line (List.mem_of_mem_filter hline)
      have hopened : (⟨s.stream, handle, s.disk, s.notices⟩ : Recording σ).Alike text
          ⟨stream, handle, s.disk, s.notices⟩ := .intro h
      unfold Session.record
      obtain ⟨f, g, r, _, hl, hm, hsame, ⟨hr⟩⟩ | ⟨ended, r, _, hl, hm, ⟨hr⟩⟩ :=
        (hopened.takeAll s.encoder hdirectives).cases
      · simp only [hl, hm]
        cases (r.disk.close r.handle).1 with
        | some reason => exact ⟨.rfl, .intro hr hlines⟩
        | none => exact ⟨.error hsame, .intro hr hlines⟩
      · have hoffset := hr.offset
        simp only [hl, hm, streamNotice, hoffset]
        cases (r.disk.close r.handle).1 with
        | some reason => exact ⟨.rfl, .intro hr hlines⟩
        | none => exact ⟨.rfl, .intro hr hlines⟩

/-- So the first pass leaves the same file for the stream.  Opening and
closing the file have nothing to do with labels. -/
theorem Alike.encode (h : s.Alike text s') : SameStep (Alike text) s.encode s'.encode := by
  cases h with
  | @intro stream h hlines =>
      unfold Session.encode
      cases s.disk.create s.script.streamPath with
      | mk answer opened =>
        cases answer with
        | error e => exact ⟨.rfl, .intro h hlines⟩
        | ok handle =>
            have hopened : ({ s with disk := opened } : Session σ).Alike text
                { s with disk := opened, stream := stream } := .intro h hlines
            dsimp only
            obtain ⟨f, g, t, t', hl, hm, hsame, ht⟩ | ⟨ended, t, t', hl, hm, ht⟩ :=
              (hopened.record handle).cases
            · simp only [hl, hm]
              exact ⟨.error hsame, ht⟩
            · simp only [hl, hm]
              cases ended with
              | true => exact ⟨.rfl, ht⟩
              | false =>
                  cases ht with
                  | intro ht hlines =>
                      have hoffset := ht.offset
                      simp only [streamNotice, hoffset]
                      exact ⟨.rfl, .intro ht hlines⟩

/-- The second pass has alike labels, and so leaves the same files of expected
output. -/
theorem Alike.expandAll (h : s.Alike text s') :
    SameStep (Alike text) s.expandAll s'.expandAll := by
  cases h with
  | @intro stream h hlines =>
      obtain ⟨hanswer, hwriter⟩ := Writer.same_run h.labels hlines s.disk
      unfold Session.expandAll
      simp only [← hwriter]
      exact ⟨hanswer, .intro h hlines⟩

/-- Alike sessions run alike, pass by pass.  They go through the same phases,
since the first pass is ended by the same line in both. -/
theorem Alike.run (h : s.Alike text s') : SameStep (Alike text) s.run s'.run := by
  have hphase : s'.phase = s.phase := by
    cases h with
    | intro => rfl
  unfold Session.run
  rw [hphase]
  split
  · obtain ⟨f, g, t, t', hl, hm, hsame, ht⟩ | ⟨ended, t, t', hl, hm, ht⟩ :=
      (h.withPhase .encoding).encode.cases
    · rw [hl, hm]
      exact ⟨.error hsame, ht.withPhase .failed⟩
    · rw [hl, hm]
      cases ended with
      | false =>
          cases ht with
          | intro ht hlines => exact ⟨.rfl, .intro ht hlines⟩
      | true =>
          dsimp only
          obtain ⟨f, g, u, u', hl, hm, hsame, hu⟩ | ⟨files, u, u', hl, hm, hu⟩ :=
            (ht.withPhase .expanding).expandAll.cases
          · rw [hl, hm]
            exact ⟨.error hsame, hu.withPhase .failed⟩
          · rw [hl, hm]
            cases hu with
            | intro hu hlines => exact ⟨.rfl, .intro hu hlines⟩
  · exact ⟨.rfl, h⟩

/-- Assembly labels that a script does not mention do not matter.  Let two
tables have the same labels as far as the names are that of the end or stand
in the script's text, in any order, and whatever other labels.  Then two
sessions over the script end in the same phase, on the same disk, with the
same labels of directives and the same length of the stream, and have told the
same; and they have the same answer, or fail alike but for the names that a
hint offers. -/
theorem run_unmentioned {a b : LabelTable} (ha : a.Assembled) (hb : b.Assembled)
    (hsame : ∀ entry : Text × Nat, Mentions text entry.1 →
      (entry ∈ a.entries ↔ entry ∈ b.entries))
    (disk : Disk) (filename root : Text) (e : Encoder σ) (state : σ) :
    let script := Script.ofText filename root text
    let x := (start disk script a e state).run
    let y := (start disk script b e state).run
    x.2.phase = y.2.phase ∧ x.2.disk = y.2.disk ∧
      x.2.stream.labels.directive = y.2.stream.labels.directive ∧
      x.2.stream.offset = y.2.stream.offset ∧ x.2.files = y.2.files ∧
      x.2.reported = y.2.reported ∧ x.2.notices = y.2.notices ∧ SameAnswer Eq x.1 y.1 := by
  intro script x y
  have hscope : Labels.Alike text ⟨a, LabelTable.empty⟩ ⟨b, LabelTable.empty⟩ :=
    ⟨fun name hname => LabelTable.find?_eq_of_entries ha hb fun address =>
      hsame (name, address) hname, rfl⟩
  have hstart : (start disk script a e state).Alike text (start disk script b e state) :=
    .intro (.intro hscope) fun line hline => Script.within_of_mem_lines hline
  obtain ⟨hanswer, hends⟩ := hstart.run
  obtain ⟨hphase, hdisk, hfiles, hreported, hnotices, hstream⟩ := hends.fields
  exact ⟨hphase, hdisk, hstream.labels.directive, hstream.offset.symm, hfiles, hreported, hnotices,
    hanswer⟩

/-- A placeholder with a misspelt name: one table has a name that it may stand
for, the other has another that nothing mentions. -/
theorem run_unmentioned_misspelt :
    let text := "; @pt p: fup(3: %main)\n; @pt .exp\n; x %main.2\n; y %lop".toList
    let a : LabelTable := ⟨[("main".toList, 0x8004), ("loop".toList, 1)]⟩
    let b : LabelTable := ⟨[("zoo".toList, 7), ("main".toList, 0x8004)]⟩
    let script := Script.ofText "t.asm".toList "t".toList text
    let x := (start Disk.empty script a ptEncoder (Scratch.zeros 64)).run
    let y := (start Disk.empty script b ptEncoder (Scratch.zeros 64)).run
    a.Assembled ∧ b.Assembled ∧ x.2.disk = y.2.disk ∧
      x.2.stream.labels.directive = y.2.stream.labels.directive ∧
      ∃ err err', x.1 = .error (.script err) ∧ y.1 = .error (.script err') ∧
        err.SameButHint err' ∧ err.hint ≠ err'.hint := by
  intro text a b script x y
  have ha : a.Assembled :=
    @LabelTable.Assembled.add ⟨[("main".toList, 0x8004)]⟩ a "loop".toList 1
      (@LabelTable.Assembled.add LabelTable.empty _ "main".toList 0x8004 .empty (by decide))
      (by decide)
  have hb : b.Assembled :=
    @LabelTable.Assembled.add ⟨[("zoo".toList, 7)]⟩ b "main".toList 0x8004
      (@LabelTable.Assembled.add LabelTable.empty _ "zoo".toList 7 .empty (by decide))
      (by decide)
  have hloop : ¬ Mentions text "loop".toList := by decide +kernel
  have hzoo : ¬ Mentions text "zoo".toList := by decide +kernel
  have hsame : ∀ entry : Text × Nat, Mentions text entry.1 →
      (entry ∈ a.entries ↔ entry ∈ b.entries) := by
    intro entry hentry
    have hnoloop : entry ≠ ("loop".toList, 1) := by
      rintro rfl
      exact hloop hentry
    have hnozoo : entry ≠ ("zoo".toList, 7) := by
      rintro rfl
      exact hzoo hentry
    simp only [a, b, List.mem_cons, List.not_mem_nil, or_false, hnoloop, hnozoo, false_or]
  obtain ⟨-, hdisk, hdirective, -, -, -, -, hanswer⟩ :=
    run_unmentioned ha hb hsame Disk.empty "t.asm".toList "t".toList ptEncoder (Scratch.zeros 64)
  let misspelt (similar : List Text) (hint : Option Text) : ScriptError :=
    ⟨.undefinedLabel "lop".toList similar, [], some ⟨"t.asm".toList, 4, 0⟩,
      some "; y %lop".toList, hint⟩
  have hx : x.1 =
      .error (.script (misspelt ["loop".toList] (some "did you mean 'loop'?".toList))) := by
    decide +kernel
  have hy : y.1 = .error (.script (misspelt [] none)) := by decide +kernel
  have hboth : SameAnswer Eq x.1 y.1 := hanswer
  obtain ⟨f, g, hf, hg, hfails⟩ | ⟨files, _, hok, -, -⟩ := hboth.cases
  · obtain rfl := Except.error.inj (hx.symm.trans hf)
    obtain rfl := Except.error.inj (hy.symm.trans hg)
    refine ⟨ha, hb, ?_, ?_, _, _, hx, hy, hfails.of_script, nofun⟩
    · dsimp only [x, y, script]
      exact hdisk
    · dsimp only [x, y, script]
      exact hdirective
  · cases hx.symm.trans hok

end Session
end TraceScript
