import TraceScript.Proofs.Error.Refusal
import TraceScript.Proofs.Packet.Room

/-!
# Accepted lines

A line is accepted when its directive is read: its name is then a keyword, and
its label is new (`Directive.Accepted`).  The dispatcher looks at both once more,
and at the size that the encoder reports, but behind the parser none of these
late checks can fail.  A keyword other than the terminator's asks for a packet;
the packet encoder never reports more than its buffer holds; and nothing defines
a label between the two looks at it.  What is left to fail on a packet is
`Ordinary`: its operands, or the encoder's refusal.

So the only late check that a script can reach is the one for the name of the
end of the stream, which the parser does not look at; and an offset that does not
fit a word is the only one that a new name may still be refused for
(`Session.dispatch_accepted`).
-/

namespace TraceScript

/-! ### Failures -/

/-- A sequence of two operations fails as one of them does. -/
theorem eq_error_of_bind {ε α β : Type} {r : Except ε α} {g : α → Except ε β} {f : ε}
    (h : (r >>= g) = .error f) : r = .error f ∨ ∃ a, r = .ok a ∧ g a = .error f := by
  cases r with
  | error e =>
      cases h
      exact .inl rfl
  | ok a => exact .inr ⟨a, rfl, h⟩

namespace Failure

/-- A label is refused because its name is taken. -/
def IsDuplicate : Failure → Prop
  | .script e => e.kind = .duplicateLabel
  | _ => False

/-- Neither an invariant that does not hold nor a name that is taken. -/
structure Ordinary (f : Failure) : Prop where
  fault : ∀ fault, f ≠ .internal fault
  label : ¬ f.IsDuplicate

/-- In a context, what has been misread is ordinary. -/
theorem Misread.ordinary {t : Text} {f : Failure} (h : f.Misread t) (c : Context) :
    (f.inContext c).Ordinary := by
  cases h with
  | longDecimal => exact ⟨nofun, id⟩
  | cause cause hread =>
      refine ⟨nofun, fun hkind => ?_⟩
      have hkind : cause.kind = .duplicateLabel := hkind
      -- of the causes of that kind none is read in a text alone
      cases cause <;> first | exact hread | cases hkind

/-- A label that is taken is reported as taken, in whatever context. -/
theorem isDuplicate_duplicate (name : Text) (origin : LabelOrigin) (c : Context) :
    ((LabelTable.duplicate name origin).inContext c).IsDuplicate :=
  rfl

end Failure

/-! ### Directives -/

namespace Directive

variable {labels : Labels} {line : ScriptLine} {d : Directive} {name : Text}

/-- The name of a directive is a keyword, and its label is new. -/
structure Accepted (labels : Labels) (d : Directive) : Prop where
  keyword : ∃ k, Keyword.ofText? d.name = some k
  label : ∀ name ∈ d.label, name ∉ labels.names

/-- The failure of a line whose label is taken. -/
def clash (line : ScriptLine) (name : Text) (origin : LabelOrigin) : Failure :=
  (LabelTable.duplicate name origin).inContext
    ⟨some line.location, some line.text, "label lookup".toList⟩

/-- A label that is taken is refused at the line, for a table that it is in. -/
theorem checkLabel_of_mem (line : ScriptLine) (h : name ∈ labels.names) :
    ∃ origin, name ∈ (labels.table origin).names ∧
      checkLabel labels line (some name) = .error (clash line name origin) := by
  obtain ⟨origin, horigin, hcheck⟩ := Labels.checkUnique_of_mem h
  refine ⟨origin, horigin, ?_⟩
  rw [checkLabel, hcheck]
  rfl

/-- What is split is checked for its label first, and then for its name. -/
theorem ofLine_of_split {t : Text} (ht : line.directive = some t)
    (hsplit : split t (some line.location) (some line.text) = .ok d) :
    ofLine labels line =
      (checkLabel labels line d.label).bind fun _ =>
        (checkName line d.name).bind fun _ => .ok d := by
  simp only [ofLine, ht, hsplit]
  rfl

/-- A directive whose label is taken is refused for it, whatever its name is. -/
theorem ofLine_clash {t : Text} (ht : line.directive = some t)
    (hsplit : split t (some line.location) (some line.text) = .ok d) (hlabel : d.label = some name)
    (h : name ∈ labels.names) :
    ∃ origin, name ∈ (labels.table origin).names ∧
      ofLine labels line = .error (clash line name origin) := by
  obtain ⟨origin, horigin, hcheck⟩ := checkLabel_of_mem line h
  refine ⟨origin, horigin, ?_⟩
  rw [ofLine_of_split ht hsplit, hlabel, hcheck]
  rfl

/-- A directive whose label is taken is refused, whatever else is wrong with
it. -/
theorem ofLine_of_mem {t : Text} (ht : line.directive = some t)
    (hsplit : split t (some line.location) (some line.text) = .ok d) (hlabel : d.label = some name)
    (h : name ∈ labels.names) : ∃ f, f.IsDuplicate ∧ ofLine labels line = .error f := by
  obtain ⟨origin, -, hline⟩ := ofLine_clash ht hsplit hlabel h
  exact ⟨_, Failure.isDuplicate_duplicate name origin _, hline⟩

/-- A directive that passes the checks of its line has a keyword for its name
and a label that is new. -/
theorem accepted_of_ofLine (h : ofLine labels line = .ok d) : d.Accepted labels := by
  unfold ofLine at h
  split at h
  · cases h
  · obtain ⟨d', -, h⟩ := eq_ok_of_bind h
    obtain ⟨_, hlabel, h⟩ := eq_ok_of_bind h
    obtain ⟨_, hname, h⟩ := eq_ok_of_bind h
    cases h
    constructor
    · unfold checkName at hname
      split at hname
      · cases hname
      split at hname
      · cases hname
      · rename_i hkeyword
        exact Option.ne_none_iff_exists'.mp (mt Option.isNone_iff_eq_none.mpr hkeyword)
    · rintro name hname hmem
      obtain ⟨origin, -, hcheck⟩ := checkLabel_of_mem line hmem
      rw [Option.mem_def.mp hname, hcheck] at hlabel
      cases hlabel

/-- A label is refused for reasons of the text alone, never for an invariant. -/
theorem textual_of_checkLabel {label : Option Text} {f : Failure}
    (h : checkLabel labels line label = .error f) : f.Textual := by
  cases label with
  | none => cases h
  | some name => exact textual_of_inContext (labels.unplaced_checkUnique (t := []) name) h

theorem textual_of_checkName {f : Failure} (h : checkName line name = .error f) : f.Textual := by
  unfold checkName at h
  split at h
  · cases h
    trivial
  split at h
  · cases h
    trivial
  · cases h

/-- A line is not accepted because of its text. -/
theorem textual_of_ofLine {f : Failure} (h : ofLine labels line = .error f) : f.Textual := by
  unfold ofLine at h
  split at h
  · cases h
    trivial
  · obtain hsplit | ⟨d, -, h⟩ := eq_error_of_bind h
    · exact textual_of_split hsplit
    obtain hlabel | ⟨_, -, h⟩ := eq_error_of_bind h
    · exact textual_of_checkLabel hlabel
    obtain hname | ⟨_, -, h⟩ := eq_error_of_bind h
    · exact textual_of_checkName hname
    · cases h

/-- Every keyword but the terminator's asks for a packet. -/
theorem exists_request (labels : Labels) (payload : Text) {k : Keyword} (h : k ≠ .exp) :
    ∃ r, Operand.request? labels payload k = some r := by
  cases k
  case exp => exact absurd rfl h
  all_goals exact ⟨_, rfl⟩

end Directive

/-! ### Streams -/

namespace Stream

variable {σ : Type} {d : Directive} {f : Failure}

/-- The operands of an accepted directive fail, if at all, because of
themselves. -/
theorem ordinary_readRequest (s : Stream σ) (hd : d.Accepted s.labels)
    (hterminator : d.isTerminator = false) (h : s.readRequest d = .error f) : f.Ordinary := by
  obtain ⟨k, hk⟩ := hd.keyword
  have hexp : k ≠ .exp := by
    rintro rfl
    rw [Directive.isTerminator, ← Keyword.text_of_ofText? hk] at hterminator
    cases hterminator
  obtain ⟨r, hrequest⟩ := Directive.exists_request s.labels d.payload hexp
  simp only [readRequest, hk, Option.bind_some, hrequest] at h
  cases r with
  | ok _ => cases h
  | error g =>
      cases h
      exact (Operand.reading_request hrequest g rfl).ordinary _

/-- An answer that the buffer holds is refused only if it is a status. -/
theorem ordinary_judge {answer : Int} {buffer : Scratch} (hroom : answer ≤ buffer.size)
    (h : judge d answer buffer = .error f) : f.Ordinary := by
  unfold judge at h
  split at h
  · cases h
    exact ⟨nofun, nofun⟩
  · rw [if_neg (by omega)] at h
    cases h

/-- An accepted packet directive fails, if at all, because of its operands or
with a status of the encoder. -/
theorem ordinary_emit (s : Stream Scratch) (hd : d.Accepted s.labels)
    (hterminator : d.isTerminator = false) (hshort : s.offset < wordCount)
    (h : (s.emit ptEncoder d).1 = .error f) : f.Ordinary := by
  unfold emit at h
  split at h
  · rename_i hrequest
    cases h
    exact s.ordinary_readRequest hd hterminator hrequest
  · simp only at h
    split at h
    · rename_i hjudge
      cases h
      exact ordinary_judge (ptIssue_le _ _) hjudge
    · rename_i r _ _ _ _
      have hlabelled :=
        labelled_of_new (s := { s with encoder := (ptEncoder.issue s.encoder r).2 }) (d := d)
          fun name hname => ⟨hd.label name hname, hshort⟩
      simp only [hlabelled] at h
      cases h

/-- The end of a stream is named, or its name is taken and refused. -/
theorem finish_outcomes (s : Stream σ) (d : Directive) (hshort : s.offset < wordCount) :
    (endLabel ∉ s.labels.names ∧ ∃ emission, (s.finish d).1 = .ok emission) ∨
    (endLabel ∈ s.labels.names ∧ ∃ f, (s.finish d).1 = .error f ∧ f.IsDuplicate) := by
  unfold finish
  obtain ⟨htaken, origin, hdefine⟩ | ⟨⟨hnew, -⟩, hdefine⟩ | ⟨⟨-, hwide⟩, -⟩ :=
    s.labels.define_outcomes endLabel s.offset
  · rw [hdefine]
    exact .inr ⟨htaken, _, rfl, Failure.isDuplicate_duplicate endLabel origin _⟩
  · rw [hdefine]
    exact .inl ⟨hnew, _, rfl⟩
  · omega

/-- Behind the parser, a directive never breaks an invariant, and its label is
refused as taken just if it is the terminator and the end is already named. -/
theorem dispatch_of_accepted (s : Stream Scratch) (hd : d.Accepted s.labels)
    (hshort : s.offset < wordCount) :
    (∀ fault, (s.dispatch ptEncoder d).1 ≠ .error (.internal fault)) ∧
      ((∃ f, (s.dispatch ptEncoder d).1 = .error f ∧ f.IsDuplicate) ↔
        d.isTerminator = true ∧ endLabel ∈ s.labels.names) := by
  unfold dispatch
  cases hterminator : d.isTerminator with
  | true =>
      rw [if_pos rfl]
      obtain ⟨hnew, emission, hfinish⟩ | ⟨htaken, f, hfinish, hduplicate⟩ :=
        s.finish_outcomes d hshort
      · rw [hfinish]
        refine ⟨nofun, ?_, fun htaken => absurd htaken.2 hnew⟩
        rintro ⟨f, h, -⟩
        cases h
      · rw [hfinish]
        refine ⟨fun fault h => ?_, fun _ => ⟨rfl, htaken⟩, fun _ => ⟨f, rfl, hduplicate⟩⟩
        obtain rfl := Except.error.inj h
        exact hduplicate
  | false =>
      have hordinary : ∀ f, (s.emit ptEncoder d).1 = .error f → f.Ordinary :=
        fun f => s.ordinary_emit hd hterminator hshort
      rw [if_neg Bool.false_ne_true]
      refine ⟨fun fault h => (hordinary _ h).fault fault rfl, ?_, nofun⟩
      rintro ⟨f, h, hduplicate⟩
      exact absurd hduplicate (hordinary f h).label

/-! ### What holds of the encoder -/

variable {e : Encoder σ} {P : σ → Prop}

/-- What every answer keeps, a directive keeps. -/
theorem dispatch_invariant (hissue : ∀ state r, P state → P (e.issue state r).2) {s : Stream σ}
    (d : Directive) (h : P s.encoder) : P (s.dispatch e d).2.encoder := by
  unfold dispatch
  split
  · unfold finish
    split <;> exact h
  · unfold emit
    split
    · exact h
    · simp only
      split
      · exact hissue _ _ h
      split <;> exact hissue _ _ h

/-- What every answer of the encoder keeps, a line keeps, since a line asks
once at most. -/
theorem dispatchLine_invariant (hissue : ∀ state r, P state → P (e.issue state r).2) {s : Stream σ}
    (line : ScriptLine) (h : P s.encoder) : P (s.dispatchLine e line).2.encoder := by
  obtain ⟨f, -, hline⟩ | ⟨d, -, hline⟩ := s.dispatchLine_eq e line
  · rwa [hline]
  · rw [hline]
    exact dispatch_invariant hissue d h

/-- No directive takes a stream back. -/
theorem offset_le_dispatchLine (e : Encoder σ) (s : Stream σ) (line : ScriptLine) :
    s.offset ≤ (s.dispatchLine e line).2.offset := by
  obtain ⟨f, -, hline⟩ | ⟨d, -, hline⟩ := s.dispatchLine_eq e line
  · rw [hline]
  · rw [hline]
    have hstep := s.dispatch_step e d
    generalize (s.dispatch e d).1 = answer, (s.dispatch e d).2 = after at hstep
    cases hstep with
    | failed => exact Nat.le_refl _
    | packet => exact Nat.le_add_right _ _
    | finished => exact Nat.le_refl _

/-- A line breaks no invariant while the offset fits a word. -/
theorem dispatchLine_ne_internal (s : Stream Scratch) (line : ScriptLine)
    (hshort : s.offset < wordCount) (fault : InternalFault) :
    (s.dispatchLine ptEncoder line).1 ≠ .error (.internal fault) := by
  obtain ⟨f, hrefused, hline⟩ | ⟨d, haccepted, hline⟩ := s.dispatchLine_eq ptEncoder line
  · rw [hline]
    intro h
    obtain rfl := Except.error.inj h
    exact Directive.textual_of_ofLine hrefused
  · rw [hline]
    exact (s.dispatch_of_accepted (Directive.accepted_of_ofLine haccepted) hshort).1 fault

end Stream

/-! ### Sessions -/

namespace Recording

variable {σ : Type} {e : Encoder σ} {P : σ → Prop}

/-- What a line does to the stream does not depend on the file that is
written. -/
theorem stream_take (e : Encoder σ) (r : Recording σ) (line : ScriptLine) :
    (r.take e line).2.stream = (r.stream.dispatchLine e line).2 := by
  rw [take_eq]
  cases r.stream.dispatchLine e line with
  | mk answer stream =>
    cases answer with
    | error f => rfl
    | ok emission =>
        cases emission with
        | finished offset => rfl
        | packet offset name label packet =>
            simp only [store]
            split <;> rfl

/-- What every answer keeps, a row of lines keeps.  By induction on the lines,
up to the one that ends the pass. -/
theorem takeAll_invariant (hissue : ∀ state r, P state → P (e.issue state r).2)
    (lines : List ScriptLine) {r : Recording σ} (h : P r.stream.encoder) :
    P (takeAll e lines r).2.stream.encoder := by
  induction lines generalizing r with
  | nil => exact h
  | cons line rest ih =>
      have hline := Stream.dispatchLine_invariant hissue line h
      rw [← stream_take] at hline
      rw [takeAll]
      split
      · rename_i r₁ htake
        rw [htake] at hline
        exact ih hline
      · exact hline

end Recording

namespace Session

variable {disk : Disk} {script : Script} {assembly : LabelTable} {size : Nat}
  {made : List ScriptLine} {result : Except Failure Bool} {r : Recording Scratch}

/-- The buffer of a pass keeps the size that it was made with. -/
theorem Handled.size_encoder
    (h : Handled disk script assembly ptEncoder (Scratch.zeros size) made result r) :
    r.stream.encoder.size = size := by
  obtain ⟨handle, opened, -, htake⟩ := h
  have hsize := Recording.takeAll_invariant (e := ptEncoder) (P := fun b : Scratch => b.size = size)
    (fun b request hb => (size_ptIssue b request).trans hb) made
    (r := ⟨Stream.start ⟨assembly, LabelTable.empty⟩ (Scratch.zeros size), handle, opened, []⟩) rfl
  rwa [htake] at hsize

/-- A pass breaks no invariant while the offset fits a word.  The offset only
grows, so what fits a word at the end has fitted one before every line. -/
theorem Handled.ne_internal
    (h : Handled disk script assembly ptEncoder (Scratch.zeros size) made result r)
    (hshort : r.stream.offset < wordCount) (fault : InternalFault) :
    result ≠ .error (.internal fault) := by
  rintro rfl
  obtain ⟨handle, opened, -, htake⟩ := h
  obtain ⟨r', hgoes⟩ | ⟨before, line, rest, r₁, answer, r', -, -, hline, hall, -⟩ :=
    Recording.takeAll_cases (e := ptEncoder) made
      ⟨Stream.start ⟨assembly, LabelTable.empty⟩ (Scratch.zeros size), handle, opened, []⟩
  · rw [hgoes] at htake
    cases htake
  · rw [hall] at htake
    cases htake
    -- the offset only grows, so it fitted a word in front of the line that ended the pass
    have hstream := Recording.stream_take ptEncoder r₁ line
    have hoffset := r₁.stream.offset_le_dispatchLine ptEncoder line
    rw [← hstream, hline] at hoffset
    obtain hfailed | ⟨_, _, _, _, reason, -, -, hrefused⟩ :=
      Recording.take_error_cases (congrArg Prod.fst hline)
    · have hbefore : r₁.stream.offset < wordCount := Nat.lt_of_le_of_lt hoffset hshort
      exact r₁.stream.dispatchLine_ne_internal line hbefore fault hfailed
    · cases hrefused

/-- Behind the parser, the late checks of the dispatcher cannot fail.  Let a
first pass have handled any lines with the packet encoder, in whatever buffer,
and let the offset fit a word.  A line that is accepted then is dispatched
without a fault, and a label is refused as taken just if the line is a
terminator and the end is already named.  A line whose label is taken is not
accepted, so whatever the encoder, it is not asked.  The encoder never reports
more than the buffer holds, which keeps its size.  And so the pass itself has
not ended with a fault. -/
theorem dispatch_accepted (disk : Disk) (script : Script) (assembly : LabelTable) (size : Nat)
    (made : List ScriptLine) (result : Except Failure Bool) (r : Recording Scratch)
    (h : Handled disk script assembly ptEncoder (Scratch.zeros size) made result r)
    (hshort : r.stream.offset < wordCount) :
    (∀ line d, Directive.ofLine r.stream.labels line = .ok d →
      (∀ fault, (r.stream.dispatch ptEncoder d).1 ≠ .error (.internal fault)) ∧
      ((∃ f, (r.stream.dispatch ptEncoder d).1 = .error f ∧ f.IsDuplicate) ↔
        d.isTerminator = true ∧ endLabel ∈ r.stream.labels.names)) ∧
    (∀ (line : ScriptLine) (t : Text) (d : Directive) (name : Text), line.directive = some t →
      Directive.split t (some line.location) (some line.text) = .ok d → d.label = some name →
      name ∈ r.stream.labels.names →
      ∃ f, f.IsDuplicate ∧ Directive.ofLine r.stream.labels line = .error f ∧
        ∀ (σ : Type) (e : Encoder σ) (s : Stream σ), s.labels = r.stream.labels →
          s.dispatchLine e line = (.error f, s)) ∧
    (r.stream.encoder.size = size ∧
      ∀ request, (ptEncoder.issue r.stream.encoder request).1 ≤
        (ptEncoder.buffer (ptEncoder.issue r.stream.encoder request).2).size) ∧
    ∀ fault, result ≠ .error (.internal fault) := by
  refine ⟨fun line d haccepted => ?_, ?_, ⟨h.size_encoder, ptIssue_le r.stream.encoder⟩,
    h.ne_internal hshort⟩
  · exact r.stream.dispatch_of_accepted (Directive.accepted_of_ofLine haccepted) hshort
  · intro line t d name ht hsplit hlabel htaken
    obtain ⟨f, hduplicate, hrefused⟩ := Directive.ofLine_of_mem ht hsplit hlabel htaken
    refine ⟨f, hduplicate, hrefused, fun σ e s hlabels => ?_⟩
    simp only [Stream.dispatchLine, hlabels, hrefused]

/-- The name of the end is taken by a packet: the terminator is accepted and
then refused, and a second label of that name is refused before its unknown
directive. -/
theorem dispatch_accepted_end_taken :
    let line (n : Nat) (t : String) := ScriptLine.ofText "t.asm".toList n t.toList
    let script : Script := ⟨"t.asm".toList, "t".toList, [line 1 "; @pt eos: pad()"]⟩
    ∃ r, Handled Disk.empty script LabelTable.empty ptEncoder (Scratch.zeros 8)
        script.directiveLines (.ok false) r ∧ r.stream.offset < wordCount ∧
      (∃ d f, Directive.ofLine r.stream.labels (line 2 "; @pt .exp") = .ok d ∧
        (r.stream.dispatch ptEncoder d).1 = .error f ∧ f.IsDuplicate) ∧
      (∃ f, Directive.ofLine r.stream.labels (line 2 "; @pt eos: none()") = .error f ∧
        f.IsDuplicate) ∧
      (ptEncoder.issue r.stream.encoder .psb).1 ≤ 8 := by
  intro line script
  have hreach : Disk.empty.reach script.streamPath = .ok script.streamPath := by decide +kernel
  have hcreate := Disk.create_of_reach hreach rfl
  obtain ⟨r, hmade, hshort, hlabels⟩ : ∃ r, Handled Disk.empty script LabelTable.empty ptEncoder
      (Scratch.zeros 8) script.directiveLines (.ok false) r ∧ r.stream.offset < wordCount ∧
      r.stream.labels = ⟨LabelTable.empty, ⟨[(endLabel, 0)]⟩⟩ :=
    ⟨_, handled_of_create hcreate (by decide +kernel), by decide +kernel, by decide +kernel⟩
  obtain ⟨haccepted, hclash, ⟨hsize, hroom⟩, -⟩ :=
    dispatch_accepted Disk.empty script LabelTable.empty 8 script.directiveLines (.ok false) r hmade
      hshort
  have htaken : endLabel ∈ r.stream.labels.names := by
    rw [hlabels]
    decide
  let last : Directive :=
    ⟨".exp".toList, [], none, some ⟨"t.asm".toList, 2, 7⟩, some "; @pt .exp".toList⟩
  have hlast : Directive.ofLine r.stream.labels (line 2 "; @pt .exp") = .ok last := by
    rw [hlabels]
    decide +kernel
  obtain ⟨f, hfinish, hduplicate⟩ := (haccepted _ last hlast).2.mpr ⟨by decide, htaken⟩
  obtain ⟨g, hrefused, hline, -⟩ := hclash (line 2 "; @pt eos: none()") "eos: none()".toList
    ⟨"none".toList, [], some endLabel, some ⟨"t.asm".toList, 2, 7⟩,
      some "; @pt eos: none()".toList⟩ endLabel (by decide +kernel) (by decide +kernel) rfl htaken
  have hcount := hroom .psb
  rw [show (ptEncoder.buffer (ptEncoder.issue r.stream.encoder .psb).2).size = 8 from
    (size_ptIssue _ _).trans hsize] at hcount
  exact ⟨r, hmade, hshort, ⟨last, f, hlast, hfinish, hduplicate⟩, ⟨g, hline, hrefused⟩, hcount⟩

end Session
end TraceScript
