import TraceScript.Proofs.Label.Growth
import TraceScript.Stream

/-!
# One directive on a stream

What a directive can do to a stream, and there is nothing else
(`Stream.Step`): it fails and changes nothing but the encoder; it makes a
packet, which the stream grows by, and its label, if it has one, is put behind
the others with the offset in front of the packet; or it is a terminator and
names the end of the stream.  `dispatch_step` says that a dispatch is such a
step.
-/

namespace TraceScript

/-- The scope with the label of a packet, if the packet has one. -/
def Labels.pushLabel (l : Labels) (label : Option Text) (address : Nat) : Labels :=
  match label with
  | none => l
  | some name => l.push name address

/-- A label that is pushed is the last of the names, and without one they
stay. -/
@[simp] theorem Labels.names_pushLabel (l : Labels) (label : Option Text) (address : Nat) :
    (l.pushLabel label address).names = l.names ++ label.toList := by
  cases label with
  | none => exact (List.append_nil _).symm
  | some name => exact l.names_push name address

/-- Pushing a label takes none away and gives none another address. -/
theorem Labels.extends_pushLabel (l : Labels) (label : Option Text) (address : Nat) :
    l.Extends (l.pushLabel label address) := by
  cases label with
  | none => exact .refl l
  | some name => exact extends_push l name address

/-- An offset is put at the end of its table under a new name, or refused. -/
theorem Labels.define_cases (l : Labels) (name : Text) (offset : Nat) :
    (∃ f, l.define name offset = .error f) ∨
    ((name ∉ l.names ∧ offset < wordCount) ∧ l.define name offset = .ok (l.push name offset)) := by
  cases hdefine : l.define name offset with
  | error f => exact .inl ⟨f, rfl⟩
  | ok m =>
      obtain ⟨hnew, hfits, rfl⟩ := define_eq_ok_iff.mp hdefine
      exact .inr ⟨⟨hnew, Int.ofNat_lt.mp hfits.2⟩, rfl⟩

namespace Stream

variable {σ : Type}

/-- What a directive does to a stream, by the answer to it. -/
inductive Step (s : Stream σ) (d : Directive) : Except Failure Emission → Stream σ → Prop
  | failed (f : Failure) (after : σ) : Step s d (.error f) { s with encoder := after }
  | packet (octets : Octets) (after : σ) (hterminator : d.isTerminator = false)
      (hlabel : ∀ name ∈ d.label, name ∉ s.labels.names ∧ s.offset < wordCount) :
      Step s d (.ok (.packet s.offset d.name d.label octets))
        ⟨s.labels.pushLabel d.label s.offset, s.offset + octets.length, after⟩
  | finished (hterminator : d.isTerminator = true)
      (hlabel : endLabel ∉ s.labels.names ∧ s.offset < wordCount) :
      Step s d (.ok (.finished s.offset)) { s with labels := s.labels.push endLabel s.offset }

/-- No step loses a label. -/
theorem Step.extends {s s' : Stream σ} {d : Directive} {answer : Except Failure Emission}
    (h : s.Step d answer s') : s.labels.Extends s'.labels := by
  cases h with
  | failed => exact .refl s.labels
  | packet => exact s.labels.extends_pushLabel d.label s.offset
  | finished => exact Labels.extends_push s.labels endLabel s.offset

/-- No step makes a label ambiguous. -/
theorem Step.unambiguous {s s' : Stream σ} {d : Directive} {answer : Except Failure Emission}
    (h : s.Step d answer s') (hs : s.labels.Unambiguous) : s'.labels.Unambiguous := by
  cases h with
  | failed => exact hs
  | packet octets after hterminator hlabel =>
      show (s.labels.pushLabel d.label s.offset).Unambiguous
      cases hname : d.label with
      | none => exact hs
      | some name =>
          obtain ⟨hnew, hfits⟩ := hlabel name hname
          exact hs.push hnew hfits
  | finished hterminator hlabel => exact hs.push hlabel.1 hlabel.2

/-- An answer is refused, or it is the size of the packet in the buffer. -/
theorem judge_cases (d : Directive) (answer : Int) (buffer : Scratch) :
    (∃ f, judge d answer buffer = .error f) ∨
    ((0 ≤ answer ∧ answer ≤ buffer.size) ∧
      judge d answer buffer = .ok (buffer.front answer.toNat)) := by
  unfold judge
  split
  · exact .inl ⟨_, rfl⟩
  split
  · exact .inl ⟨_, rfl⟩
  · exact .inr ⟨by omega, rfl⟩

/-- The label of a directive is put behind the others, or refused.  It is
refused where its name is taken or the offset is no word. -/
theorem labelled_cases (s : Stream σ) (d : Directive) :
    (∃ f, s.labelled d = .error f) ∨
    ((∀ name ∈ d.label, name ∉ s.labels.names ∧ s.offset < wordCount) ∧
      s.labelled d = .ok (s.labels.pushLabel d.label s.offset)) := by
  unfold labelled
  cases d.label with
  | none => exact .inr ⟨nofun, rfl⟩
  | some name =>
      obtain ⟨f, hdefine⟩ | ⟨hnew, hdefine⟩ := s.labels.define_cases name s.offset
      · exact .inl ⟨f.inContext (d.context []), by simp only [hdefine, inContext]⟩
      · right
        refine ⟨?_, by simp only [hdefine, inContext]; rfl⟩
        rintro other ⟨⟩
        exact hnew

/-- A label that is new is put behind the others where the offset fits a
word. -/
theorem labelled_of_new {s : Stream σ} {d : Directive}
    (h : ∀ name ∈ d.label, name ∉ s.labels.names ∧ s.offset < wordCount) :
    s.labelled d = .ok (s.labels.pushLabel d.label s.offset) := by
  unfold labelled
  cases hlabel : d.label with
  | none => rfl
  | some name =>
      obtain ⟨hnew, hfits⟩ := h name hlabel
      have hdefine : s.labels.define name s.offset = .ok (s.labels.push name s.offset) :=
        Labels.define_of_fits hnew ⟨Int.natCast_nonneg _, Int.ofNat_lt.mpr hfits⟩
      simp only [hdefine]
      rfl

/-- The end of a stream is named, or the name is refused. -/
theorem finish_cases (s : Stream σ) (d : Directive) :
    (∃ f, s.finish d = (.error f, s)) ∨
    ((endLabel ∉ s.labels.names ∧ s.offset < wordCount) ∧
      s.labels.define endLabel s.offset = .ok (s.labels.push endLabel s.offset) ∧
      s.finish d = (.ok (.finished s.offset),
        { s with labels := s.labels.push endLabel s.offset })) := by
  unfold finish
  obtain ⟨f, hdefine⟩ | ⟨hnew, hdefine⟩ := s.labels.define_cases endLabel s.offset
  · exact .inl ⟨f.inContext (d.context "append label".toList), by simp only [hdefine, inContext]⟩
  · exact .inr ⟨hnew, hdefine, by simp only [hdefine, inContext]⟩

/-- A packet directive fails and changes nothing but the encoder, or its
request is answered with the size of the packet in the buffer. -/
theorem emit_cases (s : Stream σ) (e : Encoder σ) (d : Directive) :
    (∃ f after, s.emit e d = (.error f, { s with encoder := after })) ∨
    (∃ r answer after, s.readRequest d = .ok r ∧ e.issue s.encoder r = (answer, after) ∧
      (0 ≤ answer ∧ answer ≤ (e.buffer after).size) ∧
      (∀ name ∈ d.label, name ∉ s.labels.names ∧ s.offset < wordCount) ∧
      s.emit e d =
        (.ok (.packet s.offset d.name d.label ((e.buffer after).front answer.toNat)),
          ⟨s.labels.pushLabel d.label s.offset,
            s.offset + ((e.buffer after).front answer.toNat).length, after⟩)) := by
  unfold emit
  cases hrequest : s.readRequest d with
  | error f => exact .inl ⟨f, s.encoder, rfl⟩
  | ok r =>
      cases hissue : e.issue s.encoder r with
      | mk answer after =>
        simp only [hissue]
        obtain ⟨f, hjudge⟩ | ⟨hanswer, hjudge⟩ := judge_cases d answer (e.buffer after)
        · exact .inl ⟨f, after, by rw [hjudge]⟩
        · rw [hjudge]
          obtain ⟨f, hlabelled⟩ | ⟨hlabel, hlabelled⟩ :=
            labelled_cases { s with encoder := after } d
          · exact .inl ⟨f, after, by rw [hlabelled]⟩
          · exact .inr ⟨r, answer, after, rfl, hissue, hanswer, hlabel, by rw [hlabelled]⟩

/-- A request that is answered with the size of a packet makes that packet, if
the label is new. -/
theorem emit_of_answer {s : Stream σ} {e : Encoder σ} {d : Directive} {r : Request} {answer : Int}
    {after : σ} (hrequest : s.readRequest d = .ok r)
    (hissue : e.issue s.encoder r = (answer, after))
    (hanswer : 0 ≤ answer ∧ answer ≤ (e.buffer after).size)
    (hlabel : ∀ name ∈ d.label, name ∉ s.labels.names ∧ s.offset < wordCount) :
    s.emit e d =
      (.ok (.packet s.offset d.name d.label ((e.buffer after).front answer.toNat)),
        ⟨s.labels.pushLabel d.label s.offset,
          s.offset + ((e.buffer after).front answer.toNat).length, after⟩) := by
  have hjudge : judge d answer (e.buffer after) = .ok ((e.buffer after).front answer.toNat) := by
    unfold judge
    rw [if_neg (by omega), if_neg (by omega)]
  have hlabelled : ({ s with encoder := after } : Stream σ).labelled d =
      .ok (s.labels.pushLabel d.label s.offset) := labelled_of_new hlabel
  simp only [emit, hrequest, hissue, hjudge, hlabelled]

/-- A dispatch is a step.  Whatever is answered, it is one of the three things
that a step may be. -/
theorem dispatch_step (s : Stream σ) (e : Encoder σ) (d : Directive) :
    s.Step d (s.dispatch e d).1 (s.dispatch e d).2 := by
  unfold dispatch
  cases hterminator : d.isTerminator with
  | true =>
      rw [if_pos rfl]
      obtain ⟨f, hfinish⟩ | ⟨hnew, -, hfinish⟩ := finish_cases s d
      · rw [hfinish]
        exact .failed f s.encoder
      · rw [hfinish]
        exact .finished hterminator hnew
  | false =>
      rw [if_neg Bool.false_ne_true]
      obtain ⟨f, after, hemit⟩ | ⟨r, answer, after, -, -, -, hlabel, hemit⟩ := emit_cases s e d
      · rw [hemit]
        exact .failed f after
      · rw [hemit]
        exact .packet _ after hterminator hlabel

end Stream
end TraceScript
