import TraceScript.Proofs.Stream.Step

/-!
# Pieces of a stream

What the directives of a script make of an encoder, piece by piece, with no
stream in between: `Pieces` relates a row of lines to the packets that they
make and to the encoder behind them.  A line sees the labels of the pieces
before it, each at the number of octets in front of its own piece
(`tableOf`), and is handed to the encoder only once its operands are read.

Main fact: a stream that has made some pieces makes one more of a line, or
comes to its end, or the line fails and nothing but the encoder is changed
(`dispatchLine_cases`).
-/

namespace TraceScript

/-- A packet and the label on its line. -/
structure Piece where
  label : Option Text
  octets : Octets
  deriving DecidableEq, Repr

/-- The octets of a row of pieces. -/
def octetsOf (pieces : List Piece) : Octets :=
  pieces.flatMap (·.octets)

/-- The labels of a row of pieces that starts at an offset, each with the
offset of its piece. -/
def labelsFrom (offset : Nat) : List Piece → List (Text × Nat)
  | [] => []
  | p :: rest =>
      (p.label.toList.map fun name => (name, offset)) ++ labelsFrom (offset + p.octets.length) rest

/-- The table of the labels of a row of pieces. -/
def tableOf (pieces : List Piece) : LabelTable :=
  ⟨labelsFrom 0 pieces⟩

/-- One more piece adds its octets behind the others. -/
@[simp] theorem octetsOf_concat (pieces : List Piece) (p : Piece) :
    octetsOf (pieces ++ [p]) = octetsOf pieces ++ p.octets := by
  simp [octetsOf]

/-- One more piece adds its label, if it has one, at the end of the octets in
front of it. -/
theorem labelsFrom_concat (offset : Nat) (pieces : List Piece) (p : Piece) :
    labelsFrom offset (pieces ++ [p]) = labelsFrom offset pieces ++
      p.label.toList.map fun name => (name, offset + (octetsOf pieces).length) := by
  induction pieces generalizing offset with
  | nil => simp [labelsFrom, octetsOf]
  | cons first rest ih =>
      rw [List.cons_append, labelsFrom, labelsFrom, ih]
      simp [octetsOf, Nat.add_assoc]

theorem tableOf_concat_none {pieces : List Piece} {p : Piece} (h : p.label = none) :
    tableOf (pieces ++ [p]) = tableOf pieces := by
  simp [tableOf, labelsFrom_concat, h]

/-- The label of a piece stands for what is in front of it. -/
theorem tableOf_concat_some {pieces : List Piece} {p : Piece} {name : Text}
    (h : p.label = some name) :
    tableOf (pieces ++ [p]) = (tableOf pieces).push name (octetsOf pieces).length := by
  simp [tableOf, labelsFrom_concat, h, LabelTable.push]

section Pieces

variable {σ : Type} (e : Encoder σ) (assembly : LabelTable)

/-- The stream behind a row of pieces. -/
def Stream.behind (pieces : List Piece) (state : σ) : Stream σ :=
  ⟨⟨assembly, tableOf pieces⟩, (octetsOf pieces).length, state⟩

/-- The stream behind a row of pieces, with its end named. -/
def Stream.ended (pieces : List Piece) (state : σ) : Stream σ :=
  { Stream.behind assembly pieces state with
    labels := ⟨assembly, (tableOf pieces).push endLabel (octetsOf pieces).length⟩ }

/-- Handles the directive of a line. -/
def Stream.dispatchLine (s : Stream σ) (line : ScriptLine) : Except Failure Emission × Stream σ :=
  match Directive.ofLine s.labels line with
  | .error f => (.error f, s)
  | .ok d => s.dispatch e d

/-- The pieces that a row of lines makes, and the encoder behind them.  Each
line is read under the labels of the pieces before it; the encoder answers its
request with the size of the packet at the start of its buffer; and an offset
that is to be named fits a word. -/
inductive Pieces (state : σ) : List ScriptLine → List Piece → σ → Prop
  | nil : Pieces state [] [] state
  | concat {lines : List ScriptLine} {pieces : List Piece} {before after : σ} {line : ScriptLine}
      {d : Directive} {r : Request} {answer : Int}
      (hlines : Pieces state lines pieces before)
      (hline : Directive.ofLine ⟨assembly, tableOf pieces⟩ line = .ok d)
      (hterminator : d.isTerminator = false)
      (hrequest : (Stream.behind assembly pieces before).readRequest d = .ok r)
      (hissue : e.issue before r = (answer, after))
      (hanswer : 0 ≤ answer ∧ answer ≤ (e.buffer after).size)
      (hlabel : d.label.isSome → (octetsOf pieces).length < wordCount) :
      Pieces state (lines ++ [line]) (pieces ++ [⟨d.label, (e.buffer after).front answer.toNat⟩])
        after

variable {e assembly} {pieces : List Piece} {before after : σ} {line : ScriptLine} {d : Directive}

variable (assembly pieces after) in
/-- A packet and its label lead behind one more piece. -/
theorem behind_concat (label : Option Text) (octets : Octets) :
    (⟨Labels.pushLabel ⟨assembly, tableOf pieces⟩ label (octetsOf pieces).length,
      (octetsOf pieces).length + octets.length, after⟩ : Stream σ) =
      Stream.behind assembly (pieces ++ [⟨label, octets⟩]) after := by
  rw [Stream.behind, octetsOf_concat, List.length_append]
  cases label with
  | none =>
      rw [tableOf_concat_none rfl]
      rfl
  | some name =>
      rw [tableOf_concat_some rfl]
      rfl

/-- A packet directive makes one more piece, or fails and changes nothing but
the encoder. -/
theorem emit_piece_cases {state : σ} {lines : List ScriptLine}
    (h : Pieces e assembly state lines pieces before)
    (hline : Directive.ofLine ⟨assembly, tableOf pieces⟩ line = .ok d)
    (hterminator : d.isTerminator = false) :
    (∃ f encoder, (Stream.behind assembly pieces before).emit e d =
      (.error f, Stream.behind assembly pieces encoder)) ∨
    (∃ octets after, (Stream.behind assembly pieces before).emit e d =
        (.ok (.packet (octetsOf pieces).length d.name d.label octets),
          Stream.behind assembly (pieces ++ [⟨d.label, octets⟩]) after) ∧
      Pieces e assembly state (lines ++ [line]) (pieces ++ [⟨d.label, octets⟩]) after) := by
  obtain ⟨f, encoder, hfailed⟩ | ⟨r, answer, after, hrequest, hissue, hanswer, hlabel, hemit⟩ :=
    (Stream.behind assembly pieces before).emit_cases e d
  · exact .inl ⟨f, encoder, hfailed⟩
  · have hfits : d.label.isSome → (octetsOf pieces).length < wordCount := by
      intro hsome
      obtain ⟨name, hname⟩ := Option.isSome_iff_exists.mp hsome
      exact (hlabel name hname).2
    refine .inr ⟨(e.buffer after).front answer.toNat, after, ?_,
      .concat h hline hterminator hrequest hissue hanswer hfits⟩
    rw [hemit, ← behind_concat]
    rfl

/-- A stream behind some pieces makes one more of a line, or comes to its end,
or the line fails and nothing but the encoder is changed. -/
theorem dispatchLine_cases {state : σ} {lines : List ScriptLine} (line : ScriptLine)
    (h : Pieces e assembly state lines pieces before) :
    (∃ f encoder, (Stream.behind assembly pieces before).dispatchLine e line =
      (.error f, Stream.behind assembly pieces encoder)) ∨
    (∃ d, Directive.ofLine ⟨assembly, tableOf pieces⟩ line = .ok d ∧ d.isTerminator = true ∧
      Labels.define ⟨assembly, tableOf pieces⟩ endLabel (octetsOf pieces).length =
        .ok (Stream.ended assembly pieces before).labels ∧
      (Stream.behind assembly pieces before).dispatchLine e line =
        (.ok (.finished (octetsOf pieces).length), Stream.ended assembly pieces before)) ∨
    (∃ name piece after, (Stream.behind assembly pieces before).dispatchLine e line =
        (.ok (.packet (octetsOf pieces).length name piece.label piece.octets),
          Stream.behind assembly (pieces ++ [piece]) after) ∧
      Pieces e assembly state (lines ++ [line]) (pieces ++ [piece]) after) := by
  have hlabels : (Stream.behind assembly pieces before).labels = ⟨assembly, tableOf pieces⟩ := rfl
  unfold Stream.dispatchLine
  rw [hlabels]
  -- an unreadable line, the terminator, a packet: the three branches of `dispatch`
  cases hline : Directive.ofLine ⟨assembly, tableOf pieces⟩ line with
  | error f => exact .inl ⟨f, before, rfl⟩
  | ok d =>
      simp only [Stream.dispatch]
      cases hterminator : d.isTerminator with
      | true =>
          rw [if_pos rfl]
          obtain ⟨f, hfinish⟩ | ⟨-, hdefine, hfinish⟩ :=
            (Stream.behind assembly pieces before).finish_cases d
          · exact .inl ⟨f, before, hfinish⟩
          · exact .inr (.inl ⟨d, rfl, hterminator, hdefine, hfinish⟩)
      | false =>
          rw [if_neg Bool.false_ne_true]
          obtain hfailed | ⟨octets, after, hemit, hpieces⟩ :=
            emit_piece_cases h hline hterminator
          · exact .inl hfailed
          · exact .inr (.inr ⟨d.name, ⟨d.label, octets⟩, after, hemit, hpieces⟩)

end Pieces
end TraceScript
