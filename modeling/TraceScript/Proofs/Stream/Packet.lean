import TraceScript.Proofs.Packet.Room
import TraceScript.Proofs.Stream.Step

/-!
# Packet directives, by what they ask for

What a directive asks for is settled by its name and its payload (`Stream.Asks`): a
request, or a failure of its operands.  On the packet encoder that decides what becomes of
it, in this order: wrong operands, a status of the layout, the packet itself where the
buffer holds it, and only then a label that is refused.  Each failure leaves labels and
offset alone.
-/

namespace TraceScript.Stream

variable {σ : Type} {s : Stream σ} {d : Directive}

/-- What a packet directive asks for: its request, or what is wrong with its
operands. -/
inductive Asks (s : Stream σ) (d : Directive) (asked : Except Failure Request) : Prop
  | keyword {k : Keyword} (hname : d.name = k.text)
      (hasked : Operand.request? s.labels d.payload k = some asked) : Asks s d asked

/-- The failure of a directive whose operands are wrong. -/
def operandFailure (d : Directive) (f : Failure) : Failure :=
  f.inContext (d.context (d.name ++ ": parsing failed".toList))

/-- The failure of a directive whose packet has no layout. -/
def statusFailure (d : Directive) (status : Status) : Failure :=
  .script (ScriptError.located (.encoder d.name status.number status.text)
    d.location d.sourceLine)

/-- The terminator asks for no packet. -/
theorem Asks.isTerminator {asked : Except Failure Request} (h : s.Asks d asked) :
    d.isTerminator = false := by
  obtain ⟨hname, hasked⟩ := h
  rename_i k
  rw [Directive.isTerminator, hname]
  cases k with
  | exp => cases hasked
  | _ => rfl

/-- A directive that asks for a packet ends nothing, so it is dispatched by
emitting the packet. -/
theorem Asks.dispatch {asked : Except Failure Request} (e : Encoder σ) (h : s.Asks d asked) :
    s.dispatch e d = s.emit e d := by
  rw [Stream.dispatch, h.isTerminator, if_neg Bool.false_ne_true]

/-- What is asked for is read with the directive for a context. -/
theorem Asks.readRequest {asked : Except Failure Request} (h : s.Asks d asked) :
    s.readRequest d = inContext (d.context (d.name ++ ": parsing failed".toList)) asked := by
  obtain ⟨hname, hasked⟩ := h
  rw [Stream.readRequest, hname, Keyword.ofText?_text, Option.bind_some, hasked]

/-- Wrong operands are the end of a directive, and the encoder is not asked. -/
theorem dispatch_of_operands {e : Encoder σ} {f : Failure} (h : s.Asks d (.error f)) :
    s.dispatch e d = (.error (operandFailure d f), s) := by
  rw [h.dispatch, emit, h.readRequest]
  rfl

/-- A failure leaves labels and offset alone. -/
theorem unchanged_of_error {e : Encoder σ} {f : Failure} (h : (s.dispatch e d).1 = .error f) :
    (s.dispatch e d).2.labels = s.labels ∧ (s.dispatch e d).2.offset = s.offset := by
  have hstep := s.dispatch_step e d
  rw [h] at hstep
  generalize (s.dispatch e d).2 = after at hstep
  cases hstep with
  | failed => exact ⟨rfl, rfl⟩

section Scratch

variable {s : Stream Scratch} {r : Request} {packet : Octets}

/-- An answer with a status is the end of a directive. -/
theorem dispatch_of_issue {status : Status} (h : s.Asks d (.ok r))
    (hissue : ptIssue s.encoder r = (status.number, s.encoder)) :
    s.dispatch ptEncoder d = (.error (statusFailure d status), s) := by
  have hrequest : s.readRequest d = .ok r := h.readRequest
  have hasked : ptEncoder.issue s.encoder r = (status.number, s.encoder) := hissue
  have hjudge : judge d status.number (ptEncoder.buffer s.encoder) =
      .error (statusFailure d status) := by
    rw [judge, if_pos status.number_neg, statusText_number]
    rfl
  rw [h.dispatch, emit, hrequest]
  simp only [hasked, hjudge]

/-- Without a layout the encoder refuses, and its buffer is left alone. -/
theorem dispatch_of_status {status : Status} (h : s.Asks d (.ok r))
    (hlayout : r.layout = .error status) :
    s.dispatch ptEncoder d = (.error (statusFailure d status), s) := by
  apply dispatch_of_issue h
  simp only [ptIssue, hlayout]

/-- So does it where the buffer is too small for the packet. -/
theorem dispatch_of_small (h : s.Asks d (.ok r)) (hlayout : r.layout = .ok packet)
    (hsmall : s.encoder.size < packet.length) :
    s.dispatch ptEncoder d = (.error (statusFailure d .noSpace), s) := by
  apply dispatch_of_issue h
  simp only [ptIssue, hlayout, dif_neg (Nat.not_le_of_lt hsmall)]

/-- A layout that the buffer holds makes a packet, and of the rest the label
decides. -/
theorem dispatch_of_layout (h : s.Asks d (.ok r)) (hlayout : r.layout = .ok packet)
    (hroom : packet.length ≤ s.encoder.size) :
    ∃ after, s.dispatch ptEncoder d =
      match s.labelled d with
      | .error f => (.error f, { s with encoder := after })
      | .ok labels =>
          (.ok (.packet s.offset d.name d.label packet),
            ⟨labels, s.offset + packet.length, after⟩) := by
  have hrequest : s.readRequest d = .ok r := h.readRequest
  obtain ⟨status, hstatus, -⟩ | ⟨made, after, hmade, -, hissue, hsize, hfront⟩ |
    ⟨made, hmade, hsmall, -⟩ := ptIssue_outcomes s.encoder r
  · rw [hlayout] at hstatus
    cases hstatus
  · obtain rfl := Except.ok.inj (hlayout.symm.trans hmade)
    have hasked : ptEncoder.issue s.encoder r = ((packet.length : Int), after) := hissue
    have hjudge : judge d packet.length (ptEncoder.buffer after) = .ok packet := by
      show judge d packet.length after = _
      rw [judge, if_neg (by omega), if_neg (by omega), Int.toNat_natCast, hfront]
    have hlabelled : ({ s with encoder := after } : Stream Scratch).labelled d = s.labelled d := rfl
    refine ⟨after, ?_⟩
    rw [h.dispatch, emit, hrequest]
    cases hlabel : s.labelled d with
    | error f => simp only [hasked, hjudge, hlabelled, hlabel]
    | ok labels => simp only [hasked, hjudge, hlabelled, hlabel]
  · obtain rfl := Except.ok.inj (hlayout.symm.trans hmade)
    omega

end Scratch
end TraceScript.Stream
