import TraceScript.Directive.Operand
import TraceScript.Notice
import TraceScript.Packet.Encoder

/-!
# The trace stream

A stream is the state in which directives are turned into packets: the
labels, the number of octets made so far, and an encoder.
`Stream.dispatch` handles one directive.  A packet directive is read, handed
to the encoder, and answered with its octets; its label then names the offset
of the packet's first octet, which is the length of the stream before it.
The terminator makes no packet; it names the end of the stream `eos`.

A directive that fails leaves offset and labels as they were.  The encoder
has been asked in that case, too, unless the operands were at fault.
-/

namespace TraceScript

/-- The label of the end of a stream. -/
def endLabel : Text := "eos".toList

/-- The state of a trace stream. -/
structure Stream (σ : Type) where
  labels : Labels
  offset : Nat
  encoder : σ

/-- What a directive adds to a stream. -/
inductive Emission
  | packet (offset : Nat) (directive : Text) (label : Option Text) (octets : Octets)
  | finished (offset : Nat)
  deriving DecidableEq, Repr

/-- The notices of an emission. -/
def Emission.notices : Emission → List Notice
  | packet offset directive label octets =>
      (label.toList.map fun name => .labelDefined name offset) ++
        [.packetEncoded offset directive octets]
  | finished offset => [.labelDefined endLabel offset, .streamEnded offset]

namespace Stream

variable {σ : Type}

/-- The stream before its first packet. -/
def start (labels : Labels) (encoder : σ) : Stream σ :=
  ⟨labels, 0, encoder⟩

/-- Names the end of the stream. -/
def finish (s : Stream σ) (d : Directive) : Except Failure Emission × Stream σ :=
  match inContext (d.context "append label".toList) (s.labels.define endLabel s.offset) with
  | .error f => (.error f, s)
  | .ok labels => (.ok (.finished s.offset), { s with labels := labels })

/-- Reads the operands of a packet directive. -/
def readRequest (s : Stream σ) (d : Directive) : Except Failure Request :=
  match (Keyword.ofText? d.name).bind (Operand.request? s.labels d.payload) with
  | none => .error (.internal (.noHandler d.name))
  | some r => inContext (d.context (d.name ++ ": parsing failed".toList)) r

/-- The labels with the one that a directive defines at this offset. -/
def labelled (s : Stream σ) (d : Directive) : Except Failure Labels :=
  match d.label with
  | none => .ok s.labels
  | some name => inContext (d.context []) (s.labels.define name s.offset)

/-- Judges an encoder's answer: a packet of the size that it reports. -/
def judge (d : Directive) (answer : Int) (buffer : Scratch) : Except Failure Octets :=
  if answer < 0 then
    .error (.script (ScriptError.located (.encoder d.name answer (statusText answer))
      d.location d.sourceLine))
  else if answer > buffer.size then
    .error (.internal (.overlongPacket d.name answer buffer.size))
  else .ok (buffer.front answer.toNat)

/-- Handles a packet directive. -/
def emit (e : Encoder σ) (s : Stream σ) (d : Directive) : Except Failure Emission × Stream σ :=
  match s.readRequest d with
  | .error f => (.error f, s)
  | .ok r =>
      let (answer, encoder) := e.issue s.encoder r
      let asked := { s with encoder := encoder }
      match judge d answer (e.buffer encoder) with
      | .error f => (.error f, asked)
      | .ok octets =>
          match asked.labelled d with
          | .error f => (.error f, asked)
          | .ok labels =>
              (.ok (.packet s.offset d.name d.label octets),
                { asked with labels := labels, offset := s.offset + octets.length })

/-- Handles one directive. -/
def dispatch (e : Encoder σ) (s : Stream σ) (d : Directive) :
    Except Failure Emission × Stream σ :=
  if d.isTerminator then s.finish d else s.emit e d

end Stream
end TraceScript
