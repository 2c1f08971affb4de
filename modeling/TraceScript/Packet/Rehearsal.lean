import TraceScript.Packet.Encoder

/-!
# A rehearsal encoder

An encoder for trying out scripts without real packets.  It notes every
request.  A kind of packet may be given a fixed answer, a count or a status,
and then nothing else happens; any other request is answered with the size
that its kind usually has, and as much of that as fits is filled with the
kind's number.
-/

namespace TraceScript

/-- The state of a rehearsal. -/
structure Rehearsal where
  buffer : Scratch
  answers : List (PacketKind × Int)
  requests : List Request

namespace Rehearsal

/-- The size that is reported for a kind of packet. -/
def usualSize : PacketKind → Nat
  | .psb => 16
  | .psbend => 2
  | .pad => 1
  | .ovf => 2
  | .tnt8 => 1
  | .tnt64 => 8
  | .address _ => 7
  | .modeExec => 2
  | .modeTsx => 2
  | .pip => 8
  | .tsc => 8
  | .cbr => 4

/-- The number that fills a packet of this kind. -/
def marker (k : PacketKind) : UInt8 :=
  UInt8.ofNat (PacketKind.all.idxOf k + 1)

/-- A rehearsal with a buffer of this size and these fixed answers. -/
def start (size : Int) (answers : List (PacketKind × Int)) : Except Failure Rehearsal :=
  (freshBuffer size).map fun buffer => ⟨buffer, answers, []⟩

/-- Answers a request. -/
def issue (s : Rehearsal) (r : Request) : Int × Rehearsal :=
  let noted := { s with requests := s.requests ++ [r] }
  match s.answers.lookup r.kind with
  | some answer => (answer, noted)
  | none =>
      let size := usualSize r.kind
      let fill := List.replicate (min size s.buffer.size) (marker r.kind)
      have fits : fill.length ≤ s.buffer.size := by
        rw [List.length_replicate]
        exact Nat.min_le_right _ _
      (size, { noted with buffer := s.buffer.store fill fits })

/-- The rehearsal as an encoder. -/
def encoder : Encoder Rehearsal where
  issue := issue
  buffer := Rehearsal.buffer

end Rehearsal
end TraceScript
