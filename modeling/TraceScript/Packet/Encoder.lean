import TraceScript.Packet.Layout

/-!
# Encoders

An encoder is a machine with a scratch buffer: a request puts a packet at the
start of the buffer and is answered with the packet's size, or leaves the
buffer alone and is answered with a negative status.  The rest of the library
takes any encoder; `ptEncoder` is the one that follows the packet layout.

The buffer has a fixed size and starts as zeros.  Only the part that some
packet has reached is stored; `Scratch.octets` is the view of the whole.

Main facts: a stored packet is found at the start of the buffer and the rest
keeps its content (`octets_store`), and the size never changes
(`length_octets`).
-/

namespace TraceScript

/-- A buffer of fixed size of which only a first part was ever written. -/
structure Scratch where
  size : Nat
  written : Octets
  written_le : written.length ≤ size

namespace Scratch

/-- A buffer of zeros. -/
def zeros (size : Nat) : Scratch := ⟨size, [], Nat.zero_le _⟩

/-- The whole content. -/
def octets (b : Scratch) : Octets :=
  b.written ++ List.replicate (b.size - b.written.length) 0

/-- The first `n` octets. -/
def front (b : Scratch) (n : Nat) : Octets :=
  b.written.take n ++ List.replicate (min n b.size - b.written.length) 0

/-- The buffer with a packet at its start. -/
def store (b : Scratch) (packet : Octets) (h : packet.length ≤ b.size) : Scratch where
  size := b.size
  written := packet ++ b.written.drop packet.length
  written_le := by
    have := b.written_le
    simp only [List.length_append, List.length_drop]
    omega

/-- A buffer has as many octets as its size says. -/
theorem length_octets (b : Scratch) : b.octets.length = b.size := by
  have := b.written_le
  simp only [octets, List.length_append, List.length_replicate]
  omega

/-- The first octets are those of the view. -/
theorem front_eq (b : Scratch) (n : Nat) : b.front n = b.octets.take n := by
  have := b.written_le
  rw [front, octets, List.take_append, List.take_replicate]
  congr 2
  omega

/-- A packet takes the place of the first octets and of no other. -/
theorem octets_store (b : Scratch) (packet : Octets) (h : packet.length ≤ b.size) :
    (b.store packet h).octets = packet ++ b.octets.drop packet.length := by
  have := b.written_le
  simp only [octets, store, List.length_append, List.length_drop, List.append_assoc,
    List.drop_append, List.drop_replicate]
  congr 3
  omega

end Scratch

/-- A machine that turns requests into packets. -/
structure Encoder (σ : Type) where
  issue : σ → Request → Int × σ
  buffer : σ → Scratch

/-- Answers a request by the packet layout. -/
def ptIssue (b : Scratch) (r : Request) : Int × Scratch :=
  match r.layout with
  | .error s => (s.number, b)
  | .ok packet =>
      if h : packet.length ≤ b.size then (packet.length, b.store packet h)
      else (Status.noSpace.number, b)

/-- The encoder that follows the packet layout. -/
def ptEncoder : Encoder Scratch where
  issue := ptIssue
  buffer := id

/-- A size that a caller may ask for. -/
def checkBufferSize (size : Int) : Except Failure Nat :=
  if size ≤ 0 then .error (.value (.badBufferSize size)) else .ok size.toNat

/-- A fresh buffer where there are `memory` octets for it.  Its size has to be
a signed word, and only then is it asked whether it is negative and whether
there is room. -/
def Scratch.allocate (memory : Nat) (size : Int) : Except Failure Scratch :=
  if size < -0x8000000000000000 ∨ 0x8000000000000000 ≤ size then .error .overflow
  else if size < 0 then .error (.value .negativeCount)
  else if (memory : Int) < size then .error (.value .outOfMemory)
  else .ok (Scratch.zeros size.toNat)

/-- A fresh buffer where nothing but the addresses is short. -/
def freshBuffer (size : Int) : Except Failure Scratch :=
  Scratch.allocate addressableOctets size

/-- The buffer size that is taken where none is asked for. -/
def defaultBufferSize : Nat := 64

end TraceScript
