import Mathlib.Data.List.Forall2
import TraceScript.Packet.Encoder

/-!
# The room in a buffer

The packet encoder looks at its buffer for one thing only, whether a packet fits
in it; the operands are checked before that, and of what stood in the buffer
nothing is left in a packet.  How long a packet is depends on the kind of packet, and
on the compression of its address (`Request.size`).

So a request has one of three outcomes (`ptIssue_outcomes`): its operands are
refused, or its layout is put in front of the buffer, or there is no space for it.
The first two are the same in every larger buffer (`ptIssue_of_room`), and so are
the answers to a row of requests (`forall₂_answers`).
-/

namespace TraceScript

/-! ### The length of a packet -/

namespace Request

/-- How long the packet of a request is, where it has one. -/
def size : Request → Nat
  | psb => 16
  | pad | tnt8 _ _ => 1
  | psbend | ovf | modeExec _ | modeTsx _ => 2
  | cbr _ => 4
  | tnt64 _ _ | pip _ | tsc _ => 8
  | address _ _ compression => 1 + 2 * compression.toNat

variable {r : Request} {packet : Octets}

/-- The octets of a packet are as many as its request says: of the operands
only a compression code makes a difference. -/
theorem length_of_layout (h : r.layout = .ok packet) : packet.length = r.size := by
  cases r with
  | psb | psbend | pad | ovf => cases h; rfl
  | tnt8 bits size | modeExec mode | modeTsx state | cbr ratio =>
      simp only [layout] at h
      split at h
      · cases h
        rfl
      · cases h
  | tnt64 bits size =>
      simp only [layout] at h
      split at h
      · cases h
        rw [List.length_append, length_littleEndian]
        rfl
      · cases h
  | address kind ip compression =>
      simp only [layout, addressSize?] at h
      split at h
      · cases h
      · rename_i width hwidth
        split at hwidth
        · cases hwidth
          cases h
          rw [List.length_cons, length_lowOctets, size, Nat.add_comm]
        · cases hwidth
  | pip cr3 =>
      cases h
      rw [List.length_append, length_littleEndian]
      rfl
  | tsc count =>
      cases h
      rw [List.length_cons, length_lowOctets]
      rfl

theorem size_pos (r : Request) : 0 < r.size := by
  cases r with
  | address kind ip compression => exact Nat.add_pos_left Nat.one_pos _
  | _ => simp [size]

/-- No packet is longer than sixteen octets. -/
theorem size_le_of_layout (h : r.layout = .ok packet) : r.size ≤ 16 := by
  cases r with
  | address kind ip compression =>
      simp only [layout, addressSize?] at h
      split at h
      · cases h
      · rename_i width hwidth
        split at hwidth
        · simp only [size]
          omega
        · cases hwidth
  | _ => simp [size]

end Request

/-! ### The buffer -/

/-- The answers of an encoder to a row of requests, each with as many octets
as it counts from the front of the buffer. -/
def Encoder.answers {σ : Type} (e : Encoder σ) : σ → List Request → List (Int × Octets)
  | _, [] => []
  | s, r :: rest =>
      let (answer, after) := e.issue s r
      (answer, (e.buffer after).front answer.toNat) :: e.answers after rest

/-- A request is refused for its operands, or its layout is put in front of
the buffer, or there is no space for it. -/
theorem ptIssue_outcomes (b : Scratch) (r : Request) :
    (∃ s, r.layout = .error s ∧ ptIssue b r = (s.number, b)) ∨
    (∃ packet after, r.layout = .ok packet ∧ packet.length ≤ b.size ∧
      ptIssue b r = ((packet.length : Int), after) ∧ after.size = b.size ∧
      after.front packet.length = packet) ∨
    (∃ packet, r.layout = .ok packet ∧ b.size < packet.length ∧
      ptIssue b r = (Status.noSpace.number, b)) := by
  cases hlayout : r.layout with
  | error s => exact .inl ⟨s, rfl, by simp only [ptIssue, hlayout]⟩
  | ok packet =>
      by_cases hroom : packet.length ≤ b.size
      · have hissue : ptIssue b r = ((packet.length : Int), b.store packet hroom) := by
          simp only [ptIssue, hlayout, dif_pos hroom]
        have hfront : (b.store packet hroom).front packet.length = packet := by
          rw [Scratch.front_eq, Scratch.octets_store, List.take_left]
        exact .inr (.inl ⟨packet, _, rfl, hroom, hissue, rfl, hfront⟩)
      · have hissue : ptIssue b r = (Status.noSpace.number, b) := by
          simp only [ptIssue, hlayout, dif_neg hroom]
        exact .inr (.inr ⟨packet, rfl, Nat.lt_of_not_le hroom, hissue⟩)

/-- The packet encoder keeps the size of its buffer. -/
theorem size_ptIssue (b : Scratch) (r : Request) : (ptIssue b r).2.size = b.size := by
  obtain ⟨s, -, hissue⟩ | ⟨packet, after, -, -, hissue, hsize, -⟩ | ⟨packet, -, -, hissue⟩ :=
    ptIssue_outcomes b r
  · rw [hissue]
  · rw [hissue]
    exact hsize
  · rw [hissue]

/-- The packet encoder reports no more than its buffer holds. -/
theorem ptIssue_le (b : Scratch) (r : Request) : (ptIssue b r).1 ≤ (ptIssue b r).2.size := by
  rw [size_ptIssue]
  obtain ⟨s, -, hissue⟩ | ⟨packet, after, -, hroom, hissue, -⟩ | ⟨packet, -, -, hissue⟩ :=
    ptIssue_outcomes b r
  · rw [hissue]
    have := s.number_neg
    show s.number ≤ _
    omega
  · rw [hissue]
    exact Int.ofNat_le.mpr hroom
  · rw [hissue]
    have := Status.noSpace.number_neg
    show Status.noSpace.number ≤ _
    omega

/-- Only the refusal for want of space depends on the buffer: any other
answer, and the packet with it, is the same in every larger buffer, whatever
is in the two. -/
theorem ptIssue_of_room {b b' : Scratch} (hroom : b.size ≤ b'.size) (r : Request)
    (hspace : (ptIssue b r).1 ≠ Status.noSpace.number) :
    (ptIssue b' r).1 = (ptIssue b r).1 ∧
      (ptIssue b' r).2.front (ptIssue b r).1.toNat =
        (ptIssue b r).2.front (ptIssue b r).1.toNat := by
  obtain ⟨s, hlayout, hissue⟩ | ⟨packet, after, hlayout, hfits, hissue, -, hfront⟩ |
    ⟨packet, -, -, hissue⟩ := ptIssue_outcomes b r
  · have hissue' : ptIssue b' r = (s.number, b') := by simp only [ptIssue, hlayout]
    have hnone : s.number.toNat = 0 := Int.toNat_of_nonpos (Int.le_of_lt s.number_neg)
    rw [hissue, hissue']
    exact ⟨rfl, by simp only [hnone, Scratch.front_eq, List.take_zero]⟩
  · obtain ⟨s, hlayout', -⟩ | ⟨packet', after', hlayout', -, hissue', -, hfront'⟩ |
      ⟨packet', hlayout', hsmall, -⟩ := ptIssue_outcomes b' r
    · rw [hlayout] at hlayout'
      cases hlayout'
    · obtain rfl := Except.ok.inj (hlayout.symm.trans hlayout')
      rw [hissue, hissue']
      exact ⟨rfl, hfront'.trans hfront.symm⟩
    · obtain rfl := Except.ok.inj (hlayout.symm.trans hlayout')
      omega
  · rw [hissue] at hspace
    exact absurd rfl hspace

/-- Two encoders answer a row of requests alike, except where the smaller one
has no space. -/
theorem forall₂_answers {b b' : Scratch} (hroom : b.size ≤ b'.size) (requests : List Request) :
    List.Forall₂ (fun x y => x.1 ≠ Status.noSpace.number → y = x)
      (ptEncoder.answers b requests) (ptEncoder.answers b' requests) := by
  induction requests generalizing b b' with
  | nil => exact .nil
  | cons r rest ih =>
      have hrest : (ptIssue b r).2.size ≤ (ptIssue b' r).2.size := by
        rwa [size_ptIssue, size_ptIssue]
      refine .cons (fun hspace => ?_) (ih hrest)
      obtain ⟨hanswer, hfront⟩ := ptIssue_of_room hroom r hspace
      have hpacket : (ptIssue b' r).2.front (ptIssue b' r).1.toNat =
          (ptIssue b r).2.front (ptIssue b r).1.toNat := by rw [hanswer, hfront]
      exact Prod.ext hanswer hpacket

end TraceScript
