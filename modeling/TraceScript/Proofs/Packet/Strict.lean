import TraceScript.Proofs.Packet.Reader
import TraceScript.Proofs.Packet.Room

/-!
# Packets made of numbers

A packet is put together from the numbers of its parts: single octets, and fields of several
octets.  A number may be too large for its part, or less than zero, and then there are no
octets for it (`Part.Fits`).

A strict encoder asks for that with every number that it stores.  It writes a packet over the
front of a buffer without a size of its own, which would grow under a longer packet.  All the
same it answers every request, whatever the operands and whatever was asked for before, and
its answers and its buffer are those of the packet encoder (`strictRun_eq`): a number is
masked, or within its range, before it comes to be stored.
-/

namespace TraceScript

/-! ### Parts -/

/-- Only as much of a number is stored as its octets can tell. -/
theorem littleEndian_mod (size n : Nat) :
    littleEndian size (n % octetRange size) = littleEndian size n := by
  induction size generalizing n with
  | zero => rfl
  | succ size ih =>
      calc littleEndian (size + 1) (n % octetRange (size + 1))
          = UInt8.ofNat (n % 256) :: littleEndian size (n / 256 % octetRange size) := by
            rw [octetRange_succ, littleEndian, Nat.mod_mul_right_mod, Nat.mod_mul_right_div_self]
        _ = littleEndian (size + 1) n := by rw [ih, littleEndian]

/-- A part of a packet: the number that stands in an octet, or in a field of
some octets. -/
inductive Part
  | octet (v : Int)
  | field (size : Nat) (v : Int)

namespace Part

/-- There are octets for the number. -/
def Fits : Part → Prop
  | octet v => 0 ≤ v ∧ v < 256
  | field size v => 0 ≤ v ∧ v < octetRange size

instance (p : Part) : Decidable p.Fits :=
  match p with
  | octet _ => inferInstanceAs (Decidable (_ ∧ _))
  | field _ _ => inferInstanceAs (Decidable (_ ∧ _))

/-- The octets of the number, the lowest first. -/
def octets : Part → Octets
  | octet v => [UInt8.ofNat v.toNat]
  | field size v => littleEndian size v.toNat

/-- The field of the low octets of an integer. -/
def low (size : Nat) (v : Int) : Part :=
  field size (v % (octetRange size : Int))

/-- The low octets of an integer fit their field, whatever its size and sign. -/
theorem fits_low (size : Nat) (v : Int) : (low size v).Fits := by
  have hpos : (0 : Int) < octetRange size := by exact_mod_cast Nat.pow_pos (by decide)
  exact ⟨Int.emod_nonneg v (Int.ne_of_gt hpos), Int.emod_lt_of_pos v hpos⟩

/-- A natural number below the range of an octet fits it. -/
theorem fits_octet_natCast {n : Nat} (h : n < 256) : (octet n).Fits :=
  ⟨Int.natCast_nonneg n, by exact_mod_cast h⟩

/-- Neither what is too large has octets, nor what is less than zero. -/
example : ¬ (octet 256).Fits ∧ ¬ (field 2 (-1)).Fits ∧ (low 2 (-1)).Fits := by decide

/-- A natural number keeps its low octets. -/
theorem octets_low_natCast (size n : Nat) : (low size n).octets = littleEndian size n := by
  have hlow : ((n : Int) % (octetRange size : Int)).toNat = n % octetRange size := by
    rw [← Int.natCast_emod, Int.toNat_natCast]
  calc (low size n).octets
      = littleEndian size (n % octetRange size) := by rw [low, octets, hlow]
    _ = littleEndian size n := littleEndian_mod size n

end Part

/-- The parts of a packet, or the status that refuses its operands. -/
def Request.parts : Request → Except Status (List Part)
  | psb => .ok (List.replicate 8 [.octet 0x02, .octet 0x82]).flatten
  | psbend => .ok [.octet 0x02, .octet 0x23]
  | pad => .ok [.octet 0x00]
  | ovf => .ok [.octet 0x02, .octet 0xF3]
  | tnt8 bits size =>
      if 0 < size ∧ size ≤ maxShortPattern then
        .ok [.octet (2 * stopped bits size.toNat : Nat)]
      else .error .invalid
  | tnt64 bits size =>
      if 0 < size ∧ size ≤ maxLongPattern then
        .ok [.octet 0x02, .octet 0xA3, .low 6 (stopped bits size.toNat)]
      else .error .invalid
  | address kind ip compression =>
      match addressSize? compression with
      | none => .error .badIpCompression
      | some size => .ok [.octet (32 * compression + kind.opcode), .low size ip]
  | modeExec mode =>
      if 0 ≤ mode ∧ mode ≤ 2 then .ok [.octet 0x99, .octet mode] else .error .invalid
  | modeTsx state =>
      if 0 ≤ state ∧ state ≤ 2 then .ok [.octet 0x99, .octet (0x20 + state)]
      else .error .invalid
  | pip cr3 => .ok [.octet 0x02, .octet 0x43, .low 6 (2 * (toWord cr3 / 32) : Nat)]
  | tsc count => .ok [.octet 0x19, .low 7 count]
  | cbr ratio =>
      if 0 ≤ ratio ∧ ratio ≤ 255 then
        .ok [.octet 0x02, .octet 0x03, .octet ratio, .octet 0x00]
      else .error .invalid

namespace Request

/-- A compression code has a size just if it is one of the four, else the
operands are refused. -/
theorem addressSize?_cases (compression : Int) :
    addressSize? compression = none ∨
    ∃ size, (0 ≤ compression ∧ compression ≤ 3) ∧ addressSize? compression = some size := by
  by_cases h : 0 ≤ compression ∧ compression ≤ 3
  · exact .inr ⟨_, h, if_pos h⟩
  · exact .inl (if_neg h)

/-- The layout of a packet is the octets of its parts.  The guards of the two
are the same, request by request. -/
theorem layout_eq (r : Request) :
    r.layout = r.parts.map fun parts => parts.flatMap Part.octets := by
  -- kind by kind: the layout checks its operands exactly where the parts do
  cases r with
  | psb | psbend | pad | ovf => rfl
  | tnt8 bits size =>
      simp only [layout, parts]
      split <;> rfl
  | tnt64 bits size =>
      simp only [layout, parts]
      split
      · simp only [Except.map, List.flatMap_cons, Part.octets_low_natCast]
        simp [Part.octets]
      · rfl
  | address kind ip compression =>
      obtain hnone | ⟨size, hrange, hsome⟩ := addressSize?_cases compression
      · simp only [layout, parts, hnone]
        rfl
      · have hheader : (32 * compression + (kind.opcode : Int)).toNat =
            32 * compression.toNat + kind.opcode := by omega
        simp only [layout, parts, hsome]
        simp [Except.map, Part.octets, Part.low, lowOctets, hheader]
  | modeExec mode =>
      simp only [layout, parts]
      split <;> rfl
  | modeTsx state =>
      simp only [layout, parts]
      split
      · have hstate : (0x20 + state).toNat = 0x20 + state.toNat := by omega
        simp [Except.map, Part.octets, hstate]
      · rfl
  | pip cr3 =>
      simp only [layout, parts, Except.map, List.flatMap_cons, Part.octets_low_natCast]
      simp [Part.octets]
  | tsc count => simp [layout, parts, Except.map, Part.octets, Part.low, lowOctets]
  | cbr ratio =>
      simp only [layout, parts]
      split <;> rfl

/-- What comes out of a guard is what stands behind it. -/
theorem of_guard {ε α : Type} {c : Prop} [Decidable c] {a b : α} {e : ε}
    (h : (if c then Except.ok a else .error e) = .ok b) : c ∧ a = b := by
  by_cases hc : c
  · rw [if_pos hc] at h
    exact ⟨hc, Except.ok.inj h⟩
  · rw [if_neg hc] at h
    cases h

/-- Whatever the operands, the numbers of a packet's parts have octets.  The
guards on the operands keep the single octets in range, and the fields are cut
to their size. -/
theorem fits_of_parts {r : Request} {parts : List Part} (h : r.parts = .ok parts) :
    ∀ p ∈ parts, p.Fits := by
  cases r with
  | psb | psbend | pad | ovf =>
      cases h
      decide
  | tnt8 bits size =>
      obtain ⟨hsize, rfl⟩ := of_guard h
      -- six bits, the stop bit above them, and a zero below
      have hlt : stopped bits size.toNat < 2 ^ 7 := by
        apply Packet.stopped_lt
        have hmax : size ≤ 6 := hsize.2
        omega
      rw [List.forall_mem_singleton]
      exact Part.fits_octet_natCast (by omega)
  | tnt64 bits size =>
      obtain ⟨-, rfl⟩ := of_guard h
      simp only [List.forall_mem_cons]
      exact ⟨by decide, by decide, Part.fits_low 6 _, nofun⟩
  | address kind ip compression =>
      obtain hnone | ⟨size, hrange, hsome⟩ := addressSize?_cases compression
      · simp only [Request.parts, hnone] at h
        cases h
      · simp only [Request.parts, hsome] at h
        cases h
        obtain ⟨-, hfive, -⟩ := Packet.opcode_facts kind
        simp only [List.forall_mem_cons]
        exact ⟨⟨by omega, by omega⟩, Part.fits_low size ip, nofun⟩
  | modeExec mode | modeTsx mode =>
      obtain ⟨hrange, rfl⟩ := of_guard h
      simp only [List.forall_mem_cons]
      exact ⟨by decide, ⟨by omega, by omega⟩, nofun⟩
  | pip cr3 =>
      cases h
      simp only [List.forall_mem_cons]
      exact ⟨by decide, by decide, Part.fits_low 6 _, nofun⟩
  | tsc count =>
      cases h
      simp only [List.forall_mem_cons]
      exact ⟨by decide, Part.fits_low 7 count, nofun⟩
  | cbr ratio =>
      obtain ⟨hrange, rfl⟩ := of_guard h
      simp only [List.forall_mem_cons]
      exact ⟨by decide, by decide, ⟨by omega, by omega⟩, by decide, nofun⟩

end Request

/-! ### The strict encoder -/

/-- The answer to a request and the buffer behind it.  There is none where a
number has no octets. -/
def strictIssue (buffer : Octets) (r : Request) : Option (Int × Octets) :=
  match r.parts with
  | .error status => some (status.number, buffer)
  | .ok parts =>
      let packet := parts.flatMap Part.octets
      if ∀ p ∈ parts, p.Fits then
        if buffer.length < packet.length then some (Status.noSpace.number, buffer)
        else some (packet.length, packet ++ buffer.drop packet.length)
      else none

/-- The buffer behind a row of requests. -/
def strictRun : Octets → List Request → Option Octets
  | buffer, [] => some buffer
  | buffer, r :: rest =>
      match strictIssue buffer r with
      | none => none
      | some (_, after) => strictRun after rest

/-- The buffer of the packet encoder behind a row of requests. -/
def issueAll (b : Scratch) (requests : List Request) : Scratch :=
  requests.foldl (fun b r => (ptIssue b r).2) b

/-- A strict encoder has the answer and the buffer of the packet encoder.  Its
only further check is that every part fits, and all of them do. -/
theorem strictIssue_eq (b : Scratch) (r : Request) :
    strictIssue b.octets r = some ((ptIssue b r).1, (ptIssue b r).2.octets) := by
  have hlayout := r.layout_eq
  cases hparts : r.parts with
  | error status =>
      rw [hparts] at hlayout
      have hrefused : r.layout = .error status := hlayout
      simp only [strictIssue, hparts, ptIssue, hrefused]
  | ok parts =>
      rw [hparts] at hlayout
      have hlaid : r.layout = .ok (parts.flatMap Part.octets) := hlayout
      have hfits := Request.fits_of_parts hparts
      simp only [strictIssue, hparts, if_pos hfits, ptIssue, hlaid, Scratch.length_octets]
      by_cases hroom : (parts.flatMap Part.octets).length ≤ b.size
      · rw [if_neg (Nat.not_lt.mpr hroom), dif_pos hroom, Scratch.octets_store]
      · rw [if_pos (Nat.lt_of_not_le hroom), dif_neg hroom]

/-- So it has the buffer of the packet encoder behind every row of requests. -/
theorem strictRun_eq (b : Scratch) (requests : List Request) :
    strictRun b.octets requests = some (issueAll b requests).octets := by
  induction requests generalizing b with
  | nil => rfl
  | cons r rest ih =>
      simp only [strictRun, strictIssue_eq]
      exact ih (ptIssue b r).2

/-- No row of requests changes the size of the buffer. -/
theorem size_issueAll (b : Scratch) (requests : List Request) :
    (issueAll b requests).size = b.size := by
  induction requests generalizing b with
  | nil => rfl
  | cons r rest ih =>
      calc (issueAll b (r :: rest)).size
          = (ptIssue b r).2.size := ih (ptIssue b r).2
        _ = b.size := size_ptIssue b r

/-- An answer counts octets that were put over the front of the buffer, at
least one and no more than it holds, or it is a status and the buffer is left
alone. -/
theorem ptIssue_octets (b : Scratch) (r : Request) :
    let n := (ptIssue b r).1
    let after := (ptIssue b r).2.octets
    ((1 ≤ n ∧ n ≤ b.size) ∧ after.drop n.toNat = b.octets.drop n.toNat) ∨
    (n < 0 ∧ after = b.octets) := by
  cases hlayout : r.layout with
  | error status =>
      simp only [ptIssue, hlayout]
      exact .inr ⟨status.number_neg, trivial⟩
  | ok packet =>
      by_cases hroom : packet.length ≤ b.size
      · have hpos : 0 < packet.length := Request.length_of_layout hlayout ▸ r.size_pos
        simp only [ptIssue, hlayout, dif_pos hroom, Scratch.octets_store, Int.toNat_natCast,
          List.drop_left]
        exact .inl ⟨⟨by omega, by omega⟩, trivial⟩
      · simp only [ptIssue, hlayout, dif_neg hroom]
        exact .inr ⟨Status.noSpace.number_neg, trivial⟩

/-- **Requests stay within the buffer.**  Whatever the size of the buffer,
whatever was asked for before and whatever the operands are, every number that
comes to be stored fits its part: a strict encoder has an answer, which is
that of the packet encoder.  The answer is the number of octets at the front
of the buffer that the request has written, at least one and no more than
there are, the others being what they were; or it is a status, and no octet is
changed. The buffer keeps its length. -/
theorem strict_answer (size : Nat) (history : List Request) (r : Request) :
    let b := issueAll (Scratch.zeros size) history
    let n := (ptIssue b r).1
    let after := (ptIssue b r).2.octets
    strictRun (List.replicate size 0) history = some b.octets ∧
    strictIssue b.octets r = some (n, after) ∧
    b.octets.length = size ∧ after.length = size ∧
    (((1 ≤ n ∧ n ≤ size) ∧ after.drop n.toNat = b.octets.drop n.toNat) ∨
      (n < 0 ∧ after = b.octets)) := by
  intro b n after
  have hsize : b.size = size := size_issueAll (Scratch.zeros size) history
  have hbefore : b.octets.length = size := b.length_octets.trans hsize
  have hafter : after.length = size :=
    calc after.length
        = (ptIssue b r).2.size := Scratch.length_octets _
      _ = b.size := size_ptIssue b r
      _ = size := hsize
  have houtcome := ptIssue_octets b r
  rw [hsize] at houtcome
  exact ⟨strictRun_eq (Scratch.zeros size) history, strictIssue_eq b r, hbefore, hafter, houtcome⟩

end TraceScript
