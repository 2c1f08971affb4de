import TraceScript.Proofs.Packet.Reader
import TraceScript.Proofs.Packet.Room

/-!
# Unique decodability of the trace stream

An encoder is asked for packets one after another, and the stream is the row
of the packets that it made.  `Encoder.sent` lists the requests that were
answered with a packet, each with its packet as the buffer showed it at that
moment; requests that were refused leave no trace.

Main result: `readAll?_sent`.  For a buffer of any size and content and any
row of requests, reading the stream gives back exactly the requests that were
answered, in order, each with what its packet keeps of the operands.
-/

namespace TraceScript

/-- The requests that an encoder answers with a packet, each with its packet. -/
def Encoder.sent {σ : Type} (e : Encoder σ) : σ → List Request → List (Request × Octets)
  | _, [] => []
  | s, r :: rest =>
      let (answer, after) := e.issue s r
      if answer < 0 then e.sent after rest
      else (r, (e.buffer after).front answer.toNat) :: e.sent after rest

/-- The stream of the packets that were sent. -/
def streamOf (sent : List (Request × Octets)) : Octets :=
  sent.flatMap (·.2)

/-- An accepted request puts its layout at the start of the buffer, and a
refused one leaves the buffer alone. -/
theorem ptIssue_cases (b : Scratch) (r : Request) :
    (∃ packet, r.layout = .ok packet ∧ (ptIssue b r).1 = (packet.length : Int) ∧
      (ptIssue b r).2.front packet.length = packet) ∨
    ((ptIssue b r).1 < 0 ∧ (ptIssue b r).2 = b) := by
  obtain ⟨s, -, hissue⟩ | ⟨packet, after, hlayout, -, hissue, -, hfront⟩ | ⟨packet, -, -, hissue⟩ :=
    ptIssue_outcomes b r
  · rw [hissue]
    exact .inr ⟨s.number_neg, rfl⟩
  · rw [hissue]
    exact .inl ⟨packet, hlayout, rfl, hfront⟩
  · rw [hissue]
    exact .inr ⟨Status.noSpace.number_neg, rfl⟩

/-- The first of a row of requests is sent as its layout, or not at all. -/
theorem sent_cons (b : Scratch) (r : Request) (rest : List Request) :
    (∃ packet after, r.layout = .ok packet ∧
      ptEncoder.sent b (r :: rest) = (r, packet) :: ptEncoder.sent after rest) ∨
    ptEncoder.sent b (r :: rest) = ptEncoder.sent b rest := by
  obtain ⟨packet, hlayout, hcount, hfront⟩ | ⟨hneg, hsame⟩ := ptIssue_cases b r
  · left
    refine ⟨packet, (ptIssue b r).2, hlayout, ?_⟩
    have hsent : ¬ (ptIssue b r).1 < 0 := by omega
    have htoNat : (ptIssue b r).1.toNat = packet.length := by omega
    simp [Encoder.sent, ptEncoder, hsent, htoNat, hfront]
  · right
    simp [Encoder.sent, ptEncoder, hneg, hsame]

/-- What was sent reads back, request by request. -/
theorem readAll?_streamOf (b : Scratch) (rs : List Request) :
    Packet.readAll? (streamOf (ptEncoder.sent b rs)) =
      some ((ptEncoder.sent b rs).map fun call => call.1.kept) := by
  induction rs generalizing b with
  | nil => simp [Encoder.sent, streamOf, Packet.readAll?]
  | cons r rest ih =>
      obtain ⟨packet, after, hlayout, hsent⟩ | hsent := sent_cons b r rest
      · have hstream : streamOf ((r, packet) :: ptEncoder.sent after rest) =
            packet ++ streamOf (ptEncoder.sent after rest) := rfl
        rw [hsent, hstream, Packet.readAll?_layout _ hlayout, ih after]
        rfl
      · rw [hsent]
        exact ih b

/-- No packet is the beginning of another one. -/
theorem eq_of_prefix {r s : Request} {p q : Octets} (hr : r.layout = .ok p)
    (hs : s.layout = .ok q) (h : p <+: q) : p = q ∧ r.kept = s.kept := by
  obtain ⟨rest, rfl⟩ := h
  have hfirst := Packet.read?_layout rest hr
  have hwhole := Packet.read?_layout [] hs
  rw [List.append_nil, hfirst] at hwhole
  have hboth := Option.some.inj hwhole
  have hrest : rest = [] := congrArg Prod.snd hboth
  exact ⟨by rw [hrest, List.append_nil], congrArg Prod.fst hboth⟩

/-- A short pattern is one octet, with the stop bit in it. -/
theorem stopped_of_tnt8 {bits size : Int} {p : Octets}
    (h : (Request.tnt8 bits size).layout = .ok p) :
    ofLittleEndian p = 2 * stopped bits size.toNat := by
  simp only [Request.layout] at h
  split at h
  · rename_i hsize
    cases h
    have hmax : size.toNat ≤ maxShortPattern := by omega
    simpa [ofLittleEndian] using Packet.toNat_shortPattern bits hmax
  · cases h

/-- A long pattern is six octets behind its opcode, with the stop bit in
them. -/
theorem stopped_of_tnt64 {bits size : Int} {p : Octets}
    (h : (Request.tnt64 bits size).layout = .ok p) :
    ofLittleEndian (p.drop 2) = stopped bits size.toNat := by
  simp only [Request.layout] at h
  split at h
  · rename_i hsize
    cases h
    exact Packet.ofLittleEndian_longPattern bits (by omega)
  · cases h

/-- **Unique decodability.**  One reader takes every stream apart: whatever
the size and the earlier content of the buffer and whatever was asked for, it
finds the requests that were answered, in order, with what their packets keep
of the operands.  In particular no packet is the beginning of another one, and
the stop bit of a pattern is always within its packet. -/
theorem readAll?_sent :
    (∀ (b : Scratch) (rs : List Request),
      Packet.readAll? (streamOf (ptEncoder.sent b rs)) =
        some ((ptEncoder.sent b rs).map fun call => call.1.kept)) ∧
    (∀ (r s : Request) (p q : Octets), r.layout = .ok p → s.layout = .ok q → p <+: q →
      p = q ∧ r.kept = s.kept) ∧
    (∀ (bits size : Int) (p : Octets), (Request.tnt8 bits size).layout = .ok p →
      ofLittleEndian p = 2 * stopped bits size.toNat) ∧
    (∀ (bits size : Int) (p : Octets), (Request.tnt64 bits size).layout = .ok p →
      ofLittleEndian (p.drop 2) = stopped bits size.toNat) :=
  ⟨readAll?_streamOf, fun _ _ _ _ hr hs h => eq_of_prefix hr hs h,
    fun _ _ _ h => stopped_of_tnt8 h, fun _ _ _ h => stopped_of_tnt64 h⟩

/-- A buffer of eight octets refuses a synchronisation packet and a mode that
is none; the other requests read back.  Patterns that agree below the stop bit
are one packet. -/
theorem readAll?_sent_small_buffer :
    Packet.readAll? (streamOf (ptEncoder.sent (Scratch.zeros 8)
        [.psb, .tnt8 (-1) 3, .modeExec 7, .address .fup (-5) 1, .tnt64 (-2) 47, .pip (-1)])) =
      some [.shortPattern 3 7, .address .fup 1 0xFFFB, .longPattern 47 (2 ^ 47 - 2),
        .pip (2 ^ 47 - 1)] ∧
    (Request.tnt8 9 3).layout = .ok [18] ∧ (Request.tnt8 1 3).layout = .ok [18] ∧
    (Request.tnt8 9 3).kept = (Request.tnt8 1 3).kept ∧
    ofLittleEndian [18] = 2 * stopped 9 3 ∧
    (Request.tnt64 1 2).layout = .ok [0x02, 0xA3, 5, 0, 0, 0, 0, 0] ∧
    ofLittleEndian [5, 0, 0, 0, 0, 0] = stopped 1 2 :=
  have hshort : (Request.tnt8 9 3).layout = .ok [18] := rfl
  have hsame : (Request.tnt8 1 3).layout = .ok [18] := rfl
  have hlong : (Request.tnt64 1 2).layout = .ok [0x02, 0xA3, 5, 0, 0, 0, 0, 0] := rfl
  ⟨(readAll?_sent.1 _ _).trans (by decide), hshort, hsame,
    (readAll?_sent.2.1 _ _ _ _ hshort hsame (List.prefix_refl _)).2,
    readAll?_sent.2.2.1 9 3 _ hshort, hlong, readAll?_sent.2.2.2 1 2 _ hlong⟩

end TraceScript
