import Mathlib
import TraceScript.Packet.Layout

/-!
# Reading packets back

A trace stream is a row of packets without separators.  `Packet.read?` tells
from the first octets which packet stands at the start of a stream and takes
as many octets as that packet has; `Packet.readAll?` does so up to the end.

The first octet decides: zero is padding, `0x02` opens the extended packets,
which the second octet tells apart, `0x99` opens a mode and `0x19` a time
stamp; any other even octet is a short pattern, and any other odd one the
header of an address packet.

`Request.kept` is what a packet keeps of the operands of its request.

Main facts: the packet of a request reads back as what it keeps, whatever
follows it (`read?_layout`), and no octet of a pattern's stop bit is lost
(`stopPlace_stopped`, `toNat_shortPattern`, `ofLittleEndian_longPattern`).
-/

namespace TraceScript

/-- A packet as it stands in a stream, with what it holds of its operands. -/
inductive Packet
  | psb
  | psbend
  | pad
  | ovf
  | shortPattern (size bits : Nat)
  | longPattern (size bits : Nat)
  | address (kind : AddressKind) (compression ip : Nat)
  | modeExec (mode : Nat)
  | modeTsx (state : Nat)
  | pip (root : Nat)
  | tsc (count : Nat)
  | cbr (ratio : Nat)
  deriving DecidableEq, Repr

/-- What a packet keeps of the operands of its request: the low bits that the
packet has room for. -/
def Request.kept : Request → Packet
  | psb => .psb
  | psbend => .psbend
  | pad => .pad
  | ovf => .ovf
  | tnt8 bits size => .shortPattern size.toNat (bits % 2 ^ size.toNat).toNat
  | tnt64 bits size => .longPattern size.toNat (bits % 2 ^ size.toNat).toNat
  | address kind ip compression =>
      let octets := (addressSize? compression).getD 0
      .address kind compression.toNat (ip % 2 ^ (8 * octets)).toNat
  | modeExec mode => .modeExec mode.toNat
  | modeTsx state => .modeTsx state.toNat
  | pip cr3 => .pip (((cr3 % 2 ^ 64).toNat >>> 5) % 2 ^ 47)
  | tsc count => .tsc (count % 2 ^ 56).toNat
  | cbr ratio => .cbr ratio.toNat

/-- The kind of address packet with this opcode. -/
def AddressKind.ofOpcode? (opcode : Nat) : Option AddressKind :=
  [tip, tipPge, tipPgd, fup].find? fun kind => kind.opcode == opcode

namespace Packet

/-- The place of the stop bit, which is the highest bit of a field. -/
def stopPlace (field : Nat) : Nat := field.log2

/-- The bits below the stop bit. -/
def belowStop (field : Nat) : Nat := field % bitRange (stopPlace field)

/-- A field of so many octets, and what follows it. -/
def field? (size : Nat) (t : Octets) : Option (Nat × Octets) :=
  if size ≤ t.length then some (ofLittleEndian (t.take size), t.drop size) else none

/-- A packet with one field of so many octets, if the field is one of its
kind, and what follows it. -/
def withField? (size : Nat) (make : Nat → Option Packet) (t : Octets) :
    Option (Packet × Octets) := do
  let (field, rest) ← field? size t
  let packet ← make field
  return (packet, rest)

/-- The long pattern in a field. -/
def ofLongPattern? (field : Nat) : Option Packet :=
  if field < 2 then none else some (longPattern (stopPlace field) (belowStop field))

/-- The paging root in a field, whose lowest bit is no part of it. -/
def ofPip? (field : Nat) : Option Packet :=
  if field % 2 = 0 then some (pip (field / 2)) else none

/-- The ratio in a field whose high octet is zero. -/
def ofCbr? (field : Nat) : Option Packet :=
  if field < 256 then some (cbr field) else none

/-- The mode in a field: execution modes first, then states of a transaction. -/
def ofMode? (field : Nat) : Option Packet :=
  if field ≤ 2 then some (modeExec field)
  else if 0x20 ≤ field ∧ field ≤ 0x22 then some (modeTsx (field - 0x20))
  else none

/-- The rest of a synchronisation packet behind its first two octets. -/
def psbTail : Octets := (List.replicate 7 [0x02, 0x82]).flatten

/-- The packet that opens with `0x02`, from its second octet on. -/
def readExtended? : Octets → Option (Packet × Octets)
  | [] => none
  | code :: rest =>
      if code = 0x82 then
        if psbTail.isPrefixOf rest then some (psb, rest.drop psbTail.length) else none
      else if code = 0x23 then some (psbend, rest)
      else if code = 0xF3 then some (ovf, rest)
      else if code = 0xA3 then withField? 6 ofLongPattern? rest
      else if code = 0x43 then withField? 6 ofPip? rest
      else if code = 0x03 then withField? 2 ofCbr? rest
      else none

/-- The address packet with this header, from its second octet on. -/
def readAddress? (header : Nat) (t : Octets) : Option (Packet × Octets) := do
  let kind ← AddressKind.ofOpcode? (header % 32)
  let size ← addressSize? (header / 32 : Nat)
  withField? size (fun ip => some (address kind (header / 32) ip)) t

/-- The packet at the start of a stream, and what follows it. -/
def read? : Octets → Option (Packet × Octets)
  | [] => none
  | first :: rest =>
      if first = 0x00 then some (pad, rest)
      else if first = 0x02 then readExtended? rest
      else if first = 0x99 then withField? 1 ofMode? rest
      else if first = 0x19 then withField? 7 (fun count => some (tsc count)) rest
      else if first.toNat % 2 = 0 then
        let field := first.toNat / 2
        some (shortPattern (stopPlace field) (belowStop field), rest)
      else readAddress? first.toNat rest

/-! ### Fields -/

/-- A field is taken from the front, whatever follows it. -/
theorem field?_append {size : Nat} {front : Octets} (rest : Octets) (h : front.length = size) :
    field? size (front ++ rest) = some (ofLittleEndian front, rest) := by
  subst h
  simp [field?]

/-- What follows a field is no longer than what the field was taken from. -/
theorem length_of_field? {size n : Nat} {t rest : Octets} (h : field? size t = some (n, rest)) :
    rest.length ≤ t.length := by
  unfold field? at h
  split at h
  · cases h
    simp
  · cases h

/-- A packet of one field reads back from the field's octets, whatever follows
them. -/
theorem withField?_append {size : Nat} (make : Nat → Option Packet) (front rest : Octets)
    {p : Packet} (h : front.length = size) (hmake : make (ofLittleEndian front) = some p) :
    withField? size make (front ++ rest) = some (p, rest) := by
  simp [withField?, field?_append rest h, hmake]

/-- What follows such a packet is no longer than what it was taken from. -/
theorem length_of_withField? {size : Nat} {make : Nat → Option Packet} {t rest : Octets}
    {p : Packet} (h : withField? size make t = some (p, rest)) : rest.length ≤ t.length := by
  obtain ⟨⟨n, after⟩, hfield, h⟩ := Option.bind_eq_some_iff.mp h
  obtain ⟨packet, -, h⟩ := Option.bind_eq_some_iff.mp h
  cases h
  exact length_of_field? hfield

/-- The numbers of so many octets, in bits. -/
theorem octetRange_eq (size : Nat) : octetRange size = 2 ^ (8 * size) := by
  rw [Nat.pow_mul]
  rfl

/-- An integer reads back cut to the octets that were written. -/
theorem ofLittleEndian_lowOctets (size : Nat) (v : Int) :
    ofLittleEndian (lowOctets size v) = (v % 2 ^ (8 * size)).toNat := by
  have hrange : ((octetRange size : Nat) : Int) = 2 ^ (8 * size) := by
    rw [octetRange_eq]
    norm_cast
  have hpos : (0 : Int) < 2 ^ (8 * size) := Int.pow_pos (by decide)
  have hlow := Int.emod_nonneg v (Int.ne_of_gt hpos)
  have hhigh := Int.emod_lt_of_pos v hpos
  rw [lowOctets, ofLittleEndian_littleEndian, hrange]
  apply Nat.mod_eq_of_lt
  omega

/-! ### Patterns below a stop bit -/

/-- A field of no bits still holds zero. -/
theorem bitRange_pos (size : Nat) : 0 < bitRange size :=
  Nat.two_pow_pos size

/-- The bits of a pattern leave the stop bit alone. -/
theorem patternBits_lt (bits : Int) (size : Nat) :
    (bits % (bitRange size : Int)).toNat < bitRange size := by
  have hpos : (0 : Int) < bitRange size := by exact_mod_cast bitRange_pos size
  have := Int.emod_nonneg bits (Int.ne_of_gt hpos)
  have := Int.emod_lt_of_pos bits hpos
  omega

/-- The stop bit stands right above the bits of the pattern, so its place is
their number. -/
theorem stopPlace_stopped (bits : Int) (size : Nat) : stopPlace (stopped bits size) = size := by
  have hbits := patternBits_lt bits size
  have hpos := bitRange_pos size
  have hsucc : 2 ^ (size + 1) = 2 * bitRange size := Nat.pow_succ'
  rw [stopPlace, Nat.log2_eq_iff (by unfold stopped; omega)]
  refine ⟨Nat.le_add_right _ _, ?_⟩
  rw [hsucc]
  unfold stopped
  omega

/-- Below the stop bit are the bits of the pattern, cut to their number. -/
theorem belowStop_stopped (bits : Int) (size : Nat) :
    belowStop (stopped bits size) = (bits % 2 ^ size).toNat := by
  have hrange : ((bitRange size : Nat) : Int) = 2 ^ size := by
    unfold bitRange
    norm_cast
  calc belowStop (stopped bits size)
      = stopped bits size % bitRange size := by rw [belowStop, stopPlace_stopped]
    _ = (bits % bitRange size).toNat % bitRange size := by rw [stopped, Nat.add_mod_left]
    _ = (bits % bitRange size).toNat := Nat.mod_eq_of_lt (patternBits_lt bits size)
    _ = (bits % 2 ^ size).toNat := by rw [hrange]

/-- The stop bit of a pattern is within any field that is longer. -/
theorem stopped_lt (bits : Int) {size room : Nat} (h : size < room) :
    stopped bits size < 2 ^ room := by
  have hbits := patternBits_lt bits size
  have hsucc : 2 ^ (size + 1) = 2 * bitRange size := Nat.pow_succ'
  have hroom : 2 ^ (size + 1) ≤ 2 ^ room := Nat.pow_le_pow_right (by decide) h
  unfold stopped
  omega

/-- A pattern of at least one bit has its stop bit above the lowest one. -/
theorem two_le_stopped (bits : Int) {size : Nat} (h : 0 < size) : 2 ≤ stopped bits size := by
  have : 2 ^ 1 ≤ 2 ^ size := Nat.pow_le_pow_right (by decide) h
  unfold stopped bitRange
  simp only [Nat.pow_eq]
  omega

/-! ### Reading a layout -/

/-- An even octet that opens nothing else is a short pattern.  Padding and the
start of an extended packet are the even octets below four. -/
theorem read?_of_even {first : UInt8} (rest : Octets) (heven : first.toNat % 2 = 0)
    (hfour : 4 ≤ first.toNat) :
    read? (first :: rest) =
      some (shortPattern (stopPlace (first.toNat / 2)) (belowStop (first.toNat / 2)), rest) := by
  have hpad : first ≠ 0x00 := by
    rintro rfl
    simp at hfour
  have hext : first ≠ 0x02 := by
    rintro rfl
    simp at hfour
  have hmode : first ≠ 0x99 := by
    rintro rfl
    simp at heven
  have htsc : first ≠ 0x19 := by
    rintro rfl
    simp at heven
  simp [read?, hpad, hext, hmode, htsc, heven]

/-- The opcode of an address packet tells its kind. -/
theorem ofOpcode?_opcode (kind : AddressKind) :
    AddressKind.ofOpcode? kind.opcode = some kind := by
  cases kind <;> decide

/-- The opcodes are odd, fit five bits, and leave time stamps and modes
alone. -/
theorem opcode_facts (kind : AddressKind) :
    kind.opcode % 2 = 1 ∧ kind.opcode < 32 ∧ kind.opcode ≠ 0x19 := by
  cases kind <;> decide

/-- A header with an opcode and a compression code opens an address packet.
The opcodes are odd and none is that of another packet, so the header is told
apart by its low bits. -/
theorem read?_of_header {first : UInt8} {kind : AddressKind} {code size : Nat}
    (payload rest : Octets) (hfirst : first.toNat = 32 * code + kind.opcode)
    (hsize : addressSize? (code : Nat) = some size) (hlen : payload.length = size) :
    read? (first :: (payload ++ rest)) =
      some (address kind code (ofLittleEndian payload), rest) := by
  obtain ⟨hodd, hfive, hother⟩ := opcode_facts kind
  have hlow : first.toNat % 32 = kind.opcode := by omega
  have hhigh : first.toNat / 32 = code := by omega
  have hne : ∀ n, n.toNat % 32 ≠ kind.opcode → first ≠ n := by
    rintro n hn rfl
    exact hn hlow
  have hpad : first ≠ 0x00 := hne _ (by simp; omega)
  have hext : first ≠ 0x02 := hne _ (by simp; omega)
  have hmode : first ≠ 0x99 := hne _ (by simp; omega)
  have htsc : first ≠ 0x19 := hne _ (by simp; omega)
  have hnoteven : first.toNat % 2 ≠ 0 := by omega
  simp [read?, readAddress?, hpad, hext, hmode, htsc, hnoteven, hlow, hhigh, hsize,
    ofOpcode?_opcode, withField?_append _ payload rest hlen]

/-- The octet of a short pattern holds all of it, the stop bit included. -/
theorem toNat_shortPattern (bits : Int) {size : Nat} (h : size ≤ maxShortPattern) :
    (UInt8.ofNat (2 * stopped bits size)).toNat = 2 * stopped bits size := by
  have hlt : stopped bits size < 2 ^ 7 := stopped_lt bits (Nat.lt_succ_of_le h)
  rw [UInt8.toNat_ofNat']
  apply Nat.mod_eq_of_lt
  omega

/-- The octets of a long pattern hold all of it, the stop bit included. -/
theorem ofLittleEndian_longPattern (bits : Int) {size : Nat} (h : size ≤ maxLongPattern) :
    ofLittleEndian (littleEndian 6 (stopped bits size)) = stopped bits size := by
  have hlt : stopped bits size < 2 ^ 48 := stopped_lt bits (Nat.lt_succ_of_le h)
  calc ofLittleEndian (littleEndian 6 (stopped bits size))
      = stopped bits size % 2 ^ (8 * 6) := by rw [ofLittleEndian_littleEndian, octetRange_eq]
    _ = stopped bits size := Nat.mod_eq_of_lt hlt

/-- A short pattern reads back from its octet. With a bit below the stop bit
the octet is even and neither padding nor the start of an extended packet. -/
theorem read?_shortPattern (bits : Int) {size : Nat} (rest : Octets) (hpos : 0 < size)
    (hmax : size ≤ maxShortPattern) :
    read? (UInt8.ofNat (2 * stopped bits size) :: rest) =
      some (shortPattern size (bits % 2 ^ size).toNat, rest) := by
  have hfirst := toNat_shortPattern bits hmax
  have htwo := two_le_stopped bits hpos
  have hhalf : 2 * stopped bits size / 2 = stopped bits size := by omega
  rw [read?_of_even rest (by omega) (by omega), hfirst, hhalf, stopPlace_stopped,
    belowStop_stopped]

/-- A long pattern reads back from the six octets behind its code. -/
theorem read?_longPattern (bits : Int) {size : Nat} (rest : Octets) (hpos : 0 < size)
    (hmax : size ≤ maxLongPattern) :
    read? ([0x02, 0xA3] ++ littleEndian 6 (stopped bits size) ++ rest) =
      some (longPattern size (bits % 2 ^ size).toNat, rest) := by
  have htwo := two_le_stopped bits hpos
  have hfield : ofLongPattern? (ofLittleEndian (littleEndian 6 (stopped bits size))) =
      some (longPattern size (bits % 2 ^ size).toNat) := by
    rw [ofLittleEndian_longPattern bits hmax, ofLongPattern?, if_neg (by omega),
      stopPlace_stopped, belowStop_stopped]
  exact withField?_append _ _ rest (length_littleEndian 6 _) hfield

/-- A paging root reads back from its field without the lowest bit. -/
theorem read?_pip (cr3 : Int) (rest : Octets) :
    read? ([0x02, 0x43] ++ littleEndian 6 (2 * (toWord cr3 / 32)) ++ rest) =
      some (pip (((cr3 % 2 ^ 64).toNat >>> 5) % 2 ^ 47), rest) := by
  have hfield : ofLittleEndian (littleEndian 6 (2 * (toWord cr3 / 32))) =
      2 * (toWord cr3 / 32 % 2 ^ 47) := by
    rw [ofLittleEndian_littleEndian, octetRange_eq]
    exact Nat.mul_mod_mul_left 2 _ (2 ^ 47)
  have hshift : (cr3 % 2 ^ 64).toNat >>> 5 = toWord cr3 / 32 := Nat.shiftRight_eq_div_pow _ _
  have hpip : ofPip? (ofLittleEndian (littleEndian 6 (2 * (toWord cr3 / 32)))) =
      some (pip (toWord cr3 / 32 % 2 ^ 47)) := by
    simp [hfield, ofPip?]
  rw [hshift]
  exact withField?_append _ _ rest (length_littleEndian 6 _) hpip

/-- An address packet reads back from its header and as many octets of the
address as its compression code asks for. -/
theorem read?_address (kind : AddressKind) (ip compression : Int) {size : Nat} (rest : Octets)
    (h : addressSize? compression = some size) :
    read? (UInt8.ofNat (32 * compression.toNat + kind.opcode) :: lowOctets size ip ++ rest) =
      some (address kind compression.toNat (ip % 2 ^ (8 * size)).toNat, rest) := by
  have hrange : 0 ≤ compression ∧ compression ≤ 3 := by
    unfold addressSize? at h
    split at h
    · assumption
    · cases h
  obtain ⟨code, rfl⟩ := Int.eq_ofNat_of_zero_le hrange.1
  obtain ⟨-, hfive, -⟩ := opcode_facts kind
  have hfirst : (UInt8.ofNat (32 * code + kind.opcode)).toNat = 32 * code + kind.opcode := by
    rw [UInt8.toNat_ofNat']
    apply Nat.mod_eq_of_lt
    omega
  rw [← ofLittleEndian_lowOctets]
  exact read?_of_header _ rest hfirst h (length_lowOctets size ip)

/-- The seven octets of a time stamp read back as its low 56 bits. -/
theorem read?_tsc (count : Int) (rest : Octets) :
    read? (0x19 :: lowOctets 7 count ++ rest) = some (tsc (count % 2 ^ 56).toNat, rest) := by
  have hfield : some (tsc (ofLittleEndian (lowOctets 7 count))) =
      some (tsc (count % 2 ^ 56).toNat) := by rw [ofLittleEndian_lowOctets]
  exact withField?_append (fun n => some (tsc n)) _ rest (length_lowOctets 7 count) hfield

/-- A mode packet reads back as what its leaf stands for. -/
theorem read?_mode {leaf : Nat} {p : Packet} (rest : Octets) (hleaf : leaf < 256)
    (h : ofMode? leaf = some p) : read? (0x99 :: UInt8.ofNat leaf :: rest) = some (p, rest) := by
  have hfield : ofLittleEndian [UInt8.ofNat leaf] = leaf := by
    simp [ofLittleEndian, Nat.mod_eq_of_lt hleaf]
  exact withField?_append ofMode? [UInt8.ofNat leaf] rest rfl (by rw [hfield, h])

/-- The execution modes are the three first leaves. -/
theorem read?_modeExec {mode : Nat} (rest : Octets) (h : mode ≤ 2) :
    read? (0x99 :: UInt8.ofNat mode :: rest) = some (modeExec mode, rest) :=
  read?_mode rest (by omega) (by rw [ofMode?, if_pos h])

/-- The states of a transaction are three leaves from 0x20 on. -/
theorem read?_modeTsx {state : Nat} (rest : Octets) (h : state ≤ 2) :
    read? (0x99 :: UInt8.ofNat (0x20 + state) :: rest) = some (modeTsx state, rest) := by
  have hleaf : ofMode? (0x20 + state) = some (modeTsx state) := by
    rw [ofMode?, if_neg (by omega), if_pos (by omega), Nat.add_sub_cancel_left]
  exact read?_mode rest (by omega) hleaf

/-- A ratio of one octet reads back from its field. -/
theorem read?_cbr {ratio : Nat} (rest : Octets) (h : ratio ≤ 255) :
    read? (0x02 :: 0x03 :: UInt8.ofNat ratio :: 0x00 :: rest) = some (cbr ratio, rest) := by
  have hlt : ratio < 256 := by omega
  have hfield : ofLittleEndian [UInt8.ofNat ratio, 0x00] = ratio := by
    simp [ofLittleEndian, Nat.mod_eq_of_lt hlt]
  exact withField?_append ofCbr? [UInt8.ofNat ratio, 0x00] rest rfl
    (by rw [hfield, ofCbr?, if_pos hlt])

/-- **A packet reads back** as what it keeps of its request, and what follows
it is left. -/
theorem read?_layout {r : Request} {packet : Octets} (rest : Octets) (h : r.layout = .ok packet) :
    read? (packet ++ rest) = some (r.kept, rest) := by
  cases r with
  | psb =>
      cases h
      simp [read?, readExtended?, Request.kept, psbTail, List.replicate]
  | psbend =>
      cases h
      simp [read?, readExtended?, Request.kept]
  | pad =>
      cases h
      simp [read?, Request.kept]
  | ovf =>
      cases h
      simp [read?, readExtended?, Request.kept]
  | tnt8 bits size =>
      simp only [Request.layout] at h
      split at h
      · rename_i hsize
        cases h
        exact read?_shortPattern bits rest (by omega) (by omega)
      · cases h
  | tnt64 bits size =>
      simp only [Request.layout] at h
      split at h
      · rename_i hsize
        cases h
        exact read?_longPattern bits rest (by omega) (by omega)
      · cases h
  | address kind ip compression =>
      simp only [Request.layout] at h
      split at h
      · cases h
      · rename_i size hsize
        cases h
        simpa [Request.kept, hsize] using read?_address kind ip compression rest hsize
  | modeExec mode =>
      simp only [Request.layout] at h
      split at h
      · rename_i hmode
        cases h
        obtain ⟨leaf, rfl⟩ := Int.eq_ofNat_of_zero_le hmode.1
        exact read?_modeExec rest (by omega)
      · cases h
  | modeTsx state =>
      simp only [Request.layout] at h
      split at h
      · rename_i hstate
        cases h
        obtain ⟨leaf, rfl⟩ := Int.eq_ofNat_of_zero_le hstate.1
        exact read?_modeTsx rest (by omega)
      · cases h
  | pip cr3 =>
      cases h
      exact read?_pip cr3 rest
  | tsc count =>
      cases h
      exact read?_tsc count rest
  | cbr ratio =>
      simp only [Request.layout] at h
      split at h
      · rename_i hratio
        cases h
        obtain ⟨n, rfl⟩ := Int.eq_ofNat_of_zero_le hratio.1
        exact read?_cbr rest (by omega)
      · cases h

/-! ### Reading a whole stream -/

/-- What follows an extended packet is no longer than what it was taken from.
Its own code is taken off in any case. -/
private theorem length_of_readExtended? {t rest : Octets} {p : Packet}
    (h : readExtended? t = some (p, rest)) : rest.length ≤ t.length := by
  cases t with
  | nil => cases h
  | cons code t =>
      simp only [readExtended?] at h
      refine Nat.le_succ_of_le ?_
      split at h
      · split at h
        · cases h
          simp
        · cases h
      split at h
      · cases h
        exact Nat.le_refl _
      split at h
      · cases h
        exact Nat.le_refl _
      repeat
        split at h
        · exact length_of_withField? h
      cases h

/-- What follows an address packet is no longer than what it was taken from. -/
private theorem length_of_readAddress? {header : Nat} {t rest : Octets} {p : Packet}
    (h : readAddress? header t = some (p, rest)) : rest.length ≤ t.length := by
  obtain ⟨kind, -, h⟩ := Option.bind_eq_some_iff.mp h
  obtain ⟨size, -, h⟩ := Option.bind_eq_some_iff.mp h
  exact length_of_withField? h

/-- A packet has at least one octet.  So reading a stream packet by packet
comes to an end. -/
theorem length_of_read? {t rest : Octets} {p : Packet} (h : read? t = some (p, rest)) :
    rest.length < t.length := by
  cases t with
  | nil => cases h
  | cons first t =>
      simp only [read?] at h
      refine Nat.lt_succ_of_le ?_
      split at h
      · cases h
        exact Nat.le_refl _
      split at h
      · exact length_of_readExtended? h
      split at h
      · exact length_of_withField? h
      split at h
      · exact length_of_withField? h
      split at h
      · cases h
        exact Nat.le_refl _
      · exact length_of_readAddress? h

/-- The packets of a whole stream; `none` if it does not end with a packet. -/
def readAll? : Octets → Option (List Packet)
  | [] => some []
  | first :: t =>
      match h : read? (first :: t) with
      | none => none
      | some (p, rest) =>
          have : rest.length ≤ t.length := Nat.le_of_lt_succ (length_of_read? h)
          (readAll? rest).map (p :: ·)
termination_by t => t.length

/-- The packet at the start of a stream comes first among its packets.  What
follows is read from where that packet ends. -/
theorem readAll?_of_read? {t rest : Octets} {p : Packet} (h : read? t = some (p, rest)) :
    readAll? t = (readAll? rest).map (p :: ·) := by
  cases t with
  | nil => cases h
  | cons first t =>
      rw [readAll?]
      split
      · rename_i hnone
        rw [h] at hnone
        cases hnone
      · rename_i hsome
        rw [h] at hsome
        cases hsome
        rfl

/-- A packet in front of a stream is the first that is read. -/
theorem readAll?_layout {r : Request} {packet : Octets} (rest : Octets)
    (h : r.layout = .ok packet) :
    readAll? (packet ++ rest) = (readAll? rest).map (r.kept :: ·) :=
  readAll?_of_read? (read?_layout rest h)

end Packet
end TraceScript
