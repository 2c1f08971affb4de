import TraceScript.Proofs.Packet.Reader
import TraceScript.Proofs.Stream.Packet

/-!
# Patterns, from the payload to the packet and back

The two directives for patterns differ in the layout of their packet and in how many marks
it holds (`PatternForm`).  Of a payload only the marks matter, `t` and `n`, in order; points
and blanks may stand anywhere, and any other character is foreign to it (`isForeign`).

A field shows a pattern as its bits below the highest that is set (`marksOf`).  The marks of
a payload are written below a stop bit, so the field shows just them, a leading `n` included
(`marksOf_stopped`).

The parser counts before the encoder does, with a limit of its own: of payloads without a
foreign character it refuses those of more than `Cause.maxPatternBits` marks, and the encoder
those of none, or of more than the packet holds.
-/

namespace TraceScript

/-- A character of a pattern that stands for a bit. -/
def isMark (c : Char) : Bool :=
  c == 't' || c == 'n'

/-- A character that may stand between the marks. -/
def isFiller (c : Char) : Bool :=
  Text.isBlank c || c == '.'

/-- A character that may not stand in a pattern. -/
def isForeign (c : Char) : Bool :=
  !(isMark c || isFiller c)

/-- The marks of a payload, in order. -/
def marksIn (payload : Text) : Text :=
  payload.filter isMark

/-- A payload without a foreign character. -/
def Clean (payload : Text) : Prop :=
  ∀ c ∈ payload, isForeign c = false

/-- A character of a clean payload that is no mark is a filler. -/
theorem isFiller_of_not_mark {c : Char} (hc : isForeign c = false) (hmark : ¬ isMark c = true) :
    isFiller c = true := by
  rw [Bool.not_eq_true] at hmark
  rwa [isForeign, hmark, Bool.false_or, Bool.not_eq_false'] at hc

/-- The mark of a bit. -/
def markOf (bit : Bool) : Char :=
  if bit then 't' else 'n'

/-- The pattern that a field shows: its bits below the highest that is set,
from the highest on. -/
def marksOf (field : Nat) : Text :=
  (List.range field.log2).reverse.map fun place => markOf (field.testBit place)

/-- The two directives for patterns. -/
inductive PatternForm
  | short
  | long
  deriving DecidableEq, Repr

namespace PatternForm

/-- The name of the directive. -/
def keyword : PatternForm → Keyword
  | short => .tnt
  | long => .tnt64

/-- How many marks the packet holds. -/
def limit : PatternForm → Nat
  | short => maxShortPattern
  | long => maxLongPattern

/-- As many marks as a packet holds, and at least one. -/
def Fits (form : PatternForm) (size : Nat) : Prop :=
  1 ≤ size ∧ size ≤ form.limit

instance (form : PatternForm) (size : Nat) : Decidable (form.Fits size) :=
  inferInstanceAs (Decidable (_ ∧ _))

/-- The length of the packet. -/
def size : PatternForm → Nat
  | short => 1
  | long => 8

/-- The request for a packet. -/
def request (bits size : Nat) : PatternForm → Request
  | short => .tnt8 bits size
  | long => .tnt64 bits size

/-- The field of a packet: an octet without its lowest bit, or six octets
behind two. -/
def field? : PatternForm → Octets → Option Nat
  | short, [octet] => if octet.toNat % 2 = 0 then some (octet.toNat / 2) else none
  | long, 0x02 :: 0xA3 :: field => if field.length = 6 then some (ofLittleEndian field) else none
  | _, _ => none

end PatternForm

variable {payload : Text}

/-! ### Reading a payload -/

namespace Operand

/-- A filler stands for no bit. -/
theorem patternBits_cons_of_filler {c : Char} (hc : isFiller c = true) (rest : Text) :
    patternBits (c :: rest) = patternBits rest := by
  rw [isFiller] at hc
  rw [patternBits, if_pos hc]

/-- A mark stands for its bit, in front of the others. -/
theorem patternBits_cons_of_mark {c : Char} (hc : isMark c = true) (rest : Text) :
    patternBits (c :: rest) = (patternBits rest).map ((c == 't') :: ·) := by
  rcases Bool.or_eq_true_iff.mp hc with hc | hc
  · obtain rfl := eq_of_beq hc
    rfl
  · obtain rfl := eq_of_beq hc
    rfl

/-- A foreign character is refused where it is met. -/
theorem patternBits_cons_of_foreign {c : Char} (hc : isForeign c = true) (rest : Text) :
    patternBits (c :: rest) = refuse (.unknownCharacter c) := by
  simp only [isForeign, isMark, isFiller, Bool.not_eq_true', Bool.or_eq_false_iff,
    beq_eq_false_iff_ne] at hc
  simp [patternBits, hc]

/-- Without a foreign character, each mark is a bit. -/
theorem patternBits_of_clean (hclean : Clean payload) :
    patternBits payload = .ok ((marksIn payload).map (· == 't')) := by
  induction payload with
  | nil => rfl
  | cons c rest ih =>
      have hrest := ih fun x hx => hclean x (List.mem_cons_of_mem c hx)
      by_cases hmark : isMark c = true
      · rw [marksIn, List.filter_cons_of_pos hmark, patternBits_cons_of_mark hmark, hrest]
        rfl
      · have hfiller := isFiller_of_not_mark (hclean c List.mem_cons_self) hmark
        rw [marksIn, List.filter_cons_of_neg hmark, patternBits_cons_of_filler hfiller, hrest]
        rfl

/-- The first foreign character is what a payload is refused for.  Everything
in front of it is a mark or a filler, and does not stop the reading. -/
theorem patternBits_of_foreign {c : Char} (hfind : payload.find? isForeign = some c) :
    patternBits payload = refuse (.unknownCharacter c) := by
  induction payload with
  | nil => cases hfind
  | cons d rest ih =>
      by_cases hd : isForeign d = true
      · rw [List.find?_cons_of_pos hd] at hfind
        obtain rfl := Option.some.inj hfind
        exact patternBits_cons_of_foreign hd rest
      · rw [List.find?_cons_of_neg hd] at hfind
        by_cases hmark : isMark d = true
        · rw [patternBits_cons_of_mark hmark, ih hfind]
          rfl
        · have hfiller := isFiller_of_not_mark (Bool.eq_false_iff.mpr hd) hmark
          rw [patternBits_cons_of_filler hfiller, ih hfind]

/-- What a payload without a foreign character is read as, by the number of
its marks. -/
theorem readPattern_of_clean (hclean : Clean payload) :
    let bits := (marksIn payload).map (· == 't')
    readPattern payload =
      if Cause.maxPatternBits < bits.length then refuse (.patternTooLong bits.length)
      else .ok (bitsValue bits, bits.length) := by
  intro bits
  have hbits : patternBits payload = .ok bits := patternBits_of_clean hclean
  rw [readPattern, hbits]
  rfl

/-- The first foreign character of a payload is refused, however many marks
there are. -/
theorem readPattern_of_foreign {c : Char} (hfind : payload.find? isForeign = some c) :
    readPattern payload = refuse (.unknownCharacter c) := by
  rw [readPattern, patternBits_of_foreign hfind]
  rfl

end Operand

/-! ### Bits below a stop bit -/

/-- Bits behind a one, highest first. -/
def behindStop (bits : List Bool) : Nat :=
  bits.foldl (fun n b => 2 * n + b.toNat) 1

/-- One more bit stands below all others. -/
theorem behindStop_concat (bits : List Bool) (b : Bool) :
    behindStop (bits ++ [b]) = 2 * behindStop bits + b.toNat := by
  simp [behindStop]

/-- The stop bit is set, whatever the bits. -/
theorem behindStop_pos (bits : List Bool) : 0 < behindStop bits := by
  induction bits using List.reverseRecOn with
  | nil => exact Nat.one_pos
  | append_singleton bits b ih =>
      rw [behindStop_concat]
      omega

/-- The value of some bits is below the place in front of them, where the stop
bit is. -/
theorem bitsValue_lt_and_behindStop (bits : List Bool) :
    Operand.bitsValue bits < 2 ^ bits.length ∧
      behindStop bits = 2 ^ bits.length + Operand.bitsValue bits := by
  induction bits using List.reverseRecOn with
  | nil => exact ⟨Nat.one_pos, rfl⟩
  | append_singleton bits b ih =>
      have hvalue : Operand.bitsValue (bits ++ [b]) = 2 * Operand.bitsValue bits + b.toNat := by
        simp [Operand.bitsValue]
      have hbit := b.toNat_lt
      rw [hvalue, behindStop_concat, List.length_append, List.length_singleton, Nat.pow_succ]
      omega

/-- A pattern is its bits behind the stop bit. -/
theorem stopped_bitsValue (bits : List Bool) :
    stopped (Operand.bitsValue bits) bits.length = behindStop bits := by
  obtain ⟨hlt, hstop⟩ := bitsValue_lt_and_behindStop bits
  have hrange : bitRange bits.length = 2 ^ bits.length := rfl
  have hlow : ((Operand.bitsValue bits : Int) % (bitRange bits.length : Int)).toNat =
      Operand.bitsValue bits % 2 ^ bits.length := by
    rw [hrange, ← Int.natCast_emod, Int.toNat_natCast]
  calc stopped (Operand.bitsValue bits) bits.length
      = 2 ^ bits.length + Operand.bitsValue bits % 2 ^ bits.length := by
        rw [stopped, hlow, hrange]
    _ = 2 ^ bits.length + Operand.bitsValue bits := by rw [Nat.mod_eq_of_lt hlt]
    _ = behindStop bits := hstop.symm

/-- The bits behind a stop bit are what the field shows, leading zeros
included. -/
theorem marksOf_behindStop (bits : List Bool) : marksOf (behindStop bits) = bits.map markOf := by
  induction bits using List.reverseRecOn with
  | nil => rfl
  | append_singleton bits b ih =>
      have hpos := behindStop_pos bits
      have hbit := b.toNat_lt
      have hhalf : (2 * behindStop bits + b.toNat) / 2 = behindStop bits := by omega
      have hlog : (2 * behindStop bits + b.toNat).log2 = (behindStop bits).log2 + 1 := by
        rw [Nat.log2_def, if_pos (by omega), hhalf]
      have hlast : (2 * behindStop bits + b.toNat).testBit 0 = b := by
        cases b <;> simp [Nat.testBit_zero]
      -- a higher place is one higher in the longer field
      have hplaces : ∀ place, (2 * behindStop bits + b.toNat).testBit (place + 1) =
          (behindStop bits).testBit place := by
        intro place
        rw [Nat.testBit_succ, hhalf]
      rw [behindStop_concat, marksOf, hlog, List.range_succ_eq_map, List.reverse_cons,
        List.map_append, ← List.map_reverse, List.map_map, List.map_append, ← ih, marksOf]
      simp [hlast, hplaces, Function.comp_def]

/-- A leading zero is shown. -/
example : marksOf (behindStop [false, true, false]) = "ntn".toList := by decide

/-- The field of a payload's marks shows these marks. -/
theorem marksOf_stopped (payload : Text) :
    let bits := (marksIn payload).map (· == 't')
    marksOf (stopped (Operand.bitsValue bits) bits.length) = marksIn payload := by
  intro bits
  have hmarks : ∀ c ∈ marksIn payload, markOf (c == 't') = c := by
    intro c hc
    rcases Bool.or_eq_true_iff.mp (List.mem_filter.mp hc).2 with hmark | hmark
    all_goals
      obtain rfl := eq_of_beq hmark
      rfl
  calc marksOf (stopped (Operand.bitsValue bits) bits.length)
      = bits.map markOf := by rw [stopped_bitsValue, marksOf_behindStop]
    _ = (marksIn payload).map fun c => markOf (c == 't') := List.map_map
    _ = (marksIn payload).map id := List.map_congr_left hmarks
    _ = marksIn payload := List.map_id _

/-! ### The packet of a pattern -/

namespace PatternForm

/-- As many marks as a packet holds are all in its field, and other numbers of
marks have no packet. -/
theorem layout_request (form : PatternForm) (bits size : Nat) :
    (form.Fits size → ∃ packet, (form.request bits size).layout = .ok packet ∧
      packet.length = form.size ∧ form.field? packet = some (stopped bits size)) ∧
    (¬ form.Fits size → (form.request bits size).layout = .error .invalid) := by
  cases form with
  | short =>
      refine ⟨fun hsize => ⟨_, if_pos (by exact_mod_cast hsize), rfl, ?_⟩, fun hsize => ?_⟩
      · have hoctet := Packet.toNat_shortPattern bits hsize.2
        rw [Int.toNat_natCast, field?, hoctet, if_pos (by omega)]
        congr 1
        omega
      · exact if_neg (by exact_mod_cast hsize)
  | long =>
      refine ⟨fun hsize => ⟨_, if_pos (by exact_mod_cast hsize), ?_, ?_⟩, fun hsize => ?_⟩
      · rw [List.length_append, length_littleEndian]
        rfl
      · have hlength : (littleEndian 6 (stopped bits size)).length = 6 := length_littleEndian 6 _
        have hfield := Packet.ofLittleEndian_longPattern bits hsize.2
        simp only [Int.toNat_natCast, List.cons_append, List.nil_append, field?, hlength, hfield,
          if_true]
      · exact if_neg (by exact_mod_cast hsize)

/-! ### The directive of a pattern -/

section Dispatch

variable {σ : Type} {form : PatternForm} {d : Directive}

/-- The directive of a pattern asks for what its payload is read as. -/
theorem asks {s : Stream σ} (hname : d.name = form.keyword.text) :
    s.Asks d ((Operand.readPattern d.payload).map fun read => form.request read.1 read.2) := by
  refine ⟨hname, ?_⟩
  cases form <;> rfl

/-- A directive with a foreign character in its pattern is refused before the
encoder is asked, and leaves the stream as it is. -/
theorem dispatch_of_foreign {s : Stream σ} (e : Encoder σ) {c : Char}
    (hname : d.name = form.keyword.text) (hfind : d.payload.find? isForeign = some c) :
    s.dispatch e d = (.error (Stream.operandFailure d (.ofCause (.unknownCharacter c))), s) := by
  have hasks : s.Asks d _ := form.asks hname
  rw [Operand.readPattern_of_foreign hfind] at hasks
  exact Stream.dispatch_of_operands hasks

/-- So is one with more marks than the parser counts. -/
theorem dispatch_of_many {s : Stream σ} (e : Encoder σ) (hname : d.name = form.keyword.text)
    (hclean : Clean d.payload) (hmany : Cause.maxPatternBits < (marksIn d.payload).length) :
    s.dispatch e d = (.error (Stream.operandFailure d
      (.ofCause (.patternTooLong (marksIn d.payload).length))), s) := by
  have hasks : s.Asks d _ := form.asks hname
  rw [Operand.readPattern_of_clean hclean, List.length_map, if_pos hmany] at hasks
  exact Stream.dispatch_of_operands hasks

/-- So few marks are handed to the encoder. -/
theorem asks_of_few {s : Stream σ} (hname : d.name = form.keyword.text)
    (hclean : Clean d.payload) (hfew : (marksIn d.payload).length ≤ Cause.maxPatternBits) :
    let bits := (marksIn d.payload).map (· == 't')
    s.Asks d (.ok (form.request (Operand.bitsValue bits) bits.length)) := by
  intro bits
  have hasks : s.Asks d _ := form.asks hname
  have hshort : ¬ Cause.maxPatternBits < bits.length := by
    rw [List.length_map]
    exact Nat.not_lt.mpr hfew
  rw [Operand.readPattern_of_clean hclean, if_neg hshort] at hasks
  exact hasks

variable {s : Stream Scratch}

/-- A pattern that the parser accepts and the packet does not hold is refused
by the encoder, with its status. -/
theorem dispatch_of_misfit (hname : d.name = form.keyword.text) (hclean : Clean d.payload)
    (hfew : (marksIn d.payload).length ≤ Cause.maxPatternBits)
    (hmisfit : ¬ form.Fits (marksIn d.payload).length) :
    s.dispatch ptEncoder d = (.error (Stream.statusFailure d .invalid), s) := by
  refine Stream.dispatch_of_status (form.asks_of_few hname hclean hfew) ?_
  apply (form.layout_request _ _).2
  rwa [List.length_map]

/-- A pattern that fits is in the packet, and of the rest its label decides.
The label may be of a name that is taken or at an offset that is no word; then
nothing is emitted. -/
theorem dispatch_of_fits (hname : d.name = form.keyword.text)
    (hroom : form.size ≤ s.encoder.size) (hclean : Clean d.payload)
    (hfits : form.Fits (marksIn d.payload).length) :
    ∃ packet after, (form.field? packet).map marksOf = some (marksIn d.payload) ∧
      s.dispatch ptEncoder d =
        match s.labelled d with
        | .error f => (.error f, { s with encoder := after })
        | .ok labels =>
            (.ok (.packet s.offset d.name d.label packet),
              ⟨labels, s.offset + packet.length, after⟩) := by
  have hlimit : form.limit ≤ Cause.maxPatternBits := by cases form <;> decide
  have hasks := form.asks_of_few (s := s) hname hclean (hfits.2.trans hlimit)
  have hsize : form.Fits ((marksIn d.payload).map (· == 't')).length := by
    rwa [List.length_map]
  obtain ⟨packet, hlayout, hlength, hfield⟩ := (form.layout_request _ _).1 hsize
  obtain ⟨after, hdispatch⟩ := Stream.dispatch_of_layout hasks hlayout (by rwa [hlength])
  refine ⟨packet, after, ?_, hdispatch⟩
  rw [hfield, Option.map_some, marksOf_stopped]

/-- A directive that succeeds has a pattern that fits.  Each way of not
fitting is refused, so none is left. -/
theorem fits_of_dispatch {emission : Emission} (hname : d.name = form.keyword.text)
    (h : (s.dispatch ptEncoder d).1 = .ok emission) :
    Clean d.payload ∧ form.Fits (marksIn d.payload).length := by
  have hclean : Clean d.payload := by
    cases hfind : d.payload.find? isForeign with
    | some c =>
        rw [dispatch_of_foreign ptEncoder hname hfind] at h
        cases h
    | none =>
        intro c hc
        exact Bool.eq_false_iff.mpr (List.find?_eq_none.mp hfind c hc)
  refine ⟨hclean, ?_⟩
  by_contra hmisfit
  by_cases hfew : (marksIn d.payload).length ≤ Cause.maxPatternBits
  · rw [dispatch_of_misfit hname hclean hfew hmisfit] at h
    cases h
  · rw [dispatch_of_many ptEncoder hname hclean (Nat.lt_of_not_le hfew)] at h
    cases h

/-- What a directive that succeeds makes of its pattern: a packet whose field
shows the marks, at the offset of the stream, and its label with it. -/
theorem parts_of_dispatch {emission : Emission} (hname : d.name = form.keyword.text)
    (hroom : form.size ≤ s.encoder.size) (h : (s.dispatch ptEncoder d).1 = .ok emission) :
    Clean d.payload ∧ form.Fits (marksIn d.payload).length ∧
      ∃ packet labels after,
        (form.field? packet).map marksOf = some (marksIn d.payload) ∧
        s.labelled d = .ok labels ∧
        s.dispatch ptEncoder d =
          (.ok (.packet s.offset d.name d.label packet),
            ⟨labels, s.offset + packet.length, after⟩) := by
  obtain ⟨hclean, hfits⟩ := fits_of_dispatch hname h
  obtain ⟨packet, after, hfield, hdispatch⟩ := dispatch_of_fits hname hroom hclean hfits
  refine ⟨hclean, hfits, packet, ?_⟩
  cases hlabelled : s.labelled d with
  | ok labels =>
      rw [hlabelled] at hdispatch
      exact ⟨labels, after, hfield, rfl, hdispatch⟩
  | error f =>
      rw [hdispatch, hlabelled] at h
      cases h

end Dispatch
end PatternForm

/-- **The marks of a payload reach the packet.**  The directive of a pattern
succeeds just if its payload has no foreign character, as many marks as the
packet holds and at least one, and if its label, where it has one, can be
defined.  Then the packet's field shows the marks of the payload, all of them
in their order.  Otherwise it fails, for its payload as follows, and leaves
labels and offset as they were: for the first foreign character, or for more
marks than are read, or by the encoder's status for the other numbers of
marks. -/
theorem marks_of_dispatch (form : PatternForm) (s : Stream Scratch) (d : Directive)
    (hname : d.name = form.keyword.text) (hroom : form.size ≤ s.encoder.size) :
    let marks := marksIn d.payload
    let outcome := s.dispatch ptEncoder d
    ((∃ emission, outcome.1 = .ok emission) ↔
      (Clean d.payload ∧ form.Fits marks.length) ∧ ∃ labels, s.labelled d = .ok labels) ∧
    (∀ emission, outcome.1 = .ok emission →
      ∃ packet, emission = .packet s.offset d.name d.label packet ∧
        (form.field? packet).map marksOf = some marks ∧
        outcome.2.offset = s.offset + packet.length ∧ s.labelled d = .ok outcome.2.labels) ∧
    (∀ c, d.payload.find? isForeign = some c →
      outcome = (.error (Stream.operandFailure d (.ofCause (.unknownCharacter c))), s)) ∧
    (Clean d.payload →
      (Cause.maxPatternBits < marks.length → outcome =
        (.error (Stream.operandFailure d (.ofCause (.patternTooLong marks.length))), s)) ∧
      (marks.length ≤ Cause.maxPatternBits → ¬ form.Fits marks.length →
        outcome = (.error (Stream.statusFailure d .invalid), s))) ∧
    ∀ f, outcome.1 = .error f → outcome.2.labels = s.labels ∧ outcome.2.offset = s.offset := by
  intro marks outcome
  -- success and its parts first, then one failure after the other, in the order of the checks
  refine ⟨⟨?_, ?_⟩, ?_, ?_, ?_, ?_⟩
  · rintro ⟨emission, h⟩
    obtain ⟨hclean, hfits, packet, labels, after, -, hlabelled, -⟩ :=
      form.parts_of_dispatch hname hroom h
    exact ⟨⟨hclean, hfits⟩, labels, hlabelled⟩
  · rintro ⟨⟨hclean, hfits⟩, labels, hlabelled⟩
    obtain ⟨packet, after, -, hdispatch⟩ := form.dispatch_of_fits hname hroom hclean hfits
    rw [hlabelled] at hdispatch
    exact ⟨_, congrArg Prod.fst hdispatch⟩
  · intro emission h
    obtain ⟨-, -, packet, labels, after, hfield, hlabelled, hdispatch⟩ :=
      form.parts_of_dispatch hname hroom h
    have houtcome : outcome = _ := hdispatch
    rw [houtcome] at h ⊢
    exact ⟨packet, (Except.ok.inj h).symm, hfield, rfl, hlabelled⟩
  · intro c hfind
    exact form.dispatch_of_foreign ptEncoder hname hfind
  · intro hclean
    exact ⟨form.dispatch_of_many ptEncoder hname hclean, form.dispatch_of_misfit hname hclean⟩
  · intro f h
    exact Stream.unchanged_of_error h

/-- A leading `n` is in the packet, and so is the label in the scope behind
it. -/
theorem marks_of_dispatch_leading_zero :
    let s : Stream Scratch := ⟨⟨.empty, .empty⟩, 5, Scratch.zeros 1⟩
    let d : Directive := ⟨"tnt".toList, " n.t n\n".toList, some ['l'], none, none⟩
    d.name = PatternForm.short.keyword.text ∧ PatternForm.short.size ≤ s.encoder.size ∧
    ∃ packet, (s.dispatch ptEncoder d).1 = .ok (.packet 5 "tnt".toList (some ['l']) packet) ∧
      (PatternForm.short.field? packet).map marksOf = some "ntn".toList ∧
      (s.dispatch ptEncoder d).2.offset = 5 + packet.length := by
  intro s d
  have hname : d.name = PatternForm.short.keyword.text := rfl
  have hroom : PatternForm.short.size ≤ s.encoder.size := Nat.le_refl 1
  obtain ⟨hsucceeds, hpacket, -⟩ := marks_of_dispatch .short s d hname hroom
  have hclean : Clean d.payload := by
    have hnone : d.payload.any isForeign = false := by decide
    intro c hc
    exact Bool.eq_false_iff.mpr (List.any_eq_false.mp hnone c hc)
  have hfits : PatternForm.short.Fits (marksIn d.payload).length := by decide
  have hlabelled : s.labelled d = .ok ⟨.empty, ⟨[(['l'], 5)]⟩⟩ := by decide
  obtain ⟨emission, hemission⟩ := hsucceeds.mpr ⟨⟨hclean, hfits⟩, _, hlabelled⟩
  obtain ⟨packet, hmade, hfield, hoffset, -⟩ := hpacket emission hemission
  rw [hmade] at hemission
  exact ⟨hname, hroom, packet, hemission, hfield, hoffset⟩

end TraceScript
