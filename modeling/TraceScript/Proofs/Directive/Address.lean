import TraceScript.Proofs.Directive.Notation
import TraceScript.Proofs.Expectation.Grammar
import TraceScript.Proofs.Packet.Reader
import TraceScript.Proofs.Stream.Packet

/-!
# Addresses, from the operands to the packet

The operands of an address packet are a compression code and an address, with runs of
blanks, tabs and colons around them (`AddressPair`).  The payload is trimmed before it is
taken apart, so a run at one of its ends may lose characters, and so may an operand that
starts or ends with a blank that separates nothing.  A literal is read alike without its
blanks; a reference to a label is not, and is kept where its last character is no blank or
a colon stands behind it (`AddressPair.Closes`).

Behind the pair any character that separates nothing makes a further operand, unless it is
trimmed (`Continues`), and the operands are then refused as too many.  A code that fits a
byte is judged by the encoder, after the operands have been counted (`address_of_dispatch`).
-/

namespace TraceScript

variable {labels : Labels} {t : Text} {a c : Nat}

namespace Operand

/-- What stands between a code and an address, in front of them and behind. -/
def isSeparator (c : Char) : Bool :=
  " \t:".toList.contains c

/-- A text that is an operand wherever separators stand around it. -/
abbrev IsOperand (t : Text) : Prop :=
  Text.IsRow (fun c => !isSeparator c) t

/-- What an address operand stands for: a literal for its word, and a percent
sign for the label behind it. -/
inductive IsAddress (labels : Labels) : Text → Nat → Prop
  | literal {t : Text} {a : Nat} (h : readWord t = .ok a) : IsAddress labels t a
  | label {name : Text} {a : Nat} {origin : LabelOrigin} (h : labels.Finds name a origin) :
      IsAddress labels ('%' :: name) a

/-- A literal does not start with a percent sign. -/
theorem not_reference_of_readWord {name : Text} (h : readWord t = .ok a) : t ≠ '%' :: name := by
  rintro rfl
  obtain ⟨l, hl⟩ := exists_denoted_of_readWord h
  have htrim : Text.trim ('%' :: name) = '%' :: Text.trimEnd name :=
    Text.trimEnd_append_cons [] rfl name
  have hpercent : '%' ∈ l.text := by
    rw [← hl.text, htrim]
    exact List.mem_cons_self
  exact absurd (hl.written.chars '%' hpercent) (by decide)

/-- What an operand stands for is what it is read as: the two forms are told
apart by the percent sign. -/
theorem IsAddress.readAddress (h : IsAddress labels t a) :
    Operand.readAddress (some labels) t = .ok a := by
  cases h with
  | literal h =>
      rw [Operand.readAddress]
      · exact h
      · intro name
        exact not_reference_of_readWord h
  | label h =>
      rw [Operand.readAddress, h.resolve]
      rfl

/-- Trimmed, an address operand is not empty. -/
theorem trim_ne_nil_of_readWord (h : readWord t = .ok a) : Text.trim t ≠ [] := by
  obtain ⟨l, hl⟩ := exists_denoted_of_readWord h
  rw [hl.text]
  exact hl.written.text_ne_nil

/-- Neither form of an address operand is all blanks. -/
theorem IsAddress.trim_ne_nil (h : IsAddress labels t a) : Text.trim t ≠ [] := by
  cases h with
  | literal h => exact trim_ne_nil_of_readWord h
  | label h =>
      intro hnil
      exact absurd (Text.trim_eq_nil_iff.mp hnil '%' List.mem_cons_self) (by decide)

/-- Blanks at the ends of an address operand make no difference to it, unless
it is a reference. -/
theorem IsAddress.of_trim {u : Text} (h : IsAddress labels t a)
    (htrim : Text.trim u = Text.trim t) (hkept : t.head? = some '%' → u = t) :
    IsAddress labels u a := by
  cases h with
  | literal h => exact .literal (readWord_of_trim htrim h)
  | label h =>
      rw [hkept rfl]
      exact .label h

/-- An operand is a word where separators end it. -/
theorem words_operand_append {gap : Text} (ht : IsOperand t) (hgap : Text.IsRow isSeparator gap)
    (rest : Text) :
    Text.words isSeparator (t ++ (gap ++ rest)) = t :: Text.words isSeparator rest := by
  obtain ⟨hne, hsep⟩ := hgap
  obtain ⟨x, more, rfl⟩ := List.exists_cons_of_ne_nil hne
  have hfirst := Text.words_append_sep (more ++ rest) ht.1 (fun c hc => by simpa using ht.2 c hc)
    (hsep x List.mem_cons_self)
  rw [List.cons_append, hfirst, Text.words_of_sep_append rest]
  exact fun c hc => hsep c (List.mem_cons_of_mem x hc)

/-- An operand with nothing but separators behind it is the only word. -/
theorem words_operand {gap : Text} (ht : IsOperand t) (hgap : ∀ c ∈ gap, isSeparator c) :
    Text.words isSeparator (t ++ gap) = [t] := by
  by_cases hempty : gap = []
  · rw [hempty, List.append_nil]
    exact Text.words_of_not_sep ht.1 fun c hc => by simpa using ht.2 c hc
  · have hwords := words_operand_append ht ⟨hempty, hgap⟩ []
    rwa [List.append_nil] at hwords

/-- Of an operand behind separators, trimming at the start leaves an operand
that is trimmed to the same, behind separators. -/
theorem exists_trimStart_operand {lead : Text} (hlead : ∀ c ∈ lead, isSeparator c)
    (ht : IsOperand t) (hne : Text.trim t ≠ []) (rest : Text) :
    ∃ lead' t', Text.trimStart (lead ++ (t ++ rest)) = lead' ++ (t' ++ rest) ∧
      (∀ c ∈ lead', isSeparator c) ∧ IsOperand t' ∧ Text.trim t' = Text.trim t := by
  have hstart : Text.trimStart t ≠ [] := by
    intro hnil
    rw [Text.trim, hnil] at hne
    exact hne rfl
  by_cases hgone : Text.trimStart lead = []
  · refine ⟨[], Text.trimStart t, ?_, List.forall_mem_nil _, ⟨hstart, fun c hc => ?_⟩,
      Text.trim_trimStart t⟩
    · rw [Text.trimStart_append_eq, if_pos hgone, Text.trimStart_append_eq, if_neg hstart]
      rfl
    · exact ht.2 c ((Text.trimStart_isSuffix t).subset hc)
  · refine ⟨Text.trimStart lead, t, ?_, fun c hc => ?_, ht, rfl⟩
    · rw [Text.trimStart_append_eq, if_neg hgone]
    · exact hlead c ((Text.trimStart_isSuffix lead).subset hc)

/-- Of an operand in front of separators, trimming at the end leaves an
operand that is trimmed to the same, in front of separators, and the operand
itself where its last character is no blank or there is a colon. -/
theorem exists_trimEnd_operand {trail : Text} (htrail : ∀ c ∈ trail, isSeparator c)
    (ht : IsOperand t) (hne : Text.trim t ≠ []) (front : Text) :
    ∃ t' trail', Text.trimEnd (front ++ (t ++ trail)) = front ++ (t' ++ trail') ∧
      (∀ c ∈ trail', isSeparator c) ∧ IsOperand t' ∧ Text.trim t' = Text.trim t ∧
      (t.getLast?.all (fun c => !Text.isBlank c) ∨ ':' ∈ trail → t' = t) := by
  have hend : Text.trimEnd t ≠ [] := by
    intro hnil
    rw [← Text.trim_trimEnd, hnil] at hne
    exact hne rfl
  by_cases hgone : Text.trimEnd trail = []
  · have htext : Text.trimEnd (t ++ trail) = Text.trimEnd t := by
      rw [Text.trimEnd_append_eq, if_pos hgone]
    refine ⟨Text.trimEnd t, [], ?_, List.forall_mem_nil _, ⟨hend, fun c hc => ?_⟩,
      Text.trim_trimEnd t, ?_⟩
    · rw [Text.trimEnd_append_eq, htext, if_neg hend, List.append_nil]
    · exact ht.2 c ((Text.trimEnd_isPrefix t).subset hc)
    · rintro (hlast | hcolon)
      · have hkept : Text.trimEnd (t ++ []) = t := Text.trimEnd_append (List.forall_mem_nil _) hlast
        rwa [List.append_nil] at hkept
      · exact absurd (Text.trimEnd_eq_nil_iff.mp hgone ':' hcolon) (by decide)
  · have htext : Text.trimEnd (t ++ trail) = t ++ Text.trimEnd trail := by
      rw [Text.trimEnd_append_eq, if_neg hgone]
    refine ⟨t, Text.trimEnd trail, ?_, fun c hc => ?_, ht, rfl, fun _ => rfl⟩
    · rw [Text.trimEnd_append_eq, htext, if_neg (List.append_ne_nil_of_left_ne_nil ht.1 _)]
    · exact htrail c ((Text.trimEnd_isPrefix trail).subset hc)

/-- What makes further operands behind a pair: separators, and then a
character that separates nothing and is not trimmed. -/
inductive Continues : Text → Prop
  | intro {gap before after : Text} {c : Char} (hgap : Text.IsRow isSeparator gap)
      (hc : isSeparator c = false)
      (hkept : Text.isBlank c = false ∨ ∃ x ∈ after, Text.isBlank x = false) :
      Continues (gap ++ (before ++ c :: after))

/-- Trimming at the end leaves further operands.  The character that separates
nothing is not trimmed, and what stands in front of it stays in place. -/
theorem Continues.trimEnd {behind : Text} (h : Continues behind) (front : Text) :
    ∃ gap more, Text.trimEnd (front ++ behind) = front ++ (gap ++ more) ∧
      Text.IsRow isSeparator gap ∧ Text.words isSeparator more ≠ [] := by
  obtain ⟨hgap, hc, hkept⟩ := h
  rename_i gap before after c
  obtain ⟨rest, hrest⟩ : ∃ rest, Text.trimEnd (c :: after) = c :: rest := by
    have hcut := Text.trimEnd_append_eq [c] after
    by_cases hgone : Text.trimEnd after = []
    · rcases hkept with hkept | ⟨x, hx, hkept⟩
      · refine ⟨[], ?_⟩
        have hsingle : Text.trimEnd [c] = [c] := Text.trimEnd_append_cons [] hkept []
        rw [if_pos hgone, hsingle] at hcut
        exact hcut
      · rw [Text.trimEnd_eq_nil_iff.mp hgone x hx] at hkept
        cases hkept
    · rw [if_neg hgone] at hcut
      exact ⟨Text.trimEnd after, hcut⟩
  refine ⟨gap, before ++ c :: rest, ?_, hgap, Text.words_ne_nil ?_ hc⟩
  · have hassoc : front ++ (gap ++ (before ++ c :: after)) =
        (front ++ (gap ++ before)) ++ c :: after := by simp
    rw [hassoc, Text.trimEnd_append_eq, hrest, if_neg (List.cons_ne_nil c rest)]
    simp
  · exact List.mem_append_right before List.mem_cons_self

end Operand

/-! ### A pair as it is written -/

open Operand (isSeparator IsOperand IsAddress Continues)

/-- A code and an address, with what stands in front of them and between
them. -/
structure AddressPair where
  lead : Text
  code : Text
  between : Text
  address : Text

namespace AddressPair

/-- A payload with a pair, and what stands behind it. -/
def text (p : AddressPair) (behind : Text) : Text :=
  p.lead ++ (p.code ++ (p.between ++ (p.address ++ behind)))

/-- The pair stands for a code of one byte and an address. -/
structure Denotes (p : AddressPair) (labels : Labels) (c a : Nat) : Prop where
  lead : ∀ x ∈ p.lead, isSeparator x
  code : IsOperand p.code
  word : readWord p.code = .ok c
  byte : c ≤ 0xFF
  between : Text.IsRow isSeparator p.between
  address : IsOperand p.address
  found : IsAddress labels p.address a

/-- Nothing but separators stands behind the pair, and a label keeps its last
character. -/
structure Closes (p : AddressPair) (trail : Text) : Prop where
  gap : ∀ x ∈ trail, isSeparator x
  kept : p.address.head? = some '%' →
    p.address.getLast?.all (fun x => !Text.isBlank x) ∨ ':' ∈ trail

variable {p : AddressPair}

/-- The operands of a pair with nothing behind it: its own, but for blanks
that make no difference to them. -/
theorem Denotes.exists_tokens (h : p.Denotes labels c a) {trail : Text} (htrail : p.Closes trail) :
    ∃ code address, Operand.tokens " \t:".toList (p.text trail) = [code, address] ∧
      readWord code = .ok c ∧ Operand.readAddress (some labels) address = .ok a := by
  obtain ⟨lead, code, hstart, hlead, hcode, htrimCode⟩ :=
    Operand.exists_trimStart_operand h.lead h.code (Operand.trim_ne_nil_of_readWord h.word)
      (p.between ++ (p.address ++ trail))
  obtain ⟨address, rest, hend, hrest, haddress, htrimAddress, hkept⟩ :=
    Operand.exists_trimEnd_operand htrail.gap h.address h.found.trim_ne_nil
      (lead ++ (code ++ p.between))
  refine ⟨code, address, ?_, readWord_of_trim htrimCode h.word, ?_⟩
  · have htrim : Text.trim (p.text trail) = lead ++ (code ++ (p.between ++ (address ++ rest))) := by
      rw [Text.trim, text, hstart]
      simpa using hend
    calc Operand.tokens " \t:".toList (p.text trail)
        = Text.words isSeparator (lead ++ (code ++ (p.between ++ (address ++ rest)))) := by
          rw [Operand.tokens, htrim]
          rfl
      _ = Text.words isSeparator (code ++ (p.between ++ (address ++ rest))) :=
          Text.words_of_sep_append _ hlead
      _ = code :: Text.words isSeparator (address ++ rest) :=
          Operand.words_operand_append hcode h.between _
      _ = [code, address] := by rw [Operand.words_operand haddress hrest]
  · have hsame : p.address.head? = some '%' → address = p.address := fun hreference =>
      hkept (htrail.kept hreference)
    exact (h.found.of_trim htrimAddress hsame).readAddress

/-- With further operands behind it the pair keeps its own.  The address has
separators behind it, so no blank is taken from its end. -/
theorem Denotes.exists_tokens_more (h : p.Denotes labels c a) {behind : Text}
    (hbehind : Continues behind) :
    ∃ code rest, Operand.tokens " \t:".toList (p.text behind) = code :: p.address :: rest ∧
      rest ≠ [] ∧ readWord code = .ok c := by
  obtain ⟨lead, code, hstart, hlead, hcode, htrimCode⟩ :=
    Operand.exists_trimStart_operand h.lead h.code (Operand.trim_ne_nil_of_readWord h.word)
      (p.between ++ (p.address ++ behind))
  obtain ⟨gap, more, hend, hgap, hmore⟩ :=
    hbehind.trimEnd (lead ++ (code ++ (p.between ++ p.address)))
  refine ⟨code, Text.words isSeparator more, ?_, hmore, readWord_of_trim htrimCode h.word⟩
  have htrim : Text.trim (p.text behind) =
      lead ++ (code ++ (p.between ++ (p.address ++ (gap ++ more)))) := by
    rw [Text.trim, text, hstart]
    simpa using hend
  calc Operand.tokens " \t:".toList (p.text behind)
      = Text.words isSeparator (lead ++ (code ++ (p.between ++ (p.address ++ (gap ++ more))))) := by
        rw [Operand.tokens, htrim]
        rfl
    _ = Text.words isSeparator (code ++ (p.between ++ (p.address ++ (gap ++ more)))) :=
        Text.words_of_sep_append _ hlead
    _ = code :: Text.words isSeparator (p.address ++ (gap ++ more)) :=
        Operand.words_operand_append hcode h.between _
    _ = code :: p.address :: Text.words isSeparator more := by
        rw [Operand.words_operand_append h.address hgap]

/-- What a pair and the operands behind it are read as. -/
theorem readAddressPair_of_tokens {scope : Option Labels} {payload code address : Text}
    {rest : List Text} (htokens : Operand.tokens " \t:".toList payload = code :: address :: rest)
    (hword : readWord code = .ok c) (hbyte : c ≤ 0xFF)
    (haddress : Operand.readAddress scope address = .ok a) :
    Operand.readAddressPair scope payload =
      if rest.isEmpty then .ok (a, c) else Operand.refuse (Operand.leftover rest) := by
  have hcode : Operand.readCompression code = .ok c := by
    rw [Operand.readCompression, hword]
    exact if_neg (Nat.not_lt.mpr hbyte)
  rw [Operand.readAddressPair, htokens]
  simp only [hcode, haddress]
  rfl

/-- A pair with nothing but separators behind it is read as the code and the
address it stands for. -/
theorem Denotes.readAddressPair (h : p.Denotes labels c a) {trail : Text}
    (htrail : p.Closes trail) :
    Operand.readAddressPair (some labels) (p.text trail) = .ok (a, c) := by
  obtain ⟨code, address, htokens, hword, haddress⟩ := h.exists_tokens htrail
  exact readAddressPair_of_tokens htokens hword h.byte haddress

/-- A pair with further operands behind it is refused for those. -/
theorem Denotes.readAddressPair_more (h : p.Denotes labels c a) {behind : Text}
    (hbehind : Continues behind) :
    ∃ tokens, Operand.readAddressPair (some labels) (p.text behind) =
      .error (.ofCause (.trailingTokens tokens)) := by
  obtain ⟨code, rest, htokens, hmore, hword⟩ := h.exists_tokens_more hbehind
  have hempty : rest.isEmpty = false := List.isEmpty_eq_false_iff.mpr hmore
  have hread := readAddressPair_of_tokens htokens hword h.byte h.found.readAddress
  rw [hempty] at hread
  exact ⟨_, hread⟩

end AddressPair

/-! ### The packet of an address -/

namespace AddressKind

/-- The name of the directive. -/
def keyword : AddressKind → Keyword
  | tip => .tip
  | tipPge => .tipPge
  | tipPgd => .tipPgd
  | fup => .fup

/-- The directive of an address asks for what its payload is read as. -/
theorem asks {σ : Type} {s : Stream σ} {d : Directive} (kind : AddressKind)
    (hname : d.name = kind.keyword.text) :
    s.Asks d ((Operand.readAddressPair (some s.labels) d.payload).map fun read =>
      .address kind read.1 read.2) := by
  refine ⟨hname, ?_⟩
  cases kind <;> rfl

/-- A code up to three has a packet of a header and two octets of the address
for each of its steps; a larger code has none. -/
theorem layout_address (kind : AddressKind) (a c : Nat) :
    (c ≤ 3 → ∃ header body, (Request.address kind a c).layout = .ok (header :: body) ∧
      header.toNat / 32 = c ∧ header.toNat % 32 = kind.opcode ∧ body.length = 2 * c ∧
      ofLittleEndian body = a % 2 ^ (16 * c)) ∧
    (3 < c → (Request.address kind a c).layout = .error .badIpCompression) := by
  constructor
  · intro hc
    have hsize : addressSize? (c : Int) = some (2 * c) := by
      rw [addressSize?, if_pos (by omega), Int.toNat_natCast]
    obtain ⟨-, hfive, -⟩ := Packet.opcode_facts kind
    have hheader : (UInt8.ofNat (32 * c + kind.opcode)).toNat = 32 * c + kind.opcode := by
      rw [UInt8.toNat_ofNat']
      apply Nat.mod_eq_of_lt
      omega
    have hbody : ofLittleEndian (lowOctets (2 * c) a) = a % 2 ^ (16 * c) := by
      have hbits : 8 * (2 * c) = 16 * c := by omega
      rw [Packet.ofLittleEndian_lowOctets, hbits]
      exact_mod_cast Int.toNat_natCast _
    refine ⟨UInt8.ofNat (32 * c + kind.opcode), lowOctets (2 * c) a, ?_, ?_, ?_,
      length_lowOctets _ _, hbody⟩
    · simp only [Request.layout, hsize, Int.toNat_natCast]
    · omega
    · omega
  · intro hc
    have hsize : addressSize? (c : Int) = none := if_neg (by omega)
    simp only [Request.layout, hsize]

end AddressKind

/-- **Addresses reach the packet.**  A pair of a code and an address, with any
runs of separators around them, is read as what it stands for, and with
further operands behind it is refused as too long.  On the packet encoder a
code up to three makes a packet whose first octet holds the code above the
opcode, and whose other octets, two for each step of the code, hold as much of
the address, the lowest first; a larger code is refused by the encoder.  Both
failures leave the stream as it was. -/
theorem address_of_dispatch {labels : Labels} {p : AddressPair} {c a : Nat}
    (h : p.Denotes labels c a) :
    (∀ trail, p.Closes trail →
      Operand.readAddressPair (some labels) (p.text trail) = .ok (a, c)) ∧
    (∀ behind, Continues behind → ∃ tokens,
      Operand.readAddressPair (some labels) (p.text behind) =
        .error (.ofCause (.trailingTokens tokens))) ∧
    ∀ (kind : AddressKind) (s : Stream Scratch) (d : Directive), s.labels = labels →
      d.name = kind.keyword.text →
      (∀ trail, p.Closes trail → d.payload = p.text trail →
        (c ≤ 3 → 1 + 2 * c ≤ s.encoder.size → ∀ after, s.labelled d = .ok after →
          ∃ header body encoder, s.dispatch ptEncoder d =
              (.ok (.packet s.offset d.name d.label (header :: body)),
                ⟨after, s.offset + (1 + 2 * c), encoder⟩) ∧
            header.toNat / 32 = c ∧ header.toNat % 32 = kind.opcode ∧ body.length = 2 * c ∧
            ofLittleEndian body = a % 2 ^ (16 * c)) ∧
        (3 < c →
          s.dispatch ptEncoder d = (.error (Stream.statusFailure d .badIpCompression), s))) ∧
      ∀ behind, Continues behind → d.payload = p.text behind → ∃ tokens,
        s.dispatch ptEncoder d =
          (.error (Stream.operandFailure d (.ofCause (.trailingTokens tokens))), s) := by
  refine ⟨fun trail => h.readAddressPair, fun behind => h.readAddressPair_more, ?_⟩
  intro kind s d hlabels hname
  -- the packet asked for is the pair as it is read, so each clause is one about reading
  have hasks : s.Asks d _ := kind.asks hname
  rw [hlabels] at hasks
  refine ⟨?_, ?_⟩
  · intro trail htrail hpayload
    rw [hpayload, h.readAddressPair htrail] at hasks
    constructor
    · intro hc hroom after hlabelled
      obtain ⟨header, body, hlayout, hcode, hopcode, hlength, hbody⟩ :=
        (kind.layout_address a c).1 hc
      have hsize : (header :: body).length = 1 + 2 * c := by
        rw [List.length_cons, hlength]
        omega
      obtain ⟨encoder, hdispatch⟩ := Stream.dispatch_of_layout hasks hlayout (by omega)
      rw [hlabelled, hsize] at hdispatch
      exact ⟨header, body, encoder, hdispatch, hcode, hopcode, hlength, hbody⟩
    · intro hc
      exact Stream.dispatch_of_status hasks ((kind.layout_address a c).2 hc)
  · intro behind hbehind hpayload
    obtain ⟨tokens, hread⟩ := h.readAddressPair_more hbehind
    rw [hpayload, hread] at hasks
    exact ⟨tokens, Stream.dispatch_of_operands hasks⟩

/-- A label of a directive that one of the assembly source hides, and all but
four octets of its address cut off. -/
theorem address_of_dispatch_hidden_label :
    let labels : Labels := ⟨⟨[("l".toList, 0x1122334455)]⟩, ⟨[("l".toList, 7)]⟩⟩
    let p : AddressPair := ⟨" :".toList, "0b10".toList, "\t: ".toList, "%l".toList⟩
    let s : Stream Scratch := ⟨labels, 7, Scratch.zeros 5⟩
    let d : Directive := ⟨"tip.pge".toList, p.text " ".toList, some "m".toList, none, none⟩
    p.Denotes labels 2 0x1122334455 ∧ p.Closes " ".toList ∧ Continues " x".toList ∧
    (∃ header body encoder, s.dispatch ptEncoder d =
        (.ok (.packet 7 "tip.pge".toList (some "m".toList) (header :: body)),
          ⟨⟨labels.assembly, ⟨[("l".toList, 7), ("m".toList, 7)]⟩⟩, 12, encoder⟩) ∧
      header.toNat = 32 * 2 + 0x11 ∧ ofLittleEndian body = 0x22334455) ∧
    ∃ tokens, Operand.readAddressPair (some labels) (p.text " x".toList) =
      .error (.ofCause (.trailingTokens tokens)) := by
  intro labels p s d
  have hfind : labels.Finds "l".toList 0x1122334455 .assembly := .assembly rfl
  have hdenotes : p.Denotes labels 2 0x1122334455 :=
    ⟨List.all_eq_true.mp (by decide), ⟨nofun, List.all_eq_true.mp (by decide)⟩, rfl, by decide,
      ⟨nofun, List.all_eq_true.mp (by decide)⟩, ⟨nofun, List.all_eq_true.mp (by decide)⟩,
      .label hfind⟩
  have hcloses : p.Closes " ".toList :=
    ⟨List.all_eq_true.mp (by decide), fun _ => .inl (by decide)⟩
  have hcontinues : Continues ([' '] ++ ([] ++ 'x' :: [])) :=
    .intro ⟨nofun, List.all_eq_true.mp (by decide)⟩ (by decide) (.inl (by decide))
  obtain ⟨-, hmore, hdispatch⟩ := address_of_dispatch hdenotes
  obtain ⟨hclosed, -⟩ := hdispatch .tipPge s d rfl rfl
  have hlabelled : s.labelled d =
      .ok ⟨labels.assembly, ⟨[("l".toList, 7), ("m".toList, 7)]⟩⟩ := by decide
  obtain ⟨header, body, encoder, hpacket, hcode, hopcode, -, hbody⟩ :=
    (hclosed _ hcloses rfl).1 (by decide) (Nat.le_refl 5) _ hlabelled
  have hkind : AddressKind.tipPge.opcode = 0x11 := rfl
  refine ⟨hdenotes, hcloses, hcontinues, ⟨header, body, encoder, hpacket, by omega, hbody⟩, ?_⟩
  exact hmore _ hcontinues

/-- A label that ends in a blank loses it at the end of a payload, and an
operand that is all blanks is none there. -/
theorem address_trimmed_at_end :
    let name := ['l', '\u00a0']
    let labels : Labels := ⟨⟨[(name, 16)]⟩, .empty⟩
    let p : AddressPair := ⟨[], ['3'], [' '], '%' :: name⟩
    p.Denotes labels 3 16 ∧
    Operand.readAddressPair (some labels) (p.text []) =
      .error (.ofCause (.undefinedLabel ['l'] [name])) ∧
    IsOperand ['\u00a0'] ∧
    Operand.readAddressPair (some labels) ("3 16 ".toList ++ ['\u00a0']) = .ok (16, 3) := by
  intro name labels p
  have hfind : labels.Finds name 16 .assembly := .assembly rfl
  have hdenotes : p.Denotes labels 3 16 :=
    ⟨nofun, ⟨nofun, List.all_eq_true.mp (by decide)⟩, rfl, by decide,
      ⟨nofun, List.all_eq_true.mp (by decide)⟩, ⟨nofun, List.all_eq_true.mp (by decide)⟩,
      .label hfind⟩
  exact ⟨hdenotes, by decide +kernel, ⟨nofun, List.all_eq_true.mp (by decide)⟩, by decide +kernel⟩

end TraceScript
