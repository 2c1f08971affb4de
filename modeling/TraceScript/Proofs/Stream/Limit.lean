import TraceScript.Proofs.Directive.Address
import TraceScript.Proofs.Directive.Pattern
import TraceScript.Proofs.Session.Acceptance

/-!
# The limits of the encoder

The operands of a packet are judged twice, with other bounds: as they are read, and by the
encoder.  What is left for the encoder to refuse, once they are read, is a pattern that its
packet does not hold, and a compression code above three (`Keyword.Refuses`); the operands
of all other packets are in the encoder's range when they are read (`Operand.Asked`).

Only then does the buffer count: a packet that is longer has no space (`Keyword.Limits`).  No
packet is longer than that of `psb`.
-/

namespace TraceScript

/-! ### Operands that are read -/

/-- The keywords of the packets whose operands the encoder always takes. -/
def Keyword.isUnlimited : Keyword → Bool
  | psb | psbend | pad | ovf | modeExec | modeTsx | pip | tsc | cbr => true
  | exp | tnt | tnt64 | tip | tipPge | tipPgd | fup => false

namespace Operand

variable {labels : Labels} {payload : Text} {k : Keyword} {r : Request}

/-- What a directive asks for whose operands are read: a pattern of the marks
in its payload, an address with its code, or a packet whose operands are in
the encoder's range. -/
inductive Asked (labels : Labels) (payload : Text) : Keyword → Request → Prop
  | pattern (form : PatternForm) (bits : Nat) :
      Asked labels payload form.keyword (form.request bits (marksIn payload).length)
  | address (kind : AddressKind) {a c : Nat}
      (hread : readAddressPair (some labels) payload = .ok (a, c)) :
      Asked labels payload kind.keyword (.address kind a c)
  | unlimited {k : Keyword} {r : Request} {packet : Octets} (hk : k.isUnlimited = true)
      (hlayout : r.layout = .ok packet) : Asked labels payload k r

/-- The size of a pattern that is read is the number of its marks.  Fillers
are dropped, and a foreign character would have been refused. -/
theorem length_of_readPattern {bits size : Nat} (h : readPattern payload = .ok (bits, size)) :
    size = (marksIn payload).length := by
  cases hfind : payload.find? isForeign with
  | some c =>
      rw [readPattern_of_foreign hfind] at h
      cases h
  | none =>
      have hclean : Clean payload := fun c hc =>
        Bool.eq_false_iff.mpr (List.find?_eq_none.mp hfind c hc)
      rw [readPattern_of_clean hclean] at h
      split at h
      · cases h
      · cases h
        exact List.length_map _

/-- A pattern that is read is asked for with as many marks as there are in the
payload. -/
theorem asked_pattern (form : PatternForm)
    (h : (readPattern payload).map (fun read => form.request read.1 read.2) = .ok r) :
    Asked labels payload form.keyword r := by
  obtain ⟨⟨bits, size⟩, hread, rfl⟩ := eq_ok_of_map h
  rw [length_of_readPattern hread]
  exact .pattern form bits

/-- An address that is read is asked for with its compression code. -/
theorem asked_address (kind : AddressKind)
    (h : (readAddressPair (some labels) payload).map
      (fun read => Request.address kind read.1 read.2) = .ok r) :
    Asked labels payload kind.keyword r := by
  obtain ⟨⟨a, c⟩, hread, rfl⟩ := eq_ok_of_map h
  exact .address kind hread

/-- A frequency that is read fits its octet. -/
theorem le_of_readWord8 {v : Nat} (h : readWord8 payload = .ok v) : v ≤ 255 := by
  obtain ⟨w, -, h⟩ := eq_ok_of_bind h
  split at h
  · cases h
  · cases h
    omega

/-- What a directive asks for once its operands are read, keyword by keyword:
only patterns and addresses can still be refused for their operands. -/
theorem asked_of_request (h : request? labels payload k = some (.ok r)) :
    Asked labels payload k r := by
  cases k
  case exp => cases h
  case tnt => exact asked_pattern .short (Option.some.inj h)
  case tnt64 => exact asked_pattern .long (Option.some.inj h)
  case tip => exact asked_address .tip (Option.some.inj h)
  case tipPge => exact asked_address .tipPge (Option.some.inj h)
  case tipPgd => exact asked_address .tipPgd (Option.some.inj h)
  case fup => exact asked_address .fup (Option.some.inj h)
  case psb | psbend | pad | ovf | pip | tsc =>
    obtain ⟨operand, -, rfl⟩ := eq_ok_of_map (Option.some.inj h)
    exact .unlimited rfl rfl
  case modeExec | modeTsx =>
    obtain ⟨mode, -, rfl⟩ := eq_ok_of_map (Option.some.inj h)
    cases mode <;> exact .unlimited rfl rfl
  case cbr =>
    obtain ⟨ratio, hread, rfl⟩ := eq_ok_of_map (Option.some.inj h)
    obtain ⟨v, hword, rfl⟩ : ∃ v : Nat, readWord8 payload = .ok v ∧ (v : Int) = ratio := by
      obtain ⟨v, hword, hratio⟩ := eq_ok_of_bind hread
      exact ⟨v, hword, Except.ok.inj hratio⟩
    have hle := le_of_readWord8 hword
    exact .unlimited rfl (if_pos (by omega))

end Operand

/-! ### What the encoder refuses -/

namespace Keyword

/-- What the encoder refuses although it is read, whatever the buffer: a
pattern of more marks than the packet holds or of none, and a compression code
above three. -/
inductive Refuses (labels : Labels) (payload : Text) (k : Keyword) : Status → Prop
  | marks {form : PatternForm} (hk : k = form.keyword)
      (hmisfit : ¬ form.Fits (marksIn payload).length) : Refuses labels payload k .invalid
  | code {kind : AddressKind} {a c : Nat} (hk : k = kind.keyword)
      (hread : Operand.readAddressPair (some labels) payload = .ok (a, c)) (hcode : 3 < c) :
      Refuses labels payload k .badIpCompression

/-- What ends a directive whose operands are read: that the encoder refuses
them, or, where it does not, that the packet is longer than the buffer. -/
inductive Limits (labels : Labels) (payload : Text) (k : Keyword) (r : Request) (room : Nat) :
    Status → Prop
  | operands {status : Status} (h : Refuses labels payload k status) :
      Limits labels payload k r room status
  | space (hnone : ∀ status, ¬ Refuses labels payload k status) (hsmall : room < r.size) :
      Limits labels payload k r room .noSpace

variable {labels : Labels} {payload : Text} {k : Keyword} {r : Request} {room : Nat}
  {status status' : Status}

theorem pattern_injective {form form' : PatternForm} (h : form.keyword = form'.keyword) :
    form = form' := by
  cases form with
  | short =>
      cases form' with
      | short => rfl
      | long => cases h
  | long =>
      cases form' with
      | short => cases h
      | long => rfl

theorem pattern_ne_address (form : PatternForm) (kind : AddressKind) :
    form.keyword ≠ kind.keyword := by
  cases form <;> cases kind <;> decide

/-- The operands of an unlimited packet are refused for nothing. -/
theorem not_refuses_of_isUnlimited (hk : k.isUnlimited = true) :
    ¬ Refuses labels payload k status := by
  intro h
  cases h with
  | @marks form hform =>
      subst hform
      cases form <;> cases hk
  | @code kind _ _ hkind =>
      subst hkind
      cases kind <;> cases hk

/-- The encoder has one reason at most to refuse the operands of a directive. -/
theorem Refuses.unique (h : Refuses labels payload k status)
    (h' : Refuses labels payload k status') : status = status' := by
  cases h with
  | marks hk =>
      cases h' with
      | marks => rfl
      | code hk' => exact absurd (hk.symm.trans hk') (pattern_ne_address _ _)
  | code hk =>
      cases h' with
      | marks hk' => exact absurd (hk'.symm.trans hk) (pattern_ne_address _ _)
      | code => rfl

/-- A directive ends with one status at most. -/
theorem Limits.unique (h : Limits labels payload k r room status)
    (h' : Limits labels payload k r room status') : status = status' := by
  cases h with
  | operands h =>
      cases h' with
      | operands h' => exact h.unique h'
      | space hnone => exact absurd h (hnone _)
  | space hnone =>
      cases h' with
      | operands h' => exact absurd h' (hnone _)
      | space => rfl

/-- Of operands that are read, the layout has a packet just if the encoder
does not refuse them. -/
theorem layout_cases (h : Operand.Asked labels payload k r) :
    (∃ status, r.layout = .error status ∧ Refuses labels payload k status) ∨
    (∃ packet, r.layout = .ok packet ∧ ∀ status, ¬ Refuses labels payload k status) := by
  cases h with
  | pattern form bits =>
      obtain ⟨hlaid, hrefused⟩ := form.layout_request bits (marksIn payload).length
      by_cases hfits : form.Fits (marksIn payload).length
      · obtain ⟨packet, hlayout, -⟩ := hlaid hfits
        refine .inr ⟨packet, hlayout, fun status h => ?_⟩
        cases h with
        | @marks form' hform hmisfit =>
            obtain rfl := pattern_injective hform
            exact hmisfit hfits
        | code hkind => exact absurd hkind (pattern_ne_address _ _)
      · exact .inl ⟨.invalid, hrefused hfits, .marks rfl hfits⟩
  | @address kind a c hread =>
      obtain ⟨hlaid, hrefused⟩ := kind.layout_address a c
      by_cases hcode : 3 < c
      · exact .inl ⟨.badIpCompression, hrefused hcode, .code rfl hread hcode⟩
      · obtain ⟨header, body, hlayout, -⟩ := hlaid (Nat.not_lt.mp hcode)
        refine .inr ⟨header :: body, hlayout, fun status h => ?_⟩
        cases h with
        | marks hform => exact absurd hform.symm (pattern_ne_address _ _)
        | code hkind hread' hcode' =>
            rw [hread] at hread'
            cases hread'
            exact hcode hcode'
  | unlimited hk hlayout => exact .inr ⟨_, hlayout, fun _ => not_refuses_of_isUnlimited hk⟩

/-- A directive whose packet is unlimited ends for want of space only. -/
theorem Limits.eq_noSpace (h : Limits labels payload k r room status) (hk : k.isUnlimited = true) :
    status = .noSpace := by
  cases h with
  | operands h => exact absurd h (not_refuses_of_isUnlimited hk)
  | space => rfl

/-- Sixteen octets are space for every packet. -/
theorem not_limits_noSpace (hasked : Operand.Asked labels payload k r) (hroom : 16 ≤ room) :
    ¬ Limits labels payload k r room .noSpace := by
  intro h
  cases h with
  | operands h => cases h
  | space hnone hsmall =>
      obtain ⟨status, -, hrefuses⟩ | ⟨packet, hlayout, -⟩ := layout_cases hasked
      · exact hnone status hrefuses
      · have hsize := Request.size_le_of_layout hlayout
        omega

end Keyword

/-! ### Errors of the encoder -/

/-- No two statuses of the encoder have one number. -/
theorem Status.number_injective {a b : Status} (h : a.number = b.number) : a = b := by
  cases a <;> cases b <;> simp [number] at h ⊢

/-- An error that reports a status of the encoder: it names the directive and
has its place and its line, and the words of the status. -/
structure ScriptError.Reports (e : ScriptError) (d : Directive) (line : ScriptLine)
    (status : Status) : Prop where
  cause : e.cause = .encoder d.name status.number status.text
  message : e.message = "encoder error in directive ".toList ++ d.name ++ " (status ".toList ++
    status.text ++ ")".toList
  location : e.location = some line.location
  sourceLine : e.sourceLine = some line.text

theorem ScriptError.Reports.unique {e : ScriptError} {d : Directive} {line : ScriptLine}
    {status status' : Status} (h : e.Reports d line status) (h' : e.Reports d line status') :
    status = status' := by
  have hcause := h.cause.symm.trans h'.cause
  exact Status.number_injective (Cause.encoder.inj hcause).2.1

namespace Stream

variable {s : Stream Scratch} {line : ScriptLine} {d : Directive} {k : Keyword} {r : Request}

/-- A status that ends a directive is reported as an error that names the
directive, at its place and with its line. -/
theorem exists_reports (hd : d.OnLine line) (status : Status) :
    ∃ e, statusFailure d status = .script e ∧ e.Reports d line status :=
  ⟨_, rfl, rfl, rfl, hd.location, hd.sourceLine⟩

/-- The label of an accepted directive is refused only where the offset does
not fit a word. -/
theorem labelled_of_accepted (hd : d.Accepted s.labels) :
    (∃ labels, s.labelled d = .ok labels) ∨
    ∃ name ∈ d.label, wordCount ≤ s.offset ∧
      s.labelled d = .error (.internal (.addressTooWide name s.offset)) := by
  by_cases hshort : s.offset < wordCount
  · exact .inl ⟨_, labelled_of_new fun name hname => ⟨hd.label name hname, hshort⟩⟩
  · cases hlabel : d.label with
    | none => exact .inl ⟨s.labels, by rw [labelled, hlabel]⟩
    | some name =>
        have hwide : ¬ (0 ≤ (s.offset : Int) ∧ (s.offset : Int) < wordCount) := by omega
        have hdefine := Labels.define_of_wide (hd.label name hlabel) hwide
        refine .inr ⟨name, rfl, Nat.not_lt.mp hshort, ?_⟩
        rw [labelled, hlabel]
        simp only [hdefine]
        rfl

/-- A directive whose operands are read ends with the status that limits it,
and without one its label decides. -/
theorem dispatch_cases (hname : d.name = k.text)
    (hread : Operand.request? s.labels d.payload k = some (.ok r)) :
    (∃ status, k.Limits s.labels d.payload r s.encoder.size status ∧
      (s.dispatch ptEncoder d).1 = .error (statusFailure d status)) ∨
    ((∀ status, ¬ k.Limits s.labels d.payload r s.encoder.size status) ∧
      (∀ f, s.labelled d = .error f → (s.dispatch ptEncoder d).1 = .error f) ∧
      ∀ labels, s.labelled d = .ok labels →
        ∃ emission, (s.dispatch ptEncoder d).1 = .ok emission) := by
  have hasks : s.Asks d (.ok r) := .keyword hname hread
  obtain ⟨status, hlayout, hrefuses⟩ | ⟨packet, hlayout, hnone⟩ :=
    Keyword.layout_cases (Operand.asked_of_request hread)
  · exact .inl ⟨status, .operands hrefuses, by rw [dispatch_of_status hasks hlayout]⟩
  · have hlength := Request.length_of_layout hlayout
    by_cases hroom : packet.length ≤ s.encoder.size
    · obtain ⟨after, hdispatch⟩ := dispatch_of_layout hasks hlayout hroom
      refine .inr ⟨fun status h => ?_, fun f hlabelled => ?_, fun labels hlabelled => ?_⟩
      · cases h with
        | operands h => exact hnone status h
        | space _ hsmall => omega
      · rw [hdispatch, hlabelled]
      · rw [hdispatch, hlabelled]
        exact ⟨_, rfl⟩
    · have hsmall := Nat.lt_of_not_le hroom
      exact .inl ⟨.noSpace, .space hnone (hlength ▸ hsmall),
        by rw [dispatch_of_small hasks hlayout hsmall]⟩

/-- Each status that limits a directive is what it ends with. -/
theorem dispatch_of_limits (hname : d.name = k.text)
    (hread : Operand.request? s.labels d.payload k = some (.ok r)) {status : Status}
    (h : k.Limits s.labels d.payload r s.encoder.size status) :
    (s.dispatch ptEncoder d).1 = .error (statusFailure d status) := by
  obtain ⟨status', h', hdispatch⟩ | ⟨hnone, -⟩ := dispatch_cases hname hread
  · rwa [h.unique h']
  · exact absurd h (hnone status)

/-- A directive that fails is limited by the status that it reports, or its
label finds the offset too wide. -/
theorem limits_of_error {f : Failure} (haccepted : Directive.ofLine s.labels line = .ok d)
    (hname : d.name = k.text) (hread : Operand.request? s.labels d.payload k = some (.ok r))
    (h : (s.dispatch ptEncoder d).1 = .error f) :
    (∃ e status, f = .script e ∧ e.Reports d line status ∧
      k.Limits s.labels d.payload r s.encoder.size status) ∨
    ∃ name ∈ d.label, wordCount ≤ s.offset ∧ f = .internal (.addressTooWide name s.offset) := by
  obtain ⟨status, hlimits, hdispatch⟩ | ⟨-, hrefused, hmade⟩ := dispatch_cases hname hread
  · obtain ⟨e, hfailure, hreports⟩ := exists_reports (Directive.onLine_of_ofLine haccepted) status
    have hsame : f = statusFailure d status := Except.error.inj (h.symm.trans hdispatch)
    exact .inl ⟨e, status, hsame.trans hfailure, hreports, hlimits⟩
  · obtain ⟨labels, hlabels⟩ | ⟨name, hlabel, hwide, hlabels⟩ :=
      labelled_of_accepted (Directive.accepted_of_ofLine haccepted)
    · obtain ⟨emission, hdispatch⟩ := hmade labels hlabels
      cases h.symm.trans hdispatch
    · have hdispatch := hrefused _ hlabels
      exact .inr ⟨name, hlabel, hwide, Except.error.inj (h.symm.trans hdispatch)⟩

/-- **Reader and encoder fit together.**  Let a line be read as a directive,
and the operands of that as a request.  The packet encoder, with a buffer of
any size, refuses the directive with a status just if the status limits it:
for its operands if it is a pattern that does not fit its packet or an address
with a code above three, and otherwise where the packet is longer than the
buffer.  The error has the name and the place of the directive and the words
of just that status, and no directive fails otherwise, unless its label finds
the offset too wide for a word.  The packets that are neither patterns nor
addresses fail for want of space only, and with sixteen octets there is space
for all. -/
theorem dispatch_limited (s : Stream Scratch) (line : ScriptLine) (d : Directive) (k : Keyword)
    (r : Request) (haccepted : Directive.ofLine s.labels line = .ok d) (hname : d.name = k.text)
    (hread : Operand.request? s.labels d.payload k = some (.ok r)) :
    let outcome := (s.dispatch ptEncoder d).1
    let limits := k.Limits s.labels d.payload r s.encoder.size
    (∀ status, (∃ e, outcome = .error (.script e) ∧ e.Reports d line status) ↔ limits status) ∧
    (∀ f, outcome = .error f →
      (∃ e status, f = .script e ∧ e.Reports d line status) ∨
      ∃ name ∈ d.label, wordCount ≤ s.offset ∧ f = .internal (.addressTooWide name s.offset)) ∧
    (k.isUnlimited = true → ∀ e, outcome = .error (.script e) → e.Reports d line .noSpace) ∧
    (16 ≤ s.encoder.size →
      (∀ e, outcome = .error (.script e) → ¬ e.Reports d line .noSpace) ∧
      (k.isUnlimited = true → s.offset < wordCount → ∃ emission, outcome = .ok emission)) := by
  intro outcome limits
  -- an error reports one status only, so the one it has is the limit that was broken
  have hlimits (e : ScriptError) (status : Status) (h : outcome = .error (.script e))
      (hreports : e.Reports d line status) : limits status := by
    obtain ⟨e', status', hsame, hreports', hlimits⟩ | ⟨name, -, -, hfault⟩ :=
      limits_of_error haccepted hname hread h
    · cases hsame
      rwa [hreports.unique hreports']
    · cases hfault
  have hspace (hk : k.isUnlimited = true) (e : ScriptError) (h : outcome = .error (.script e)) :
      e.Reports d line .noSpace := by
    obtain ⟨e', status, hsame, hreports, hlimits⟩ | ⟨name, -, -, hfault⟩ :=
      limits_of_error haccepted hname hread h
    · cases hsame
      rwa [hlimits.eq_noSpace hk] at hreports
    · cases hfault
  have hroom (hsize : 16 ≤ s.encoder.size) (e : ScriptError) (h : outcome = .error (.script e)) :
      ¬ e.Reports d line .noSpace := fun hreports =>
    Keyword.not_limits_noSpace (Operand.asked_of_request hread) hsize
      (hlimits e .noSpace h hreports)
  refine ⟨fun status => ⟨?_, fun h => ?_⟩, fun f h => ?_, hspace,
    fun hsize => ⟨hroom hsize, fun hk hshort => ?_⟩⟩
  · rintro ⟨e, h, hreports⟩
    exact hlimits e status h hreports
  · have hline := Directive.onLine_of_ofLine haccepted
    obtain ⟨e, hfailure, hreports⟩ := exists_reports hline status
    exact ⟨e, (dispatch_of_limits hname hread h).trans (congrArg Except.error hfailure), hreports⟩
  · obtain ⟨e, status, hfailure, hreports, -⟩ | hwide := limits_of_error haccepted hname hread h
    · exact .inl ⟨e, status, hfailure, hreports⟩
    · exact .inr hwide
  · cases houtcome : outcome with
    | ok emission => exact ⟨emission, rfl⟩
    | error f =>
        obtain ⟨e, status, rfl, -⟩ | ⟨name, -, hwide, -⟩ :=
          limits_of_error haccepted hname hread houtcome
        · exact absurd (hspace hk e houtcome) (hroom hsize e houtcome)
        · omega

/-- A long packet holds no more than 47 marks, and the encoder finds that
there are more before it finds that its buffer of one octet is too small for
any long packet. -/
theorem dispatch_limited_small_buffer :
    let s : Stream Scratch := ⟨⟨.empty, .empty⟩, 0, Scratch.zeros 1⟩
    let marks := "nnnnnnnnnnnn.nnnnnnnnnnnn nnnnnnnnnnnn.nnnnnnnnnnnn".toList
    let line := ScriptLine.ofText "t.asm".toList 3 ("; @pt l: tnt64(".toList ++ marks ++ [')'])
    let d : Directive := ⟨"tnt64".toList, marks, some ['l'], some line.location, some line.text⟩
    Directive.ofLine s.labels line = .ok d ∧ d.name = Keyword.tnt64.text ∧
    Operand.request? s.labels d.payload .tnt64 = some (.ok (.tnt64 0 48)) ∧
    ∃ e, (s.dispatch ptEncoder d).1 = .error (.script e) ∧ e.Reports d line .invalid ∧
      e.message = "encoder error in directive tnt64 (status invalid argument)".toList := by
  intro s marks line d
  have haccepted : Directive.ofLine s.labels line = .ok d := by decide +kernel
  have hread : Operand.request? s.labels d.payload .tnt64 = some (.ok (.tnt64 0 48)) := by
    decide +kernel
  obtain ⟨hstatus, -⟩ := dispatch_limited s line d .tnt64 (.tnt64 0 48) haccepted rfl hread
  have hform : Keyword.tnt64 = PatternForm.long.keyword := rfl
  have hmisfit : ¬ PatternForm.long.Fits (marksIn d.payload).length := by decide +kernel
  have hlimits : Keyword.tnt64.Limits s.labels d.payload (.tnt64 0 48) 1 .invalid :=
    .operands (.marks hform hmisfit)
  obtain ⟨e, houtcome, hreports⟩ := (hstatus .invalid).mpr hlimits
  exact ⟨haccepted, rfl, hread, e, houtcome, hreports, hreports.message⟩

end Stream
end TraceScript
