import TraceScript.Proofs.Error.Textual
import TraceScript.Proofs.Stream.Pieces

/-!
# The place of a failure

The readers of operands and placeholders know no place, and what they fail with
is unplaced.  The callers of a reader know the line, and attach its location and
its text in a context.  So a line that is dispatched fails, if at all, with a
failure of that line (`Failure.OfLine`, `Stream.located_dispatchLine`): each error
either is made with the place of the line, or comes unplaced from a reader and
passes through one context.
-/

namespace TraceScript

/-- A failure for which a line is at fault, at the place and with the text of
the line; or an invariant that does not hold. -/
inductive Failure.OfLine (line : ScriptLine) : Failure → Prop
  | placed (e : ScriptError) (hlocation : e.location = some line.location)
      (hsource : e.sourceLine = some line.text) (hfound : e.cause.IsFound) :
      OfLine line (.script e)
  | longDecimal (size : Nat) (hlong : ∃ t, line.Holds t ∧ t.HoldsLongDecimal size) :
      OfLine line (.value (.longDecimal size))
  | fault (i : InternalFault) : OfLine line (.internal i)

/-- Reading a line fails, if at all, with a failure of that line. -/
def Located {α : Type} (line : ScriptLine) (r : Except Failure α) : Prop :=
  ∀ f, r = .error f → f.OfLine line

section Located

variable {α β : Type} {line : ScriptLine} {t : Text} {r : Except Failure α}

theorem located_ok (a : α) : Located line (.ok a) := by
  intro f h
  cases h

/-- A failure of the line is one that reading the line may end with. -/
theorem located_error {f : Failure} (h : f.OfLine line) : Located (α := α) line (.error f) := by
  rintro g ⟨⟩
  exact h

/-- Two operations in sequence fail with a failure of the line if each of them
does; the second one may rely on what the first one has found. -/
theorem Located.bind {g : α → Except Failure β} (h : Located line r)
    (hg : ∀ a, r = .ok a → Located line (g a)) : Located line (r >>= g) := by
  cases r with
  | error f => exact located_error (h f rfl)
  | ok a => exact hg a rfl

/-- A bare failure of a text that the line holds becomes a failure of the line
in a context with the place and the text of the line. -/
theorem Failure.Bare.ofLine {f : Failure} (h : f.Bare t) (ht : line.Holds t) (note : Text) :
    (f.inContext ⟨some line.location, some line.text, note⟩).OfLine line := by
  cases h with
  | cause c hfound => exact .placed _ rfl rfl hfound
  | longDecimal size hlong => exact .longDecimal size ⟨t, ht, hlong⟩

/-- What is unplaced gets the place of the line from its context. -/
theorem Unplaced.located (h : Unplaced t r) (ht : line.Holds t) (note : Text) :
    Located line (inContext ⟨some line.location, some line.text, note⟩ r) := by
  cases r with
  | error f => exact located_error ((h f rfl).ofLine ht note)
  | ok a => exact located_ok a

/-- A sequence of two operations that succeeds is made of two that succeed. -/
theorem eq_ok_of_bind {ε : Type} {r : Except ε α} {g : α → Except ε β} {b : β}
    (h : (r >>= g) = .ok b) : ∃ a, r = .ok a ∧ g a = .ok b := by
  cases r with
  | error e => cases h
  | ok a => exact ⟨a, rfl, h⟩

/-- A mapped operation that succeeds is one that succeeds, with the result
mapped. -/
theorem eq_ok_of_map {ε : Type} {r : Except ε α} {g : α → β} {b : β} (h : r.map g = .ok b) :
    ∃ a, r = .ok a ∧ g a = b := by
  cases r with
  | error e => cases h
  | ok a => exact ⟨a, rfl, Except.ok.inj h⟩

end Located

/-! ### Operands -/

namespace Operand

variable {t : Text}

/-- A refused operand is a reading that fails, whatever it was to be read as. -/
theorem reading_refuse {α : Type} {cause : Cause} (hread : cause.IsRead) :
    Reading (α := α) t (refuse cause) :=
  reading_cause hread

/-- A payload that has to be empty is refused for what stands in it. -/
theorem reading_readEmpty (payload : Text) : Reading t (readEmpty payload) := by
  simp only [readEmpty]
  split
  · exact reading_ok ()
  · exact reading_refuse trivial

/-- The marks of a pattern are read one by one; the fillers between them are
skipped, and any other character is refused. -/
theorem reading_patternBits (pattern : Text) : Reading t (patternBits pattern) := by
  induction pattern with
  | nil => exact reading_ok []
  | cons c rest ih =>
      unfold patternBits
      split
      · exact ih
      split
      · exact ih.map _
      split
      · exact ih.map _
      · exact reading_refuse trivial

/-- A pattern is refused for a character in it, or because it has too many
marks. -/
theorem reading_readPattern (payload : Text) : Reading t (readPattern payload) := by
  refine (reading_patternBits payload).bind fun bits => ?_
  split
  · exact reading_refuse trivial
  · exact reading_ok _

/-- A compression code is a literal, and is refused where no octet holds it. -/
theorem reading_readCompression (token : Text) : Reading token (readCompression token) := by
  refine (reading_readWord token).bind fun code => ?_
  split
  · exact reading_refuse trivial
  · exact reading_ok code

/-- An address is the address of a label behind a per cent sign, or else a
literal; without a table, a label is refused. -/
theorem reading_readAddress (labels : Option Labels) (token : Text) :
    Reading token (readAddress labels token) := by
  unfold readAddress
  split
  · split
    · exact reading_refuse trivial
    · exact (reading_resolve _ _).map _
  · exact reading_readWord _

/-- The operands of an address packet are tokens of its payload, so what is
wrong with one of them stands in the payload. -/
theorem reading_readAddressPair (labels : Option Labels) (payload : Text) :
    Reading payload (readAddressPair labels payload) := by
  unfold readAddressPair
  split
  · exact reading_refuse trivial
  · rename_i first more htokens
    have hfirst : first <:+: payload := infix_of_mem_tokens (by rw [htokens]; simp)
    refine ((reading_readCompression first).mono hfirst).bind fun code => ?_
    split
    · exact reading_refuse trivial
    · rename_i second rest
      have hsecond : second <:+: payload := infix_of_mem_tokens (by rw [htokens]; simp)
      refine ((reading_readAddress labels second).mono hsecond).bind fun address => ?_
      split
      · exact reading_ok _
      · exact reading_refuse trivial

/-- An execution mode is refused unless it is one of the three. -/
theorem reading_readExecMode (payload : Text) : Reading t (readExecMode payload) := by
  simp only [readExecMode]
  split
  · exact reading_ok _
  split
  · exact reading_ok _
  split
  · exact reading_ok _
  · exact reading_refuse trivial

theorem reading_readTsxState (payload : Text) : Reading t (readTsxState payload) := by
  simp only [readTsxState]
  split
  · exact reading_ok _
  split
  · exact reading_ok _
  split
  · exact reading_ok _
  · exact reading_refuse trivial

/-- A word is a single literal of any size, and no more may stand in its
payload. -/
theorem reading_readWord64 (payload : Text) : Reading payload (readWord64 payload) := by
  unfold readWord64
  split
  · exact reading_refuse trivial
  · rename_i token htokens
    have hpart : token <:+: payload := infix_of_mem_tokens (by rw [htokens]; simp)
    exact (reading_readWord token).mono hpart
  · exact reading_refuse trivial

/-- A word of eight bits is read as any word, and refused where it does not
fit. -/
theorem reading_readWord8 (payload : Text) : Reading payload (readWord8 payload) := by
  refine (reading_readWord64 payload).bind fun v => ?_
  split
  · exact reading_refuse trivial
  · exact reading_ok v

/-- Whatever a directive asks for, its operands are no more than read. -/
theorem reading_request {labels : Labels} {payload : Text} {keyword : Keyword}
    {r : Except Failure Request} (h : request? labels payload keyword = some r) :
    Reading payload r := by
  cases keyword <;> cases h
  case psb | psbend | pad | ovf => exact (reading_readEmpty payload).map _
  case tnt | tnt64 => exact (reading_readPattern payload).map _
  case tip | tipPge | tipPgd | fup => exact (reading_readAddressPair _ payload).map _
  case modeExec => exact (reading_readExecMode payload).map _
  case modeTsx => exact (reading_readTsxState payload).map _
  case pip | tsc => exact ((reading_readWord64 payload).bind fun v => reading_ok _).map _
  case cbr => exact ((reading_readWord8 payload).bind fun v => reading_ok _).map _

end Operand

/-! ### Labels -/

/-- Nobody has placed the failure for a label that stands in one of the tables
already. -/
theorem Labels.unplaced_checkUnique {t : Text} (labels : Labels) (name : Text) :
    Unplaced t (labels.checkUnique name) := by
  unfold checkUnique
  split
  · exact unplaced_cause trivial
  split
  · exact unplaced_cause trivial
  · exact unplaced_ok ()

/-- A label that is refused is refused for the line; a fault has no place. -/
theorem Labels.located_define (labels : Labels) (name : Text) (address : Int) (line : ScriptLine)
    (note : Text) :
    Located line (inContext ⟨some line.location, some line.text, note⟩
      (labels.define name address)) := by
  obtain ⟨-, origin, hdefine⟩ | ⟨-, hdefine⟩ | ⟨-, hdefine⟩ := labels.define_outcomes name address
  · rw [hdefine]
    exact Unplaced.located (unplaced_cause (by trivial)) line.holds_nil note
  · rw [hdefine]
    exact located_ok _
  · rw [hdefine]
    exact located_error (.fault _)

/-! ### Directives -/

namespace Directive

/-- A directive of a line knows the line's place and text, and what it is made
of stands in the text of the line's directive. -/
structure OnLine (d : Directive) (line : ScriptLine) : Prop where
  location : d.location = some line.location
  sourceLine : d.sourceLine = some line.text
  parts : ∃ t ∈ line.directive, (∀ name ∈ d.label, name <:+: t) ∧ d.payload <:+: t

variable {line : ScriptLine} {d : Directive} {labels : Labels}

/-- A directive that is made of a line attaches the place and the text of that
line. -/
theorem OnLine.context_eq (h : d.OnLine line) (note : Text) :
    d.context note = ⟨some line.location, some line.text, note⟩ := by
  rw [context, h.location, h.sourceLine]

/-- The payload of a directive that is made of a line stands on the line. -/
theorem OnLine.holds_payload (h : d.OnLine line) : line.Holds d.payload := by
  obtain ⟨t, ht, -, hpayload⟩ := h.parts
  exact .inr ⟨t, ht, hpayload⟩

/-- What is wrong with the parentheses of a payload is found in the script. -/
theorem isFound_of_payloadOf {name rest : Text} {cause : Cause}
    (h : payloadOf name rest = .error cause) : cause.IsFound := by
  unfold payloadOf at h
  split at h
  · split at h
    · cases h
      trivial
    · split at h <;> cases h
      trivial
  · cases h

/-- Taking the directive of a line apart fails, if at all, at the place of the
line. -/
theorem located_split (t : Text) :
    Located line (split t (some line.location) (some line.text)) := by
  simp only [split]
  split
  · rename_i hpayload
    exact located_error (.placed _ rfl rfl (isFound_of_payloadOf hpayload))
  · exact located_ok _

/-- What the directive of a line is taken apart into is made of that line. -/
theorem onLine_of_split {t : Text} (ht : line.directive = some t)
    (h : split t (some line.location) (some line.text) = .ok d) : d.OnLine line := by
  have hparts := parts_of_split h
  simp only [split] at h
  split at h
  · cases h
  · cases h
    exact ⟨rfl, rfl, t, ht, hparts⟩

/-- A label that stands in a table already is reported at the line that would
define it again. -/
theorem located_checkLabel (label : Option Text) : Located line (checkLabel labels line label) := by
  cases label with
  | none => exact located_ok ()
  | some name => exact (labels.unplaced_checkUnique name).located line.holds_nil _

/-- A name that is no directive is reported at its line. -/
theorem located_checkName (name : Text) : Located line (checkName line name) := by
  unfold checkName
  split
  · exact located_error (.placed _ rfl rfl trivial)
  split
  · exact located_error (.placed _ rfl rfl trivial)
  · exact located_ok ()

/-- Reading the directive of a line, with all that is checked of it, fails
with a failure of the line. -/
theorem located_ofLine : Located line (ofLine labels line) := by
  unfold ofLine
  split
  · exact located_error (.placed _ rfl rfl trivial)
  · refine (located_split _).bind fun d _ => ?_
    refine (located_checkLabel d.label).bind fun _ _ => ?_
    exact (located_checkName d.name).bind fun _ _ => located_ok d

/-- What is read of a line has been split from its text. -/
theorem split_of_ofLine (h : ofLine labels line = .ok d) :
    ∃ t, line.directive = some t ∧ split t (some line.location) (some line.text) = .ok d := by
  unfold ofLine at h
  split at h
  · cases h
  · rename_i t ht
    obtain ⟨d', hsplit, h⟩ := eq_ok_of_bind h
    obtain ⟨-, -, h⟩ := eq_ok_of_bind h
    obtain ⟨-, -, h⟩ := eq_ok_of_bind h
    cases h
    exact ⟨t, ht, hsplit⟩

/-- A line that is read makes a directive of that line. -/
theorem onLine_of_ofLine (h : ofLine labels line = .ok d) : d.OnLine line := by
  obtain ⟨t, ht, hsplit⟩ := split_of_ofLine h
  exact onLine_of_split ht hsplit

end Directive

/-! ### Streams -/

namespace Stream

variable {σ : Type} {line : ScriptLine} {d : Directive}

/-- An operand that cannot be read is reported at the line of its directive,
also when it is a label that is not defined. -/
theorem located_readRequest (s : Stream σ) (hd : d.OnLine line) :
    Located line (s.readRequest d) := by
  unfold readRequest
  split
  · exact located_error (.fault _)
  · rename_i hrequest
    rw [hd.context_eq]
    obtain ⟨keyword, -, hkeyword⟩ := Option.bind_eq_some_iff.mp hrequest
    exact (Operand.reading_request hkeyword).unplaced.located hd.holds_payload _

/-- A status of the encoder is reported at the line of the directive, and a
count that cannot be right is an internal fault. -/
theorem located_judge (answer : Int) (buffer : Scratch) (hd : d.OnLine line) :
    Located line (judge d answer buffer) := by
  unfold judge
  split
  · exact located_error (.placed _ hd.location hd.sourceLine trivial)
  split
  · exact located_error (.fault _)
  · exact located_ok _

/-- A label that cannot be defined is reported at the line that defines it. -/
theorem located_labelled (s : Stream σ) (hd : d.OnLine line) : Located line (s.labelled d) := by
  unfold labelled
  split
  · exact located_ok _
  · rw [hd.context_eq]
    exact s.labels.located_define _ s.offset line []

/-- The end of the packets may define a label, and fails as that does. -/
theorem located_finish (s : Stream σ) (hd : d.OnLine line) : Located line (s.finish d).1 := by
  unfold finish
  rw [hd.context_eq]
  split
  · rename_i hdefine
    exact located_error (s.labels.located_define endLabel s.offset line _ _ hdefine)
  · exact located_ok _

/-- Emitting a packet fails as one of its steps does: reading the operands,
the encoder's answer, and the definition of the label. -/
theorem located_emit (e : Encoder σ) (s : Stream σ) (hd : d.OnLine line) :
    Located line (s.emit e d).1 := by
  unfold emit
  split
  · rename_i hrequest
    exact located_error (s.located_readRequest hd _ hrequest)
  · simp only
    split
    · rename_i hjudge
      exact located_error (located_judge _ _ hd _ hjudge)
    split
    · rename_i hlabelled
      exact located_error (located_labelled _ hd _ hlabelled)
    · exact located_ok _

/-- A directive is dispatched with a failure of its line, whichever keyword it
has. -/
theorem located_dispatch (e : Encoder σ) (s : Stream σ) (hd : d.OnLine line) :
    Located line (s.dispatch e d).1 := by
  unfold dispatch
  split
  · exact s.located_finish hd
  · exact located_emit e s hd

/-- A line that cannot be dispatched is refused at its own place. -/
theorem located_dispatchLine (s : Stream σ) (e : Encoder σ) (line : ScriptLine) :
    Located line (s.dispatchLine e line).1 := by
  unfold dispatchLine
  split
  · rename_i hline
    exact located_error (Directive.located_ofLine _ hline)
  · rename_i hline
    exact located_dispatch e s (Directive.onLine_of_ofLine hline)

end Stream
end TraceScript
