import TraceScript.Proofs.Label.Growth
import TraceScript.Proofs.Script.Part
import TraceScript.Stream

/-!
# Labels that a text does not mention

A text mentions the names that stand in it, and the name of the end, which a
terminator brings along (`Mentions`).  Two scopes are alike for a text if they
differ in assembly labels that it does not mention only (`Labels.Alike`).

What is read in such a text has the same answer in both scopes
(`SameAnswer`): the same result, or failures that differ at most in the names
that the hint offers for a misspelt one (`Failure.SameButHint`), since these
are looked for in the whole tables.
-/

namespace TraceScript

/-! ### Answers but for a hint -/

/-- Two script errors tell the same, but for their hints. -/
structure ScriptError.SameButHint (e e' : ScriptError) : Prop where
  kind : e.kind = e'.kind
  code : e.code = e'.code
  location : e.location = e'.location
  sourceLine : e.sourceLine = e'.sourceLine
  message : e.message = e'.message

/-- A context leaves two errors the same but for their hints. -/
theorem ScriptError.SameButHint.inContext {e e' : ScriptError} (h : e.SameButHint e')
    (c : Context) : (e.inContext c).SameButHint (e'.inContext c) where
  kind := h.kind
  code := h.code
  location := by simp only [ScriptError.inContext, h.location]
  sourceLine := by simp only [ScriptError.inContext, h.location, h.sourceLine]
  message := by rw [message_inContext, message_inContext, h.message]

/-- Two failures are the same, or script errors that are but for their hints. -/
inductive Failure.SameButHint : Failure → Failure → Prop
  | refl (f : Failure) : SameButHint f f
  | script {e e' : ScriptError} (h : e.SameButHint e') : SameButHint (.script e) (.script e')

/-- Two script errors that are the same failure but for the hint are so as
errors. -/
theorem Failure.SameButHint.of_script {e e' : ScriptError}
    (h : (Failure.script e).SameButHint (.script e')) : e.SameButHint e' := by
  cases h with
  | refl => exact ⟨rfl, rfl, rfl, rfl, rfl⟩
  | script h => exact h

/-- A context leaves two failures the same but for their hints. -/
theorem Failure.SameButHint.inContext {f g : Failure} (h : f.SameButHint g) (c : Context) :
    (f.inContext c).SameButHint (g.inContext c) := by
  cases h with
  | refl => exact .refl _
  | script h => exact .script (h.inContext c)

/-- Two answers are related results, or the same failure but for a hint. -/
inductive SameAnswer {α β : Type} (R : α → β → Prop) : Except Failure α → Except Failure β → Prop
  | ok {a : α} {b : β} (h : R a b) : SameAnswer R (.ok a) (.ok b)
  | error {f g : Failure} (h : f.SameButHint g) : SameAnswer R (.error f) (.error g)

section SameAnswer

variable {α β : Type} {x y : Except Failure α}

/-- Every operation has the same answer as itself. -/
theorem SameAnswer.rfl : SameAnswer Eq x x := by
  cases x with
  | error f => exact .error (.refl f)
  | ok a => exact .ok (Eq.refl a)

/-- Two operations with the same answer both fail, or both succeed with
related results. -/
theorem SameAnswer.cases {γ : Type} {R : α → γ → Prop} {z : Except Failure γ}
    (h : SameAnswer R x z) :
    (∃ f g, x = .error f ∧ z = .error g ∧ f.SameButHint g) ∨
    (∃ a c, x = .ok a ∧ z = .ok c ∧ R a c) := by
  cases h with
  | error h => exact .inl ⟨_, _, Eq.refl _, Eq.refl _, h⟩
  | ok h => exact .inr ⟨_, _, Eq.refl _, Eq.refl _, h⟩

/-- The same answers are mapped to the same answers. -/
theorem SameAnswer.map (h : SameAnswer Eq x y) (g : α → β) :
    SameAnswer Eq (x.map g) (y.map g) := by
  cases h with
  | error h => exact .error h
  | ok h => exact .ok (congrArg g h)

/-- Operations with the same answers go on with the same answers. -/
theorem SameAnswer.bind {g g' : α → Except Failure β} (h : SameAnswer Eq x y)
    (hg : ∀ a, SameAnswer Eq (g a) (g' a)) : SameAnswer Eq (x >>= g) (y >>= g') := by
  cases h with
  | error h => exact .error h
  | ok h =>
      subst h
      exact hg _

/-- In a context, the same answers are the same. -/
theorem SameAnswer.inContext {γ : Type} {R : α → γ → Prop} {z : Except Failure γ}
    (h : SameAnswer R x z) (c : Context) :
    SameAnswer R (TraceScript.inContext c x) (TraceScript.inContext c z) := by
  cases h with
  | error h => exact .error (h.inContext c)
  | ok h => exact .ok h

end SameAnswer

/-! ### Scopes -/

/-- A name that a run over a text may look up. -/
def Mentions (text name : Text) : Prop :=
  name = endLabel ∨ name <:+: text

instance (text name : Text) : Decidable (Mentions text name) :=
  inferInstanceAs (Decidable (name = endLabel ∨ name <:+: text))

namespace LabelTable

variable {a b : LabelTable} {name : Text} {address : Nat}

/-- Where no name stands twice, each stands for the address it stands with.
So the order of such a table does not matter to what is found in it. -/
theorem find?_eq_some_iff (h : a.names.Nodup) :
    a.find? name = some address ↔ (name, address) ∈ a.entries := by
  obtain ⟨entries⟩ := a
  unfold find?
  induction entries with
  | nil => simp
  | cons entry rest ih =>
      obtain ⟨first, value⟩ := entry
      obtain ⟨hfirst, hrest⟩ := List.nodup_cons.mp h
      rw [List.lookup_cons]
      by_cases hname : name = first
      · subst hname
        have hnew : (name, address) ∉ rest := fun hmem =>
          hfirst (List.mem_map.mpr ⟨(name, address), hmem, rfl⟩)
        simp [hnew, eq_comm]
      · rw [beq_eq_false_iff_ne.mpr hname]
        simpa [hname] using ih hrest

/-- In tables with the same labels of a name, in any order, it stands for the
same. -/
theorem find?_eq_of_entries (ha : a.Assembled) (hb : b.Assembled)
    (h : ∀ address, (name, address) ∈ a.entries ↔ (name, address) ∈ b.entries) :
    a.find? name = b.find? name := by
  apply Option.ext
  intro address
  rw [find?_eq_some_iff ha.nodup, find?_eq_some_iff hb.nodup, h address]

end LabelTable

namespace Labels

/-- Two scopes differ in assembly labels that a text does not mention only. -/
structure Alike (text : Text) (l m : Labels) : Prop where
  assembly : ∀ name, Mentions text name → l.assembly.find? name = m.assembly.find? name
  directive : l.directive = m.directive

variable {text name : Text} {l m : Labels}

/-- A name that the text mentions is checked alike: it stands in both tables
of assembly labels or in neither, and the directive labels are the same. -/
theorem Alike.checkUnique (h : l.Alike text m) (hname : Mentions text name) :
    l.checkUnique name = m.checkUnique name := by
  unfold Labels.checkUnique LabelTable.contains
  rw [h.assembly name hname, h.directive]

/-- A label is defined in both scopes, which stay alike, or refused in both. -/
theorem Alike.define (h : l.Alike text m) (hname : Mentions text name) (address : Int) :
    SameAnswer (Alike text) (l.define name address) (m.define name address) := by
  unfold Labels.define
  rw [h.checkUnique hname, h.directive]
  cases m.checkUnique name with
  | error f => exact .error (.refl f)
  | ok _ =>
      cases m.directive.append name address with
      | error f => exact .error (.refl f)
      | ok t => exact .ok ⟨h.assembly, rfl⟩

/-- A name stands for the same in both scopes; if it stands for nothing, other
names may be offered for it. -/
theorem Alike.resolve (h : l.Alike text m) (hname : Mentions text name) :
    SameAnswer Eq (l.resolve name) (m.resolve name) := by
  unfold Labels.resolve resolveFrom
  simp only [table, other, h.assembly name hname, h.directive]
  cases m.assembly.find? name with
  | some address => exact .rfl
  | none =>
      cases m.directive.find? name with
      | some address => exact .rfl
      | none => exact .error (.script ⟨rfl, rfl, rfl, rfl, rfl⟩)

end Labels

/-! ### What is read in the text -/

variable {text t payload : Text} {l m : Labels}

namespace Operand

/-- A token of the text names a label that is looked up alike. -/
theorem same_readAddress {token : Text} (h : l.Alike text m) (htoken : token <:+: text) :
    SameAnswer Eq (readAddress (some l) token) (readAddress (some m) token) := by
  unfold readAddress
  split
  · rename_i name
    have hname : name <:+: text := (List.suffix_cons '%' name).isInfix.trans htoken
    exact (h.resolve (.inr hname)).map _
  · exact .rfl

/-- So both operands of an address packet are read alike.  The code refers to
no label, and the address stands in the text. -/
theorem same_readAddressPair (h : l.Alike text m) (hpayload : payload <:+: text) :
    SameAnswer Eq (readAddressPair (some l) payload) (readAddressPair (some m) payload) := by
  have htokens : ∀ token ∈ tokens " \t:".toList payload, token <:+: text := by
    intro token htoken
    exact (infix_of_mem_tokens htoken).trans hpayload
  unfold readAddressPair
  split
  · exact .rfl
  · rename_i first more hsplit
    refine SameAnswer.rfl.bind fun code => ?_
    split
    · exact .rfl
    · rename_i second rest
      have hsecond : second <:+: text := htokens second (by rw [hsplit]; simp)
      exact (same_readAddress h hsecond).bind fun address => .rfl

/-- A directive asks for the same in both scopes: of all operands only an
address may name a label. -/
theorem same_request (h : l.Alike text m) (hpayload : payload <:+: text) (keyword : Keyword) :
    Option.Rel (SameAnswer Eq) (request? l payload keyword) (request? m payload keyword) := by
  cases keyword
  case exp => exact .none
  case tip | tipPge | tipPgd | fup => exact .some ((same_readAddressPair h hpayload).map _)
  all_goals exact .some .rfl

end Operand

/-- A line carries the same directive in both scopes.  Of the scope only the
names are looked at, and the label of the line is mentioned in the text. -/
theorem Directive.ofLine_eq {line : ScriptLine} (h : l.Alike text m) (hline : line.Within text) :
    ofLine l line = ofLine m line := by
  unfold ofLine
  split
  · rfl
  · rename_i t hdirective
    cases hsplit : split t (some line.location) (some line.text) with
    | error f => rfl
    | ok d =>
        have hlabel : checkLabel l line d.label = checkLabel m line d.label := by
          cases hname : d.label with
          | none => rfl
          | some name =>
              have hpart : name <:+: text :=
                ((parts_of_split hsplit).1 name hname).trans (hline.directive t hdirective)
              simp only [checkLabel, h.checkUnique (.inr hpart)]
        show (checkLabel l line d.label >>= _) = (checkLabel m line d.label >>= _)
        rw [hlabel]

/-- A placeholder of the text shows the same address. -/
theorem same_readPlaceholder (h : l.Alike text m) (ht : t <:+: text) :
    SameAnswer Eq (readPlaceholder l t) (readPlaceholder m t) := by
  unfold readPlaceholder
  cases hread : Reference.read t with
  | error cause => exact .rfl
  | ok found =>
      obtain ⟨r, rest⟩ := found
      have hlabel : r.label <:+: text := (Reference.parts_of_read hread).1.trans ht
      obtain ⟨f, g, hl, hm, hsame⟩ | ⟨a, b, hl, hm, rfl⟩ := (h.resolve (.inr hlabel)).cases
      · simp only [hl, hm]
        exact .error hsame
      · simp only [hl, hm]
        exact .rfl

/-- A text is expanded to the same in both scopes.  By strong induction on the
length of the text, since what follows a placeholder is shorter. -/
theorem same_expand (h : l.Alike text m) (ht : t <:+: text) :
    SameAnswer Eq (expand l t) (expand m t) := by
  induction hn : t.length using Nat.strongRecOn generalizing t with
  | ind n ih =>
      subst hn
      cases hcut : Text.cutAt '%' t with
      | none =>
          rw [expand_of_cutAt_none l hcut, expand_of_cutAt_none m hcut]
          exact .rfl
      | some parts =>
          obtain ⟨before, after⟩ := parts
          rw [expand_of_cutAt_some l hcut, expand_of_cutAt_some m hcut]
          have hafter : after <:+: text := (Text.suffix_of_cutAt hcut).isInfix.trans ht
          obtain ⟨f, g, hl, hm, hsame⟩ | ⟨found, _, hl, hm, rfl⟩ :=
            (same_readPlaceholder h hafter).cases
          · rw [hl, hm]
            exact .error hsame
          · obtain ⟨shown, rest⟩ := found
            rw [hl, hm]
            have hrest := suffix_of_readPlaceholder hl
            have hshorter : rest.length < t.length :=
              Nat.lt_of_le_of_lt hrest.length_le (Text.length_of_cutAt hcut)
            exact (ih rest.length hshorter (hrest.isInfix.trans hafter) rfl).map _

end TraceScript
