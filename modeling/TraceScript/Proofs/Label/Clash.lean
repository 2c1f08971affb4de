import TraceScript.Proofs.Script.Spelling
import TraceScript.Proofs.Session.Acceptance

/-!
# Label clashes

A label that is taken is refused at its line, and of what can be wrong with the line only
its parentheses are looked at before.  Behind the label a directive is `Misshapen` if a
parenthesis opens its payload and none closes it, or if more than blanks stand behind the
last that does (`readPayload_eq_error_iff`).  In every other line a clash comes first,
whatever the name and the payload are (`label_clash`).

A line whose label is new is never refused for it, and is dispatched with the labels that
were there before the line was read.
-/

namespace TraceScript

variable {labels : Labels} {line : ScriptLine} {t name inside behind : Text}

/-- The label that is written on a line, where its directive starts with one. -/
def ScriptLine.label? (line : ScriptLine) : Option Text :=
  line.directive.bind fun t => (Directive.splitLabel? t).map (·.1)

namespace Directive

/-- Behind blanks, a name or none, and more blanks, a parenthesis opens. -/
structure Opened (t name inside : Text) : Prop where
  parts : ∃ before between, t = before ++ (name ++ (between ++ '(' :: inside)) ∧
    (∀ c ∈ before, Text.isBlank c) ∧ ∀ c ∈ between, Text.isBlank c
  chars : ∀ c ∈ name, isNameChar c

/-- Why the parentheses of a payload are wrong. -/
inductive Misshapen (t : Text) : Cause → Prop
  | unclosed {name inside : Text} (hopen : Opened t name inside) (hnone : ')' ∉ inside) :
      Misshapen t (.missingClose name)
  | continued {name inside behind : Text} (hopen : Opened t name (inside ++ ')' :: behind))
      (hlast : ')' ∉ behind) (htext : Text.trim behind ≠ []) :
      Misshapen t (.textAfterClose name)

/-- The payload that is read behind a label. -/
def readPayload (t : Text) : Except Cause Text :=
  payloadOf ((Text.trimStart t).takeWhile isNameChar)
    (Text.trim ((Text.trimStart t).dropWhile isNameChar))

/-! ### Parentheses -/

/-- A payload is read from where its parenthesis opens to its last character
that is no blank. -/
theorem Opened.readPayload (h : Opened t name inside) :
    Directive.readPayload t = payloadOf name ('(' :: Text.trimEnd inside) := by
  obtain ⟨⟨before, between, rfl, hbefore, hbetween⟩, hchars⟩ := h
  have hname : (between ++ '(' :: inside).head?.all (fun c => !isNameChar c) :=
    Text.head?_not_append (fun c hc => isNameChar_of_isBlank (hbetween c hc)) rfl
  have htake := Text.takeWhile_append_of_ends hchars hname
  have hdrop := Text.dropWhile_append_of_ends hchars hname
  have htrim (gap : Text) (hgap : ∀ c ∈ gap, Text.isBlank c) :
      Text.trim (gap ++ '(' :: inside) = '(' :: Text.trimEnd inside := by
    rw [Text.trim, Text.trimStart_append hgap rfl]
    exact Text.trimEnd_append_cons [] rfl inside
  by_cases hempty : name = []
  · -- without a name all the blanks are in front of the parenthesis
    subst hempty
    have hblank : ∀ c ∈ before ++ between, Text.isBlank c := by
      intro c hc
      rcases List.mem_append.mp hc with hc | hc
      · exact hbefore c hc
      · exact hbetween c hc
    have hstart : Text.trimStart (before ++ ([] ++ (between ++ '(' :: inside))) =
        '(' :: inside := by
      rw [List.nil_append, ← List.append_assoc]
      exact Text.trimStart_append hblank rfl
    have hopen : Text.trim ('(' :: inside) = '(' :: Text.trimEnd inside :=
      htrim [] (List.forall_mem_nil _)
    rw [Directive.readPayload, hstart]
    exact congrArg (payloadOf []) hopen
  · have hfirst : (name ++ (between ++ '(' :: inside)).head?.all (fun c => !Text.isBlank c) :=
      Text.head?_not_append_of_ne hempty (fun c hc => isBlank_of_isNameChar (hchars c hc)) _
    rw [Directive.readPayload, Text.trimStart_append hbefore hfirst, htake, hdrop,
      htrim between hbetween]

/-- What is read of an opened payload depends on its last closing
parenthesis. -/
theorem Opened.readPayload_closed (h : Opened t name (inside ++ ')' :: behind))
    (hlast : ')' ∉ behind) :
    Directive.readPayload t =
      if Text.trim behind = [] then .ok (Text.trim inside) else .error (.textAfterClose name) := by
  have hlast' : ')' ∉ Text.trimEnd behind := fun hc =>
    hlast ((Text.trimEnd_isPrefix behind).subset hc)
  rw [h.readPayload, Text.trimEnd_append_cons inside rfl, payloadOf_closed name inside hlast']
  simp only [Text.trim_trimEnd]

/-- A payload that is opened and nowhere closed is refused, with the name of
its directive. -/
theorem Opened.readPayload_unclosed (h : Opened t name inside) (hnone : ')' ∉ inside) :
    Directive.readPayload t = .error (.missingClose name) := by
  rw [h.readPayload]
  exact payloadOf_unclosed name fun hc => hnone ((Text.trimEnd_isPrefix inside).subset hc)

/-- A payload is misread only where a parenthesis opens it.  What is in front
of the parenthesis is the name, with blanks on both sides. -/
theorem opened_of_readPayload {cause : Cause} (h : readPayload t = .error cause) :
    ∃ name inside, Opened t name inside := by
  obtain ⟨between, after, hparts, hbetween, -, -⟩ :=
    Text.exists_trim_parts ((Text.trimStart t).dropWhile isNameChar)
  unfold readPayload payloadOf at h
  split at h
  · rename_i inside hopen
    rw [hopen] at hparts
    refine ⟨(Text.trimStart t).takeWhile isNameChar, inside ++ after,
      ⟨t.takeWhile Text.isBlank, between, ?_, fun c hc => List.mem_takeWhile_imp hc, hbetween⟩,
      fun c hc => List.mem_takeWhile_imp hc⟩
    rw [← List.cons_append, ← hparts, List.takeWhile_append_dropWhile]
    exact List.takeWhile_append_dropWhile.symm
  · cases h

/-- A payload is misread just if its parentheses are wrong, and for that.  The
two ways of being wrong exclude each other: there is a closing parenthesis or
there is none. -/
theorem readPayload_eq_error_iff {cause : Cause} :
    readPayload t = .error cause ↔ Misshapen t cause := by
  constructor
  · intro h
    obtain ⟨name, inside, hopen⟩ := opened_of_readPayload h
    by_cases hclose : ')' ∈ inside
    · obtain ⟨inside, behind, rfl, hlast⟩ := Text.exists_last hclose
      rw [hopen.readPayload_closed hlast] at h
      split at h
      · cases h
      · rename_i htext
        cases h
        exact .continued hopen hlast htext
    · rw [hopen.readPayload_unclosed hclose] at h
      cases h
      exact .unclosed hopen hclose
  · intro h
    cases h with
    | unclosed hopen hnone => exact hopen.readPayload_unclosed hnone
    | continued hopen hlast htext =>
        rw [hopen.readPayload_closed hlast]
        exact if_neg htext

/-! ### Labels -/

/-- The label of a directive is found before the rest is read, so it does not
depend on that. -/
theorem label_of_split {location : Option Location} {sourceLine : Option Text}
    (h : split t location sourceLine = .ok d) : d.label = (splitLabel? t).map (·.1) := by
  unfold split at h
  cases hlabel : splitLabel? t with
  | none =>
      simp only [hlabel] at h
      split at h
      · cases h
      · cases h
        rfl
  | some parts =>
      simp only [hlabel] at h
      split at h
      · cases h
      · cases h
        rfl

/-- The label of a directive is the one that is written on its line. -/
theorem label_of_ofLine (h : ofLine labels line = .ok d) : d.label = line.label? := by
  obtain ⟨t, ht, hsplit⟩ := split_of_ofLine h
  rw [label_of_split hsplit, ScriptLine.label?, ht]
  rfl

/-- A directive that starts with a label and its colon. -/
structure Labelled (t name rest : Text) : Prop where
  parts : ∃ gap, t = name ++ (gap ++ ':' :: rest) ∧ ∀ c ∈ gap, isAsciiBlank c
  name_ne : name ≠ []
  chars : ∀ c ∈ name, isLabelChar c

variable {rest : Text}

/-- A label with its colon is split off the text, and the rest is what stands
behind the colon. -/
theorem Labelled.splitLabel? (h : Labelled t name rest) :
    Directive.splitLabel? t = some (name, rest) := by
  obtain ⟨⟨gap, rfl, hgap⟩, hne, hchars⟩ := h
  have hread := splitLabel?_written ⟨name, gap, [], hne, hchars, hgap, nofun⟩ rest
  simpa [WrittenLabel.text] using hread

/-- Behind the label only the parentheses can be wrong. -/
theorem Labelled.split_misshapen (h : Labelled t name rest) {cause : Cause}
    (hcause : Misshapen rest cause) (location : Option Location) (sourceLine : Option Text) :
    split t location sourceLine = .error (.script (.located cause location sourceLine)) := by
  have hread := readPayload_eq_error_iff.mpr hcause
  unfold readPayload at hread
  simp only [split, h.splitLabel?, hread]

/-- Behind the label of a directive whose parentheses are right nothing else
is refused as it is split: names and operands are looked at later. -/
theorem Labelled.split_shaped (h : Labelled t name rest) (hshape : ∀ cause, ¬ Misshapen rest cause)
    (location : Option Location) (sourceLine : Option Text) :
    ∃ d, d.label = some name ∧ split t location sourceLine = .ok d := by
  cases hread : readPayload rest with
  | error cause => exact absurd (readPayload_eq_error_iff.mp hread) (hshape cause)
  | ok payload =>
      unfold readPayload at hread
      refine ⟨⟨rest.trimStart.takeWhile isNameChar, payload, some name, location, sourceLine⟩,
        rfl, ?_⟩
      simp only [split, h.splitLabel?, hread]

/-- A directive whose parentheses are wrong is refused for them at its line,
whatever its label. -/
theorem Labelled.ofLine_misshapen (h : Labelled t name rest) (ht : line.directive = some t)
    {cause : Cause} (hcause : Misshapen rest cause) :
    ofLine labels line = .error (fault line cause) := by
  simp only [ofLine, ht, h.split_misshapen hcause]
  rfl

/-- In a line whose parentheses are right, a clash comes first. -/
theorem Labelled.ofLine_clash (h : Labelled t name rest) (ht : line.directive = some t)
    (hshape : ∀ cause, ¬ Misshapen rest cause) (htaken : name ∈ labels.names) :
    ∃ origin, name ∈ (labels.table origin).names ∧
      ofLine labels line = .error (clash line name origin) := by
  obtain ⟨d, hlabel, hsplit⟩ := h.split_shaped hshape (some line.location) (some line.text)
  exact Directive.ofLine_clash ht hsplit hlabel htaken

/-- No name of a directive is refused as a label that is taken. -/
theorem not_isDuplicate_of_checkName {f : Failure} (h : checkName line name = .error f) :
    ¬ f.IsDuplicate := by
  unfold checkName at h
  split at h
  · cases h
    exact nofun
  split at h
  · cases h
    exact nofun
  · cases h

/-- A line whose label is new is not refused for a label.  It may be refused
for its parentheses or for its name. -/
theorem Labelled.ofLine_new (h : Labelled t name rest) (ht : line.directive = some t)
    (hnew : name ∉ labels.names) {f : Failure} (hf : ofLine labels line = .error f) :
    ¬ f.IsDuplicate := by
  by_cases hshape : ∃ cause, Misshapen rest cause
  · obtain ⟨cause, hcause⟩ := hshape
    rw [h.ofLine_misshapen ht hcause] at hf
    cases hf
    cases hcause <;> exact nofun
  · obtain ⟨d, hlabel, hsplit⟩ :=
      h.split_shaped (not_exists.mp hshape) (some line.location) (some line.text)
    have haccepted : checkLabel labels line d.label = .ok () := by
      rw [hlabel, checkLabel, Labels.checkUnique_of_new hnew]
      rfl
    rw [ofLine_of_split ht hsplit, haccepted] at hf
    change (checkName line d.name).bind _ = _ at hf
    obtain hname | ⟨_, -, hf⟩ := eq_error_of_bind hf
    · exact not_isDuplicate_of_checkName hname
    · cases hf

/-- The label that a directive starts with is the one of its line. -/
theorem Labelled.label? (h : Labelled t name rest) (ht : line.directive = some t) :
    line.label? = some name := by
  rw [ScriptLine.label?, ht, Option.bind_some, h.splitLabel?]
  rfl

end Directive

open Directive

/-- **Label clashes.**  A directive that starts with a label is refused at its
line: for its parentheses if they are wrong, whether the label is taken or
not; else for the label if that is taken, whatever the name and the payload
are.  If the label is new, the line is not refused for a label, and its
directive, if it is accepted, is dispatched on the stream as it was before the
line. -/
theorem label_clash {rest : Text} (h : Labelled t name rest) (ht : line.directive = some t) :
    (∀ cause, Misshapen rest cause → ofLine labels line = .error (fault line cause)) ∧
    ((∀ cause, ¬ Misshapen rest cause) → name ∈ labels.names →
      ∃ origin, name ∈ (labels.table origin).names ∧
        ofLine labels line = .error (clash line name origin)) ∧
    (name ∉ labels.names →
      (∀ f, ofLine labels line = .error f → ¬ f.IsDuplicate) ∧
      ∀ {σ : Type} (e : Encoder σ) (s : Stream σ), s.labels = labels →
        (∃ f, ofLine labels line = .error f ∧ s.dispatchLine e line = (.error f, s)) ∨
        (∃ d, d.label = some name ∧ ofLine labels line = .ok d ∧
          s.dispatchLine e line = s.dispatch e d)) := by
  refine ⟨fun cause hcause => h.ofLine_misshapen ht hcause,
    fun hshape htaken => h.ofLine_clash ht hshape htaken,
    fun hnew => ⟨fun f hf => h.ofLine_new ht hnew hf, ?_⟩⟩
  rintro σ e s rfl
  obtain ⟨f, hf, hline⟩ | ⟨d, hd, hline⟩ := s.dispatchLine_eq e line
  · exact .inl ⟨f, hf, hline⟩
  · exact .inr ⟨d, (label_of_ofLine hd).trans (h.label? ht), hd, hline⟩

/-- An unknown name does not hide that the label is taken.  The look at the
names comes after the look at the labels. -/
theorem label_clash_before_unknown_name :
    ofLine ⟨.empty, ⟨[("p1".toList, 0)]⟩⟩ (.ofText "t.ptt".toList 1 "; @pt p1: bogus()".toList) =
      .error (clash (.ofText "t.ptt".toList 1 "; @pt p1: bogus()".toList) "p1".toList
        .directive) := by
  have hlabelled : Labelled "p1: bogus()".toList "p1".toList " bogus()".toList :=
    ⟨⟨[], rfl, nofun⟩, nofun, List.all_eq_true.mp (by decide)⟩
  have hshape : ∀ cause, ¬ Misshapen " bogus()".toList cause := by
    intro cause hcause
    have hread := readPayload_eq_error_iff.mpr hcause
    have hok : readPayload " bogus()".toList = .ok [] := by decide
    rw [hok] at hread
    cases hread
  have hline : (ScriptLine.ofText "t.ptt".toList 1 "; @pt p1: bogus()".toList).directive =
      some "p1: bogus()".toList := by
    decide
  have htaken : "p1".toList ∈ (⟨.empty, ⟨[("p1".toList, 0)]⟩⟩ : Labels).names := by decide
  obtain ⟨origin, horigin, hrefused⟩ := (label_clash hlabelled hline).2.1 hshape htaken
  cases origin with
  | directive => exact hrefused
  | assembly => cases horigin

/-- A parenthesis that nothing closes does hide it. -/
theorem label_clash_hidden :
    let labels : Labels := ⟨.empty, ⟨[("p1".toList, 0)]⟩⟩
    let line := ScriptLine.ofText "t.ptt".toList 1 "; @pt p1: psb(".toList
    line.directive = some "p1: psb(".toList ∧ "p1".toList ∈ labels.names ∧
      ofLine labels line = .error (fault line (.missingClose "psb".toList)) ∧
      ¬ (fault line (.missingClose "psb".toList)).IsDuplicate := by
  refine ⟨by decide, by decide, by decide, nofun⟩

end TraceScript
