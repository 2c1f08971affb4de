import TraceScript.Proofs.Expectation.Completion
import TraceScript.Proofs.Label.Clash

/-!
# Directives that the second pass skips

Behind a well-formed directive that is no terminator the writer is what it was, so such a
line may be taken out of a script, and what is written, reported and answered stays the
same; the lines behind it have other numbers then, and a failure is placed by these
(`Failure.SameButPlace`).

The second pass takes every directive apart before it looks at the name, though.  A skipped
line whose parentheses are wrong is not skipped (`Garbled`): where the pass gets as far as
that, it fails there, and the file being written is lost with it (`run_thinned`).
-/

namespace TraceScript

/-! ### Failures at another line -/

/-- Two script errors tell the same, but for their places: one cause, and with
it one kind and one code, in the same words. -/
def ScriptError.SameButPlace (e e' : ScriptError) : Prop :=
  { e with location := e'.location } = e'

/-- Two failures are the same, or two script errors that differ at most in
their places. -/
inductive Failure.SameButPlace : Failure → Failure → Prop
  | refl (f : Failure) : SameButPlace f f
  | script {e e' : ScriptError} (h : e.SameButPlace e') : SameButPlace (.script e) (.script e')

/-- Contexts that differ in their places put a failure at different places at
most. -/
theorem Failure.sameButPlace_inContext (f : Failure) {place place' : Location}
    (sourceLine : Option Text) (note : Text) :
    (f.inContext ⟨some place, sourceLine, note⟩).SameButPlace
      (f.inContext ⟨some place', sourceLine, note⟩) := by
  cases f with
  | script e => exact .script rfl
  | _ => exact .refl _

namespace Writer

/-- Two operations leave the same writer and give the same answer, or failures
that differ at most in their places. -/
inductive SameOutcome {α : Type} : Except Failure α × Writer → Except Failure α × Writer → Prop
  | refl (outcome : Except Failure α × Writer) : SameOutcome outcome outcome
  | error {f g : Failure} {w : Writer} (h : f.SameButPlace g) :
      SameOutcome (.error f, w) (.error g, w)

end Writer

/-! ### Lines that are skipped -/

namespace Directive

/-- What stands behind the label of a directive, or all of it where there is
none. -/
def behindLabel (t : Text) : Text :=
  match splitLabel? t with
  | some (_, rest) => rest
  | none => t

/-- The name that a directive carries behind its label. -/
def nameOf (t : Text) : Text :=
  (Text.trimStart (behindLabel t)).takeWhile isNameChar

/-- A directive is taken apart if its parentheses are right, and it has the
name behind its label. -/
theorem split_eq (t : Text) (location : Option Location) (sourceLine : Option Text) :
    split t location sourceLine =
      match readPayload (behindLabel t) with
      | .error cause => .error (.script (.located cause location sourceLine))
      | .ok payload =>
          .ok ⟨nameOf t, payload, (splitLabel? t).map (·.1), location, sourceLine⟩ := by
  unfold split readPayload nameOf behindLabel
  cases splitLabel? t <;> rfl

end Directive

/-- A line with a directive that is no terminator. -/
def IsSkipped (line : Text) : Prop :=
  ∃ m, Marked.find? line = some m ∧ Directive.nameOf m.directive ≠ Keyword.exp.text

/-- A line with a directive whose parentheses are wrong. -/
def Garbled (line : Text) (cause : Cause) : Prop :=
  ∃ m, Marked.find? line = some m ∧ Directive.Misshapen (Directive.behindLabel m.directive) cause

/-- A line whose payload is read is not garbled. -/
theorem not_garbled_of_readPayload {line payload : Text} {m : Marked} {cause : Cause}
    (hm : Marked.find? line = some m)
    (hread : Directive.readPayload (Directive.behindLabel m.directive) = .ok payload) :
    ¬ Garbled line cause := by
  rintro ⟨m', hm', hcause⟩
  obtain rfl := Option.some.inj (hm.symm.trans hm')
  rw [Directive.readPayload_eq_error_iff.mpr hcause] at hread
  cases hread

/-- A row of lines, some skipped ones of it, and the row that is left without
them. -/
inductive Thinned : List Text → List Text → List Text → Prop
  | nil : Thinned [] [] []
  | kept {lines removed left : List Text} (line : Text) (h : Thinned lines removed left) :
      Thinned (line :: lines) removed (line :: left)
  | removed {lines removed left : List Text} {line : Text} (hline : IsSkipped line)
      (h : Thinned lines removed left) : Thinned (line :: lines) (line :: removed) left

/-- The lines that are taken out are lines of the row. -/
theorem Thinned.mem {lines removed left : List Text} (h : Thinned lines removed left)
    {line : Text} (hline : line ∈ removed) : line ∈ lines := by
  induction h with
  | nil => cases hline
  | kept first _ ih => exact List.mem_cons_of_mem first (ih hline)
  | removed _ _ ih =>
      rcases List.mem_cons.mp hline with rfl | hline
      · exact List.mem_cons_self
      · exact List.mem_cons_of_mem _ (ih hline)

namespace Writer

variable {script : Script} {labels : Labels} {line : Text} {cause : Cause}

/-! ### One line -/

/-- A line whose parentheses are wrong fails the pass at its place, and
changes nothing. -/
theorem take_of_garbled (h : Garbled line cause) (filename : Text) (n : Nat) (w : Writer) :
    w.take script labels (.ofText filename n line) =
      (.error (Directive.fault (.ofText filename n line) cause), w) := by
  obtain ⟨m, hm, hcause⟩ := h
  have hread := Directive.readPayload_eq_error_iff.mpr hcause
  simp only [take, takeDirective, ScriptLine.ofText, hm, Directive.split_eq, hread]
  rfl

/-- A line that is skipped is garbled, or else it leaves the writer alone. -/
theorem take_of_skipped (h : IsSkipped line) (filename : Text) (n : Nat) (w : Writer) :
    (∃ cause, Garbled line cause) ∨
      w.take script labels (.ofText filename n line) = (.ok (), w) := by
  obtain ⟨m, hm, hname⟩ := h
  cases hread : Directive.readPayload (Directive.behindLabel m.directive) with
  | error cause => exact .inl ⟨cause, m, hm, Directive.readPayload_eq_error_iff.mp hread⟩
  | ok payload =>
      right
      have hterminator : (Directive.nameOf m.directive == Keyword.exp.text) = false :=
        beq_eq_false_iff_ne.mpr hname
      simp only [take, takeDirective, ScriptLine.ofText, hm, Directive.split_eq, hread,
        Directive.isTerminator, hterminator]
      rfl

/-- The number of a line matters to the place of a failure only.  What is
written for it, and what it is refused for, are those of its text. -/
theorem take_renumbered (filename : Text) (n k : Nat) (line : Text) (w : Writer) :
    SameOutcome (w.take script labels (.ofText filename n line))
      (w.take script labels (.ofText filename k line)) := by
  cases hm : Marked.find? line with
  | none =>
      simp only [take, takeComment, ScriptLine.ofText, hm]
      split
      · exact .refl _
      split
      · exact .refl _
      · rename_i t _
        cases expand labels t with
        | error f => exact .error (f.sameButPlace_inContext (some line) [])
        | ok shown => exact .refl _
  | some m =>
      simp only [take, takeDirective, ScriptLine.ofText, hm, Directive.split_eq]
      cases Directive.readPayload (Directive.behindLabel m.directive) with
      | error cause => exact .error (.script rfl)
      | ok payload => exact .refl _

/-! ### All lines -/

/-- A row of lines that is handled without a failure has none that is
garbled. -/
theorem not_garbled_of_takeAll {filename : Text} {lines : List Text} {n : Nat} {w w' : Writer}
    (h : takeAll script labels (Script.numberLines filename n lines) w = (.ok (), w')) :
    ∀ line ∈ lines, ∀ cause, ¬ Garbled line cause := by
  induction lines generalizing n w with
  | nil => nofun
  | cons first rest ih =>
      rw [Script.numberLines, takeAll] at h
      intro line hline cause hgarbled
      split at h
      · cases h
      · rename_i next htake
        rcases List.mem_cons.mp hline with rfl | hline
        · rw [take_of_garbled hgarbled] at htake
          cases htake
        · exact ih h line hline cause hgarbled

/-- The lines from a number on get as far as a garbled one of some that are
taken out. -/
inductive Interrupted (script : Script) (labels : Labels) (filename : Text) (removed : List Text)
    (n : Nat) (lines : List Text) (w : Writer) : Prop
  | intro {before after : List Text} {line : Text} {cause : Cause} {w' : Writer}
      (hlines : lines = before ++ line :: after) (hremoved : line ∈ removed)
      (hgarbled : Garbled line cause)
      (hbefore : takeAll script labels (Script.numberLines filename n before) w = (.ok (), w')) :
      Interrupted script labels filename removed n lines w

variable {filename : Text} {lines removed left : List Text} {n : Nat} {w w' : Writer}

/-- One more line in front that is handled. -/
theorem Interrupted.cons {taken : List Text} (hsubset : removed ⊆ taken)
    (htake : w.take script labels (.ofText filename n line) = (.ok (), w'))
    (h : Interrupted script labels filename removed (n + 1) lines w') :
    Interrupted script labels filename taken n (line :: lines) w := by
  obtain ⟨hlines, hremoved, hgarbled, hbefore⟩ := h
  rename_i before after garbled cause last
  have hfirst : takeAll script labels (Script.numberLines filename n (line :: before)) w =
      (.ok (), last) := by
    rw [Script.numberLines, takeAll, htake]
    exact hbefore
  exact .intro (by rw [hlines, List.cons_append]) (hsubset hremoved) hgarbled hfirst

/-- A row of lines is handled as the row that is left of it, but for the
places of failures, as far as no garbled line was taken out. -/
theorem takeAll_thinned (h : Thinned lines removed left) (n k : Nat) (w : Writer) :
    SameOutcome (takeAll script labels (Script.numberLines filename n lines) w)
        (takeAll script labels (Script.numberLines filename k left) w) ∨
      Interrupted script labels filename removed n lines w := by
  -- on how the lines were thinned out; the two runs number their lines apart from each other
  induction h generalizing n k w with
  | nil => exact .inl (.refl _)
  | @kept lines removed left line h ih =>
      have hline : SameOutcome (w.take script labels (.ofText filename n line))
          (w.take script labels (.ofText filename k line)) := take_renumbered filename n k line w
      rw [Script.numberLines, Script.numberLines, takeAll, takeAll]
      generalize hfirst : w.take script labels (.ofText filename n line) = first at hline ⊢
      generalize w.take script labels (.ofText filename k line) = second at hline ⊢
      cases hline with
      | error hplace => exact .inl (.error hplace)
      | refl =>
          obtain ⟨answer, next⟩ := first
          cases answer with
          | error f => exact .inl (.refl _)
          | ok _ =>
              rcases ih (n + 1) (k + 1) next with hsame | hinterrupted
              · exact .inl hsame
              · exact .inr (hinterrupted.cons (List.Subset.refl removed) hfirst)
  | @removed lines removed left line hline h ih =>
      rcases take_of_skipped hline filename n w with ⟨cause, hgarbled⟩ | htake
      · have hnone : takeAll script labels (Script.numberLines filename n []) w = (.ok (), w) := rfl
        exact .inr (.intro (List.nil_append _).symm List.mem_cons_self hgarbled hnone)
      · rcases ih (n + 1) k w with hsame | hinterrupted
        · rw [Script.numberLines, takeAll, htake]
          exact .inl hsame
        · exact .inr (hinterrupted.cons (List.subset_cons_self line removed) htake)

/-- Where the lines in front of a garbled one are handled, the pass fails at
that line. -/
theorem takeAll_of_garbled {before after : List Text} (hgarbled : Garbled line cause)
    (hbefore : takeAll script labels (Script.numberLines filename n before) w = (.ok (), w')) :
    takeAll script labels (Script.numberLines filename n (before ++ line :: after)) w =
      (.error (Directive.fault (.ofText filename (n + before.length) line) cause), w') := by
  induction before generalizing n w with
  | nil =>
      cases hbefore
      rw [List.nil_append, Script.numberLines, takeAll, take_of_garbled hgarbled]
      rfl
  | cons first rest ih =>
      rw [Script.numberLines, takeAll] at hbefore
      rw [List.cons_append, Script.numberLines, takeAll]
      split at hbefore
      · cases hbefore
      · have hnumber : n + (first :: rest).length = n + 1 + rest.length := by
          rw [List.length_cons]
          omega
        rw [hnumber]
        exact ih hbefore

/-! ### The whole pass -/

/-- A pass answers as its lines are handled, and discards a file that they
leave behind. -/
theorem SameOutcome.run {disk : Disk} {script other : Script} {labels : Labels}
    (h : SameOutcome (takeAll script labels script.lines (start disk))
      (takeAll other labels other.lines (start disk))) :
    SameOutcome (run disk script labels) (run disk other labels) := by
  unfold Writer.run
  generalize takeAll script labels script.lines (start disk) = first at h ⊢
  generalize takeAll other labels other.lines (start disk) = second at h ⊢
  cases h with
  | error hplace => exact .error hplace
  | refl => exact .refl _

/-- A second pass whose lines fail ends with their failure, and discards the
open file. -/
theorem run_of_takeAll_error {disk : Disk} {f : Failure}
    (h : takeAll script labels script.lines (start disk) = (.error f, w)) :
    run disk script labels = (.error f, w.discard) := by
  rw [run, h]

/-- A pass that succeeds has handled all lines. -/
theorem exists_takeAll_of_run {disk : Disk} {files : List Path}
    (h : (run disk script labels).1 = .ok files) :
    ∃ w, takeAll script labels script.lines (start disk) = (.ok (), w) := by
  rw [run] at h
  split at h
  · cases h
  · rename_i w htake
    exact ⟨w, htake⟩

/-- **Skipped directives do not matter, but for their parentheses.**  Take any
lines out of a script whose directives are no terminators.  If the parentheses
are right on all of them, the second pass leaves the same files and the same
lists, and answers the same, but for the place of a failure.  If they are
wrong on one, the pass over the whole script fails: as it does over what is
left, or else at such a line, with what is wrong there, and discards the file
that is being written. -/
theorem run_thinned (disk : Disk) (labels : Labels) (filename root : Text) {text other : Text}
    {removed : List Text} (h : Thinned (Text.lines text) removed (Text.lines other)) :
    let whole := run disk (.ofText filename root text) labels
    let thinned := run disk (.ofText filename root other) labels
    ((∀ line ∈ removed, ∀ cause, ¬ Garbled line cause) → SameOutcome whole thinned) ∧
    ((∃ line ∈ removed, ∃ cause, Garbled line cause) → ∃ f, whole.1 = .error f) ∧
    (SameOutcome whole thinned ∨
      ∃ before line after cause w, Text.lines text = before ++ line :: after ∧ line ∈ removed ∧
        Garbled line cause ∧
        takeAll (.ofText filename root text) labels (Script.numberLines filename 1 before)
          (start disk) = (.ok (), w) ∧
        whole = (.error (Directive.fault (.ofText filename (1 + before.length) line) cause),
          w.discard)) := by
  intro whole thinned
  -- the two scripts have one name and one root, and differ in their lines only
  have hother : takeAll (.ofText filename root other) labels
      (Script.numberLines filename 1 (Text.lines other)) (start disk) =
      takeAll (.ofText filename root text) labels
        (Script.numberLines filename 1 (Text.lines other)) (start disk) := by
    show takeAll { Script.ofText filename root text with lines := _ } _ _ _ = _
    exact takeAll_lines (Script.ofText filename root other).lines _ _
  have hcases : SameOutcome whole thinned ∨
      Interrupted (.ofText filename root text) labels filename removed 1 (Text.lines text)
        (start disk) := by
    rcases takeAll_thinned h 1 1 (start disk) with hsame | hinterrupted
    · rw [← hother] at hsame
      exact .inl hsame.run
    · exact .inr hinterrupted
  refine ⟨?_, ?_, ?_⟩
  · intro hclean
    rcases hcases with hsame | ⟨-, hremoved, hgarbled, -⟩
    · exact hsame
    · exact absurd hgarbled (hclean _ hremoved _)
  · rintro ⟨line, hremoved, cause, hgarbled⟩
    cases hwhole : whole.1 with
    | error f => exact ⟨f, rfl⟩
    | ok files =>
        obtain ⟨w, htake⟩ := exists_takeAll_of_run hwhole
        exact absurd hgarbled (not_garbled_of_takeAll htake line (h.mem hremoved) cause)
  · rcases hcases with hsame | ⟨hlines, hremoved, hgarbled, hbefore⟩
    · exact .inl hsame
    · rename_i before after line cause w
      have hfails : takeAll (.ofText filename root text) labels
          (Script.numberLines filename 1 (Text.lines text)) (start disk) =
          (.error (Directive.fault (.ofText filename (1 + before.length) line) cause), w) := by
        rw [hlines]
        exact takeAll_of_garbled hgarbled hbefore
      exact .inr ⟨before, line, after, cause, w, hlines, hremoved, hgarbled, hbefore,
        run_of_takeAll_error hfails⟩

/-- A labelled packet directive in front of the file and an unknown one in
it. -/
theorem run_thinned_unknown_directive :
    let text := "; @pt p: pad()\n; @pt .exp()\n; @pt nonsense(1) \n;kept\n".toList
    let other := "; @pt .exp()\n;kept\n".toList
    let removed := ["; @pt p: pad()".toList, "; @pt nonsense(1) ".toList]
    Thinned (Text.lines text) removed (Text.lines other) ∧
    (∀ line ∈ removed, ∀ cause, ¬ Garbled line cause) ∧
    SameOutcome (run .empty (.ofText "t.asm".toList "t".toList text) ⟨.empty, .empty⟩)
      (run .empty (.ofText "t.asm".toList "t".toList other) ⟨.empty, .empty⟩) := by
  intro text other removed
  have hpad : IsSkipped "; @pt p: pad()".toList := ⟨_, rfl, by decide⟩
  have hunknown : IsSkipped "; @pt nonsense(1) ".toList := ⟨_, rfl, by decide⟩
  have hthinned : Thinned (Text.lines text) removed (Text.lines other) :=
    .removed hpad (.kept _ (.removed hunknown (.kept _ .nil)))
  have hclean : ∀ line ∈ removed, ∀ cause, ¬ Garbled line cause := by
    intro line hline cause
    rcases List.mem_pair.mp hline with rfl | rfl
    · have hread : Directive.readPayload " pad()".toList = .ok [] := by decide
      exact not_garbled_of_readPayload rfl hread
    · have hread : Directive.readPayload "nonsense(1) ".toList = .ok ['1'] := by decide
      exact not_garbled_of_readPayload rfl hread
  exact ⟨hthinned, hclean, (run_thinned _ _ _ _ hthinned).1 hclean⟩

/-- A directive without its closing parenthesis behind a file's lines: the
pass over the script fails and the file is gone, and without that line the
pass succeeds and leaves it. -/
theorem run_garbled_directive :
    let text := "; @pt .exp()\n;kept\n; @pt psb(\n".toList
    let other := "; @pt .exp()\n;kept\n".toList
    let path := Path.ofText "t.exp".toList
    let whole := run .empty (.ofText "t.ptt".toList "t".toList text) ⟨.empty, .empty⟩
    let thinned := run .empty (.ofText "t.ptt".toList "t".toList other) ⟨.empty, .empty⟩
    Thinned (Text.lines text) ["; @pt psb(".toList] (Text.lines other) ∧
    thinned.1 = .ok [path] ∧
    thinned.2.disk.read path = .ok (Text.Utf8.encode "kept\n".toList) ∧
    (∃ e, whole.1 = .error (.script e) ∧ e.code = .missingOperand) ∧
    whole.2.reported = [] ∧ whole.2.disk.read path = .error (.refused .noSuchFile) := by
  intro text other path whole thinned
  have hskipped : IsSkipped "; @pt psb(".toList := ⟨_, rfl, by decide⟩
  have hthinned : Thinned (Text.lines text) ["; @pt psb(".toList] (Text.lines other) :=
    .kept _ (.kept _ (.removed hskipped .nil))
  have hfault : whole.1 = .error (.script (.located (.missingClose "psb".toList)
      (some ⟨"t.ptt".toList, 3, 7⟩) (some "; @pt psb(".toList))) := by decide +kernel
  exact ⟨hthinned, by decide +kernel, by decide +kernel, ⟨_, hfault, rfl⟩, by decide +kernel,
    by decide +kernel⟩

end Writer
end TraceScript
