import TraceScript.Proofs.Expectation.Grammar
import TraceScript.Proofs.Label.Clash
import TraceScript.Proofs.Session.Diagnosis
import TraceScript.Proofs.Session.Phase

/-!
# The labels of a script

The second pass knows the labels that the first has defined.  A line that the first pass
goes on behind has put its label behind those that were there (`Recording.names_of_take`),
so a row of such lines has put all of theirs (`Recording.names_of_takeAll`).  The pass
goes on up to the first terminator: no label in front of it is lost, and none behind it
is defined (`Session.labels_defined`).
-/

namespace TraceScript

variable {σ : Type} {labels : Labels} {line : ScriptLine} {d : Directive} {name t : Text}

namespace Directive

/-- A terminator is a checkpoint. -/
theorem isSome_checkpoint?_of_ofLine (script : Script) (h : ofLine labels line = .ok d) :
    (script.checkpoint? line).isSome = d.isTerminator := by
  obtain ⟨t, ht, hsplit⟩ := split_of_ofLine h
  unfold Script.checkpoint?
  simp only [ht, hsplit]
  cases d.isTerminator <;> rfl

end Directive

/-! ### The first pass -/

namespace Recording

variable {e : Encoder σ} {r r' : Recording σ} {lines : List ScriptLine}

/-- A line that ends the pass has a terminator and names the end; one that
goes on has none, and its label is put behind the names that were there. -/
theorem names_of_take (script : Script) {ended : Bool} (h : r.take e line = (.ok ended, r')) :
    (script.checkpoint? line).isSome = ended ∧
      r'.stream.labels.names =
        r.stream.labels.names ++ if ended then [endLabel] else line.label?.toList := by
  have hstream := stream_take e r line
  have hanswer := take_answer e r line
  rw [h] at hstream hanswer
  obtain ⟨f, -, hline⟩ | ⟨d, hd, hline⟩ := r.stream.dispatchLine_eq e line
  · rw [hline] at hanswer
    cases hanswer
  · have hstep := r.stream.dispatch_step e d
    rw [hline] at hstream hanswer
    change r'.stream = _ at hstream
    rw [hstream, Directive.isSome_checkpoint?_of_ofLine script hd, ← Directive.label_of_ofLine hd]
    generalize (r.stream.dispatch e d).1 = answer, (r.stream.dispatch e d).2 = after
      at hstep hanswer
    cases hstep with
    | failed => cases hanswer
    | finished hterminator =>
        cases hanswer
        exact ⟨hterminator, Labels.names_push _ _ _⟩
    | packet octets after hterminator =>
        dsimp only at hanswer
        split at hanswer
        · cases hanswer
        · cases hanswer
          exact ⟨hterminator, Labels.names_pushLabel _ _ _⟩

/-- What lines have added to the names, if they go on, is their labels in
order. -/
theorem names_of_takeAll (script : Script) (h : takeAll e lines r = (.ok false, r')) :
    (∀ l ∈ lines, (script.checkpoint? l).isSome = false) ∧
      r'.stream.labels.names = r.stream.labels.names ++ lines.filterMap ScriptLine.label? := by
  induction lines generalizing r with
  | nil =>
      cases h
      exact ⟨nofun, (List.append_nil _).symm⟩
  | cons line rest ih =>
      rw [takeAll] at h
      split at h
      · rename_i r₁ htake
        obtain ⟨hline, hnames⟩ := names_of_take script htake
        obtain ⟨hrest, hall⟩ := ih h
        refine ⟨List.forall_mem_cons.mpr ⟨hline, hrest⟩, ?_⟩
        rw [hall, hnames, List.append_assoc]
        cases hlabel : line.label? <;> simp [hlabel]
      · rename_i hends
        exact absurd h (hends r')

end Recording

namespace Session

variable {disk : Disk} {script : Script} {assembly : LabelTable} {e : Encoder σ} {state : σ}
  {s : Session σ}

/-- Behind the first pass the names are those of the assembly source, the
labels in front of the first terminator, and the end. -/
theorem names_of_firstPass (h : firstPass disk script assembly e state = (.ok true, s)) :
    ∃ made line rest, script.directiveLines = made ++ line :: rest ∧
      (∀ l ∈ made, (script.checkpoint? l).isSome = false) ∧
      (script.checkpoint? line).isSome = true ∧
      s.stream.labels.names =
        assembly.names ++ made.filterMap ScriptLine.label? ++ [endLabel] := by
  obtain ⟨error, opened, s', -, hfailed⟩ | ⟨result, r, hall⟩ :=
    firstPass_cases disk script assembly e state
  · rw [hfailed] at h
    cases h
  · obtain ⟨s', hsealed, hstream, -⟩ := hall.firstPass
    obtain rfl : s' = s := congrArg Prod.snd (hsealed.symm.trans h)
    have hresult := congrArg Prod.fst (hsealed.symm.trans h)
    obtain rfl : result = .ok true := by
      unfold sealed at hresult
      split at hresult
      · cases hresult
      · exact hresult
    obtain ⟨handle, opened, -, htake⟩ := hall
    -- a pass that saw the end stopped at a line, and the lines before it are the ones that define
    obtain ⟨r', hgoes⟩ | ⟨made, line, rest, r₁, result, r', hlines, hmade, hline, hends, -⟩ :=
      Recording.takeAll_cases (e := e) script.directiveLines
        ⟨Stream.start ⟨assembly, LabelTable.empty⟩ state, handle, opened, []⟩
    · rw [hgoes] at htake
      cases htake
    · rw [htake] at hends
      cases hends
      obtain ⟨hgoes, hnames⟩ := Recording.names_of_takeAll script hmade
      obtain ⟨hterminator, hend⟩ := Recording.names_of_take script hline
      refine ⟨made, line, rest, hlines, hgoes, hterminator, ?_⟩
      rw [hstream, hend, hnames, if_pos rfl]
      simp [Stream.start, Labels.names, LabelTable.empty, LabelTable.names]

end Session

/-! ### The second pass -/

variable {err : ScriptError} {similar : List Text}

/-- A name that is refused as undefined is in neither table.  Of all that can
be refused in a placeholder only the look at its name ends with that cause. -/
theorem not_mem_of_refuses (h : Refuses labels t (.script err))
    (hcause : err.cause = .undefinedLabel name similar) : name ∉ labels.names := by
  generalize hf : Failure.script err = f at h
  cases h with
  | missing | tooLong =>
      cases hf
      cases hcause
  | undefined hname hlength hassembly hdirective =>
      cases hf
      cases hcause
      rw [Labels.names, List.mem_append, not_or]
      exact ⟨LabelTable.find?_eq_none_iff.mp hassembly, LabelTable.find?_eq_none_iff.mp hdirective⟩
  | width hname hlength hfind hwidth =>
      cases hwidth with
      | absent | joined | outOfRange =>
          cases hf
          cases hcause
      | unreadable hliteral hvalue =>
          obtain rfl | ⟨size, rfl, -⟩ := readWord_error_cases hvalue
          · cases hf
            cases hcause
          · cases hf

/-- A text is refused for an undefined label only if no table has that. -/
theorem not_mem_of_expand (h : expand labels t = .error (.script err))
    (hcause : err.cause = .undefinedLabel name similar) : name ∉ labels.names := by
  have hfails := expand_eq_error_iff.mp h
  clear h
  generalize hf : Failure.script err = f at hfails
  induction hfails with
  | here hbefore hrefused =>
      subst hf
      exact not_mem_of_refuses hrefused hcause
  | behind hbefore hshown hrest ih => exact ih hf

/-- Taking a directive apart has to do with its syntax only.  Both causes that
it can have are about parentheses. -/
theorem Directive.kind_of_split {location : Option Location} {sourceLine : Option Text}
    (h : split t location sourceLine = .error (.script err)) : err.kind = .directiveSyntax := by
  unfold split at h
  simp only at h
  split at h
  · rename_i cause hpayload
    cases h
    unfold payloadOf at hpayload
    split at hpayload
    · split at hpayload
      · cases hpayload
        rfl
      · split at hpayload
        · cases hpayload
        · cases hpayload
          rfl
    · cases hpayload
  · cases h

/-- A context leaves the cause of an error as it is. -/
theorem exists_of_inContext {α : Type} {c : Context} {r : Except Failure α}
    (h : inContext c r = .error (.script err)) :
    ∃ bare, r = .error (.script bare) ∧ bare.cause = err.cause := by
  cases r with
  | ok a => cases h
  | error f =>
      cases f with
      | script bare =>
          cases h
          exact ⟨bare, rfl, rfl⟩
      | output | internal | system | value | overflow => cases h

namespace Writer

variable {w : Writer} {script : Script}

/-- Writing a line never ends in a script error. -/
theorem writeLine_ne_script (shown : Text) : (w.writeLine shown).1 ≠ .error (.script err) := by
  cases hfile : w.file with
  | none => simp [writeLine, hfile]
  | some handle =>
      rw [writeLine_answer shown hfile]
      split
      · intro h
        cases h
      · intro h
        cases h

/-- A line of the second pass is refused for an undefined label only if no
table has that. -/
theorem not_mem_of_take (h : (w.take script labels line).1 = .error (.script err))
    (hcause : err.cause = .undefinedLabel name similar) : name ∉ labels.names := by
  -- only a comment that is expanded looks names up; checkpoints and other directives do not
  cases hcheckpoint : script.checkpoint? line with
  | some path =>
      obtain ⟨hname, -⟩ | ⟨_, _, _, -, -, hrefused⟩ := take_checkpoint_error_cases hcheckpoint h
      · cases hname
      · cases hrefused
  | none =>
      cases hdirective : line.directive with
      | some text =>
          simp only [take, hdirective, takeDirective] at h
          split at h
          · rename_i f hsplit
            obtain rfl := Except.error.inj h
            have hkind := Directive.kind_of_split hsplit
            rw [ScriptError.kind, hcause] at hkind
            cases hkind
          · rename_i d hsplit
            split at h
            · rename_i hterminator
              simp [Script.checkpoint?, hdirective, hsplit, hterminator] at hcheckpoint
            · cases h
      | none =>
          simp only [take, hdirective, takeComment] at h
          split at h
          · cases h
          split at h
          · cases h
          · rename_i t _
            split at h
            · rename_i f hexpand
              obtain rfl := Except.error.inj h
              obtain ⟨bare, hbare, hsame⟩ := exists_of_inContext hexpand
              exact not_mem_of_expand hbare (hsame.trans hcause)
            · exact absurd h (writeLine_ne_script _)

/-- The second pass fails for an undefined label only if no table has that. -/
theorem not_mem_of_run {disk : Disk} (h : (run disk script labels).1 = .error (.script err))
    (hcause : err.cause = .undefinedLabel name similar) : name ∉ labels.names := by
  obtain ⟨before, line, after, w, -, -, hfails⟩ | ⟨w, -, hclose⟩ := run_error_cases h
  · exact not_mem_of_take hfails hcause
  · obtain ⟨_, _, -, -, hrefused⟩ := close_error_iff.mp hclose
    cases hrefused

end Writer

namespace Session

variable {disk : Disk} {script : Script} {assembly : LabelTable} {e : Encoder σ} {state : σ}
  {s : Session σ}

/-- **Labels are defined up to the terminator.**  Behind a first pass that a
terminator has ended, every label on a line in front of it stands for an
address, whichever table is asked first; no text is refused in which it is
named because it is undefined, and no session ends for that.  But for the
label of the terminator, every other name that stands for an address is one of
the assembly source, or the end. -/
theorem labels_defined (h : firstPass disk script assembly e state = (.ok true, s)) :
    ∃ made line rest, script.directiveLines = made ++ line :: rest ∧
      (∀ l ∈ made, (script.checkpoint? l).isSome = false) ∧
      (script.checkpoint? line).isSome = true ∧
      (∀ l ∈ made, ∀ name ∈ l.label?,
        (∀ first, ∃ found, s.stream.labels.resolveFrom first name = .ok found) ∧
        (∀ t err similar, expand s.stream.labels t = .error (.script err) →
          err.cause ≠ .undefinedLabel name similar) ∧
        ∀ err similar, (start disk script assembly e state).run.1 = .error (.script err) →
          err.cause ≠ .undefinedLabel name similar) ∧
      ∀ name, line.label? ≠ some name →
        ((∃ found, s.stream.labels.resolve name = .ok found) ↔
          name ∈ assembly.names ∨ name = endLabel ∨ ∃ l ∈ made, l.label? = some name) := by
  obtain ⟨made, line, rest, hlines, hgoes, hends, hnames⟩ := names_of_firstPass h
  have hmem (name : Text) : name ∈ s.stream.labels.names ↔
      name ∈ assembly.names ∨ name = endLabel ∨ ∃ l ∈ made, l.label? = some name := by
    simp only [hnames, List.mem_append, List.mem_filterMap, List.mem_singleton]
    rw [or_assoc, or_comm (b := name = endLabel)]
  refine ⟨made, line, rest, hlines, hgoes, hends, fun l hl name hname => ?_, fun name _ => ?_⟩
  · have hdefined : name ∈ s.stream.labels.names :=
      (hmem name).mpr (.inr (.inr ⟨l, hl, hname⟩))
    refine ⟨fun first => (Labels.exists_resolveFrom_iff _ first name).mpr hdefined, ?_, ?_⟩
    · intro t err similar hexpand hcause
      exact not_mem_of_expand hexpand hcause hdefined
    · intro err similar hrun hcause
      rw [run_of_firstPass h] at hrun
      exact Writer.not_mem_of_run hrun hcause hdefined
  · exact (Labels.exists_resolveFrom_iff _ .assembly name).trans (hmem name)

/-- A label in front of the terminator, which the expected text behind it
names. -/
theorem labels_defined_in_front :
    let script := Script.ofText "t.ptt".toList "t".toList
      "; @pt p: pad()\n; @pt .exp()\n;%p\n".toList
    ∃ s : Session Scratch,
      firstPass Disk.empty script LabelTable.empty ptEncoder (Scratch.zeros 64) = (.ok true, s) ∧
      ∃ found, s.stream.labels.resolve "p".toList = .ok found := by
  intro script
  have hends : (firstPass Disk.empty script LabelTable.empty ptEncoder (Scratch.zeros 64)).1 =
      .ok true := by
    decide +kernel
  have hdirectives : script.directiveLines =
      [.ofText "t.ptt".toList 1 "; @pt p: pad()".toList,
        .ofText "t.ptt".toList 2 "; @pt .exp()".toList] := by
    decide +kernel
  cases hpass : firstPass Disk.empty script LabelTable.empty ptEncoder (Scratch.zeros 64) with
  | mk answer s =>
    rw [hpass] at hends
    obtain rfl : answer = .ok true := hends
    refine ⟨s, rfl, ?_⟩
    obtain ⟨made, line, rest, hlines, -, hcheckpoint, hdefined, -⟩ := labels_defined hpass
    rw [hdirectives] at hlines
    match made, hlines with
    | [], hlines =>
        obtain ⟨rfl, -⟩ := List.cons.inj hlines
        exact absurd hcheckpoint (by decide +kernel)
    | [first], hlines =>
        obtain ⟨rfl, -⟩ := List.cons.inj hlines
        exact (hdefined _ List.mem_cons_self "p".toList (by decide)).1 .assembly
    | _ :: _ :: more, hlines => simp at hlines

/-- A label behind the terminator is not defined. -/
theorem labels_undefined_behind :
    let script := Script.ofText "t.ptt".toList "t".toList
      "; @pt .exp()\n; @pt p: pad()\n;%p\n".toList
    (firstPass Disk.empty script LabelTable.empty ptEncoder (Scratch.zeros 64)).1 = .ok true ∧
      script.directiveLines.filterMap ScriptLine.label? = ["p".toList] ∧
      (start Disk.empty script LabelTable.empty ptEncoder (Scratch.zeros 64)).run.1 =
        .error (.script ⟨.undefinedLabel "p".toList [], [], some ⟨"t.ptt".toList, 3, 0⟩,
          some ";%p".toList, none⟩) := by
  refine ⟨?_, ?_, ?_⟩ <;> decide +kernel

end Session
end TraceScript
