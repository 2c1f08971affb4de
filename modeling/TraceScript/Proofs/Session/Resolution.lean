import TraceScript.Proofs.Session.Course

/-!
# One name space for both passes

A scope may be asked and extended in any order, by calls that succeed and calls
that fail (`Labels.Call`).  A call leaves the scope as it is, or it is the
definition of a new name whose address fits a word, and then that label is put
behind the others (`after_cases`).  Everything else is a consequence for rows
of calls: the scope stays unambiguous, what it had stays in front, and its
labels are those of the definitions that succeeded, in their order.

The first pass of a session extends its scope in the same way, line by line.
So a name that resolves while the pass is under way resolves to the same
address when the labels are complete, in the second pass
(`afterAll_append_only`).
-/

namespace TraceScript
namespace Labels

/-- What a scope can be asked for. -/
inductive Call
  | define (name : Text) (address : Int)
  | checkUnique (name : Text)
  | resolveFrom (first : LabelOrigin) (name : Text)

/-- The scope behind a call. -/
def after (l : Labels) : Call → Labels
  | .define name address =>
      match l.define name address with
      | .ok m => m
      | .error _ => l
  | .checkUnique _ => l
  | .resolveFrom _ _ => l

/-- The labels that a call defines. -/
def added (l : Labels) : Call → List (Text × Nat)
  | .define name address =>
      match l.define name address with
      | .ok _ => [(name, address.toNat)]
      | .error _ => []
  | .checkUnique _ => []
  | .resolveFrom _ _ => []

/-- The scope behind a row of calls. -/
def afterAll : Labels → List Call → Labels
  | l, [] => l
  | l, call :: rest => (l.after call).afterAll rest

/-- The labels that a row of calls defines, in the order of their definition. -/
def addedAll : Labels → List Call → List (Text × Nat)
  | _, [] => []
  | l, call :: rest => l.added call ++ (l.after call).addedAll rest

variable {l : Labels}

/-- A label that is refused leaves the scope as it was. -/
theorem after_define_of_error {name : Text} {address : Int} {f : Failure}
    (h : l.define name address = .error f) : l.after (.define name address) = l := by
  rw [after, h]

/-- A call changes nothing, or it puts a new label behind the others.  Only a
definition that is accepted changes the scope. -/
theorem after_cases (l : Labels) (call : Call) :
    (l.after call = l ∧ l.added call = []) ∨
    (∃ name address, l.define name address = .ok (l.after call) ∧
      l.after call = l.push name address.toNat ∧ l.added call = [(name, address.toNat)]) := by
  cases call with
  | checkUnique name => exact .inl ⟨rfl, rfl⟩
  | resolveFrom first name => exact .inl ⟨rfl, rfl⟩
  | define name address =>
      cases hdefine : l.define name address with
      | error f => exact .inl ⟨after_define_of_error hdefine, by rw [added, hdefine]⟩
      | ok m =>
          have hafter : l.after (.define name address) = m := by rw [after, hdefine]
          obtain ⟨-, -, hpush⟩ := define_eq_ok_iff.mp hdefine
          exact .inr ⟨name, address, by rw [hafter, hdefine], by rw [hafter, hpush],
            by rw [added, hdefine]⟩

/-- A call keeps the names and the addresses that were there. -/
theorem extends_after (l : Labels) (call : Call) : l.Extends (l.after call) := by
  obtain ⟨hsame, -⟩ | ⟨name, address, hdefine, -, -⟩ := l.after_cases call
  · rw [hsame]
    exact .refl l
  · exact extends_define hdefine

/-- An unambiguous scope is so behind any call, whatever its outcome. -/
theorem Unambiguous.after (h : l.Unambiguous) (call : Call) : (l.after call).Unambiguous := by
  obtain ⟨hsame, -⟩ | ⟨name, address, hdefine, -, -⟩ := l.after_cases call
  · rwa [hsame]
  · exact h.define hdefine

/-- The labels that a call defines stand behind those that were defined
before. -/
theorem entries_after (l : Labels) (call : Call) :
    (l.after call).directive.entries = l.directive.entries ++ l.added call := by
  obtain ⟨hsame, hadded⟩ | ⟨name, address, -, hpush, hadded⟩ := l.after_cases call
  · rw [hsame, hadded, List.append_nil]
  · rw [hpush, hadded]
    rfl

/-- A row of calls can be made in two parts. -/
theorem afterAll_append (l : Labels) (before rest : List Call) :
    l.afterAll (before ++ rest) = (l.afterAll before).afterAll rest := by
  induction before generalizing l with
  | nil => rfl
  | cons call more ih => exact ih (l.after call)

/-- A row of calls keeps the names and the addresses that were there. -/
theorem extends_afterAll (l : Labels) (calls : List Call) : l.Extends (l.afterAll calls) := by
  induction calls generalizing l with
  | nil => exact .refl l
  | cons call rest ih => exact (l.extends_after call).trans (ih (l.after call))

/-- An unambiguous scope is so behind any row of calls. -/
theorem Unambiguous.afterAll (h : l.Unambiguous) (calls : List Call) :
    (l.afterAll calls).Unambiguous := by
  induction calls generalizing l with
  | nil => exact h
  | cons call rest ih => exact ih (h.after call)

/-- The labels that a row of calls defines stand behind the first ones, in the
order of their definition. -/
theorem entries_afterAll (l : Labels) (calls : List Call) :
    (l.afterAll calls).directive.entries = l.directive.entries ++ l.addedAll calls := by
  induction calls generalizing l with
  | nil => exact (List.append_nil _).symm
  | cons call rest ih =>
      calc (l.afterAll (call :: rest)).directive.entries
          = (l.after call).directive.entries ++ (l.after call).addedAll rest :=
            ih (l.after call)
        _ = (l.directive.entries ++ l.added call) ++ (l.after call).addedAll rest := by
            rw [entries_after]
        _ = l.directive.entries ++ l.addedAll (call :: rest) := List.append_assoc _ _ _

end Labels

namespace Session

open Labels

variable {σ : Type} {disk : Disk} {script : Script} {assembly : LabelTable} {e : Encoder σ}
  {state : σ} {made rest : List ScriptLine} {r : Recording σ} {s : Session σ}
  {result : Except Failure Bool}

/-- The first pass ends with all labels of its directives, and perhaps more
behind them. -/
theorem Handled.extends_firstPass (h : Handled disk script assembly e state made (.ok false) r)
    (hlines : script.directiveLines = made ++ rest)
    (hpass : Session.firstPass disk script assembly e state = (result, s)) :
    r.stream.labels.Extends s.stream.labels := by
  have hall := h.append rest
  rw [← hlines] at hall
  obtain ⟨s', hpass', hstream, -, -⟩ := hall.firstPass
  obtain rfl : s' = s := congrArg Prod.snd (hpass'.symm.trans hpass)
  rw [hstream]
  exact (Recording.keeps_takeAll e rest r).labels

/-- No label is ambiguous at any time of a first pass. -/
theorem Handled.unambiguous (h : Handled disk script assembly e state made result r)
    (ha : assembly.Assembled) : r.stream.labels.Unambiguous := by
  obtain ⟨handle, opened, -, htake⟩ := h
  have hkeeps := Recording.keeps_takeAll e made
    ⟨Stream.start ⟨assembly, LabelTable.empty⟩ state, handle, opened, []⟩
  rw [htake] at hkeeps
  exact hkeeps.unambiguous (unambiguous_of_disjoint ha .empty (fun _ _ => List.not_mem_nil))

/-- A scope is one name space to which labels are only added.  Behind any calls,
no name stands in it twice, in one table or in both, and the addresses of
directives fit a word; a definition is refused just if its name is there, and a
fault just if the name is new and the address does not fit, and leaves the scope
as it is in both cases; the labels are those it had at any earlier time, in
their places, and those of the later definitions behind them, in their order;
and every name stands for the same, whichever table is asked first.

So a name that resolves at some line of a first pass resolves to the same
address and origin with the labels that the second pass is given. -/
theorem afterAll_append_only (disk : Disk) (script : Script) (e : Encoder σ) (state : σ)
    (start : Labels) (ha : start.assembly.Assembled) (hd : start.directive.Recorded)
    (hdisjoint : ∀ name ∈ start.assembly.names, name ∉ start.directive.names)
    (calls : List Call) :
    let l := start.afterAll calls
    (l.names.Nodup ∧ ∀ entry ∈ l.directive.entries, entry.2 < wordCount) ∧
    (∀ name address,
      ((∃ origin, l.define name address = .error (LabelTable.duplicate name origin)) ↔
        name ∈ l.names) ∧
      ((∃ fault, l.define name address = .error (.internal fault)) ↔
        name ∉ l.names ∧ ¬ (0 ≤ address ∧ address < wordCount)) ∧
      ((∃ m, l.define name address = .ok m) ↔
        name ∉ l.names ∧ (0 ≤ address ∧ address < wordCount)) ∧
      (∀ f, l.define name address = .error f → l.after (.define name address) = l)) ∧
    l.directive.entries = start.directive.entries ++ start.addedAll calls ∧
    (∀ before later, calls = before ++ later →
      l.assembly = (start.afterAll before).assembly ∧
      l.directive.entries =
        (start.afterAll before).directive.entries ++ (start.afterAll before).addedAll later ∧
      ∀ name found, (start.afterAll before).resolve name = .ok found →
        l.resolve name = .ok found) ∧
    (∀ first second name, l.resolveFrom first name = l.resolveFrom second name) ∧
    (∀ made rest r s, script.directiveLines = made ++ rest →
      Handled disk script start.assembly e state made (.ok false) r →
      firstPass disk script start.assembly e state = (.ok true, s) →
      (Session.start disk script start.assembly e state).run.1 =
        (Writer.run s.disk script s.stream.labels).1 ∧
      ∀ first name found, r.stream.labels.resolveFrom first name = .ok found →
        s.stream.labels.resolve name = .ok found) := by
  intro l
  -- the two tables bind disjoint names from the start on; every clause below rests on that
  have hstart : start.Unambiguous := unambiguous_of_disjoint ha hd hdisjoint
  have hl : l.Unambiguous := hstart.afterAll calls
  refine ⟨⟨hl.nodup, hl.fits⟩, fun name address => ⟨define_eq_duplicate_iff,
    define_eq_internal_iff, ?_, fun f => after_define_of_error⟩,
    start.entries_afterAll calls, ?_, fun first second name => ?_, ?_⟩
  · constructor
    · rintro ⟨m, hdefine⟩
      obtain ⟨hnew, hfits, -⟩ := define_eq_ok_iff.mp hdefine
      exact ⟨hnew, hfits⟩
    · rintro ⟨hnew, hfits⟩
      exact ⟨_, define_of_fits hnew hfits⟩
  · rintro before later hcalls
    have hsplit : l = (start.afterAll before).afterAll later := by
      show start.afterAll calls = _
      rw [hcalls, afterAll_append]
    have hextends := (start.afterAll before).extends_afterAll later
    rw [hsplit]
    exact ⟨hextends.assembly, entries_afterAll _ later, fun name found => hextends.resolve⟩
  · rw [hl.resolveFrom_eq first, hl.resolveFrom_eq second]
  · intro made rest r s hlines hmade hpass
    refine ⟨run_of_firstPass hpass, fun first name found hfound => ?_⟩
    rw [(hmade.unambiguous ha).resolveFrom_eq first] at hfound
    exact (hmade.extends_firstPass hlines hpass).resolve hfound

/-- A table with a label of either origin, calls of every outcome, and a
session whose second packet names the first. -/
theorem afterAll_append_only_mixed :
    let assembly : LabelTable := ⟨[("loop".toList, 0x8004)]⟩
    let directive : LabelTable := ⟨[("p".toList, 3)]⟩
    let calls : List Call :=
      [.define "q".toList 7, .define "loop".toList 1, .define "p".toList 1,
        .define "wide".toList wordCount, .checkUnique "q".toList,
        .resolveFrom .directive "none".toList, .define "r".toList 9]
    let l := afterAll ⟨assembly, directive⟩ calls
    let script := Script.ofText "t.asm".toList "t".toList
      "; @pt p: pad()\n; @pt fup(3: %p)\n; @pt .exp\n; x %p".toList
    assembly.Assembled ∧ directive.Recorded ∧ (∀ name ∈ assembly.names, name ∉ directive.names) ∧
      l.names.Nodup ∧
      l.directive.entries = [("p".toList, 3), ("q".toList, 7), ("r".toList, 9)] ∧
      l.resolveFrom .directive "loop".toList = l.resolveFrom .assembly "loop".toList ∧
      ∃ s, firstPass Disk.empty script assembly ptEncoder (Scratch.zeros 64) = (.ok true, s) ∧
        s.stream.labels.resolve "p".toList = .ok (0, .directive) := by
  intro assembly directive calls l script
  have ha : assembly.Assembled :=
    @LabelTable.Assembled.add LabelTable.empty assembly "loop".toList 0x8004 .empty (by decide)
  have hd : directive.Recorded :=
    @LabelTable.Recorded.append LabelTable.empty directive "p".toList 3 .empty (by decide)
  have hdisjoint : ∀ name ∈ assembly.names, name ∉ directive.names := by decide
  obtain ⟨⟨hnodup, -⟩, -, hentries, -, hsame, hsession⟩ :=
    afterAll_append_only Disk.empty script ptEncoder (Scratch.zeros 64)
      ⟨assembly, directive⟩ ha hd hdisjoint calls
  have hadded : (⟨assembly, directive⟩ : Labels).addedAll calls =
      [("q".toList, 7), ("r".toList, 9)] := by decide
  have hreach : Disk.empty.reach script.streamPath = .ok script.streamPath := by decide +kernel
  have hcreate := Disk.create_of_reach hreach rfl
  obtain ⟨r, hmade, hfound⟩ : ∃ r, Handled Disk.empty script assembly ptEncoder
      (Scratch.zeros 64) (script.directiveLines.take 1) (.ok false) r ∧
      r.stream.labels.resolveFrom .directive "p".toList = .ok (0, .directive) :=
    ⟨_, handled_of_create hcreate (by decide +kernel), by decide +kernel⟩
  obtain ⟨r', hall⟩ : ∃ r', Handled Disk.empty script assembly ptEncoder (Scratch.zeros 64)
      script.directiveLines (.ok true) r' :=
    ⟨_, handled_of_create hcreate (by decide +kernel)⟩
  obtain ⟨s, hpass, -⟩ := hall.firstPass
  obtain ⟨-, hresolved⟩ := hsession _ (script.directiveLines.drop 1) r s
    (List.take_append_drop 1 script.directiveLines).symm hmade hpass
  have hdefined : l.directive.entries = [("p".toList, 3), ("q".toList, 7), ("r".toList, 9)] := by
    rw [hentries, hadded]
    rfl
  exact ⟨ha, hd, hdisjoint, hnodup, hdefined, hsame _ _ _, s, hpass,
    hresolved .directive _ _ hfound⟩

end Session
end TraceScript
