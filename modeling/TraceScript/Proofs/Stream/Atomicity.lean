import Mathlib
import TraceScript.Packet.Rehearsal
import TraceScript.Proofs.Stream.Step

/-!
# Directives are handled entirely or not at all

A row of directives is handled one after another on one stream, whatever
becomes of each (`dispatchAll`).  A directive that fails leaves no trace in
offset and labels, so these can be read off the answers alone: the offset is
the length of the packets that were answered (`packetTotal`), and the labels
are those of the directives that were answered, in order, each with the length
of the packets before it (`boundFrom`).

`dispatchAll_account` says so of a stream in any state, by induction on the
row with the step of one directive; `dispatchAll_atomic` puts step and account
together for a new stream.
-/

namespace TraceScript.Stream

variable {σ : Type}

/-- Handles directives one after another, also behind those that fail. -/
def dispatchAll (e : Encoder σ) :
    List Directive → Stream σ → List (Except Failure Emission) × Stream σ
  | [], s => ([], s)
  | d :: rest, s =>
      let (answer, s) := s.dispatch e d
      let (answers, s) := dispatchAll e rest s
      (answer :: answers, s)

/-- The length of the packet in an answer; other answers have none. -/
def packetLength : Except Failure Emission → Nat
  | .ok (.packet _ _ _ octets) => octets.length
  | .ok (.finished _) => 0
  | .error _ => 0

/-- The length of the packets in a row of answers. -/
def packetTotal (answers : List (Except Failure Emission)) : Nat :=
  (answers.map packetLength).sum

/-- The label that a directive binds at an offset, by the answer to it. -/
def boundAt (offset : Nat) (d : Directive) : Except Failure Emission → List (Text × Nat)
  | .ok (.packet _ _ _ _) => d.label.toList.map fun name => (name, offset)
  | .ok (.finished _) => [(endLabel, offset)]
  | .error _ => []

/-- The labels that directives bind from an offset on, by the answers to
them. -/
def boundFrom (offset : Nat) : List (Directive × Except Failure Emission) → List (Text × Nat)
  | [] => []
  | (d, answer) :: rest =>
      boundAt offset d answer ++ boundFrom (offset + packetLength answer) rest

variable {s s' : Stream σ} {d : Directive} {answer : Except Failure Emission}

/-! ### One step -/

/-- A step advances the offset by the packet that is answered, and by nothing
else. -/
theorem Step.offset (h : s.Step d answer s') : s'.offset = s.offset + packetLength answer := by
  cases h <;> rfl

/-- A step adds the label that is bound by its answer, behind the others. -/
theorem Step.directive (h : s.Step d answer s') :
    s'.labels.directive.entries = s.labels.directive.entries ++ boundAt s.offset d answer := by
  cases h with
  | failed => simp [boundAt]
  | packet =>
      cases hlabel : d.label with
      | none => simp [Labels.pushLabel, boundAt, hlabel]
      | some name => simp [Labels.pushLabel, Labels.push, LabelTable.push, boundAt, hlabel]
  | finished => rfl

/-- A packet's label stands for the offset in front of it. -/
theorem Step.find?_label {offset : Nat} {directive name : Text} {label : Option Text}
    {octets : Octets} (h : s.Step d (.ok (.packet offset directive label octets)) s')
    (hname : d.label = some name) : s'.labels.directive.find? name = some s.offset := by
  cases h with
  | packet _ _ _ hlabel =>
      have hnew : name ∉ s.labels.directive.names := by
        intro hmem
        exact (hlabel name hname).1 (List.mem_append_right _ hmem)
      rw [hname]
      show (s.labels.directive.push name s.offset).find? name = some s.offset
      rw [LabelTable.find?_push, LabelTable.find?_eq_none_iff.mpr hnew, if_pos rfl, Option.none_or]

/-! ### A row of directives -/

variable (e : Encoder σ)

/-- The first directive of a row is dispatched on the stream as it is, the
others on what it leaves, whether it has failed or not. -/
theorem dispatchAll_cons (d : Directive) (rest : List Directive) (s : Stream σ) :
    dispatchAll e (d :: rest) s =
      ((s.dispatch e d).1 :: (dispatchAll e rest (s.dispatch e d).2).1,
        (dispatchAll e rest (s.dispatch e d).2).2) := rfl

/-- A row of directives can be dispatched in two parts. -/
theorem dispatchAll_append (ds rest : List Directive) (s : Stream σ) :
    dispatchAll e (ds ++ rest) s =
      ((dispatchAll e ds s).1 ++ (dispatchAll e rest (dispatchAll e ds s).2).1,
        (dispatchAll e rest (dispatchAll e ds s).2).2) := by
  induction ds generalizing s with
  | nil => rfl
  | cons d more ih =>
      rw [List.cons_append, dispatchAll_cons, dispatchAll_cons, ih]
      rfl

theorem length_dispatchAll (ds : List Directive) (s : Stream σ) :
    (dispatchAll e ds s).1.length = ds.length := by
  induction ds generalizing s with
  | nil => rfl
  | cons d rest ih => rw [dispatchAll_cons, List.length_cons, List.length_cons, ih]

/-- The answers account for the offset and the labels of a stream.  By
induction on the directives, general in the stream: what the first adds stands
in front of what the others add. -/
theorem dispatchAll_account (ds : List Directive) (s : Stream σ) :
    (dispatchAll e ds s).2.offset = s.offset + packetTotal (dispatchAll e ds s).1 ∧
    (dispatchAll e ds s).2.labels.assembly = s.labels.assembly ∧
    (dispatchAll e ds s).2.labels.directive.entries =
      s.labels.directive.entries ++ boundFrom s.offset (ds.zip (dispatchAll e ds s).1) := by
  induction ds generalizing s with
  | nil => exact ⟨rfl, rfl, (List.append_nil _).symm⟩
  | cons d rest ih =>
      have hstep := s.dispatch_step e d
      obtain ⟨hoffset, hassembly, hdirective⟩ := ih (s.dispatch e d).2
      rw [dispatchAll_cons]
      refine ⟨?_, ?_, ?_⟩
      · rw [hoffset, hstep.offset, packetTotal, packetTotal, List.map_cons, List.sum_cons,
          Nat.add_assoc]
      · calc (dispatchAll e rest (s.dispatch e d).2).2.labels.assembly
            = (s.dispatch e d).2.labels.assembly := hassembly
          _ = s.labels.assembly := hstep.extends.assembly
      · rw [hdirective, hstep.directive, hstep.offset, List.zip_cons_cons, boundFrom,
          List.append_assoc]

/-- A row of directives keeps the labels that were there. -/
theorem extends_dispatchAll (ds : List Directive) (s : Stream σ) :
    s.labels.Extends (dispatchAll e ds s).2.labels := by
  obtain ⟨-, hassembly, hdirective⟩ := dispatchAll_account e ds s
  exact ⟨hassembly, by rw [hdirective]; exact List.prefix_append _ _⟩

/-- Directives are handled entirely or not at all.  Each of them is one step
on what those before it have left: a failure changes nothing but the encoder,
a packet advances the offset by its length and binds the directive's own label
in front of it, and a terminator binds the name of the end alone.  So the
offset is the length of the packets answered; the labels are those of the
directives answered, each with the length of the packets before it; and the
label of a packet stands for that for ever. -/
theorem dispatchAll_atomic (labels : Labels) (state : σ) (ds : List Directive) :
    (∀ before d after, ds = before ++ d :: after →
      let answers := (dispatchAll e before (start labels state)).1
      let s := (dispatchAll e before (start labels state)).2
      (dispatchAll e ds (start labels state)).1[before.length]? = some (s.dispatch e d).1 ∧
      s.Step d (s.dispatch e d).1 (s.dispatch e d).2 ∧
      ∀ offset directive label octets name,
        (s.dispatch e d).1 = .ok (.packet offset directive label octets) → d.label = some name →
        (dispatchAll e ds (start labels state)).2.labels.directive.find? name =
          some (packetTotal answers)) ∧
    (dispatchAll e ds (start labels state)).2.offset =
      packetTotal (dispatchAll e ds (start labels state)).1 ∧
    (dispatchAll e ds (start labels state)).2.labels.assembly = labels.assembly ∧
    (dispatchAll e ds (start labels state)).2.labels.directive.entries =
      labels.directive.entries ++
        boundFrom 0 (ds.zip (dispatchAll e ds (start labels state)).1) := by
  obtain ⟨hoffset, hassembly, hdirective⟩ := dispatchAll_account e ds (start labels state)
  refine ⟨?_, hoffset.trans (Nat.zero_add _), hassembly, hdirective⟩
  rintro before d after rfl
  intro answers s
  have hsplit := dispatchAll_append e before (d :: after) (start labels state)
  have hlength : answers.length = before.length := length_dispatchAll e before _
  -- the offset before a directive is the sum of the packets before it, whatever failed in between
  have hbefore : s.offset = packetTotal answers :=
    calc s.offset
        = 0 + packetTotal answers := (dispatchAll_account e before (start labels state)).1
      _ = packetTotal answers := Nat.zero_add _
  have hstep := s.dispatch_step e d
  refine ⟨?_, hstep, ?_⟩
  · rw [hsplit, List.getElem?_append_right (Nat.le_of_eq hlength), hlength, Nat.sub_self]
    rfl
  · intro offset directive label octets name hanswer hname
    rw [hanswer] at hstep
    have hfind := hstep.find?_label hname
    rw [hbefore] at hfind
    rw [hsplit]
    have hextends := extends_dispatchAll e after (s.dispatch e d).2
    exact LabelTable.find?_of_prefix hextends.directive hfind

/-- Packets of two, no and two octets, among them a packet that is larger than
the buffer, a label that is taken, a refusal, and a second end. -/
theorem dispatchAll_atomic_mixed :
    let make (name payload : Text) (label : Option Text) : Directive :=
      ⟨name, payload, label, none, none⟩
    let ds := [make "psbend".toList [] (some "a".toList), make "psb".toList [] (some "b".toList),
      make "ovf".toList [] (some "a".toList), make "cbr".toList ['1'] (some "c".toList),
      make "pad".toList [] (some "d".toList), make ".exp".toList [] none,
      make ".exp".toList [] none]
    let last := make "ovf".toList [] (some "z".toList)
    let rehearsal : Rehearsal := ⟨Scratch.zeros 4, [(.cbr, -2), (.pad, 0)], []⟩
    let s := (dispatchAll Rehearsal.encoder (ds ++ [last])
      (start ⟨LabelTable.empty, LabelTable.empty⟩ rehearsal)).2
    s.offset = 4 ∧ s.labels.directive.find? "z".toList = some 2 ∧
      s.labels.directive.entries =
        [("a".toList, 0), ("d".toList, 2), ("eos".toList, 2), ("z".toList, 2)] := by
  intro make ds last rehearsal s
  obtain ⟨hsteps, hoffset, -, hentries⟩ :=
    dispatchAll_atomic Rehearsal.encoder ⟨LabelTable.empty, LabelTable.empty⟩ rehearsal
      (ds ++ [last])
  obtain ⟨-, -, hlabel⟩ := hsteps ds last [] rfl
  refine ⟨?_, ?_, ?_⟩
  · rw [hoffset]
    decide +kernel
  · rw [hlabel 2 "ovf".toList (some "z".toList) [0x04, 0x04] "z".toList (by decide +kernel) rfl]
    decide +kernel
  · rw [hentries]
    decide +kernel

end TraceScript.Stream
