import TraceScript.Proofs.Session.Course

/-!
# The account of a stream

What a session counts and names against what stands in the stream's file,
whatever the disk refuses.  Every packet that has been written is in the file,
and its label stands for its place there (`Marks`).  But a packet is counted
and named before it is written.  So if the disk refuses one, which ends the
pass, the offset is ahead of the file by that packet, and its label is there
although the packet is not (`run_accounts`).
-/

namespace TraceScript

/-- A label stands for the place of a packet among pieces. -/
def Marks (pieces : List Piece) (name : Text) (address : Nat) : Prop :=
  ∃ before piece rest, pieces = before ++ piece :: rest ∧ piece.label = some name ∧
    address = (octetsOf before).length

variable {name : Text} {address : Nat}

/-- Every label counted from an offset belongs to one of the pieces, at the
offset and the octets in front of the piece. -/
theorem marks_of_mem_labelsFrom {pieces : List Piece} {offset : Nat}
    (h : (name, address) ∈ labelsFrom offset pieces) :
    ∃ before piece rest, pieces = before ++ piece :: rest ∧ piece.label = some name ∧
      address = offset + (octetsOf before).length := by
  induction pieces generalizing offset with
  | nil => cases h
  | cons first more ih =>
      rw [labelsFrom] at h
      rcases List.mem_append.mp h with h | h
      · obtain ⟨label, hlabel, hentry⟩ := List.mem_map.mp h
        cases hentry
        exact ⟨[], first, more, rfl, Option.mem_toList.mp hlabel, rfl⟩
      · obtain ⟨before, piece, rest, rfl, hlabel, rfl⟩ := ih h
        refine ⟨first :: before, piece, rest, rfl, hlabel, ?_⟩
        simp [octetsOf, Nat.add_assoc]

/-- Every label of pieces marks one of them. -/
theorem marks_of_mem_tableOf {pieces : List Piece}
    (h : (name, address) ∈ (tableOf pieces).entries) : Marks pieces name address := by
  obtain ⟨before, piece, rest, hpieces, hlabel, haddress⟩ := marks_of_mem_labelsFrom h
  exact ⟨before, piece, rest, hpieces, hlabel, haddress.trans (Nat.zero_add _)⟩

/-- A label behind one more piece marks a piece before it, or is its own. -/
theorem Marks.of_concat {pieces : List Piece} {piece : Piece}
    (h : Marks (pieces ++ [piece]) name address) :
    Marks pieces name address ∨
      (piece.label = some name ∧ address = (octetsOf pieces).length) := by
  obtain ⟨before, marked, rest, hpieces, hlabel, haddress⟩ := h
  rcases List.eq_nil_or_concat rest with rfl | ⟨init, last, rfl⟩
  · obtain ⟨rfl, hlast⟩ := List.append_inj' hpieces rfl
    cases hlast
    exact .inr ⟨hlabel, haddress⟩
  · rw [List.concat_eq_append, ← List.cons_append, ← List.append_assoc] at hpieces
    obtain ⟨rfl, -⟩ := List.append_inj' hpieces rfl
    exact .inl ⟨before, marked, init, rfl, hlabel, haddress⟩

variable {σ : Type}

/-- What a pass has made of some lines, and what has come into the file of it:
all the packets, until the pass ends; or all but the last, which the disk
refused and which so ends the pass. -/
inductive Accounted (e : Encoder σ) (assembly : LabelTable) (state : σ) (disk : Disk) (h : Handle)
    (made rest : List ScriptLine) (pieces : List Piece) (result : Except Failure Bool)
    (r : Recording σ) : Option Piece → Prop
  | whole {after : σ} (hpieces : Pieces e assembly state made pieces after)
      (hend : PassEnd e assembly pieces after rest result r.stream) :
      Accounted e assembly state disk h made rest pieces result r none
  | refused {after : σ} {lost : Piece} {reason : Refusal}
      (hpieces : Pieces e assembly state made (pieces ++ [lost]) after)
      (hstream : r.stream = Stream.behind assembly (pieces ++ [lost]) after)
      (hrefused : disk.faults.writing h.path h.attempt (pieces.length + 1) = some reason)
      (hresult : result = .error (.ofRefusedWrite h.path reason)) :
      Accounted e assembly state disk h made rest pieces result r (some lost)

namespace Recording

variable {e : Encoder σ} {assembly : LabelTable} {state before : σ} {pieces : List Piece}
  {handled : List ScriptLine} {disk : Disk} {h : Handle} {r : Recording σ}

/-- Lines are accounted for, by induction with the pieces that are in the
file: a line ends the pass, or loses its packet and ends the pass, or adds its
packet. -/
theorem takeAll_accounted (lines : List ScriptLine)
    (hp : Pieces e assembly state handled pieces before)
    (hstream : r.stream = Stream.behind assembly pieces before)
    (hr : Holds disk h (octetsOf pieces) r) (hwrites : r.handle.writes = pieces.length)
    (haccepted : ∀ n < pieces.length, disk.faults.writing h.path h.attempt (n + 1) = none) :
    ∃ made rest pieces' lost result r', lines = made ++ rest ∧
      takeAll e lines r = (result, r') ∧
      Accounted e assembly state disk h (handled ++ made) rest pieces' result r' lost ∧
      Holds disk h (octetsOf pieces') r' ∧
      ∀ n < pieces'.length, disk.faults.writing h.path h.attempt (n + 1) = none := by
  -- on the lines still to take: the pieces made so far, their number among them, are the invariant
  induction lines generalizing handled pieces before r with
  | nil =>
      refine ⟨[], [], pieces, none, .ok false, r, rfl, rfl, ?_, hr, haccepted⟩
      rw [List.append_nil]
      exact .whole hp (hstream ▸ .script)
  | cons line rest ih =>
      obtain ⟨result, r', htake, hends, hend, hr'⟩ | ⟨piece, after, r', hp', hstream', hwrites',
        ⟨reason, hrefused, htake, hr'⟩ | ⟨hwritten, htake, hr'⟩⟩ := take_outcomes line hp hstream hr
      · refine ⟨[], line :: rest, pieces, none, result, r', rfl,
          takeAll_of_ends htake hends rest, ?_, hr', haccepted⟩
        rw [List.append_nil]
        exact .whole hp (hend rest)
      · rw [hwrites] at hrefused
        exact ⟨[line], rest, pieces, some piece, _, r', rfl,
          takeAll_of_ends htake nofun rest, .refused hp' hstream' hrefused rfl, hr', haccepted⟩
      · have haccepted' : ∀ n < (pieces ++ [piece]).length,
            disk.faults.writing h.path h.attempt (n + 1) = none := by
          intro n hn
          rw [List.length_append, List.length_singleton] at hn
          rcases Nat.lt_succ_iff_lt_or_eq.mp hn with hn | rfl
          · exact haccepted n hn
          · rw [← hwrites]
            exact hwritten
        have hcount : r'.handle.writes = (pieces ++ [piece]).length := by
          rw [hwrites', hwrites, List.length_append, List.length_singleton]
        obtain ⟨made, rest', pieces', lost, result, r'', rfl, hall, haccount, hr'', haccepted''⟩ :=
          ih hp' hstream' hr' hcount haccepted'
        refine ⟨line :: made, rest', pieces', lost, result, r'', rfl, ?_, ?_, hr'', haccepted''⟩
        · rw [takeAll, htake]
          exact hall
        · rwa [List.append_assoc] at haccount

end Recording

section Accounted

variable {e : Encoder σ} {assembly : LabelTable} {state : σ} {pieces : List Piece}
  {made rest : List ScriptLine} {disk : Disk} {h : Handle} {result : Except Failure Bool}
  {r : Recording σ} {lost : Option Piece}

/-- The lines that were handled make the packets in the file, with the lost
one behind them. -/
theorem Accounted.exists_pieces
    (ha : Accounted e assembly state disk h made rest pieces result r lost) :
    ∃ after, Pieces e assembly state made (pieces ++ lost.toList) after := by
  cases ha with
  | @whole after hpieces _ => exact ⟨after, by simpa using hpieces⟩
  | @refused after _ _ hpieces => exact ⟨after, hpieces⟩

/-- The offset counts the packets in the file, and the one that is lost as if
it were there. -/
theorem Accounted.offset
    (ha : Accounted e assembly state disk h made rest pieces result r lost) :
    r.stream.offset = (octetsOf pieces).length + (octetsOf lost.toList).length := by
  cases ha with
  | whole _ hend => exact hend.offset
  | refused _ hstream =>
      rw [hstream]
      simp [Stream.behind, octetsOf]

/-- A label marks a packet in the file, or stands for the end of the file as
the name of the end or as the label of the packet that is lost. -/
theorem Accounted.label
    (ha : Accounted e assembly state disk h made rest pieces result r lost)
    (hentry : (name, address) ∈ r.stream.labels.directive.entries) :
    Marks pieces name address ∨ address = (octetsOf pieces).length ∧
      (name = endLabel ∧ lost = none ∨ ∃ piece ∈ lost, piece.label = some name) := by
  cases ha with
  | whole _ hend =>
      generalize r.stream = stream at hend hentry
      cases hend with
      | script => exact .inl (marks_of_mem_tableOf hentry)
      | failure => exact .inl (marks_of_mem_tableOf hentry)
      | terminator =>
          rcases List.mem_append.mp hentry with hentry | hentry
          · exact .inl (marks_of_mem_tableOf hentry)
          · cases List.mem_singleton.mp hentry
            exact .inr ⟨rfl, .inl ⟨rfl, rfl⟩⟩
  | @refused _ piece _ _ hstream =>
      rw [hstream] at hentry
      obtain hmarks | ⟨hlabel, haddress⟩ := (marks_of_mem_tableOf hentry).of_concat
      · exact .inl hmarks
      · exact .inr ⟨haddress, .inr ⟨piece, rfl, hlabel⟩⟩

end Accounted

namespace Session

variable {disk : Disk} {script : Script} {assembly : LabelTable} {e : Encoder σ} {state : σ}
  {lines : List ScriptLine} {result : Except Failure Bool} {r : Recording σ}

/-- The lines of a first pass are accounted for, from an empty file on.  The
file that the pass opens is empty, and its first write is the first packet. -/
theorem Handled.accounted (h : Handled disk script assembly e state lines result r) :
    ∃ handle made rest pieces lost, lines = made ++ rest ∧
      disk.reach script.streamPath = .ok handle.key ∧ handle.path = script.streamPath ∧
      handle.attempt = disk.attempts ∧
      Accounted e assembly state disk handle made rest pieces result r lost ∧
      Recording.Holds disk handle (octetsOf pieces) r ∧
      ∀ n < pieces.length, disk.faults.writing handle.path handle.attempt (n + 1) = none := by
  obtain ⟨handle, opened, hcreate, htake⟩ := h
  obtain ⟨hreach, hpath, hholds⟩ :=
    holds_of_create hcreate (Stream.start ⟨assembly, LabelTable.empty⟩ state)
  obtain ⟨hwrites, hattempt⟩ : handle.writes = 0 ∧ handle.attempt = disk.attempts := by
    obtain ⟨error, hfailed⟩ | ⟨key, -, hopened⟩ := disk.create_cases script.streamPath
    · rw [hfailed] at hcreate
      cases hcreate
    · rw [hopened] at hcreate
      cases hcreate
      exact ⟨rfl, rfl⟩
  obtain ⟨made, rest, pieces, lost, result', r', hlines, hall, haccount, hr, haccepted⟩ :=
    Recording.takeAll_accounted (e := e) lines .nil rfl hholds hwrites nofun
  rw [htake] at hall
  cases hall
  exact ⟨handle, made, rest, pieces, lost, hlines, hreach, hpath, hattempt, haccount, hr, haccepted⟩

/-- Nothing is counted where the stream's file cannot be opened. -/
theorem stream_of_create_error {error : OpenError} {opened : Disk}
    (hcreate : disk.create script.streamPath = (.error error, opened)) :
    (start disk script assembly e state).run.2.stream =
      Stream.start ⟨assembly, LabelTable.empty⟩ state := by
  rw [run_eq]
  unfold Session.firstPass encode
  simp only [start, hcreate]
  rfl

/-- What a session counts and names is what is in the stream's file, up to a
packet that the disk refuses.  Either the file cannot be opened, and nothing
is counted. Or the file holds the packets of some pieces, which the script's
directives have made and the disk has taken.  If it has refused none, the
offset is the length of the file, and each label marks a packet in it or is
that of the end.  If it has refused one, the session ends with that, provided
the file can be closed; the offset is ahead of the file by the refused packet,
whose label is named at the end of the file; and each other label marks a
packet in the file. -/
theorem run_accounts (disk : Disk) (script : Script) (assembly : LabelTable) (e : Encoder σ)
    (state : σ) :
    let run := (start disk script assembly e state).run
    (∃ error, (disk.create script.streamPath).1 = .error error ∧
      run.2.stream = Stream.start ⟨assembly, LabelTable.empty⟩ state) ∨
    ∃ made rest pieces lost after, script.directiveLines = made ++ rest ∧
      Pieces e assembly state made (pieces ++ Option.toList lost) after ∧
      run.2.disk.read script.streamPath = .ok (octetsOf pieces) ∧
      run.2.stream.offset = (octetsOf pieces).length + (octetsOf lost.toList).length ∧
      (∀ name address, (name, address) ∈ run.2.stream.labels.directive.entries →
        Marks pieces name address ∨ address = (octetsOf pieces).length ∧
          (name = endLabel ∧ lost = none ∨ ∃ piece ∈ lost, piece.label = some name)) ∧
      (∀ n < pieces.length,
        disk.faults.writing script.streamPath disk.attempts (n + 1) = none) ∧
      ∀ piece ∈ lost, ∃ reason,
        disk.faults.writing script.streamPath disk.attempts (pieces.length + 1) = some reason ∧
        (disk.faults.closing script.streamPath disk.attempts = none →
          run.1 = .error (.ofRefusedWrite script.streamPath reason)) := by
  intro run
  obtain ⟨error, opened, s, hcreate, -⟩ | ⟨result, r, hall⟩ :=
    firstPass_cases disk script assembly e state
  · exact .inl ⟨error, by rw [hcreate], stream_of_create_error hcreate⟩
  · right
    obtain ⟨s, hpass, hstream, hdisk, hscript⟩ := hall.firstPass
    obtain ⟨handle, made, rest, pieces, lost, hlines, hreach, hpath, hattempt, haccount, hr,
      haccepted⟩ := hall.accounted
    -- the second pass may rewrite other files, so the trace file is followed by its place
    have hkey : s.disk.reach s.script.streamPath = .ok handle.key := by
      rw [hscript, hdisk]
      exact Disk.reach_of_directories hr.directories hreach
    obtain ⟨answer, s', hrun, hsame, hdirectories, hfile, hfailed⟩ := run_keeps_stream hpass hkey
    have hends : run = (answer, s') := hrun
    rw [hpath, hattempt] at haccepted
    obtain ⟨after, hpieces⟩ := haccount.exists_pieces
    rw [hends]
    refine ⟨made, rest, pieces, lost, after, hlines, hpieces, ?_, ?_, ?_, haccepted, ?_⟩
    · have hcontent : s.disk.find? handle.key = some (octetsOf pieces) := by
        rw [hdisk]
        exact hr.content
      rw [hscript] at hkey
      exact Disk.read_eq_ok (Disk.reach_of_directories hdirectories hkey) (hfile.trans hcontent)
    · rw [hsame, hstream]
      exact haccount.offset
    · intro name address hentry
      rw [hsame, hstream] at hentry
      exact haccount.label hentry
    · rintro piece ⟨⟩
      -- a piece is lost only to a refused write, and it is the one that ends the pass
      cases haccount with
      | @refused _ _ reason _ _ hrefused hresult =>
          rw [hpath, hattempt] at hrefused
          refine ⟨reason, hrefused, fun hclose => hfailed _ ?_⟩
          rw [hclose, hresult, hpath]
          rfl

/-- The only packet of a script is refused: the file is empty, but an octet is
counted, and the packet's label stands in the table. -/
theorem run_accounts_lost_packet :
    let script := Script.ofText "t.ptt".toList "t".toList "; @pt p: pad()\n".toList
    let refusing : Faults := { Faults.none with writing := fun _ _ _ => some .noSpace }
    let disk : Disk := { Disk.empty with faults := refusing }
    let run := (start disk script LabelTable.empty ptEncoder (Scratch.zeros 64)).run
    run.1 = .error (.output ⟨"t.pt".toList, "No space left on device".toList, .fileWrite⟩) ∧
      run.2.disk.read script.streamPath = .ok [] ∧ run.2.stream.offset = 1 ∧
      run.2.stream.labels.directive.entries = [("p".toList, 0)] := by
  refine ⟨?_, ?_, ?_, ?_⟩ <;> decide +kernel

end Session
end TraceScript
